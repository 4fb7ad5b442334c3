/-
# Well-formed documents and the records in them

The strict way of reading a document asks for more than a tree: each end tag has the name of
the element that it ends, the root element ends, and nothing but layout stands before it.
Over such a tree this file sets up records.  A record is an element whose children are told
apart by the part of their name behind the first colon.  A text field has at most text in it,
a list field has its items side by side under one qualified name, no field occurs twice, and
children that belong to no field are passed over.  Text that is read must not have an
ampersand that begins no entity; text that is passed over may, unless it comes first in an
element that is passed over.
-/
import UpnpGateway.Xml.Escape
import UpnpGateway.Xml.Event

namespace UpnpGateway.Xml

open UpnpGateway.Text

/-- A stretch of characters or a character data section, as parts of one run of text. -/
inductive Bit where
  /-- Characters as written. -/
  | text (raw : List Char)
  /-- The contents of a character data section. -/
  | cdata (data : List Char)
deriving DecidableEq, Repr

namespace Bit

/-- Whether the part is nothing but layout. -/
def isLayout : Bit → Bool
  | .text raw => raw.all isMarkupBlank
  | .cdata _ => false

/-- The data of the part, if each ampersand in it begins an entity. -/
def data? : Bit → Option (List Char)
  | .text raw => unescape? raw
  | .cdata data => some data

/-- The part without the blanks that begin it. -/
def dropLayout : Bit → Bit
  | .text raw => .text (raw.dropWhile isMarkupBlank)
  | .cdata data => .cdata data

/-- The part without the blanks that end it. -/
def dropEndLayout : Bit → Bit
  | .text raw => .text (dropEndWhile isMarkupBlank raw)
  | .cdata data => .cdata data

/-- The parts of a run without the blanks at its two ends; a character data section has no
layout. -/
def settle (run : List Bit) : List Bit :=
  match run.dropWhile isLayout with
  | [] => []
  | b :: bs =>
    let run := dropLayout b :: bs
    run.dropLast ++ (run.getLast?.map dropEndLayout).toList

/-- The data of a run, if each ampersand in it begins an entity. -/
def join? (run : List Bit) : Option (List Char) := (run.mapM data?).map List.flatten

end Bit

/-- A piece of a document, with adjacent parts of text joined and comments left out. -/
inductive Piece where
  /-- A start tag. -/
  | opening (tag : Tag)
  /-- An end tag. -/
  | closing (name : List Char)
  /-- A run of text. -/
  | run (bits : List Bit)
  /-- A document type. -/
  | doctype

/-- Puts a part of text before the pieces that follow it. -/
def Piece.join (b : Bit) : List Piece → List Piece
  | .run bits :: ps => .run (b :: bits) :: ps
  | ps => .run [b] :: ps

/-- The pieces of a document: a tag that opens and closes an element counts as two. -/
def Piece.ofEvents (es : List Event) : List Piece :=
  es.foldr (fun e ps =>
    match e with
    | .opening tag => .opening tag :: ps
    | .empty tag => .opening tag :: .closing tag.name :: ps
    | .closing name => .closing name :: ps
    | .text raw => Piece.join (.text raw) ps
    | .cdata data => Piece.join (.cdata data) ps
    | .doctype => .doctype :: ps
    | .remark => ps) []

/-- A part of a well-formed document. -/
inductive Node where
  /-- An element with what is in it, in order. -/
  | element (tag : Tag) (content : List Node)
  /-- A run of text, unless it has an ampersand that begins no entity. -/
  | text (data : Option (List Char))

namespace Node

/-- The nodes of a run of text: none if it is nothing but layout. -/
def ofRun (bits : List Bit) : List Node :=
  match Bit.settle bits with
  | [] => []
  | run => [.text (Bit.join? run)]

/-- Reads pieces up to the end of the root element; `stack` holds the open elements with the
nodes in them in reverse order, the innermost first. -/
def assemble : List (Tag × List Node) → List Piece → Option Node
  | _, [] => none
  | stack, .opening tag :: ps => assemble ((tag, []) :: stack) ps
  | [], .closing _ :: _ => none
  | (tag, nodes) :: stack, .closing name :: ps =>
    if name == tag.name then
      match stack with
      | [] => some (.element tag nodes.reverse)
      | (outer, before) :: stack =>
        assemble ((outer, .element tag nodes.reverse :: before) :: stack) ps
    else none
  | [], .run bits :: ps => if (ofRun bits).isEmpty then assemble [] ps else none
  | (tag, nodes) :: stack, .run bits :: ps => assemble ((tag, ofRun bits ++ nodes) :: stack) ps
  | stack, .doctype :: ps => assemble stack ps

/-- The root element of a document that is well formed up to the end of that element. -/
def parse? (document : String) : Option Node :=
  assemble [] (Piece.ofEvents (events document).1)

/-- Whether a node is an element with the given qualified name. -/
def isNamed (name : List Char) : Node → Bool
  | .element tag _ => tag.name == name
  | .text _ => false

/-- Whether a node is an element whose name behind its first colon is `key`. -/
def hasKey (key : String) : Node → Bool
  | .element tag _ =>
    (match cutFirst ':' tag.name with
      | some (_, name) => name
      | none => tag.name) == key.toList
  | .text _ => false

/-- Whether a node is a run of text. -/
def isText : Node → Bool
  | .element _ _ => false
  | .text _ => true

/-- Whether a node can be passed over. -/
def isPassable : Node → Bool
  | .element _ (.text none :: _) => false
  | .element _ _ => true
  | .text data => data.isSome

/-- The data of an element that has nothing but text in it. -/
def data? : Node → Option (List Char)
  | .element _ [] => some []
  | .element _ [.text data] => data
  | _ => none

end Node

/-- The names of the attributes of a tag, if what is written behind its name can be read: each
attribute is a name, an equals sign and a value in quotes, with blanks around them; `keys`
are the names read so far, and none may be written twice. -/
def attributeNames? (keys : List (List Char)) (s : List Char) : Option (List (List Char)) :=
  match h : s.dropWhile isMarkupBlank with
  | [] => some keys
  | c :: r =>
    let key := c :: r.takeWhile fun d => !(d == '=' || isMarkupBlank d)
    match h' : (r.dropWhile fun d => !(d == '=' || isMarkupBlank d)).dropWhile isMarkupBlank with
    | '=' :: r' =>
      if keys.contains key then none
      else
        match h'' : r'.dropWhile isMarkupBlank with
        | q :: r'' =>
          if q == '"' || q == '\'' then
            match hc : cutFirst q r'' with
            | some (_, rest) =>
              have : rest.length < s.length := by
                have h1 := (List.dropWhile_sublist (l := s) isMarkupBlank).length_le
                have h2 := (List.dropWhile_sublist
                  (l := r) fun d => !(d == '=' || isMarkupBlank d)).length_le
                have h3 := (List.dropWhile_sublist (l := r.dropWhile fun d =>
                  !(d == '=' || isMarkupBlank d)) isMarkupBlank).length_le
                have h4 := (List.dropWhile_sublist (l := r') isMarkupBlank).length_le
                have h5 := congrArg List.length (eq_of_cutFirst hc).1
                rw [h] at h1
                rw [h'] at h3
                rw [h''] at h4
                simp only [List.length_cons, List.length_append] at h1 h3 h4 h5
                omega
              attributeNames? (key :: keys) rest
            | none => none
          else none
        | [] => none
    | _ => none
termination_by s.length

namespace Node

/-- What is in an element that is read as a record with the given fields, if its attributes
can be read and all in it that belongs to no field can be passed over. -/
def record? (fields : List String) : Node → Option (List Node)
  | .element tag content =>
    if (attributeNames? [] tag.attributes).isSome &&
        content.all fun n => fields.any (n.hasKey ·) || n.isPassable then
      some content
    else none
  | .text _ => none

/-- The element of a field that may be left out; `none` if it is written twice. -/
def field? (content : List Node) (key : String) : Option (Option Node) :=
  match content.filter (·.hasKey key) with
  | [] => some none
  | [n] => some (some n)
  | _ => none

/-- The text of a field, which must be there if `required`. -/
def textField? (content : List Node) (key : String) (required : Bool) : Option (List Char) :=
  match field? content key with
  | none => none
  | some none => if required then none else some []
  | some (some n) => n.data?

/-- The items of a list field: they stand side by side under one qualified name, with no text
between or right behind them, and no other child has the key of the field. -/
def items? (content : List Node) (key : String) : Option (List Node) :=
  match content.dropWhile fun n => !n.hasKey key with
  | .element tag inner :: r =>
    let rest := r.dropWhile (isNamed tag.name)
    if (rest.head?.any isText) || rest.any (·.hasKey key) then none
    else some (.element tag inner :: r.takeWhile (isNamed tag.name))
  | _ => some []

/-- The items of the only list in the field `list`; no items if the field is left out and not
`required`. -/
def listField? (content : List Node) (list key : String) (required : Bool) :
    Option (List Node) :=
  match field? content list with
  | none => none
  | some none => if required then none else some []
  | some (some n) => (n.record? [key]).bind fun inner => items? inner key

theorem mem_of_field? {content : List Node} {key : String} {n : Node}
    (h : field? content key = some (some n)) : n ∈ content := by
  unfold field? at h
  split at h
  · simp at h
  · rename_i m hm
    simp only [Option.some.injEq] at h
    subst h
    exact (List.mem_filter.1 (hm ▸ List.mem_singleton_self _)).1
  · simp at h

theorem mem_of_items? {content items : List Node} {key : String} {n : Node}
    (h : items? content key = some items) (hn : n ∈ items) : n ∈ content := by
  unfold items? at h
  split at h
  · rename_i tag inner r hr
    dsimp only at h
    split at h
    · simp at h
    · simp only [Option.some.injEq] at h
      subst h
      apply (List.dropWhile_sublist fun n => !n.hasKey key).subset
      rw [hr]
      rcases List.mem_cons.1 hn with rfl | hn
      · exact List.mem_cons_self
      · exact List.mem_cons_of_mem _ ((List.takeWhile_sublist _).subset hn)
  · simp only [Option.some.injEq] at h
    subst h
    simp at hn

theorem record?_eq_some {fields : List String} {n : Node} {content : List Node}
    (h : n.record? fields = some content) : ∃ tag, n = .element tag content := by
  cases n with
  | text data => simp [record?] at h
  | element tag inner =>
    simp only [record?] at h
    split at h
    · simp only [Option.some.injEq] at h
      exact ⟨tag, by rw [h]⟩
    · simp at h

/-- The items of a list field lie deeper than the element that has the field. -/
theorem sizeOf_lt_of_listField? {content items : List Node} {list key : String}
    {required : Bool} {n : Node} (h : listField? content list key required = some items)
    (hn : n ∈ items) : sizeOf n < sizeOf content := by
  unfold listField? at h
  split at h
  · simp at h
  · split at h <;> simp_all
  · rename_i m hm
    simp only [Option.bind_eq_some_iff] at h
    obtain ⟨inner, hi, hitems⟩ := h
    obtain ⟨tag, rfl⟩ := record?_eq_some hi
    have h1 := List.sizeOf_lt_of_mem (mem_of_items? hitems hn)
    have h2 := List.sizeOf_lt_of_mem (mem_of_field? hm)
    simp only [element.sizeOf_spec] at h2
    omega

end Node

end UpnpGateway.Xml
