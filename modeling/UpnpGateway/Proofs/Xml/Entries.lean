/-
# Documents made of entries

The documents of a gateway are trees of elements with fixed names, where an element holds either a
text or further elements.  This file writes such a tree in a layout of the gateway's own choice,
with namespaces, attributes and layout between the tags, and shows that the reader gets back the
tree that was written: an element is found under its name by every rule that drops namespaces, and
nothing else is found under that name.
-/
import UpnpGateway.Proofs.Xml.Agreement
import UpnpGateway.Proofs.Xml.Content

namespace UpnpGateway.Xml

open UpnpGateway.Text

/-! ## Entries -/

/-- The words that the elements of a kind of document are named with.  They are told apart
whatever the case of their letters. -/
structure Vocabulary (κ : Type) where
  /-- The word as it is spelled. -/
  spelling : κ → String
  isName : ∀ k, IsName (spelling k).toList := by decide
  notMem_colon : ∀ k, ':' ∉ (spelling k).toList := by decide
  eq_of_lower : ∀ j k, lower (spelling j).toList = lower (spelling k).toList → j = k := by
    decide +kernel

lemma Vocabulary.spelling_injective {κ : Type} (V : Vocabulary κ) :
    Function.Injective V.spelling := fun j k h => V.eq_of_lower j k (by rw [h])

/-- An element named with a word, with what is in it. -/
inductive Entry (κ : Type) where
  /-- An element that holds a run of text. -/
  | text (key : κ) (run : Run)
  /-- An element that holds further elements. -/
  | record (key : κ) (entries : List (Entry κ))

namespace Entry

variable {κ : Type}

/-- The word that the element is named with. -/
def key : Entry κ → κ
  | text key _ => key
  | record key _ => key

/-- The elements in the element. -/
def entries : Entry κ → List (Entry κ)
  | text _ _ => []
  | record _ entries => entries

/-- The element that holds a text, which is written with its reserved characters escaped. -/
def ofText (key : κ) (s : String) : Entry κ := text key (.ofText s.toList)

/-- A list of elements, which need not be written if it has no items. -/
def ofItems (keep : Bool) (list : κ) (items : List (Entry κ)) : List (Entry κ) :=
  if items.isEmpty && !keep then [] else [record list items]

@[simp] lemma key_ofText (key : κ) (s : String) : (ofText key s).key = key := rfl

variable [DecidableEq κ]

/-- Among several lists only the one that is named with a word is found under it. -/
lemma find?_ofItems (keep : Bool) (list j : κ) (items : List (Entry κ)) :
    ((ofItems keep list items).find? fun g => g.key = j) =
      if list = j then (ofItems keep list items).head? else none := by
  rw [ofItems]
  split <;> by_cases h : list = j <;> simp [key, h]

mutual

/-- The first element named with a word in an element, at any depth. -/
def find? (j : κ) : Entry κ → Option (Entry κ)
  | text _ _ => none
  | record _ entries => findAmong? j entries

/-- The first element named with a word among some elements and all in them. -/
def findAmong? (j : κ) : List (Entry κ) → Option (Entry κ)
  | [] => none
  | f :: fs => if f.key = j then some f else (find? j f).or (findAmong? j fs)

end

end Entry

/-! ## Layouts -/

/-- How a gateway lays out documents. -/
structure Layout {κ : Type} (V : Vocabulary κ) where
  /-- What stands before the root element. -/
  prolog : Option Remark
  /-- The namespace that a word is written with, if any. -/
  space : κ → Option (List Char)
  /-- The keys and values of the attributes of the elements named with a word. -/
  attributes : κ → List (List Char × List Char)
  /-- What stands between the tags of an element and those of the elements in it. -/
  gap : Run
  isName_space : ∀ k, ∀ ns ∈ space k, IsName ns := by decide
  notMem_space : ∀ k, ∀ ns ∈ space k, ':' ∉ ns := by decide
  isName_attribute : ∀ k, ∀ a ∈ attributes k, IsName a.1 := by decide
  notMem_attribute : ∀ k, ∀ a ∈ attributes k, '"' ∉ a.2 := by decide

namespace Layout

variable {κ : Type} {V : Vocabulary κ} (L : Layout V)

/-- The qualified name that is written for a word. -/
def name (k : κ) : List Char :=
  match L.space k with
  | none => (V.spelling k).toList
  | some ns => ns ++ ':' :: (V.spelling k).toList

lemma isName_name (k : κ) : IsName (L.name k) := by
  rw [name]
  split
  · exact V.isName k
  · rename_i ns hns
    have hcolon : IsName [':'] := by decide
    exact (L.isName_space k ns hns).append (hcolon.append (V.isName k))

/-- The tag that opens the elements named with a word. -/
def tag (k : κ) : StartTag :=
  ⟨L.name k, L.attributes k, L.isName_name k, L.isName_attribute k, L.notMem_attribute k⟩

mutual

/-- What is written between the tags of an element. -/
def inner : Entry κ → Content
  | .text _ run => .done run
  | .record _ entries => contentOf entries

/-- Some elements as they are written one after the other. -/
def contentOf : List (Entry κ) → Content
  | [] => .done L.gap
  | f :: fs => .element L.gap (L.tag f.key) (inner f) (L.tag f.key).ending (contentOf fs)

end

/-- A document with the given root element. -/
def document (f : Entry κ) : Content :=
  match L.prolog with
  | none => .element .empty (L.tag f.key) (L.inner f) (L.tag f.key).ending (.done L.gap)
  | some r =>
    .remark .empty r
      (.element L.gap (L.tag f.key) (L.inner f) (L.tag f.key).ending (.done L.gap))

/-- The document as it is written. -/
def write (f : Entry κ) : String := String.ofList (L.document f).chars

/-! ## What is read -/

/-- The element that is read for an entry. -/
def element (f : Entry κ) : Element :=
  ⟨String.ofList (L.name f.key), String.ofList (L.inner f).data, (L.inner f).elements⟩

lemma elements_contentOf (fs : List (Entry κ)) :
    (L.contentOf fs).elements = fs.map L.element := by
  induction fs with
  | nil => rw [contentOf]; rfl
  | cons f fs ih => rw [contentOf, Content.elements, ih]; rfl

lemma children_element (f : Entry κ) : (L.element f).children = f.entries.map L.element := by
  cases f with
  | text k run => rw [element, inner]; rfl
  | record k fs => rw [element, inner]; exact L.elements_contentOf fs

/-- A text is read as it was, but for the blanks at its ends. -/
lemma trimmed_text_ofText (k : κ) (s : String) :
    trimmed (L.element (.ofText k s)).text = trimmed s := by
  rw [element, Entry.ofText, inner, Content.data, Run.ofText, runText_escape, trimmed,
    String.toList_ofList, trim_dropEndsWhile, trimmed]

lemma head?_chars_document (f : Entry κ) : (L.document f).chars.head? = some '<' := by
  unfold document
  split <;> simp [Content.chars, Run.empty]

lemma elements_document (f : Entry κ) : (L.document f).elements = [L.element f] := by
  unfold document
  split <;> rfl

/-- The root element of a document is the one that was written. -/
lemma parse_write (f : Entry κ) : Xml.parse (L.write f) = .ok (L.element f) :=
  Content.parse_chars _ (by rw [elements_document, List.head?_cons])
    (by simp [head?_chars_document])

lemma events_write (f : Entry κ) : events (L.write f) = ((L.document f).events, true) :=
  Content.events_chars _ (by simp [head?_chars_document])

lemma rootNameOf_run (complete : Bool) (run : Run) (es : List Event) :
    rootNameOf complete (run.events ++ es) = rootNameOf complete es := by
  rw [Run.events]
  split <;> rfl

lemma rootName_write (f : Entry κ) : rootName (L.write f) = .ok (String.ofList (L.name f.key)) := by
  rw [rootName, events_write, document]
  dsimp only
  split
  · rw [Content.events, rootNameOf_run]
    rfl
  · rw [Content.events, rootNameOf_run, rootNameOf, Content.events, rootNameOf_run]
    · rfl
    all_goals simp

/-! ## Admission -/

section Admission

variable {N : List Char → Prop} {Q : List String → Prop}

lemma admitted_run {path : List String} (run : Run) {es : List Event}
    (h : Admitted N Q path es) : Admitted N Q path (run.events ++ es) := by
  rw [Run.events]
  split
  · exact h
  · rw [List.singleton_append, Admitted]
    exact h

mutual

/-- Nothing in an element is against its admission. -/
lemma admitted_inner (hN : ∀ k, N (L.name k)) {path : List String} {key : String}
    {es : List Event} : ∀ f : Entry κ,
    Admitted N Q (key :: path) es → Admitted N Q (key :: path) ((L.inner f).events ++ es)
  | .text _ run, h => by
    rw [inner, Content.events]
    exact admitted_run run h
  | .record _ fs, h => by
    rw [inner]
    exact admitted_contentOf hN fs h

lemma admitted_contentOf (hN : ∀ k, N (L.name k)) {path : List String} {key : String}
    {es : List Event} : ∀ fs : List (Entry κ),
    Admitted N Q (key :: path) es → Admitted N Q (key :: path) ((L.contentOf fs).events ++ es)
  | [], h => by
    rw [contentOf, Content.events]
    exact admitted_run L.gap h
  | f :: fs, h => by
    rw [contentOf, Content.events, List.append_assoc, List.cons_append, List.append_assoc]
    exact admitted_run L.gap ⟨hN f.key, admitted_inner hN f (admitted_contentOf hN fs h)⟩

end

/-- A document is admitted for which its names are, unless a remark may not stand before the root
element. -/
lemma admitted_write (hN : ∀ k, N (L.name k)) (hQ : ¬ Q []) (f : Entry κ) :
    Admitted N Q [] (events (L.write f)).1 := by
  have hroot : Admitted N Q []
      (Event.opening ⟨L.name f.key, (L.tag f.key).written⟩ ::
        ((L.inner f).events ++ .closing (closingName (L.tag f.key).ending.name) ::
          (Content.done L.gap).events)) :=
    ⟨hN f.key, L.admitted_inner hN f trivial⟩
  rw [events_write, document]
  split
  · exact admitted_run .empty hroot
  · exact admitted_run .empty ⟨hQ, admitted_run L.gap hroot⟩

end Admission

/-! ## Names -/

/-- The namespace of a name is told from the word at its only colon. -/
lemma oneColon_name (k : κ) : OneColon (L.name k) := by
  have hword := List.count_eq_zero.2 (V.notMem_colon k)
  rw [OneColon, name]
  split
  · rw [hword]
    exact Nat.zero_le 1
  · rename_i ns hns
    have hspace := List.count_eq_zero.2 (L.notMem_space k ns hns)
    rw [List.count_append, List.count_cons_self, hword, hspace]

lemma key_name (k : κ) (a : List Char) : Tag.key ⟨L.name k, a⟩ = V.spelling k := by
  rw [Tag.key, name]
  dsimp only
  cases hspace : L.space k with
  | none =>
    rw [cutFirst_eq_none.2 (V.notMem_colon k)]
    exact String.ofList_toList
  | some ns =>
    rw [cutFirst_append (L.notMem_space k ns hspace)]
    exact String.ofList_toList

variable [DecidableEq κ]

/-- A rule that drops namespaces tells the elements apart by their words. -/
lemma matches_name {rule : TagRule} (hrule : rule ≠ .exact) (j k : κ) :
    rule.matches (String.ofList (L.name j)) (V.spelling k) = decide (j = k) := by
  have hcolon : OneColon (Tag.mk (L.name j) []).name := L.oneColon_name j
  have hlocal : localPart (String.ofList (L.name j)) = V.spelling j :=
    (localPart_eq_key hcolon).trans (L.key_name j [])
  rw [Bool.eq_iff_iff, decide_eq_true_iff]
  cases rule with
  | exact => exact absurd rfl hrule
  | localName => rw [TagRule.matches, hlocal, beq_iff_eq, V.spelling_injective.eq_iff]
  | ignoreCase =>
    rw [TagRule.matches, hlocal, sameLetters_iff]
    exact ⟨V.eq_of_lower j k, fun h => h ▸ rfl⟩

/-! ## Looking up -/

section Lookup

variable {rule : TagRule} (hrule : rule ≠ .exact)
include hrule

/-- The elements with a name are those that were named with the word. -/
lemma childrenNamed_element (f : Entry κ) (j : κ) :
    (L.element f).childrenNamed (V.spelling j) rule =
      (f.entries.filter fun g => g.key = j).map L.element := by
  rw [Element.childrenNamed, children_element, List.filter_map]
  congr 2
  funext g
  exact L.matches_name hrule g.key j

lemma child?_element (f : Entry κ) (j : κ) :
    (L.element f).child? (V.spelling j) rule =
      (f.entries.find? fun g => g.key = j).map L.element := by
  rw [Element.child?, children_element, List.find?_map]
  congr 2
  funext g
  exact L.matches_name hrule g.key j

lemma childText?_of_find? {f : Entry κ} {j : κ} {s : String}
    (h : (f.entries.find? fun g => g.key = j) = some (.ofText j s)) :
    (L.element f).childText? (V.spelling j) rule = some (trimmed s) := by
  rw [Element.childText?, L.child?_element hrule, h, Option.map_some, Option.map_some,
    L.trimmed_text_ofText]

lemma childTextD_of_find? {f : Entry κ} {j : κ} {s : String}
    (h : (f.entries.find? fun g => g.key = j) = some (.ofText j s)) :
    (L.element f).childTextD (V.spelling j) rule = trimmed s := by
  rw [Element.childTextD, L.childText?_of_find? hrule h, Option.getD_some]

/-- A text without blanks at its ends is read as it was written. -/
lemma childTextD_of_trimmed {f : Entry κ} {j : κ} {s : String} (hs : trimmed s = s)
    (h : (f.entries.find? fun g => g.key = j) = some (.ofText j s)) :
    (L.element f).childTextD (V.spelling j) rule = s :=
  (L.childTextD_of_find? hrule h).trans hs

/-- What is read of the items of a list is read of the items that were written, whether a list
without items is written or not. -/
lemma elim_child?_element {β : Type} (read : List Element → β) {f : Entry κ} {keep : Bool}
    {list item : κ} {items : List (Entry κ)}
    (hlist : (f.entries.find? fun g => g.key = list) = (Entry.ofItems keep list items).head?)
    (hitems : ∀ g ∈ items, g.key = item) :
    ((L.element f).child? (V.spelling list) rule).elim (read [])
      (fun l => read (l.childrenNamed (V.spelling item) rule)) = read (items.map L.element) := by
  rw [L.child?_element hrule, hlist, Entry.ofItems]
  split
  · rename_i hempty
    rw [Bool.and_eq_true, List.isEmpty_iff] at hempty
    rw [hempty.1]
    rfl
  · rw [List.head?_cons, Option.map_some, Option.elim_some, L.childrenNamed_element hrule,
      Entry.entries, List.filter_eq_self.2 fun g hg => by simpa using hitems g hg]

/-- Items that are read one by one as they were written are read all together as they were
written. -/
lemma map_items_element {α : Type} {read : Element → α} {entry : α → Entry κ} {l : List α}
    {f : Entry κ} {keep : Bool} {list item : κ}
    (hlist : (f.entries.find? fun g => g.key = list) =
      (Entry.ofItems keep list (l.map entry)).head?)
    (hitem : ∀ a, (entry a).key = item) (hread : ∀ a ∈ l, read (L.element (entry a)) = a) :
    ((L.element f).child? (V.spelling list) rule).elim []
      (fun c => (c.childrenNamed (V.spelling item) rule).map read) = l := by
  have hitems : ∀ g ∈ l.map entry, g.key = item := by simpa using fun a _ => hitem a
  have helim := L.elim_child?_element hrule (List.map read) hlist hitems
  rw [List.map_nil, List.map_map, List.map_map] at helim
  exact helim.trans ((List.map_congr_left hread).trans (List.map_id' l))

end Lookup

mutual

/-- What is found in an element at any depth is what was written there. -/
lemma find?_element {rule : TagRule} (hrule : rule ≠ .exact) (j : κ) : ∀ f : Entry κ,
    Element.find? (V.spelling j) rule (L.element f) = (f.find? j).map L.element
  | .text _ _ => by
    rw [element, inner, Element.find?, Entry.find?]
    rfl
  | .record _ fs => by
    rw [element, inner, Element.find?, Entry.find?, elements_contentOf,
      findAmong?_elements hrule j fs]

lemma findAmong?_elements {rule : TagRule} (hrule : rule ≠ .exact) (j : κ) :
    ∀ fs : List (Entry κ),
    Element.findAmong? (V.spelling j) rule (fs.map L.element) =
      (Entry.findAmong? j fs).map L.element
  | [] => rfl
  | f :: fs => by
    have hname : rule.matches (L.element f).name (V.spelling j) = decide (f.key = j) :=
      L.matches_name hrule f.key j
    rw [List.map_cons, Element.findAmong?, Entry.findAmong?, findAmong?_elements hrule j fs,
      find?_element hrule j f, hname]
    by_cases hkey : f.key = j
    · simp [hkey]
    · simp [hkey, Option.map_or]

end

end Layout

end UpnpGateway.Xml
