/-
# Markup as a sequence of events

A document is first cut into events: tags, runs of text and the kinds of markup that carry
no data.  Each kind ends at its own place.  A start tag ends at the first `>` outside quotes,
an end tag and a processing instruction at the first `>`, a comment at `-->`, a character
data section at `]]>`, and a document type at the first `>` that leaves as many angle
brackets open as it closes.  Cutting stops at markup that does not end or that is of no known
kind; the events before it remain, so that a reader who needs no more never notices.
-/
import UpnpGateway.Text.Blank
import UpnpGateway.Text.Letter

namespace UpnpGateway.Xml

open UpnpGateway.Text

/-- A tag that opens an element: its name, and what is written behind the name. -/
structure Tag where
  /-- The qualified name, which is whatever stands before the first blank. -/
  name : List Char
  /-- The attributes as written. -/
  attributes : List Char
deriving DecidableEq, Repr

/-- A piece of a document. -/
inductive Event where
  /-- A start tag. -/
  | opening (tag : Tag)
  /-- A tag that opens an element and closes it at once. -/
  | empty (tag : Tag)
  /-- An end tag. -/
  | closing (name : List Char)
  /-- A run of characters between two pieces of markup, as written. -/
  | text (raw : List Char)
  /-- The contents of a character data section. -/
  | cdata (data : List Char)
  /-- A document type. -/
  | doctype
  /-- A comment or a processing instruction. -/
  | remark
deriving DecidableEq, Repr

/-- Cuts at the first `>` at which `closes` holds of the state that `step` has reached; what
is before the cut is continued from the characters passed so far in reverse order. -/
def cutMarkup {σ : Type} (step : σ → Char → σ) (closes : σ → Bool) (q : σ)
    (passed : List Char) : List Char → Option (List Char × List Char)
  | [] => none
  | c :: s =>
    if c == '>' && closes q then some (passed.reverse, s)
    else cutMarkup step closes (step q c) (c :: passed) s

theorem length_lt_of_cutMarkup {σ : Type} {step : σ → Char → σ} {closes : σ → Bool} {q : σ}
    {passed s a b : List Char} (h : cutMarkup step closes q passed s = some (a, b)) :
    b.length < s.length := by
  induction s generalizing q passed with
  | nil => simp [cutMarkup] at h
  | cons c s ih =>
    rw [cutMarkup] at h
    split at h
    · simp only [Option.some.injEq, Prod.mk.injEq] at h
      simp [h.2]
    · exact Nat.lt_succ_of_lt (ih h)

/-- Cuts at the first `>` that stands outside quotes. -/
def cutTag (s : List Char) : Option (List Char × List Char) :=
  cutMarkup (fun (quote : Option Char) c =>
    match quote with
    | some q => if c == q then none else quote
    | none => if c == '"' || c == '\'' then some c else none) Option.isNone none [] s

/-- Cuts at the first `>` before which the reversed text satisfies `closes`. -/
def cutBehind (closes : List Char → Bool) (s : List Char) : Option (List Char × List Char) :=
  cutMarkup (fun seen c => c :: seen) closes [] [] s

/-- Cuts at the first `>` before which as many angle brackets are opened as closed. -/
def cutBalanced (s : List Char) : Option (List Char × List Char) :=
  cutMarkup (fun (open_ : Int) c =>
    if c == '<' then open_ + 1 else if c == '>' then open_ - 1 else open_) (· == 0) 0 [] s

/-- What comes next in a document. -/
inductive Next where
  /-- An event, and the document behind it. -/
  | event (e : Event) (rest : List Char)
  /-- Nothing. -/
  | finished
  /-- Markup that does not end or is of no known kind. -/
  | malformed

/-- The tag that is written between the angle brackets. -/
def Tag.ofList (body : List Char) : Tag :=
  ⟨body.takeWhile fun c => !isMarkupBlank c, body.dropWhile fun c => !isMarkupBlank c⟩

/-- The event of a tag that opens an element. -/
def Event.ofTag (body : List Char) : Event :=
  if body.getLast? == some '/' then .empty (Tag.ofList body.dropLast) else .opening (Tag.ofList body)

/-- The name in an end tag; blanks behind it are dropped unless there is nothing else. -/
def closingName (body : List Char) : List Char :=
  let name := dropEndWhile isMarkupBlank body
  if name.isEmpty then body else name

/-- What the markup behind `<!` is, the exclamation mark included. -/
def nextDeclaration (s : List Char) : Next :=
  match s.drop 1 with
  | '-' :: _ =>
    match cutBehind (fun seen => 4 < seen.length && "--".toList.isPrefixOf seen) s with
    | some (body, rest) =>
      if "!--".toList.isPrefixOf body then .event .remark rest else .malformed
    | none => .malformed
  | '[' :: _ =>
    match cutBehind "]]".toList.isPrefixOf s with
    | some (body, rest) =>
      if sameLetters (body.take 8) "![CDATA[".toList then
        .event (.cdata ((body.drop 8).dropLast.dropLast)) rest
      else .malformed
    | none => .malformed
  | c :: _ =>
    if c == 'D' || c == 'd' then
      match cutBalanced s with
      | some (body, rest) =>
        if sameLetters (body.take 8) "!DOCTYPE".toList && (body.drop 8).any (!isMarkupBlank ·) then
          .event .doctype rest
        else .malformed
      | none => .malformed
    else .malformed
  | [] => .malformed

/-- The parts of a list before and after its first `>`, which may be missing at the end of a
document. -/
def cutAngle (s : List Char) : List Char × List Char :=
  (s.takeWhile (· != '>'), (s.dropWhile (· != '>')).drop 1)

/-- What the markup behind `<` is. -/
def nextMarkup (s : List Char) : Next :=
  match s with
  | [] => .finished
  | '!' :: _ => nextDeclaration s
  | '/' :: r => .event (.closing (closingName (cutAngle r).1)) (cutAngle r).2
  | '?' :: r =>
    if 2 ≤ (cutAngle r).1.length && (cutAngle r).1.getLast? == some '?' then
      .event .remark (cutAngle r).2
    else .malformed
  | _ =>
    match cutTag s with
    | some (body, rest) => .event (.ofTag body) rest
    | none => .malformed

/-- What comes next in a document. -/
def next (s : List Char) : Next :=
  match s with
  | [] => .finished
  | '<' :: r => nextMarkup r
  | _ => .event (.text (s.takeWhile (· != '<'))) (s.dropWhile (· != '<'))

theorem length_cutAngle (s : List Char) : (cutAngle s).2.length ≤ s.length := by
  have := (List.dropWhile_sublist (l := s) (· != '>')).length_le
  simp only [cutAngle, List.length_drop]
  omega

theorem length_of_nextDeclaration {s rest : List Char} {e : Event}
    (h : nextDeclaration s = .event e rest) : rest.length < s.length := by
  unfold nextDeclaration at h
  repeat' split at h
  all_goals first
    | (simp only [Next.event.injEq] at h; obtain ⟨-, rfl⟩ := h
       exact length_lt_of_cutMarkup ‹_›)
    | simp at h

theorem length_of_nextMarkup {s rest : List Char} {e : Event}
    (h : nextMarkup s = .event e rest) : rest.length ≤ s.length := by
  unfold nextMarkup at h
  split at h
  · simp at h
  · exact Nat.le_of_lt (length_of_nextDeclaration h)
  · simp only [Next.event.injEq] at h
    obtain ⟨-, rfl⟩ := h
    exact Nat.le_succ_of_le (length_cutAngle _)
  · split at h
    · simp only [Next.event.injEq] at h
      obtain ⟨-, rfl⟩ := h
      exact Nat.le_succ_of_le (length_cutAngle _)
    · simp at h
  · split at h
    · simp only [Next.event.injEq] at h
      obtain ⟨-, rfl⟩ := h
      exact Nat.le_of_lt (length_lt_of_cutMarkup ‹_›)
    · simp at h

/-- Every event takes something from the document. -/
theorem length_of_next {s rest : List Char} {e : Event} (h : next s = .event e rest) :
    rest.length < s.length := by
  unfold next at h
  split at h
  · simp at h
  · exact Nat.lt_succ_of_le (length_of_nextMarkup h)
  · rename_i hne hlt
    simp only [Next.event.injEq] at h
    obtain ⟨-, rfl⟩ := h
    cases s with
    | nil => exact absurd rfl hne
    | cons c s =>
      have hc : (c != '<') = true := by
        simp only [bne_iff_ne, ne_eq]
        rintro rfl
        exact hlt s rfl
      simp only [List.dropWhile_cons, hc, ↓reduceIte]
      exact Nat.lt_succ_of_le (List.dropWhile_sublist _).length_le

/-- The events of a document in order, and whether it could be cut up to its end. -/
def scan (s : List Char) : List Event × Bool :=
  match h : next s with
  | .finished => ([], true)
  | .malformed => ([], false)
  | .event e rest =>
    have : rest.length < s.length := length_of_next h
    let (es, complete) := scan rest
    (e :: es, complete)
termination_by s.length

/-- The events of a document, without the byte order mark that may stand before it. -/
def events (document : String) : List Event × Bool :=
  match document.toList with
  | '\uFEFF' :: s => scan s
  | s => scan s

end UpnpGateway.Xml
