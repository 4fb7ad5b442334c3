/-
# Searching a written document

In the root element of a document stand other elements, at any depth.  A search for a name goes
through them in the order in which they begin.  So it finds what was written first under this name,
and what is found can be told from the elements that were written.
-/
import UpnpGateway.Proofs.Xml.Siblings

namespace UpnpGateway.Xml

open UpnpGateway.Text

/-! ## Elements at any depth -/

/-- An element that was written somewhere in a document. -/
structure WrittenElement where
  /-- The tag that opens it. -/
  tag : StartTag
  /-- What stands in it. -/
  inner : Content

namespace WrittenElement

/-- The qualified name. -/
def name (w : WrittenElement) : String := String.ofList w.tag.name

/-- The element that is read. -/
def element (w : WrittenElement) : Element :=
  ⟨w.name, String.ofList w.inner.data, w.inner.elements⟩

end WrittenElement

/-- The content that is a text whose reserved characters are escaped. -/
def Content.ofText (s : List Char) : Content := .done (.ofText s)

/-- An element that holds an escaped text has this text, but for blanks at its ends. -/
lemma WrittenElement.trim_text_ofText (tag : StartTag) (s : List Char) :
    trim (element ⟨tag, .ofText s⟩).text.toList = trim s := by
  rw [element, Content.ofText, Content.data, Run.ofText, runText_escape, String.toList_ofList,
    trim_dropEndsWhile]

lemma WrittenElement.trimmed_text_ofText (tag : StartTag) (s : String) :
    trimmed (element ⟨tag, .ofText s.toList⟩).text = trimmed s := by
  rw [trimmed, trim_text_ofText, trimmed]

namespace Content

/-- The elements in the contents, and those in them, in the order in which they begin. -/
def written : Content → List WrittenElement
  | done _ => []
  | remark _ _ rest => rest.written
  | element _ tag inner _ rest => ⟨tag, inner⟩ :: (inner.written ++ rest.written)

/-- Those of the elements at any depth that are called `name`. -/
def named (rule : TagRule) (name : String) (content : Content) : List WrittenElement :=
  content.written.filter fun w => rule.matches w.name name

/-- A search finds the first element that was written under the name. -/
lemma findAmong?_elements (name : String) (rule : TagRule) (content : Content) :
    Element.findAmong? name rule content.elements =
      (content.named rule name).head?.map WrittenElement.element := by
  induction content with
  | done run => rfl
  | remark run r rest ih => exact ih
  | element run tag inner ending rest ihInner ihRest =>
    rw [elements, Element.findAmong?, named, written, List.filter_cons]
    by_cases hmatch : rule.matches (String.ofList tag.name) name = true
    · simp only [hmatch, WrittenElement.name, if_true]
      rfl
    · -- the elements in it come before those behind it
      simp only [hmatch, WrittenElement.name, Bool.false_eq_true, if_false]
      rw [Element.find?, ihInner, ihRest, List.filter_append, List.head?_append]
      exact Option.map_or.symm

/-- The children of an element are among those that were written. -/
lemma exists_of_mem_elements {content : Content} {e : Element} (he : e ∈ content.elements) :
    ∃ w ∈ content.written, w.element = e := by
  induction content with
  | done run => cases he
  | remark run r rest ih => exact ih he
  | element run tag inner ending rest ihInner ihRest =>
    rw [elements] at he
    rcases List.mem_cons.1 he with rfl | he
    · exact ⟨⟨tag, inner⟩, List.mem_cons_self, rfl⟩
    · obtain ⟨w, hw, rfl⟩ := ihRest he
      exact ⟨w, List.mem_cons_of_mem _ (List.mem_append_right _ hw), rfl⟩

/-- What is in an element is in all that the element is in. -/
lemma mem_written_trans {content : Content} {v w : WrittenElement} (hw : w ∈ content.written)
    (hv : v ∈ w.inner.written) : v ∈ content.written := by
  induction content with
  | done run => cases hw
  | remark run r rest ih => exact ih hw
  | element run tag inner ending rest ihInner ihRest =>
    rw [written] at hw ⊢
    refine List.mem_cons_of_mem _ (List.mem_append.2 ?_)
    rcases List.mem_cons.1 hw with rfl | hw
    · exact .inl hv
    · exact (List.mem_append.1 hw).imp ihInner ihRest

/-- An element has no child with a name under which nothing was written. -/
lemma child?_eq_none {content : Content} {rule : TagRule} {name : String}
    (hnone : content.named rule name = []) {w : WrittenElement} (hw : w ∈ content.written) :
    w.element.child? name rule = none := by
  refine List.find?_eq_none.2 fun e he => ?_
  obtain ⟨v, hv, rfl⟩ := exists_of_mem_elements he
  exact List.filter_eq_nil_iff.1 hnone v (mem_written_trans hw hv)

end Content

/-! ## Documents -/

/-- A document with a root element. -/
structure WrittenDocument where
  /-- What stands before the root element. -/
  prolog : Gap
  /-- The root element. -/
  root : WrittenElement
  /-- The tag that closes it. -/
  ending : EndTag
  /-- What stands behind it. -/
  trailing : List Char
  head?_prolog : prolog.chars.head? ≠ some '\uFEFF'

namespace WrittenDocument

/-- The document as it is written. -/
def write (doc : WrittenDocument) : String :=
  String.ofList (doc.prolog.chars ++ '<' :: (doc.root.tag.name ++ (doc.root.tag.written ++
    '>' :: (doc.root.inner.chars ++ '<' :: '/' :: (doc.ending.name ++ '>' :: doc.trailing)))))

/-- The elements in the root element that are called `name`. -/
def named (doc : WrittenDocument) (rule : TagRule) (name : String) : List WrittenElement :=
  doc.root.inner.named rule name

/-- A document is read as its root element, whatever stands before and behind it. -/
lemma parse_write (doc : WrittenDocument) : Xml.parse doc.write = .ok doc.root.element := by
  have hunmarked : ∀ s, (doc.prolog.chars ++ '<' :: s).head? ≠ some '\uFEFF' := by
    intro s
    have hprolog := doc.head?_prolog
    cases hchars : doc.prolog.chars with
    | nil => simp
    | cons c r => simpa [hchars] using hprolog
  rw [write, parse_ofList (hunmarked _), doc.prolog.readFrom_nil_append (by rintro c ⟨⟩; rfl),
    readFrom_opening, doc.root.inner.readFrom_append _ _ (by rintro c ⟨⟩; rfl),
    readFrom_closing_root]
  simp [Frame.add, Frame.opened, Frame.close, WrittenElement.element, WrittenElement.name]

/-- A search in the root element finds the first element that was written under the name. -/
lemma find?_root (doc : WrittenDocument) (name : String) (rule : TagRule) :
    Element.find? name rule doc.root.element =
      (doc.named rule name).head?.map WrittenElement.element :=
  doc.root.inner.findAmong?_elements name rule

end WrittenDocument

end UpnpGateway.Xml
