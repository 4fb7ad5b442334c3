/-
# Elements among others

What an element is read as does not depend on what stands before and behind it.  A text that is an
element of its own, however it is written, is read inside another element as one child, and what
stands between two tags is read as the children that were written there, in order.  So a document
can be put together from any elements, and the reader finds in it the elements that it was put
together from.
-/
import UpnpGateway.Proofs.Xml.Content
import UpnpGateway.Proofs.Xml.RootEnd

namespace UpnpGateway.Xml

open UpnpGateway.Text

/-! ## Reading from some point on -/

/-- What a document is read as from some point on, at which the elements of `stack` are open. -/
def readFrom (stack : List Frame) (s : List Char) : Except ReadError Element :=
  assemble (scan s).2 stack (scan s).1

/-- An open element with more text and more children. -/
def Frame.add (f : Frame) (data : List Char) (children : List Element) : Frame :=
  ⟨f.name, f.text ++ data, children.reverse ++ f.children⟩

lemma Frame.add_add (f : Frame) (data data' : List Char) (elements elements' : List Element) :
    (f.add data elements).add data' elements' = f.add (data ++ data') (elements ++ elements') := by
  simp [add]

/-- A text stands for some data and some elements, whatever is open before it and whatever follows
it. -/
def ReadsAs (w : List Char) (data : List Char) (elements : List Element) : Prop :=
  ∀ (f : Frame) (stack : List Frame) (t : List Char),
    readFrom (f :: stack) (w ++ t) = readFrom (f.add data elements :: stack) t

/-- A document is read from its first character on if this is no mark. -/
lemma parse_ofList {s : List Char} (hmark : s.head? ≠ some '\uFEFF') :
    Xml.parse (String.ofList s) = readFrom [] s := by
  rw [Xml.parse, events_eq, String.toList_ofList, unmarked_eq_self hmark, readFrom]

lemma readFrom_opening (tag : StartTag) (stack : List Frame) (t : List Char) :
    readFrom stack ('<' :: (tag.name ++ (tag.written ++ '>' :: t))) =
      readFrom (Frame.opened ⟨tag.name, tag.written⟩ :: stack) t := by
  rw [readFrom, scan_of_event (tag.next_append t), assemble, readFrom]

lemma readFrom_closing (ending : EndTag) (f g : Frame) (stack : List Frame) (t : List Char) :
    readFrom (f :: g :: stack) ('<' :: '/' :: (ending.name ++ '>' :: t)) =
      readFrom (g.push f.close :: stack) t := by
  rw [readFrom, scan_of_event (next_closing ending.notMem t), assemble, readFrom]

/-- Behind the tag that closes the root element nothing is read. -/
lemma readFrom_closing_root (ending : EndTag) (f : Frame) (t : List Char) :
    readFrom [f] ('<' :: '/' :: (ending.name ++ '>' :: t)) = .ok f.close := by
  rw [readFrom, scan_of_event (next_closing ending.notMem t), assemble]

lemma Content.readFrom_append (content : Content) (f : Frame) (stack : List Frame) {t : List Char}
    (ht : ∀ c, t.head? = some c → c = '<') :
    readFrom (f :: stack) (content.chars ++ t) =
      readFrom (f.add content.data content.elements :: stack) t := by
  rw [readFrom, content.scan_append ht, content.assemble_append]
  rfl

namespace ReadsAs

variable {w w' data data' : List Char} {elements elements' : List Element}

protected lemma nil : ReadsAs [] [] [] := by
  intro f stack t
  simp [Frame.add]

protected lemma append (h : ReadsAs w data elements) (h' : ReadsAs w' data' elements') :
    ReadsAs (w ++ w') (data ++ data') (elements ++ elements') := by
  intro f stack t
  rw [List.append_assoc, h, h', Frame.add_add]

end ReadsAs

/-! ## Elements as they are written -/

/-- What stands between two tags without any element: text and remarks. -/
structure Gap where
  /-- The text and the remarks. -/
  content : Content
  elements_eq : content.elements = []

namespace Gap

/-- The gap that is a run of text. -/
def ofRun (run : Run) : Gap := ⟨.done run, rfl⟩

/-- The gap that is a text whose reserved characters are escaped. -/
def ofText (s : List Char) : Gap := ofRun (.ofText s)

/-- The gap as it is written. -/
def chars (gap : Gap) : List Char := gap.content.chars

/-- The text in a gap. -/
def data (gap : Gap) : List Char := gap.content.data

lemma readFrom_append (gap : Gap) (f : Frame) (stack : List Frame) {t : List Char}
    (ht : ∀ c, t.head? = some c → c = '<') :
    readFrom (f :: stack) (gap.chars ++ t) = readFrom (f.add gap.data [] :: stack) t := by
  rw [chars, gap.content.readFrom_append f stack ht, gap.elements_eq, data]

/-- Before the root element a gap makes no difference. -/
lemma readFrom_nil_append (gap : Gap) {t : List Char} (ht : ∀ c, t.head? = some c → c = '<') :
    readFrom [] (gap.chars ++ t) = readFrom [] t := by
  obtain ⟨content, helements⟩ := gap
  rw [chars, readFrom, content.scan_append ht, readFrom]
  dsimp only
  clear ht
  induction content with
  | done run => rw [Content.events, assemble_run_nil]
  | remark run r rest ih =>
    rw [Content.events, List.append_assoc, assemble_run_nil, List.cons_append, assemble,
      ih helements]
  | element run tag inner ending rest => simp [Content.elements] at helements

end Gap

/-- An element as it is written: the tag that opens it, what stands in it, a last gap, and the tag
that closes it. -/
def StartTag.enclose (tag : StartTag) (inner : List Char) (gap : Gap) : List Char :=
  '<' :: (tag.name ++ (tag.written ++
    '>' :: (inner ++ (gap.chars ++ '<' :: '/' :: (tag.name ++ ['>'])))))

namespace ReadsAs

variable {inner data : List Char} {elements : List Element} (h : ReadsAs inner data elements)
  (tag : StartTag) (gap : Gap)
include h

/-- What is read in an element goes into the frame that its tag has opened. -/
lemma readFrom_enclose (stack : List Frame) (t : List Char) :
    readFrom stack (tag.enclose inner gap ++ t) =
      readFrom (⟨tag.name, data ++ gap.data, elements.reverse⟩ :: stack)
        ('<' :: '/' :: (tag.ending.name ++ '>' :: t)) := by
  simp only [StartTag.enclose, List.cons_append, List.append_assoc, List.nil_append]
  rw [readFrom_opening, h, gap.readFrom_append _ _ (by rintro c ⟨⟩; rfl)]
  simp [Frame.add, Frame.opened, StartTag.ending]

/-- An element stands for itself: it has the data and the elements that its contents stand for. -/
lemma enclose : ReadsAs (tag.enclose inner gap) []
    [⟨String.ofList tag.name, String.ofList (data ++ gap.data), elements⟩] := by
  intro f stack t
  rw [h.readFrom_enclose, readFrom_closing]
  simp [Frame.push, Frame.close, Frame.add]

/-- A document is read as its root element, whatever stands before and behind it. -/
lemma parse_enclose (prolog : Gap) (hmark : prolog.chars.head? ≠ some '\uFEFF')
    (trailing : List Char) :
    Xml.parse (String.ofList (prolog.chars ++ (tag.enclose inner gap ++ trailing))) =
      .ok ⟨String.ofList tag.name, String.ofList (data ++ gap.data), elements⟩ := by
  have hhead : ∀ c, (tag.enclose inner gap ++ trailing).head? = some c → c = '<' := by
    rintro c ⟨⟩
    rfl
  have hunmarked : (prolog.chars ++ (tag.enclose inner gap ++ trailing)).head? ≠
      some '\uFEFF' := by
    cases hprolog : prolog.chars with
    | nil => simp [StartTag.enclose]
    | cons c s => simpa [hprolog] using hmark
  rw [parse_ofList hunmarked, prolog.readFrom_nil_append hhead, h.readFrom_enclose,
    readFrom_closing_root]
  simp [Frame.close]

/-- A gap before an element adds its text. -/
lemma gap_append (hhead : inner.head? = some '<') :
    ReadsAs (gap.chars ++ inner) (gap.data ++ data) elements := by
  intro f stack t
  rw [List.append_assoc, gap.readFrom_append, h, Frame.add_add, List.nil_append]
  · rw [List.head?_append, hhead]
    rintro c ⟨⟩
    rfl

end ReadsAs

/-! ## Any elements -/

/-- A text that is an element however it is written: it begins with a tag, the tag that closes the
element is its end, and it can be cut up to there. -/
structure IsElement (w : List Char) (tag : Tag) : Prop where
  /-- It begins with the tag. -/
  opens : (scan w).1.head?.bind Event.tag? = some tag
  /-- The last piece of markup closes the element. -/
  closes : EndsWithRoot 0 (scan w).1
  /-- Nothing stands behind this piece. -/
  getLast? : w.getLast? = some '>'
  /-- There is no markup in it that cannot be cut. -/
  complete : (scan w).2 = true

instance (w : List Char) (tag : Tag) : Decidable (IsElement w tag) :=
  decidable_of_iff ((scan w).1.head?.bind Event.tag? = some tag ∧ EndsWithRoot 0 (scan w).1 ∧
      w.getLast? = some '>' ∧ (scan w).2 = true)
    ⟨fun h => ⟨h.1, h.2.1, h.2.2.1, h.2.2.2⟩,
      fun h => ⟨h.opens, h.closes, h.getLast?, h.complete⟩⟩

/-- The events up to the one that closes the element of the last one of some frames put this
element into the frame below, whatever events follow. -/
lemma exists_assemble_append (g : Frame) (frames : List Frame) {es : List Event} {name : List Char}
    (h : EndsWithRoot (frames.length + 1) es)
    (hname : ((g :: frames).map Frame.name).getLast? = some name) :
    ∃ e : Element, e.name = String.ofList name ∧ ∀ complete f stack es',
      assemble complete (g :: (frames ++ f :: stack)) (es ++ es') =
        assemble complete (f.push e :: stack) es' := by
  induction es generalizing g frames with
  | nil => exact h.elim
  | cons event es ih =>
    rw [EndsWithRoot] at h
    simp only [List.cons_append]
    -- an event that does not close the element leads to other frames above the one below
    have hnext : ∀ (g' : Frame) (frames' : List Frame), EndsWithRoot (frames'.length + 1) es →
        ((g' :: frames').map Frame.name).getLast? = some name →
        (∀ complete f stack es', assemble complete (g :: (frames ++ f :: stack)) (event :: es') =
          assemble complete (g' :: (frames' ++ f :: stack)) es') →
        ∃ e : Element, e.name = String.ofList name ∧ ∀ complete f stack es',
          assemble complete (g :: (frames ++ f :: stack)) (event :: (es ++ es')) =
            assemble complete (f.push e :: stack) es' := by
      intro g' frames' hes hname' hstep
      obtain ⟨e, he, hread⟩ := ih g' frames' hes hname'
      exact ⟨e, he, fun complete f stack es' => (hstep complete f stack _).trans (hread _ _ _ _)⟩
    cases event with
    | opening tag =>
      refine hnext (Frame.opened tag) (g :: frames) h ?_ fun complete f stack es' => by
        rw [assemble, List.cons_append]
      simpa [List.getLast?_cons] using hname
    | empty tag =>
      exact hnext (g.push (Frame.opened tag).close) frames h hname fun complete f stack es' => by
        rw [assemble]
    | closing n =>
      cases frames with
      | nil =>
        obtain rfl : es = [] := h
        obtain rfl : g.name = name := by simpa using hname
        exact ⟨g.close, rfl, fun complete f stack es' => by simp [assemble]⟩
      | cons g' frames =>
        refine hnext (g'.push g.close) frames (by simpa [Event.endsRoot, Event.depth] using h) ?_
          fun complete f stack es' => by rw [List.cons_append, assemble]
        simpa [Frame.push, List.getLast?_cons] using hname
    | text raw =>
      exact hnext (g.write (runText raw)) frames h hname fun complete f stack es' => by
        rw [assemble]
    | cdata data =>
      exact hnext (g.write data) frames h hname fun complete f stack es' => by rw [assemble]
    | doctype | remark =>
      exact hnext g frames h hname fun complete f stack es' => by rw [assemble]

/-- An element begins with an angle bracket. -/
lemma IsElement.head?_eq {w : List Char} {tag : Tag} (h : IsElement w tag) :
    w.head? = some '<' := by
  have hopens := h.opens
  cases hnext : next w with
  | finished => simp [scan_of_finished hnext] at hopens
  | malformed => simp [scan_of_malformed hnext] at hopens
  | event e rest =>
    have he : e.tag? = some tag := by simpa [scan_of_event hnext] using hopens
    rcases nextCase hnext with ⟨body, rfl, -, -, -⟩ | ⟨u, -, hnone, -⟩ | ⟨raw, -, rfl, -, -, -⟩
    · rfl
    · simp [hnone.1] at he
    · simp [Event.tag?] at he

/-- A text that is an element is read as one child wherever it stands. -/
lemma IsElement.exists_readsAs {w : List Char} {tag : Tag} (h : IsElement w tag) :
    ∃ e : Element, e.name = String.ofList tag.name ∧ ReadsAs w [] [e] := by
  obtain ⟨hopens, hcloses, hend, hcomplete⟩ := h
  have hscan : ∀ t, scan (w ++ t) = ((scan w).1 ++ (scan t).1, (scan t).2) := by
    intro t
    obtain ⟨more, hmore, hall⟩ := exists_scan_append hend (isText_getLast?_of_endsWithRoot hcloses) t
    rw [hmore, hall hcomplete]
  have hread : ∃ e : Element, e.name = String.ofList tag.name ∧ ∀ complete f stack es',
      assemble complete (f :: stack) ((scan w).1 ++ es') =
        assemble complete (f.push e :: stack) es' := by
    generalize (scan w).1 = es at hopens hcloses
    cases es with
    | nil => exact hcloses.elim
    | cons event es =>
      cases event with
      | opening tag' =>
        obtain rfl : tag' = tag := by simpa [Event.tag?] using hopens
        obtain ⟨e, he, hread⟩ := exists_assemble_append (Frame.opened tag') [] hcloses rfl
        exact ⟨e, he, fun complete f stack es' => by
          rw [List.cons_append, assemble]; exact hread complete f stack es'⟩
      | empty tag' =>
        obtain rfl : tag' = tag := by simpa [Event.tag?] using hopens
        obtain rfl : es = [] := hcloses
        exact ⟨(Frame.opened tag').close, rfl, fun complete f stack es' => by simp [assemble]⟩
      | closing name | text raw | cdata data | doctype | remark => simp [Event.tag?] at hopens
  obtain ⟨e, he, hread⟩ := hread
  refine ⟨e, he, fun f stack t => ?_⟩
  rw [readFrom, hscan, hread, readFrom]
  simp [Frame.push, Frame.add]

/-- An element among others, however it is written. -/
structure Sibling where
  /-- What stands before it. -/
  before : Gap
  /-- The element as it is written. -/
  text : List Char
  /-- The tag that it begins with. -/
  tag : Tag
  isElement : IsElement text tag

namespace Sibling

/-- The name of the element. -/
def name (s : Sibling) : String := String.ofList s.tag.name

/-- The element and what stands before it. -/
def chars (s : Sibling) : List Char := s.before.chars ++ s.text

lemma exists_readsAs (s : Sibling) :
    ∃ (data : List Char) (e : Element), e.name = s.name ∧ ReadsAs s.chars data [e] := by
  obtain ⟨e, he, hread⟩ := s.isElement.exists_readsAs
  exact ⟨_, e, he, hread.gap_append s.before s.isElement.head?_eq⟩

end Sibling

/-- If each of some pieces stands for an element, they stand for these elements together. -/
lemma exists_readsAs_flatMap {α : Type} {chars : α → List Char} {p : α → Element → Prop}
    (h : ∀ x, ∃ (data : List Char) (e : Element), p x e ∧ ReadsAs (chars x) data [e]) :
    ∃ element : α → Element, (∀ x, p x (element x)) ∧
      ∀ l : List α, ∃ data : List Char, ReadsAs (l.flatMap chars) data (l.map element) := by
  choose data element hp hread using h
  refine ⟨element, hp, fun l => ?_⟩
  induction l with
  | nil => exact ⟨[], .nil⟩
  | cons x l ih =>
    obtain ⟨data', hread'⟩ := ih
    exact ⟨data x ++ data', (hread x).append hread'⟩

/-- What stands around an element in the one that it is in. -/
structure Surroundings where
  /-- The elements before it. -/
  before : List Sibling
  /-- What stands between these and the element. -/
  gap : Gap
  /-- The elements behind it. -/
  after : List Sibling
  /-- What stands behind these. -/
  last : Gap

namespace Surroundings

/-- What is written around an element, up to the last gap. -/
def around (p : Surroundings) (w : List Char) : List Char :=
  p.before.flatMap Sibling.chars ++ ((p.gap.chars ++ w) ++ p.after.flatMap Sibling.chars)

/-- An element in its surroundings is found by its name, unless one before it has this name. -/
lemma exists_readsAs_around (p : Surroundings) {w : List Char} {e : Element}
    (h : ReadsAs w [] [e]) (hhead : w.head? = some '<') :
    ∃ (data : List Char) (children : List Element), ReadsAs (p.around w) data children ∧
      ∀ (rule : TagRule) (wanted : String), (∀ s ∈ p.before, rule.matches s.name wanted = false) →
        rule.matches e.name wanted = true →
        (children.find? fun c => rule.matches c.name wanted) = some e := by
  obtain ⟨element, hname, hread⟩ := exists_readsAs_flatMap Sibling.exists_readsAs
  obtain ⟨_, hbefore⟩ := hread p.before
  obtain ⟨_, hafter⟩ := hread p.after
  refine ⟨_, p.before.map element ++ (e :: p.after.map element),
    hbefore.append ((h.gap_append p.gap hhead).append hafter), fun rule wanted hother he => ?_⟩
  have hnone : ((p.before.map element).find? fun c => rule.matches c.name wanted) = none := by
    rw [List.find?_eq_none]
    intro c hc
    obtain ⟨s, hs, rfl⟩ := List.mem_map.1 hc
    simp [hname s, hother s hs]
  rw [List.find?_append, hnone, Option.none_or]
  exact List.find?_cons_of_pos he

end Surroundings

end UpnpGateway.Xml
