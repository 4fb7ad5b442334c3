/-
# Documents as they are written

What stands in an element is a run of text, then markup, then a run of text, and so on up to a
last run.  This file sets up such contents as data that can be written in one way only, and
shows that the reader finds in a written document the elements that were written, each with the
data of its runs.
-/
import UpnpGateway.Proofs.Text.Cut
import UpnpGateway.Proofs.Xml.Escaping
import UpnpGateway.Proofs.Xml.Scanning

namespace UpnpGateway.Xml

open UpnpGateway.Text

/-! ## Pieces of a document -/

/-- A run of characters between two pieces of markup, which may be empty. -/
structure Run where
  /-- The characters as written. -/
  raw : List Char
  notMem : '<' ∉ raw

namespace Run

/-- The run that has no characters. -/
def empty : Run := ⟨[], by simp⟩

/-- The run in which a text is written with its reserved characters escaped. -/
def ofText (s : List Char) : Run := ⟨escape s, notMem_escape s⟩

/-- The events of a run. -/
def events (r : Run) : List Event := if r.raw.isEmpty then [] else [.text r.raw]

end Run

/-- A comment or a processing instruction. -/
structure Remark where
  /-- What is written behind the angle bracket. -/
  body : List Char
  nextMarkup_append : ∀ t, nextMarkup (body ++ t) = .event .remark t

/-- A processing instruction ends with a question mark. -/
lemma nextMarkup_instruction {w : List Char} (hne : w ≠ []) (hw : '>' ∉ w) (t : List Char) :
    nextMarkup (('?' :: (w ++ ['?', '>'])) ++ t) = .event .remark t := by
  have hcut : cutAngle (w ++ (['?', '>'] ++ t)) = (w ++ ['?'], t) := by
    have happend := cutAngle_append (n := w ++ ['?']) (by simpa using hw) t
    simpa using happend
  have hlen : 1 ≤ w.length := List.length_pos_iff.2 hne
  have hend : (2 ≤ (w ++ ['?']).length && (w ++ ['?']).getLast? == some '?') = true := by
    simpa using hlen
  rw [List.cons_append, List.append_assoc, nextMarkup, hcut]
  exact if_pos hend

/-- Behind text at none of whose `>` it closes, markup goes on. -/
lemma cutBehindFrom_append (closes : List Char → Bool) {w seen : List Char}
    (hw : ∀ a b, w = a ++ '>' :: b → closes (a.reverse ++ seen) = false) (passed t : List Char) :
    cutMarkup (fun seen c => c :: seen) closes seen passed (w ++ t) =
      cutMarkup (fun seen c => c :: seen) closes (w.reverse ++ seen) (w.reverse ++ passed) t := by
  induction w generalizing seen passed with
  | nil => rfl
  | cons c w ih =>
    have hopen : ¬ (c == '>' && closes seen) = true := by
      rw [Bool.and_eq_true, beq_iff_eq]
      rintro ⟨rfl, hcloses⟩
      rw [← List.nil_append seen, ← List.reverse_nil, hw [] w rfl] at hcloses
      cases hcloses
    rw [List.cons_append, cutMarkup, if_neg hopen, ih]
    · simp
    · rintro a b rfl
      simpa using hw (c :: a) b rfl

/-- A comment goes on to the first `-->`. -/
lemma nextMarkup_comment {w : List Char} (hw : ¬ ['-', '-', '>'] <:+: w) (t : List Char) :
    nextMarkup (('!' :: '-' :: '-' :: (w ++ ['-', '-', '>'])) ++ t) = .event .remark t := by
  have hopen : ∀ a b, '!' :: '-' :: '-' :: (w ++ ['-', '-']) = a ++ '>' :: b →
      (4 < (a.reverse ++ []).length && "--".toList.isPrefixOf (a.reverse ++ [])) = false := by
    intro a b hab
    rw [List.append_nil, ← Bool.not_eq_true, Bool.and_eq_true, decide_eq_true_iff,
      List.length_reverse, List.isPrefixOf_iff_prefix]
    rintro ⟨hlength, r, hr⟩
    obtain ⟨a, rfl⟩ : ∃ a', a = a' ++ ['-', '-'] :=
      ⟨r.reverse, by rw [← List.reverse_reverse a, ← hr]; simp⟩
    -- the last two dashes are not behind a `>`, and the first two do not count
    obtain ⟨b', -, hfront⟩ := exists_of_append_eq_right (s := '!' :: '-' :: '-' :: w)
      (u := ['-', '-']) (x := '>') (a := a ++ ['-', '-']) (b := b) (by decide) (by simpa using hab)
    have hsplit : ['!', '-', '-'] ++ w = a ++ (['-', '-', '>'] ++ b') := by simpa using hfront
    rcases List.append_eq_append_iff.1 hsplit with ⟨c, -, rfl⟩ | ⟨c, hc, hrest⟩
    · exact hw ⟨c, b', by simp⟩
    · have hcnil : c = [] := by
        have hle := congrArg List.length hc
        simp only [List.length_append, List.length_cons, List.length_nil] at hle hlength
        exact List.eq_nil_of_length_eq_zero (by omega)
      subst hcnil
      exact hw ⟨[], b', by simpa using hrest⟩
  have hcut : cutBehind (fun seen => 4 < seen.length && "--".toList.isPrefixOf seen)
      ('!' :: '-' :: '-' :: (w ++ '-' :: '-' :: '>' :: t)) =
        some ('!' :: '-' :: '-' :: (w ++ ['-', '-']), t) := by
    have happend := cutBehindFrom_append
      (fun seen => 4 < seen.length && "--".toList.isPrefixOf seen) hopen [] ('>' :: t)
    simp only [List.cons_append, List.append_assoc, List.nil_append, List.append_nil] at happend
    rw [cutBehind, happend, cutMarkup, if_pos]
    · simp
    · simp
  have htext : ('!' :: '-' :: '-' :: (w ++ ['-', '-', '>'])) ++ t =
      '!' :: '-' :: '-' :: (w ++ '-' :: '-' :: '>' :: t) := by simp
  rw [htext, nextMarkup, nextDeclaration_remark, nextCut, hcut]
  rfl

/-- The processing instruction with the given text. -/
def Remark.instruction (w : List Char) (hne : w ≠ [] := by decide)
    (hw : '>' ∉ w := by decide) : Remark :=
  ⟨'?' :: (w ++ ['?', '>']), nextMarkup_instruction hne hw⟩

/-- The comment with the given text. -/
def Remark.comment (w : List Char) (hw : ¬ ['-', '-', '>'] <:+: w := by decide) : Remark :=
  ⟨'!' :: '-' :: '-' :: (w ++ ['-', '-', '>']), nextMarkup_comment hw⟩

/-- An attribute as it is written. -/
def writeAttribute (a : List Char × List Char) : List Char :=
  ' ' :: (a.1 ++ '=' :: '"' :: (a.2 ++ ['"']))

/-- A tag that opens an element, with the keys and values of its attributes. -/
structure StartTag where
  /-- The qualified name. -/
  name : List Char
  /-- The keys and values of the attributes. -/
  attributes : List (List Char × List Char)
  isName : IsName name
  isName_key : ∀ a ∈ attributes, IsName a.1
  notMem_value : ∀ a ∈ attributes, '"' ∉ a.2

namespace StartTag

/-- The attributes as they are written. -/
def written (tag : StartTag) : List Char := tag.attributes.flatMap writeAttribute

/-- The tag without attributes. -/
def ofName (n : List Char) (h : IsName n := by decide) : StartTag :=
  ⟨n, [], h, by simp, by simp⟩

end StartTag

/-- A tag that closes an element. -/
structure EndTag where
  /-- The name. -/
  name : List Char
  notMem : '>' ∉ name

/-- The tag that closes what a tag opens. -/
def StartTag.ending (tag : StartTag) : EndTag := ⟨tag.name, tag.isName.notMem rfl⟩

/-- What is written between the tags of an element. -/
inductive Content where
  /-- A last run of text. -/
  | done (run : Run)
  /-- A run of text, a remark and what follows it. -/
  | remark (run : Run) (r : Remark) (rest : Content)
  /-- A run of text, an element and what follows it. -/
  | element (run : Run) (tag : StartTag) (inner : Content) (ending : EndTag) (rest : Content)

namespace Content

/-- The contents as they are written. -/
def chars : Content → List Char
  | done run => run.raw
  | remark run r rest => run.raw ++ '<' :: (r.body ++ rest.chars)
  | element run tag inner ending rest =>
    run.raw ++ '<' :: (tag.name ++ (tag.written ++ '>' ::
      (inner.chars ++ '<' :: '/' :: (ending.name ++ '>' :: rest.chars))))

/-- The events that the contents are cut into. -/
def events : Content → List Event
  | done run => run.events
  | remark run _ rest => run.events ++ .remark :: rest.events
  | element run tag inner ending rest =>
    run.events ++ .opening ⟨tag.name, tag.written⟩ ::
      (inner.events ++ .closing (closingName ending.name) :: rest.events)

/-- The data of the runs, joined. -/
def data : Content → List Char
  | done run => runText run.raw
  | remark run _ rest => runText run.raw ++ rest.data
  | element run _ _ _ rest => runText run.raw ++ rest.data

/-- The elements in the contents. -/
def elements : Content → List Element
  | done _ => []
  | remark _ _ rest => rest.elements
  | element _ tag inner _ rest =>
    ⟨String.ofList tag.name, String.ofList inner.data, inner.elements⟩ :: rest.elements

end Content

/-! ## Tags -/

/-- The quotes of an attribute close again. -/
lemma cutMarkup_attribute {a : List Char × List Char} (hkey : IsName a.1) (hvalue : '"' ∉ a.2)
    (passed t : List Char) :
    cutMarkup quoteStep Option.isNone none passed (writeAttribute a ++ t) =
      cutMarkup quoteStep Option.isNone none ((writeAttribute a).reverse ++ passed) t := by
  have hquoted : ∀ c ∈ a.2, (c == '>' && Option.isNone (some '"')) = false ∧
      quoteStep (some '"') c = some '"' := by
    intro c hc
    have hne : c ≠ '"' := fun h => hvalue (h ▸ hc)
    simp [quoteStep, hne]
  simp only [writeAttribute, List.cons_append, List.append_assoc, List.nil_append]
  rw [cutMarkup, if_neg (by decide)]
  change cutMarkup quoteStep Option.isNone none _ _ = _
  rw [hkey.cutMarkup_append, cutMarkup, if_neg (by decide), cutMarkup, if_neg (by decide)]
  change cutMarkup quoteStep Option.isNone (some '"') _ _ = _
  rw [cutMarkup_append hquoted, cutMarkup, if_neg (by decide)]
  simp [quoteStep]

namespace StartTag

variable (tag : StartTag)

lemma cutTag_append (t : List Char) :
    cutTag (tag.name ++ (tag.written ++ '>' :: t)) = some (tag.name ++ tag.written, t) := by
  have hwritten : ∀ l : List (List Char × List Char), (∀ a ∈ l, IsName a.1 ∧ '"' ∉ a.2) →
      ∀ passed, cutMarkup quoteStep Option.isNone none passed
        (l.flatMap writeAttribute ++ '>' :: t) =
          some (passed.reverse ++ l.flatMap writeAttribute, t) := by
    intro l hl
    induction l with
    | nil => simp [cutMarkup]
    | cons a l ih =>
      intro passed
      obtain ⟨⟨hkey, hvalue⟩, hl⟩ := List.forall_mem_cons.1 hl
      rw [List.flatMap_cons, List.append_assoc, cutMarkup_attribute hkey hvalue, ih hl]
      simp
  rw [cutTag_eq, tag.isName.cutMarkup_append, written,
    hwritten _ fun a ha => ⟨tag.isName_key a ha, tag.notMem_value a ha⟩]
  simp

lemma head?_written {c : Char} (h : tag.written.head? = some c) : c = ' ' := by
  rw [written] at h
  cases ha : tag.attributes with
  | nil => simp [ha] at h
  | cons a l => simpa [ha, writeAttribute, eq_comm] using h

lemma getLast?_body : (tag.name ++ tag.written).getLast? ≠ some '/' := by
  intro h
  rcases List.eq_nil_or_concat tag.attributes with ha | ⟨l, a, ha⟩
  · rw [written, ha, List.flatMap_nil, List.append_nil] at h
    exact tag.isName.notMem rfl (List.mem_of_mem_getLast? h)
  · simp [written, ha, writeAttribute, List.getLast?_append, List.getLast?_cons] at h

/-- A tag that opens an element is read as such, whatever follows it. -/
lemma next_append (t : List Char) :
    next ('<' :: (tag.name ++ (tag.written ++ '>' :: t))) =
      .event (.opening ⟨tag.name, tag.written⟩) t := by
  have hspan : ∀ c ∈ tag.name, (!isMarkupBlank c) = true := by
    intro c hc
    rw [tag.isName.not_isMarkupBlank hc, Bool.not_false]
  have htag : Tag.ofList (tag.name ++ tag.written) = ⟨tag.name, tag.written⟩ := by
    rw [Tag.ofList, List.takeWhile_append_of_pos hspan, List.dropWhile_append_of_pos hspan]
    cases hw : tag.written with
    | nil => simp
    | cons c w =>
      obtain rfl := tag.head?_written (by rw [hw]; rfl)
      have hblank : isMarkupBlank ' ' = true := rfl
      simp [hblank]
  have hcut := tag.cutTag_append t
  rw [← List.append_assoc] at hcut ⊢
  rw [next_of_cutTag (tag.isName.opensElement _) hcut, Event.ofTag, htag,
    if_neg (by simpa using tag.getLast?_body)]

end StartTag

/-! ## Cutting what is written -/

/-- A run is read up to the markup that ends it. -/
lemma Run.scan_append (run : Run) {t : List Char} (ht : ∀ c, t.head? = some c → c = '<') :
    scan (run.raw ++ t) = (run.events ++ (scan t).1, (scan t).2) := by
  rw [Run.events]
  split
  · rename_i h
    simp [List.isEmpty_iff.1 h]
  · rename_i h
    rw [scan_of_event (next_text (by simpa using h) run.notMem ht), List.singleton_append]

lemma Run.scan_append_markup (run : Run) {e : Event} {s t : List Char}
    (h : next ('<' :: s) = .event e t) :
    scan (run.raw ++ '<' :: s) = (run.events ++ e :: (scan t).1, (scan t).2) := by
  rw [run.scan_append (by rintro c ⟨⟩; rfl), scan_of_event h]

namespace Content

/-- Contents are cut into the events that were written, whatever markup follows. -/
lemma scan_append (f : Content) {t : List Char} (ht : ∀ c, t.head? = some c → c = '<') :
    scan (f.chars ++ t) = (f.events ++ (scan t).1, (scan t).2) := by
  induction f generalizing t with
  | done run => exact run.scan_append ht
  | remark run r rest ih =>
    have hnext : next ('<' :: (r.body ++ (rest.chars ++ t))) = .event .remark (rest.chars ++ t) :=
      r.nextMarkup_append _
    simp only [chars, events, List.append_assoc, List.cons_append]
    rw [run.scan_append_markup hnext, ih ht]
  | element run tag inner ending rest ihInner ihRest =>
    -- the end tag is the markup that follows what is written in the element
    simp only [chars, events, List.append_assoc, List.cons_append]
    rw [run.scan_append_markup (tag.next_append _), ihInner (by rintro c ⟨⟩; rfl),
      scan_of_event (next_closing ending.notMem _), ihRest ht]

/-! ## Reading what is written -/

/-- An open element with some contents written into it. -/
def addTo (f : Content) (g : Frame) : Frame :=
  ⟨g.name, g.text ++ f.data, f.elements.reverse ++ g.children⟩

end Content

lemma assemble_run (complete : Bool) (run : Run) (g : Frame) (stack : List Frame)
    (es : List Event) :
    assemble complete (g :: stack) (run.events ++ es) =
      assemble complete (g.write (runText run.raw) :: stack) es := by
  rw [Run.events]
  split
  · rename_i h
    have hnil : runText run.raw = [] := by rw [List.isEmpty_iff.1 h]; exact unescape_nil
    rw [hnil, Frame.write, List.append_nil, List.nil_append]
  · rw [List.singleton_append, assemble]

lemma assemble_run_nil (complete : Bool) (run : Run) (es : List Event) :
    assemble complete [] (run.events ++ es) = assemble complete [] es := by
  rw [Run.events]
  split
  · rw [List.nil_append]
  · rw [List.singleton_append, assemble]

namespace Content

/-- Contents are read into the innermost open element, and leave the others as they are. -/
lemma assemble_append (complete : Bool) (f : Content) (g : Frame) (stack : List Frame)
    (es : List Event) :
    assemble complete (g :: stack) (f.events ++ es) =
      assemble complete (f.addTo g :: stack) es := by
  induction f generalizing g stack es with
  | done run =>
    rw [events, assemble_run]
    rfl
  | remark run r rest ih =>
    simp only [events, List.append_assoc, List.cons_append]
    rw [assemble_run, assemble, ih]
    simp [addTo, data, elements, Frame.write]
  | element run tag inner ending rest ihInner ihRest =>
    -- a frame of its own is opened, filled, and pushed onto the one that was open
    simp only [events, List.append_assoc, List.cons_append]
    rw [assemble_run, assemble, ihInner, assemble, ihRest]
    simp [addTo, data, elements, Frame.write, Frame.push, Frame.close, Frame.opened]

/-- The first element of some contents is the root, whatever stands around it. -/
lemma assemble_of_elements (complete : Bool) (f : Content) {e : Element}
    (h : f.elements.head? = some e) : assemble complete [] f.events = .ok e := by
  induction f with
  | done run => simp [elements] at h
  | remark run r rest ih =>
    rw [events, assemble_run_nil, assemble, ih h]
  | element run tag inner ending rest ihInner ihRest =>
    rw [events, assemble_run_nil, assemble, assemble_append, assemble]
    simpa [elements, addTo, Frame.close, Frame.opened] using h

/-- A written document is cut into the events that were written. -/
lemma events_chars (f : Content) (hmark : f.chars.head? ≠ some '\uFEFF') :
    Xml.events (String.ofList f.chars) = (f.events, true) := by
  have hscan := f.scan_append (t := []) (by simp)
  rw [events_eq, String.toList_ofList, unmarked_eq_self hmark]
  simpa [scan_of_finished (s := []) rfl] using hscan

/-- A written document is read as its first element. -/
lemma parse_chars (f : Content) {e : Element} (h : f.elements.head? = some e)
    (hmark : f.chars.head? ≠ some '\uFEFF') : Xml.parse (String.ofList f.chars) = .ok e := by
  rw [Xml.parse, f.events_chars hmark]
  exact assemble_of_elements true f h

end Content

end UpnpGateway.Xml
