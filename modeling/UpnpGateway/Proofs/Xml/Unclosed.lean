/-
# Elements that are not closed properly

A tag that closes an element may have any name, and at the end of a document the tags that close
the last elements may be missing.  In either case the elements are read as if they had been closed
properly, each with the text of the runs that stand directly in it.
-/
import UpnpGateway.Proofs.Xml.References
import UpnpGateway.Proofs.Xml.Siblings

namespace UpnpGateway.Xml

open UpnpGateway.Text

/-! ## What is written -/

/-- A tag that closes an element as it is written. -/
def EndTag.chars (ending : EndTag) : List Char := '<' :: '/' :: (ending.name ++ ['>'])

/-- The text and the elements that written contents stand for: the text is put together from the
runs, each without the blanks of markup at its ends. -/
inductive Content.Means : Content → List Char → List Element → Prop
  | done {run : Run} {s : List Char} (hrun : StandsFor (dropEndsWhile isMarkupBlank run.raw) s) :
      Means (.done run) s []
  | remark {run : Run} {r : Remark} {rest : Content} {s s' : List Char} {es : List Element}
      (hrun : StandsFor (dropEndsWhile isMarkupBlank run.raw) s) (hrest : Means rest s' es) :
      Means (.remark run r rest) (s ++ s') es
  | element {run : Run} {tag : StartTag} {inner : Content} {ending : EndTag} {rest : Content}
      {s s' t : List Char} {es fs : List Element}
      (hrun : StandsFor (dropEndsWhile isMarkupBlank run.raw) s) (hinner : Means inner t fs)
      (hrest : Means rest s' es) :
      Means (.element run tag inner ending rest) (s ++ s')
        (⟨String.ofList tag.name, String.ofList t, fs⟩ :: es)

/-- What is left of written contents if so many of the closing tags at their end are left off.
A tag can be left off if nothing is written behind it but tags that are left off as well. -/
inductive Content.LeavesOff : Content → Nat → List Char → Prop
  | none (content : Content) : LeavesOff content 0 content.chars
  | remark {run : Run} {r : Remark} {rest : Content} {k : Nat} {w : List Char}
      (h : LeavesOff rest k w) :
      LeavesOff (.remark run r rest) k (run.raw ++ '<' :: (r.body ++ w))
  | element {run : Run} {tag : StartTag} {inner : Content} {ending : EndTag} {rest : Content}
      {k : Nat} {w : List Char} (h : LeavesOff rest k w) :
      LeavesOff (.element run tag inner ending rest) k
        (run.raw ++ '<' :: (tag.name ++ (tag.written ++
          '>' :: (inner.chars ++ (ending.chars ++ w)))))
  | last {run : Run} {tag : StartTag} {inner : Content} {ending : EndTag} {k : Nat}
      {w : List Char} (h : LeavesOff inner k w) :
      LeavesOff (.element run tag inner ending (.done .empty)) (k + 1)
        (run.raw ++ '<' :: (tag.name ++ (tag.written ++ '>' :: w)))

namespace Content

/-- So many closing tags, written behind what is left, make the contents whole. -/
lemma LeavesOff.exists_chars_eq {content : Content} {k : Nat} {w : List Char}
    (h : content.LeavesOff k w) :
    ∃ endings : List EndTag, endings.length = k ∧
      content.chars = w ++ endings.flatMap EndTag.chars := by
  induction h with
  | none content => exact ⟨[], rfl, by simp⟩
  | remark _ ih =>
    obtain ⟨endings, hlength, hchars⟩ := ih
    exact ⟨endings, hlength, by simp [chars, hchars]⟩
  | element _ ih =>
    obtain ⟨endings, hlength, hchars⟩ := ih
    exact ⟨endings, hlength, by simp [chars, hchars, EndTag.chars]⟩
  | @last run tag inner ending k w _ ih =>
    obtain ⟨endings, rfl, hchars⟩ := ih
    exact ⟨endings ++ [ending], by simp, by simp [chars, hchars, EndTag.chars, Run.empty]⟩

/-- Contents stand for the data of their runs and for their elements. -/
lemma Means.eq {content : Content} {s : List Char} {es : List Element} (h : content.Means s es) :
    content.data = s ∧ content.elements = es := by
  induction h with
  | done hrun => exact ⟨hrun.runText_eq, rfl⟩
  | remark hrun _ ih =>
    obtain ⟨rfl, rfl⟩ := ih
    exact ⟨by rw [data, hrun.runText_eq], rfl⟩
  | element hrun _ _ ihInner ihRest =>
    obtain ⟨rfl, rfl⟩ := ihInner
    obtain ⟨rfl, rfl⟩ := ihRest
    exact ⟨by rw [data, hrun.runText_eq], rfl⟩

end Content

/-! ## What is read -/

/-- At the end of a document all open elements are closed. -/
lemma readFrom_nil (stack : List Frame) : readFrom stack [] = closeAll stack := by
  rw [readFrom, scan_of_finished rfl, assemble, if_pos rfl]

lemma readFrom_run (run : Run) (f : Frame) (stack : List Frame) {t : List Char}
    (ht : ∀ c, t.head? = some c → c = '<') :
    readFrom (f :: stack) (run.raw ++ t) = readFrom (f.add (runText run.raw) [] :: stack) t :=
  (Content.done run).readFrom_append f stack ht

lemma readFrom_remark (r : Remark) (f : Frame) (stack : List Frame) (t : List Char) :
    readFrom (f :: stack) ('<' :: (r.body ++ t)) = readFrom (f :: stack) t := by
  have hnext : next ('<' :: (r.body ++ t)) = .event .remark t := r.nextMarkup_append t
  rw [readFrom, scan_of_event hnext, assemble, readFrom]

/-- Contents some of whose last closing tags are left off are read into the innermost open element
as if they were whole, and then the document is over. -/
lemma Content.LeavesOff.readFrom_eq {content : Content} {k : Nat} {w : List Char}
    (h : content.LeavesOff k w) (f : Frame) (stack : List Frame) :
    readFrom (f :: stack) w = closeAll (f.add content.data content.elements :: stack) := by
  have hmarkup : ∀ (s : List Char) (c : Char), ('<' :: s).head? = some c → c = '<' := by
    rintro s c ⟨⟩
    rfl
  induction h generalizing f stack with
  | none content =>
    have hread := content.readFrom_append f stack (t := []) (by simp)
    rwa [List.append_nil, readFrom_nil] at hread
  | remark _ ih =>
    rw [readFrom_run _ _ _ (hmarkup _), readFrom_remark, ih, Frame.add_add]
    rfl
  | @element run tag inner ending rest k w _ ih =>
    have hending : ending.chars ++ w = '<' :: '/' :: (ending.name ++ '>' :: w) := by
      simp [EndTag.chars]
    rw [hending, readFrom_run _ _ _ (hmarkup _), readFrom_opening,
      inner.readFrom_append _ _ (hmarkup _), readFrom_closing, ih]
    simp [Frame.add, Frame.opened, Frame.push, Frame.close, data, elements]
  | @last run tag inner ending k w _ ih =>
    -- the end of the document closes the element, which its tag would have done
    have hempty : runText Run.empty.raw = [] := unescape_nil
    rw [readFrom_run _ _ _ (hmarkup _), readFrom_opening, ih, closeAll]
    simp [Frame.add, Frame.opened, Frame.push, Frame.close, data, elements, hempty]

/-! ## Documents -/

/-- What is written behind the angle bracket of a comment or of a processing instruction. -/
inductive IsRemark : List Char → Prop
  | comment {w : List Char} (hw : ¬ "-->".toList <:+: w) :
      IsRemark ("!--".toList ++ (w ++ "-->".toList))
  | instruction {w : List Char} (hne : w ≠ []) (hw : '>' ∉ w) :
      IsRemark ('?' :: (w ++ "?>".toList))

lemma IsRemark.exists_remark {body : List Char} (h : IsRemark body) :
    ∃ r : Remark, r.body = body := by
  cases h with
  | comment hw => exact ⟨.comment _ hw, rfl⟩
  | instruction hne hw => exact ⟨.instruction _ hne hw, rfl⟩

/-- An element is read as it was written if the tags that close it and the elements in it have
other names, and if as many of the last ones as one likes are left off. -/
lemma Content.LeavesOff.parse_eq {tag : StartTag} {inner : Content} {ending : EndTag} {k : Nat}
    {w : List Char}
    (h : (Content.element .empty tag inner ending (.done .empty)).LeavesOff k w) :
    Xml.parse (String.ofList w) =
      .ok ⟨String.ofList tag.name, String.ofList inner.data, inner.elements⟩ := by
  have hwhole : Xml.parse (String.ofList
      (Content.element .empty tag inner ending (.done .empty)).chars) =
        .ok ⟨String.ofList tag.name, String.ofList inner.data, inner.elements⟩ :=
    Content.parse_chars _ rfl (by simp [chars, Run.empty])
  cases h with
  | none => exact hwhole
  | element h =>
    cases h
    simpa [chars, EndTag.chars] using hwhole
  | last h =>
    rw [Run.empty, List.nil_append, parse_ofList (by simp), readFrom_opening, h.readFrom_eq]
    simp [closeAll, Frame.add, Frame.opened, Frame.close]

/-- The names of the tags that close the elements of a document make no difference, and any number
of the last ones may be left off: the root element is read with the text and the elements that its
contents stand for.  Any comments and processing instructions may stand between the runs of text. -/
theorem parse_leavesOff :
    (∀ body, IsRemark body → ∃ r : Remark, r.body = body) ∧
    ∀ {tag : StartTag} {inner : Content} {ending : EndTag} {s : List Char} {es : List Element}
      {k : Nat} {w : List Char}, inner.Means s es →
      (Content.element .empty tag inner ending (.done .empty)).LeavesOff k w →
      (∃ endings : List EndTag, endings.length = k ∧
        (Content.element .empty tag inner ending (.done .empty)).chars =
          w ++ endings.flatMap EndTag.chars) ∧
      Xml.parse (String.ofList w) = .ok ⟨String.ofList tag.name, String.ofList s, es⟩ := by
  refine ⟨fun body hbody => hbody.exists_remark, fun hmeans hoff => ⟨hoff.exists_chars_eq, ?_⟩⟩
  obtain ⟨rfl, rfl⟩ := hmeans.eq
  exact hoff.parse_eq

/-- The contents of an element in which no two tags agree. -/
def crookedContent : Content :=
  .element ⟨['\n'], by decide⟩ (.ofName ['a'])
    (.remark ⟨" one &lt;".toList, by decide⟩ (.comment " > -- ".toList)
      (.done ⟨"&#65;&#x20;\t".toList, by decide⟩))
    ⟨['b'], by decide⟩
    (.element ⟨" x ".toList, by decide⟩ (.ofName ['c'])
      (.remark ⟨"two ".toList, by decide⟩ (.instruction ['p'])
        (.element ⟨" 2".toList, by decide⟩ (.ofName "d:e".toList)
          (.done ⟨" &amp;gt; ".toList, by decide⟩) ⟨['d'], by decide⟩ (.done .empty)))
      ⟨['a'], by decide⟩ (.done .empty))

/-- An element with these contents whose last three tags are left off. -/
def crookedText : String :=
  "<r>\n<a> one &lt;<!-- > -- -->&#65;&#x20;\t</b> x <c>two <?p?> 2<d:e> &amp;gt; "

/-- The blanks at the ends of a run are dropped before its references are read. -/
theorem parse_leavesOff_crookedText :
    crookedContent.Means ['x'] [⟨"a", "one <A ", []⟩, ⟨"c", "two2", [⟨"d:e", "&gt;", []⟩]⟩] ∧
    (Content.element .empty (.ofName ['r']) crookedContent ⟨['s'], by decide⟩
      (.done .empty)).LeavesOff 3 crookedText.toList ∧
    Xml.parse crookedText =
      .ok ⟨"r", "x", [⟨"a", "one <A ", []⟩, ⟨"c", "two2", [⟨"d:e", "&gt;", []⟩]⟩]⟩ := by
  have hA : RefersTo "#65".toList 'A' := .decimal (by decide) (by decide) rfl
  have hspace : RefersTo "#x20".toList ' ' := .hexadecimal (by decide) (by decide) rfl
  have hplain : ∀ {c : Char}, c ≠ '&' → StandsFor [c] [c] := fun hc => .plain hc .nil
  have hone : StandsFor "one &lt;".toList "one <".toList := standsFor_escape "one <".toList
  have htwo : StandsFor "two".toList "two".toList := standsFor_escape "two".toList
  have hgt : StandsFor "&amp;gt;".toList "&gt;".toList := standsFor_escape "&gt;".toList
  have hmeans : crookedContent.Means _ _ :=
    .element .nil (.remark hone (.done (.reference hA (.reference hspace .nil))))
      (.element (hplain (by decide))
        (.remark htwo (.element (hplain (by decide)) (.done hgt) (.done .nil)))
        (.done .nil))
  -- the elements `d:e`, `c` and `r` have no closing tag
  have hoff : (Content.element .empty (.ofName ['r']) crookedContent ⟨['s'], by decide⟩
      (.done .empty)).LeavesOff 3 crookedText.toList :=
    .last (.element (.last (.remark (.last (.none _)))))
  exact ⟨hmeans, hoff, (parse_leavesOff.2 hmeans hoff).2⟩

/-- A processing instruction ends at the first angle bracket, and a number with too many digits is
left as it is written. -/
theorem not_parse_instruction_bracket :
    (¬ "?>".toList <:+: "p 1>2".toList ∧ Xml.parse "<a>x<?p 1>2?>y</a>" = .error .malformed) ∧
      digits? 10 "00000065".toList = some 'A'.toNat ∧
      Xml.parse "<a>&#00000065;</a>" = .ok ⟨"a", "&#00000065;", []⟩ := by
  have hbracket : events "<a>x<?p 1>2?>y</a>" =
      ([.opening ⟨['a'], []⟩, .text ['x']], false) := by decide +kernel
  have hdigits : events "<a>&#00000065;</a>" =
      ([.opening ⟨['a'], []⟩, .text "&#00000065;".toList, .closing ['a']], true) := by
    decide +kernel
  refine ⟨⟨by decide, ?_⟩, rfl, ?_⟩
  · rw [Xml.parse, hbracket]
    rfl
  · have hrun : runText "&#00000065;".toList = "&#00000065;".toList := by decide +kernel
    rw [Xml.parse, hdigits]
    simp only [assemble, hrun]
    rfl

end UpnpGateway.Xml
