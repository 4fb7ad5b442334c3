/-
# Scanning goes from left to right

Markup is cut at its own end, so what stands behind a piece of markup has no say in it; only
a run of text looks ahead, to the markup that ends it.  This file sets up the cuts as facts
about a beginning and whatever follows it.
-/
import Mathlib.Data.List.Chain
import Mathlib.Data.List.TakeWhile
import Mathlib.Tactic.Lemma
import UpnpGateway.Xml.Event

namespace UpnpGateway.Xml

open UpnpGateway.Text

/-! ## The ends of markup -/

/-- A cut loses exactly the `>`, and does not depend on what is behind it. -/
lemma exists_of_cutMarkup {σ : Type} {step : σ → Char → σ} {closes : σ → Bool} {q : σ}
    {passed s a b : List Char} (h : cutMarkup step closes q passed s = some (a, b)) :
    ∃ u, a = passed.reverse ++ u ∧ s = u ++ '>' :: b ∧
      ∀ t, cutMarkup step closes q passed (u ++ '>' :: t) = some (a, t) := by
  induction s generalizing q passed with
  | nil => simp [cutMarkup] at h
  | cons c s ih =>
    rw [cutMarkup] at h
    split at h
    · rename_i hc
      have hgt : c = '>' := by simpa using (Bool.and_eq_true_iff.1 hc).1
      subst hgt
      simp only [Option.some.injEq, Prod.mk.injEq] at h
      obtain ⟨rfl, rfl⟩ := h
      refine ⟨[], by simp, by simp, fun t => ?_⟩
      rw [List.nil_append, cutMarkup, if_pos hc]
    · rename_i hc
      obtain ⟨u, rfl, rfl, hu⟩ := ih h
      refine ⟨c :: u, by simp, by simp, fun t => ?_⟩
      rw [List.cons_append, cutMarkup, if_neg hc, hu]

lemma exists_of_cutTag {s a b : List Char} (h : cutTag s = some (a, b)) :
    s = a ++ '>' :: b ∧ ∀ t, cutTag (a ++ '>' :: t) = some (a, t) := by
  obtain ⟨u, rfl, rfl, hu⟩ := exists_of_cutMarkup h
  exact ⟨rfl, hu⟩

lemma exists_of_cutBehind {closes : List Char → Bool} {s a b : List Char}
    (h : cutBehind closes s = some (a, b)) :
    s = a ++ '>' :: b ∧ ∀ t, cutBehind closes (a ++ '>' :: t) = some (a, t) := by
  obtain ⟨u, rfl, rfl, hu⟩ := exists_of_cutMarkup h
  exact ⟨rfl, hu⟩

lemma exists_of_cutBalanced {s a b : List Char} (h : cutBalanced s = some (a, b)) :
    s = a ++ '>' :: b ∧ ∀ t, cutBalanced (a ++ '>' :: t) = some (a, t) := by
  obtain ⟨u, rfl, rfl, hu⟩ := exists_of_cutMarkup h
  exact ⟨rfl, hu⟩

lemma cutAngle_append {n : List Char} (hn : '>' ∉ n) (t : List Char) :
    cutAngle (n ++ '>' :: t) = (n, t) := by
  have hp : ∀ c ∈ n, (c != '>') = true := by
    intro c hc
    rw [bne_iff_ne]
    rintro rfl
    exact hn hc
  simp [cutAngle, List.takeWhile_append_of_pos hp, List.dropWhile_append_of_pos hp]

/-- The cut at the first `>`, which may be missing if nothing follows. -/
lemma exists_of_cutAngle (r : List Char) :
    ∃ w, r = w ++ (cutAngle r).2 ∧
      ∀ t, ((cutAngle r).2 = [] → '>' ∉ w → t = []) → cutAngle (w ++ t) = ((cutAngle r).1, t) := by
  by_cases h : '>' ∈ r
  · obtain ⟨n, s, rfl, hn⟩ := List.eq_append_cons_of_mem h
    refine ⟨n ++ ['>'], by simp [cutAngle_append hn], fun t _ => ?_⟩
    simp [cutAngle_append hn]
  · have hp : ∀ c ∈ r, (c != '>') = true := by
      intro c hc
      rw [bne_iff_ne]
      rintro rfl
      exact h hc
    have hcut : cutAngle r = (r, []) := by
      simp [cutAngle, List.takeWhile_eq_self_iff.2 hp, List.dropWhile_eq_nil_iff.2 hp]
    refine ⟨r, by simp [hcut], fun t ht => ?_⟩
    rw [hcut] at ht
    simp [ht rfl h, hcut]

/-! ## What comes next -/

/-- The tag that opens an element, if the event is one. -/
def Event.tag? : Event → Option Tag
  | .opening tag => some tag
  | .empty tag => some tag
  | _ => none

/-- Whether an event is a run of text. -/
def Event.isText : Event → Bool
  | .text _ => true
  | _ => false

/-- Whether the markup with the given text is a tag that opens an element. -/
def OpensElement (body : List Char) : Prop :=
  ∀ c, body.head? = some c → c ≠ '!' ∧ c ≠ '/' ∧ c ≠ '?'

/-- A tag that opens an element is read as such, whatever follows it. -/
lemma next_of_cutTag {body t : List Char} (ho : OpensElement body)
    (h : cutTag (body ++ '>' :: t) = some (body, t)) :
    next ('<' :: (body ++ '>' :: t)) = .event (.ofTag body) t := by
  rw [next]
  cases body with
  | nil =>
    simp only [List.nil_append] at h ⊢
    simp [nextMarkup, h]
  | cons c body =>
    obtain ⟨h1, h2, h3⟩ := ho c rfl
    rw [List.cons_append] at h ⊢
    rw [nextMarkup, h]
    all_goals simp_all

/-- An end tag is read as such, whatever follows it. -/
lemma next_closing {body : List Char} (h : '>' ∉ body) (t : List Char) :
    next ('<' :: '/' :: (body ++ '>' :: t)) = .event (.closing (closingName body)) t := by
  simp [next, nextMarkup, cutAngle_append h]

/-- A run of text is read up to the next markup. -/
lemma next_text {raw t : List Char} (hne : raw ≠ []) (hraw : '<' ∉ raw)
    (ht : ∀ c, t.head? = some c → c = '<') : next (raw ++ t) = .event (.text raw) t := by
  have hp : ∀ c ∈ raw, (c != '<') = true := by
    intro c hc
    rw [bne_iff_ne]
    rintro rfl
    exact hraw hc
  have htake : t.takeWhile (· != '<') = [] ∧ t.dropWhile (· != '<') = t := by
    cases t with
    | nil => simp
    | cons c t => simp [ht c rfl]
  cases raw with
  | nil => exact absurd rfl hne
  | cons c raw =>
    have hc : c ≠ '<' := by simpa using hp c List.mem_cons_self
    rw [List.cons_append, next]
    · rw [← List.cons_append, List.takeWhile_append_of_pos hp, List.dropWhile_append_of_pos hp,
        htake.1, htake.2, List.append_nil]
    · simp
    · rintro r hr
      exact hc (List.cons.inj hr).1

/-- A piece of markup that is cut off by `cut`, has to satisfy `good` and stands for the event
`make`: the three kinds of declarations are of this form. -/
def nextCut (cut : List Char → Option (List Char × List Char)) (good : List Char → Bool)
    (make : List Char → Event) (s : List Char) : Next :=
  match cut s with
  | some (body, rest) => if good body then .event (make body) rest else .malformed
  | none => .malformed

lemma exists_of_nextCut {cut : List Char → Option (List Char × List Char)}
    {good : List Char → Bool} {make : List Char → Event} {x c : Char} {r rest : List Char}
    {e : Event}
    (hcut : ∀ {s a b}, cut s = some (a, b) →
      s = a ++ '>' :: b ∧ ∀ t, cut (a ++ '>' :: t) = some (a, t))
    (hgood : ∀ body, good body = true → 2 ≤ body.length)
    (h : nextCut cut good make (x :: c :: r) = .event e rest) :
    (∃ body, e = make body) ∧ ∃ u, r = u ++ '>' :: rest ∧
      ∀ t, nextCut cut good make (x :: c :: (u ++ '>' :: t)) = .event e t := by
  rw [nextCut] at h
  split at h
  · rename_i body r' hbody
    split at h
    · rename_i hg
      simp only [Next.event.injEq] at h
      obtain ⟨rfl, rfl⟩ := h
      obtain ⟨hr, hcut'⟩ := hcut hbody
      match body, hgood body hg with
      | y :: d :: u, _ =>
        simp only [List.cons_append, List.cons.injEq] at hr
        obtain ⟨rfl, rfl, rfl⟩ := hr
        refine ⟨⟨_, rfl⟩, u, rfl, fun t => ?_⟩
        rw [nextCut, ← List.cons_append, ← List.cons_append, hcut' t]
        exact if_pos hg
    · simp at h
  · simp at h

lemma two_le_length_of_sameLetters {u w : List Char} (h : sameLetters (u.take 8) w = true)
    (hw : w.length = 8) : 2 ≤ u.length := by
  have hlen := congrArg List.length (sameLetters_iff.1 h)
  simp only [lower, List.length_map, List.length_take, hw] at hlen
  omega

/-! ### The three kinds of declarations -/

lemma nextDeclaration_remark (r : List Char) :
    nextDeclaration ('!' :: '-' :: r) =
      nextCut (cutBehind fun seen => 4 < seen.length && "--".toList.isPrefixOf seen)
        ("!--".toList.isPrefixOf ·) (fun _ => .remark) ('!' :: '-' :: r) := rfl

lemma nextDeclaration_cdata (r : List Char) :
    nextDeclaration ('!' :: '[' :: r) =
      nextCut (cutBehind "]]".toList.isPrefixOf)
        (fun body => sameLetters (body.take 8) "![CDATA[".toList)
        (fun body => .cdata ((body.drop 8).dropLast.dropLast)) ('!' :: '[' :: r) := rfl

lemma nextDeclaration_doctype {c : Char} (hc : c = 'D' ∨ c = 'd') (r : List Char) :
    nextDeclaration ('!' :: c :: r) =
      nextCut cutBalanced
        (fun body => sameLetters (body.take 8) "!DOCTYPE".toList &&
          (body.drop 8).any (!isMarkupBlank ·))
        (fun _ => .doctype) ('!' :: c :: r) := by
  rcases hc with rfl | rfl <;> rfl

lemma nextDeclaration_other {c : Char} (h1 : c ≠ '-') (h2 : c ≠ '[') (h3 : ¬ (c = 'D' ∨ c = 'd'))
    (r : List Char) : nextDeclaration ('!' :: c :: r) = .malformed := by
  unfold nextDeclaration
  simp_all

/-- A declaration is neither a tag nor text, and ends with its own `>`. -/
lemma exists_of_nextDeclaration {r rest : List Char} {e : Event}
    (h : nextDeclaration ('!' :: r) = .event e rest) :
    (e.tag? = none ∧ e.isText = false) ∧ ∃ u, r = u ++ '>' :: rest ∧
      ∀ t, nextDeclaration ('!' :: (u ++ '>' :: t)) = .event e t := by
  cases r with
  | nil => simp [nextDeclaration] at h
  | cons c r =>
    by_cases h1 : c = '-'
    · subst h1
      rw [nextDeclaration_remark] at h
      have hgood : ∀ body, "!--".toList.isPrefixOf body = true → 2 ≤ body.length := by
        intro body hbody
        exact Nat.le_of_succ_le (List.isPrefixOf_iff_prefix.1 hbody).length_le
      obtain ⟨⟨body, rfl⟩, u, rfl, hu⟩ := exists_of_nextCut exists_of_cutBehind hgood h
      exact ⟨⟨rfl, rfl⟩, '-' :: u, rfl, fun t => hu t⟩
    · by_cases h2 : c = '['
      · subst h2
        rw [nextDeclaration_cdata] at h
        obtain ⟨⟨body, rfl⟩, u, rfl, hu⟩ := exists_of_nextCut exists_of_cutBehind
          (fun body hbody => two_le_length_of_sameLetters hbody rfl) h
        exact ⟨⟨rfl, rfl⟩, '[' :: u, rfl, fun t => hu t⟩
      · by_cases h3 : c = 'D' ∨ c = 'd'
        · rw [nextDeclaration_doctype h3] at h
          obtain ⟨⟨body, rfl⟩, u, rfl, hu⟩ := exists_of_nextCut exists_of_cutBalanced
            (fun body hbody =>
              two_le_length_of_sameLetters (Bool.and_eq_true_iff.1 hbody).1 rfl) h
          exact ⟨⟨rfl, rfl⟩, c :: u, rfl, fun t => (nextDeclaration_doctype h3 _).trans (hu t)⟩
        · simp [nextDeclaration_other h1 h2 h3] at h

/-- What has to be kept of the text behind a piece of a document, so that the piece is read
the same: whether there is any, and whether it begins with markup. -/
structure Follows (s t : List Char) : Prop where
  eq_nil : s = [] → t = []
  head_lt : s.head? = some '<' → t.head? = some '<'

/-- Markup of the remaining kinds is a tag that opens an element. -/
lemma exists_of_nextMarkup {s rest : List Char} {e : Event} (ho : OpensElement s)
    (h : nextMarkup s = .event e rest) :
    ∃ body, e = .ofTag body ∧ OpensElement body ∧ s = body ++ '>' :: rest ∧
      ∀ t, cutTag (body ++ '>' :: t) = some (body, t) := by
  unfold nextMarkup at h
  split at h
  · simp at h
  · exact absurd rfl (ho _ rfl).1
  · exact absurd rfl (ho _ rfl).2.1
  · exact absurd rfl (ho _ rfl).2.2
  · split at h
    · rename_i body r hcut
      simp only [Next.event.injEq] at h
      obtain ⟨rfl, rfl⟩ := h
      obtain ⟨rfl, hcut'⟩ := exists_of_cutTag hcut
      refine ⟨body, rfl, fun c hc => ho c ?_, rfl, hcut'⟩
      cases body with
      | nil => simp at hc
      | cons d body => exact hc
    · simp at h

/-- The pieces that a document begins with. -/
inductive NextCase (s rest : List Char) (e : Event) : Prop where
  /-- A tag that opens an element. -/
  | tag (body : List Char) (hs : s = '<' :: (body ++ '>' :: rest)) (he : e = .ofTag body)
      (ho : OpensElement body) (hcut : ∀ t, cutTag (body ++ '>' :: t) = some (body, t))
  /-- Other markup, which need not have an end if nothing follows. -/
  | other (w : List Char) (hs : s = '<' :: (w ++ rest)) (he : e.tag? = none ∧ e.isText = false)
      (hnext : ∀ t, (rest = [] → '>' ∉ w → t = []) → next ('<' :: (w ++ t)) = .event e t)
  /-- A run of text. -/
  | text (raw : List Char) (hs : s = raw ++ rest) (he : e = .text raw) (hne : raw ≠ [])
      (hraw : '<' ∉ raw) (hrest : ∀ c, rest.head? = some c → c = '<')

lemma nextCase {s rest : List Char} {e : Event} (h : next s = .event e rest) :
    NextCase s rest e := by
  unfold next at h
  split at h
  · simp at h
  · rename_i r
    -- only a tag that opens an element has to be told from the other kinds of markup
    by_cases ho : OpensElement r
    · obtain ⟨body, he, hbody, hr, hcut⟩ := exists_of_nextMarkup ho h
      exact .tag body (by rw [hr]) he hbody hcut
    · unfold nextMarkup at h
      split at h
      · simp at h
      · obtain ⟨he, u, rfl, hu⟩ := exists_of_nextDeclaration h
        refine .other ('!' :: (u ++ ['>'])) (by simp) he fun t _ => ?_
        simpa [next, nextMarkup] using hu t
      · rename_i r
        simp only [Next.event.injEq] at h
        obtain ⟨rfl, rfl⟩ := h
        obtain ⟨w, hw, hcut⟩ := exists_of_cutAngle r
        refine .other ('/' :: w) (by simpa using hw) ⟨rfl, rfl⟩ fun t ht => ?_
        have hcut' := hcut t fun hrest hw => ht hrest (by simpa using hw)
        simp [next, nextMarkup, hcut']
      · rename_i r
        split at h
        · rename_i hq
          simp only [Next.event.injEq] at h
          obtain ⟨rfl, rfl⟩ := h
          obtain ⟨w, hw, hcut⟩ := exists_of_cutAngle r
          refine .other ('?' :: w) (by simpa using hw) ⟨rfl, rfl⟩ fun t ht => ?_
          have hcut' := hcut t fun hrest hw => ht hrest (by simpa using hw)
          simp only [List.cons_append, next, nextMarkup, hcut']
          exact if_pos hq
        · simp at h
      · rename_i h1 h2 h3
        refine absurd (fun c hc => ?_) ho
        cases r with
        | nil => simp at hc
        | cons d r =>
          simp only [List.head?_cons, Option.some.injEq] at hc
          subst hc
          exact ⟨by rintro rfl; exact h1 _ rfl, by rintro rfl; exact h2 _ rfl,
            by rintro rfl; exact h3 _ rfl⟩
  · rename_i hne hlt
    simp only [Next.event.injEq] at h
    obtain ⟨rfl, rfl⟩ := h
    refine .text _ (List.takeWhile_append_dropWhile).symm rfl ?_ ?_ ?_
    · cases s with
      | nil => exact absurd rfl hne
      | cons c s =>
        have hc : (c != '<') = true := bne_iff_ne.2 fun hc => hlt s (by rw [hc])
        simp [hc]
    · intro hmem
      simpa using List.mem_takeWhile_imp hmem
    · intro c hc
      have hhead := List.head?_dropWhile_not (· != '<') s
      rw [hc] at hhead
      simpa using hhead

lemma isText_ofTag (body : List Char) : (Event.ofTag body).isText = false := by
  rw [Event.ofTag]
  split <;> rfl

/-- Text is what does not begin like markup. -/
lemma isText_of_next {s rest : List Char} {e : Event} (h : next ('<' :: s) = .event e rest) :
    e.isText = false := by
  rcases nextCase h with ⟨body, -, rfl, -, -⟩ | ⟨u, -, he, -⟩ | ⟨raw, hs, -, hne, hraw, -⟩
  · exact isText_ofTag body
  · exact he.2
  · cases raw with
    | nil => exact absurd rfl hne
    | cons c raw =>
      rw [← (List.cons.inj hs).1] at hraw
      exact absurd List.mem_cons_self hraw

/-- What comes next does not depend on what is behind it. -/
lemma next_append {w rest : List Char} {e : Event} (h : next (w ++ rest) = .event e rest)
    {t : List Char} (ht : Follows rest t) : next (w ++ t) = .event e t := by
  rcases nextCase h with ⟨body, hs, rfl, ho, hcut⟩ | ⟨u, hs, -, hnext⟩ |
    ⟨raw, hs, rfl, hne, hraw, hrest⟩
  · obtain rfl : w = '<' :: (body ++ ['>']) := List.append_cancel_right (by simpa using hs)
    simpa using next_of_cutTag ho (hcut t)
  · obtain rfl : w = '<' :: u := List.append_cancel_right (by simpa using hs)
    exact hnext t fun hrest _ => ht.eq_nil hrest
  · obtain rfl : w = raw := List.append_cancel_right hs
    refine next_text hne hraw fun c hc => ?_
    cases rest with
    | nil => simp [ht.eq_nil rfl] at hc
    | cons d rest =>
      have hd := hrest d rfl
      subst hd
      simpa [hc] using ht.head_lt rfl

/-! ## Names -/

/-- A character that has no meaning of its own in a tag. -/
def isNameChar (c : Char) : Bool :=
  !isMarkupBlank c && !(['<', '>', '/', '!', '?', '"', '\''].contains c)

/-- A text that can stand as a name in a tag. -/
structure IsName (n : List Char) : Prop where
  ne_nil : n ≠ []
  all : n.all isNameChar = true

instance (n : List Char) : Decidable (IsName n) :=
  decidable_of_iff (n ≠ [] ∧ n.all isNameChar = true)
    ⟨fun h => ⟨h.1, h.2⟩, fun h => ⟨h.ne_nil, h.all⟩⟩

namespace IsName

variable {n : List Char} (h : IsName n)
include h

lemma not_isMarkupBlank {c : Char} (hc : c ∈ n) : isMarkupBlank c = false := by
  have hname := List.all_eq_true.1 h.all c hc
  rw [isNameChar, Bool.and_eq_true, Bool.not_eq_true'] at hname
  exact hname.1

lemma notMem {c : Char} (hc : ['<', '>', '/', '!', '?', '"', '\''].contains c = true) :
    c ∉ n := by
  intro hmem
  have hname := List.all_eq_true.1 h.all c hmem
  rw [isNameChar, Bool.and_eq_true, hc] at hname
  simp at hname

lemma append {m : List Char} (hm : IsName m) : IsName (n ++ m) where
  ne_nil := by simp [h.ne_nil]
  all := by rw [List.all_append, h.all, hm.all, Bool.and_self]

lemma opensElement (a : List Char) : OpensElement (n ++ a) := by
  cases n with
  | nil => exact absurd rfl h.ne_nil
  | cons c n =>
    rintro d ⟨⟩
    have hc : ∀ d, ['<', '>', '/', '!', '?', '"', '\''].contains d = true → c ≠ d :=
      fun d hd hcd => h.notMem hd (hcd ▸ List.mem_cons_self)
    exact ⟨hc '!' rfl, hc '/' rfl, hc '?' rfl⟩

end IsName

/-- Characters that end nothing and leave the state as it is are passed over. -/
lemma cutMarkup_append {σ : Type} {step : σ → Char → σ} {closes : σ → Bool} {q : σ}
    {w : List Char} (hw : ∀ c ∈ w, (c == '>' && closes q) = false ∧ step q c = q)
    (passed t : List Char) :
    cutMarkup step closes q passed (w ++ t) = cutMarkup step closes q (w.reverse ++ passed) t := by
  induction w generalizing passed with
  | nil => rfl
  | cons c w ih =>
    obtain ⟨⟨hc, hstep⟩, hw⟩ := List.forall_mem_cons.1 hw
    rw [List.cons_append, cutMarkup, hstep, ih hw, if_neg (by simp [hc])]
    simp

/-- Reading a tag character by character: the state is the quote that is open. -/
def quoteStep (quote : Option Char) (c : Char) : Option Char :=
  match quote with
  | some q => if c == q then none else quote
  | none => if c == '"' || c == '\'' then some c else none

lemma cutTag_eq (s : List Char) : cutTag s = cutMarkup quoteStep Option.isNone none [] s := rfl

lemma IsName.cutMarkup_append {n : List Char} (h : IsName n) (passed t : List Char) :
    cutMarkup quoteStep Option.isNone none passed (n ++ t) =
      cutMarkup quoteStep Option.isNone none (n.reverse ++ passed) t := by
  refine Xml.cutMarkup_append (fun c hc => ?_) passed t
  have hne : ∀ d, ['<', '>', '/', '!', '?', '"', '\''].contains d = true → c ≠ d :=
    fun d hd hcd => h.notMem hd (hcd ▸ hc)
  simp [quoteStep, hne '>' rfl, hne '"' rfl, hne '\'' rfl]

lemma IsName.next {n : List Char} (h : IsName n) (t : List Char) :
    next ('<' :: (n ++ '>' :: t)) = .event (.ofTag n) t := by
  refine next_of_cutTag (by simpa using h.opensElement []) ?_
  rw [cutTag_eq, h.cutMarkup_append]
  simp [cutMarkup]

/-! ## Scanning -/

lemma scan_of_event {s rest : List Char} {e : Event} (h : next s = .event e rest) :
    scan s = (e :: (scan rest).1, (scan rest).2) := by
  rw [scan]
  split <;> simp_all

lemma scan_of_finished {s : List Char} (h : next s = .finished) : scan s = ([], true) := by
  rw [scan]
  split <;> simp_all

lemma scan_of_malformed {s : List Char} (h : next s = .malformed) : scan s = ([], false) := by
  rw [scan]
  split <;> simp_all

/-- A run of text goes on up to the next markup, so no two runs are neighbours. -/
lemma isChain_scan (s : List Char) :
    (scan s).1.IsChain fun a b => a.isText = true → b.isText = false := by
  -- the invariant of a step is that a run of text leaves nothing, or markup
  induction hm : s.length using Nat.strongRecOn generalizing s with
  | _ m ih =>
    cases h : next s with
    | finished => simp [scan_of_finished h]
    | malformed => simp [scan_of_malformed h]
    | event e rest =>
      have hlt := hm ▸ length_of_next h
      rw [scan_of_event h]
      refine List.isChain_cons.2 ⟨fun b hb ha => ?_, ih _ hlt rest rfl⟩
      rcases nextCase h with ⟨body, -, rfl, -, -⟩ | ⟨u, -, he, -⟩ | ⟨raw, -, -, -, -, hrest⟩
      · simp [isText_ofTag] at ha
      · simp [he.2] at ha
      · cases h' : next rest with
        | finished => simp [scan_of_finished h'] at hb
        | malformed => simp [scan_of_malformed h'] at hb
        | event e' rest' =>
          simp only [scan_of_event h', List.head?_cons, Option.mem_def, Option.some.injEq] at hb
          subst hb
          cases rest with
          | nil => simp [next] at h'
          | cons c rest =>
            have hc := hrest c rfl
            subst hc
            exact isText_of_next h'

/-- A document without the byte order mark that may stand before it. -/
def unmarked : List Char → List Char
  | '\uFEFF' :: s => s
  | s => s

lemma unmarked_eq_self {s : List Char} (hs : s.head? ≠ some '\uFEFF') : unmarked s = s := by
  rw [unmarked]
  rintro r rfl
  exact hs rfl

lemma events_eq (document : String) : events document = scan (unmarked document.toList) := by
  unfold events unmarked
  split <;> simp_all

end UpnpGateway.Xml
