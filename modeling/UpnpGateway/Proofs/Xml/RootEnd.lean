/-
# Nothing behind the root element is read

A document may go on behind the tag that closes its root element.  The tag is markup with an end
of its own, so a document that ends with it is cut into the same events when something follows,
and then into more.  Both readers stop at this tag: the tolerant one because no element is open any
more, and the strict one because of the same, unless it has failed before.
-/
import UpnpGateway.Proofs.Xml.Scanning
import UpnpGateway.Xml.Document
import UpnpGateway.Xml.WellFormed

namespace UpnpGateway.Xml

/-! ## The tag that closes the root element -/

namespace Event

/-- Whether an event that is met where `n` elements are open closes the root element. -/
def endsRoot (n : ℕ) : Event → Bool
  | .empty _ => n == 0
  | .closing _ => n == 1
  | _ => false

/-- How many elements are open behind an event that is met where `n` elements are open; an end
tag without an element to close is passed over. -/
def depth (n : ℕ) : Event → ℕ
  | .opening _ => n + 1
  | .closing _ => n - 1
  | _ => n

end Event

/-- The last one of some events, before which `n` elements are open, closes the root element. -/
def EndsWithRoot : ℕ → List Event → Prop
  | _, [] => False
  | n, e :: es => if e.endsRoot n then es = [] else EndsWithRoot (e.depth n) es

instance instDecidableEndsWithRoot : ∀ n es, Decidable (EndsWithRoot n es)
  | _, [] => .isFalse id
  | n, e :: es =>
    have := instDecidableEndsWithRoot (e.depth n) es
    inferInstanceAs (Decidable (if e.endsRoot n then es = [] else EndsWithRoot (e.depth n) es))

/-- A document that goes up to the tag that closes its root element, or further. -/
def ClosesRoot (document : String) : Prop :=
  ∃ d w : String, document = d ++ w ∧ d.toList.getLast? = some '>' ∧ EndsWithRoot 0 (events d).1

lemma isText_of_endsRoot {n : ℕ} {e : Event} (h : e.endsRoot n = true) : e.isText = false := by
  cases e with
  | text raw => simp [Event.endsRoot] at h
  | _ => rfl

lemma isText_getLast?_of_endsWithRoot {n : ℕ} {es : List Event} (h : EndsWithRoot n es) :
    ∀ e, es.getLast? = some e → e.isText = false := by
  induction es generalizing n with
  | nil => exact h.elim
  | cons e es ih =>
    rw [EndsWithRoot] at h
    split at h
    · rename_i hroot
      subst h
      rintro e' ⟨⟩
      exact isText_of_endsRoot hroot
    · cases es with
      | nil => exact h.elim
      | cons e' es => simpa only [List.getLast?_cons_cons] using ih h

/-! ## Cutting -/

/-- In a text that ends with `>`, what is read first is read the same whatever is put behind the
text; only a run of text goes on. -/
lemma next_append_of_getLast? {s rest : List Char} {e : Event} (h : next s = .event e rest)
    (hend : s.getLast? = some '>') (he : rest = [] → e.isText = false) (t : List Char) :
    next (s ++ t) = .event e (rest ++ t) := by
  rcases nextCase h with ⟨body, rfl, rfl, ho, hcut⟩ | ⟨w, rfl, -, hnext⟩ |
    ⟨raw, hs, rfl, hne, hraw, hrest⟩
  · simpa using next_of_cutTag ho (hcut (rest ++ t))
  · -- markup without an end of its own does not end with `>`
    have hown : rest = [] → '>' ∈ w := by
      rintro rfl
      simpa using List.mem_of_getLast? hend
    simpa using hnext (rest ++ t) fun hrest hw => absurd (hown hrest) hw
  · have hrest : rest ≠ [] := fun hnil => by simpa [Event.isText] using he hnil
    rw [hs, List.append_assoc]
    refine next_append (hs ▸ h) ⟨fun hnil => absurd hnil hrest, fun hlt => ?_⟩
    rw [List.head?_append, hlt, Option.some_or]

lemma suffix_of_next {s rest : List Char} {e : Event} (h : next s = .event e rest) :
    ∃ w, s = w ++ rest := by
  rcases nextCase h with ⟨body, hs, -, -, -⟩ | ⟨w, hs, -, -⟩ | ⟨raw, hs, -, -, -, -⟩
  · exact ⟨'<' :: (body ++ ['>']), by simp [hs]⟩
  · exact ⟨'<' :: w, by simp [hs]⟩
  · exact ⟨raw, hs⟩

/-- There is nothing more to be read at the end of a text and at a single angle bracket there. -/
lemma eq_of_next_finished {s : List Char} (h : next s = .finished) : s = [] ∨ s = ['<'] := by
  unfold next at h
  split at h
  · exact .inl rfl
  · right
    unfold nextMarkup at h
    split at h
    · rfl
    · unfold nextDeclaration at h
      repeat' split at h
      all_goals simp at h
    · simp at h
    · split at h <;> simp at h
    · split at h <;> simp at h
  · simp at h

/-- A text that ends with markup is cut into the same events whatever follows, and then into more.
If it could be cut up to its end, the further events are those of what follows. -/
lemma exists_scan_append {s : List Char} (hend : s.getLast? = some '>')
    (hlast : ∀ e, (scan s).1.getLast? = some e → e.isText = false) (t : List Char) :
    ∃ more : List Event × Bool, scan (s ++ t) = ((scan s).1 ++ more.1, more.2) ∧
      ((scan s).2 = true → more = scan t) := by
  induction hm : s.length using Nat.strongRecOn generalizing s with
  | _ m ih =>
    cases h : next s with
    | finished => rcases eq_of_next_finished h with rfl | rfl <;> simp at hend
    | malformed => exact ⟨_, by rw [scan_of_malformed h]; rfl, by simp [scan_of_malformed h]⟩
    | event e rest =>
      have hlt := hm ▸ length_of_next h
      have hscan := scan_of_event h
      rw [hscan] at hlast
      have he : rest = [] → e.isText = false := by
        rintro rfl
        exact hlast e (by rw [scan_of_finished (s := []) rfl]; rfl)
      have hnext := scan_of_event (next_append_of_getLast? h hend he t)
      by_cases hrest : rest = []
      · subst hrest
        rw [hnext, hscan, scan_of_finished (s := []) rfl]
        exact ⟨scan t, rfl, fun _ => rfl⟩
      · obtain ⟨w, rfl⟩ := suffix_of_next h
        rw [List.getLast?_append_of_ne_nil _ hrest] at hend
        obtain ⟨more, hmore, hall⟩ := ih _ hlt hend (fun e' he' => hlast e' (by
          rw [List.getLast?_cons, he', Option.getD_some])) rfl
        exact ⟨more, by rw [hnext, hscan, hmore, List.cons_append], by rwa [hscan]⟩

/-- A document that ends with the tag that closes its root element is cut into the same events when
something follows, and then into more. -/
lemma exists_events_append {d : String} (hend : d.toList.getLast? = some '>')
    (hroot : EndsWithRoot 0 (events d).1) (t : String) :
    ∃ es, (events (d ++ t)).1 = (events d).1 ++ es := by
  have hlast := isText_getLast?_of_endsWithRoot hroot
  rw [events_eq] at hlast
  rw [events_eq, events_eq, String.toList_append]
  have hcut : ∀ {s : List Char}, s.getLast? = some '>' →
      (∀ e, (scan s).1.getLast? = some e → e.isText = false) →
      ∃ es, (scan (s ++ t.toList)).1 = (scan s).1 ++ es := by
    intro s hend hlast
    obtain ⟨more, hmore, -⟩ := exists_scan_append hend hlast t.toList
    exact ⟨more.1, by rw [hmore]⟩
  generalize d.toList = s at hend hlast
  by_cases hmark : s.head? = some '\uFEFF'
  · obtain ⟨s, rfl⟩ := List.head?_eq_some_iff.1 hmark
    cases s with
    | nil => simp at hend
    | cons c s =>
      rw [List.getLast?_cons_cons] at hend
      exact hcut hend hlast
  · have hmark' : (s ++ t.toList).head? ≠ some '\uFEFF' := by
      cases s with
      | nil => simp at hend
      | cons c s => exact hmark
    rw [unmarked_eq_self hmark, unmarked_eq_self hmark']
    rw [unmarked_eq_self hmark] at hlast
    exact hcut hend hlast

/-! ## The tolerant reader -/

/-- The tolerant reader does not look behind the tag that closes the root element. -/
lemma assemble_append_of_endsWithRoot {frames : List Frame} {es : List Event}
    (h : EndsWithRoot frames.length es) (complete complete' : Bool) (es' : List Event) :
    assemble complete' frames (es ++ es') = assemble complete frames es := by
  induction es generalizing frames with
  | nil => exact h.elim
  | cons e es ih =>
    rw [EndsWithRoot] at h
    rw [List.cons_append]
    cases e with
    | opening tag =>
      rw [assemble, assemble]
      exact ih h
    | empty tag =>
      cases frames with
      | nil => rw [assemble, assemble]
      | cons fr frames =>
        rw [assemble, assemble]
        exact ih h
    | closing name =>
      match frames with
      | [] =>
        rw [assemble, assemble]
        exact ih h
      | [fr] => rw [assemble, assemble]
      | fr :: g :: frames =>
        rw [assemble, assemble]
        exact ih h
    | text raw | cdata data =>
      cases frames with
      | nil =>
        rw [assemble, assemble]
        exact ih h
      | cons fr frames =>
        rw [assemble, assemble]
        exact ih h
    | doctype | remark =>
      rw [assemble, assemble]
      exact ih h

/-- The name of the root element is that of the first tag. -/
lemma rootNameOf_append_of_endsWithRoot {es : List Event} (h : EndsWithRoot 0 es)
    (complete complete' : Bool) (es' : List Event) :
    rootNameOf complete' (es ++ es') = rootNameOf complete es := by
  induction es with
  | nil => exact h.elim
  | cons e es ih =>
    rw [EndsWithRoot] at h
    rw [List.cons_append]
    cases e with
    | opening tag | empty tag | closing name => rfl
    | text raw | cdata data | doctype | remark => exact ih h

/-! ## The strict reader -/

/-- Reading some pieces, before which `n` elements are open, comes to an end: the root element is
closed by a piece, or an end tag has no element to close. -/
def Piece.ReachEnd : ℕ → List Piece → Prop
  | _, [] => False
  | n, .opening _ :: ps => ReachEnd (n + 1) ps
  | n, .closing _ :: ps => n ≤ 1 ∨ ReachEnd (n - 1) ps
  | n, .run _ :: ps => ReachEnd n ps
  | n, .doctype :: ps => ReachEnd n ps

namespace Piece

lemma ReachEnd.join {n : ℕ} {ps : List Piece} (h : ReachEnd n ps) (b : Bit) :
    ReachEnd n (Piece.join b ps) := by
  match ps, h with
  | .opening _ :: _, h => exact h
  | .closing _ :: _, h => exact h
  | .run _ :: _, h => exact h
  | .doctype :: _, h => exact h

lemma join_append {n : ℕ} {ps : List Piece} (h : ReachEnd n ps) (b : Bit) (qs : List Piece) :
    Piece.join b (ps ++ qs) = Piece.join b ps ++ qs := by
  match ps, h with
  | .opening _ :: _, _ => rfl
  | .closing _ :: _, _ => rfl
  | .run _ :: _, _ => rfl
  | .doctype :: _, _ => rfl

/-- The strict reader gets to an end in the pieces up to the tag that closes the root element, and
the pieces of what follows come behind these. -/
lemma ofEvents_append_of_endsWithRoot {n : ℕ} {es : List Event} (h : EndsWithRoot n es)
    (es' : List Event) :
    ReachEnd n (ofEvents es) ∧ ofEvents (es ++ es') = ofEvents es ++ ofEvents es' := by
  induction es generalizing n with
  | nil => exact h.elim
  | cons e es ih =>
    rw [EndsWithRoot] at h
    cases e with
    | opening tag =>
      obtain ⟨hend, happend⟩ := ih h
      exact ⟨hend, congrArg (Piece.opening tag :: ·) happend⟩
    | empty tag =>
      cases n with
      | zero =>
        obtain rfl : es = [] := h
        exact ⟨.inl le_rfl, rfl⟩
      | succ n =>
        obtain ⟨hend, happend⟩ := ih h
        exact ⟨.inr hend, congrArg (Piece.opening tag :: Piece.closing tag.name :: ·) happend⟩
    | closing name =>
      by_cases hn : n = 1
      · subst hn
        obtain rfl : es = [] := h
        exact ⟨.inl le_rfl, rfl⟩
      · obtain ⟨hend, happend⟩ := ih (by simpa [Event.endsRoot, hn] using h)
        exact ⟨.inr hend, congrArg (Piece.closing name :: ·) happend⟩
    | text raw =>
      obtain ⟨hend, happend⟩ := ih h
      have hjoin := congrArg (Piece.join (.text raw)) happend
      exact ⟨hend.join _, hjoin.trans (join_append hend _ _)⟩
    | cdata data =>
      obtain ⟨hend, happend⟩ := ih h
      have hjoin := congrArg (Piece.join (.cdata data)) happend
      exact ⟨hend.join _, hjoin.trans (join_append hend _ _)⟩
    | doctype =>
      obtain ⟨hend, happend⟩ := ih h
      exact ⟨hend, congrArg (Piece.doctype :: ·) happend⟩
    | remark => exact ih h

end Piece

/-- The strict reader does not look behind the piece at which reading comes to an end. -/
lemma Node.assemble_append_of_reachEnd {stack : List (Tag × List Node)} {ps : List Piece}
    (h : Piece.ReachEnd stack.length ps) (qs : List Piece) :
    Node.assemble stack (ps ++ qs) = Node.assemble stack ps := by
  induction ps generalizing stack with
  | nil => exact h.elim
  | cons p ps ih =>
    rw [List.cons_append]
    cases p with
    | opening tag =>
      rw [assemble, assemble]
      exact ih h
    | closing name =>
      match stack with
      | [] => rw [assemble, assemble]
      | [(tag, nodes)] => rw [assemble, assemble]
      | (tag, nodes) :: (outer, before) :: stack =>
        rw [assemble, assemble]
        rw [ih (by simpa [Piece.ReachEnd] using h)]
    | run bits =>
      cases stack with
      | nil => rw [assemble, assemble, ih h]
      | cons open_ stack =>
        rw [assemble, assemble]
        exact ih h
    | doctype =>
      rw [assemble, assemble]
      exact ih h

/-! ## Documents -/

section Document

variable {d : String} (hend : d.toList.getLast? = some '>') (hroot : EndsWithRoot 0 (events d).1)
  (t : String)
include hend hroot

lemma parse_append_of_endsWithRoot : parse (d ++ t) = parse d := by
  obtain ⟨es, hes⟩ := exists_events_append hend hroot t
  have hopen : EndsWithRoot ([] : List Frame).length (events d).1 := hroot
  calc parse (d ++ t)
      = assemble (events (d ++ t)).2 [] ((events d).1 ++ es) := by rw [← hes]; rfl
    _ = parse d := assemble_append_of_endsWithRoot hopen _ _ es

lemma rootName_append_of_endsWithRoot : rootName (d ++ t) = rootName d := by
  obtain ⟨es, hes⟩ := exists_events_append hend hroot t
  calc rootName (d ++ t)
      = rootNameOf (events (d ++ t)).2 ((events d).1 ++ es) := by rw [← hes]; rfl
    _ = rootName d := rootNameOf_append_of_endsWithRoot hroot _ _ es

lemma Node.parse?_append_of_endsWithRoot : Node.parse? (d ++ t) = Node.parse? d := by
  obtain ⟨es, hes⟩ := exists_events_append hend hroot t
  obtain ⟨hreach, happend⟩ := Piece.ofEvents_append_of_endsWithRoot hroot es
  have hopen : Piece.ReachEnd ([] : List (Tag × List Node)).length (Piece.ofEvents (events d).1) :=
    hreach
  rw [Node.parse?, Node.parse?, hes, happend]
  exact Node.assemble_append_of_reachEnd hopen _

end Document

end UpnpGateway.Xml
