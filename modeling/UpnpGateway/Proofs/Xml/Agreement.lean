/-
# Well-formed documents as trees

A well-formed document has two readings: the nodes of the strict reader, and the tree that is
made of any document.  This file proves that the tree mirrors the nodes.  The two readers go
through the same events; one joins the parts of a run of text before it looks at them, the
other writes them down one by one, and the two come to the same text where a run has one part
only.
-/
import Mathlib.Data.List.Forall2
import Mathlib.Tactic.ByContra
import UpnpGateway.Proofs.Text.Cut
import UpnpGateway.Proofs.Xml.Escaping
import UpnpGateway.Proofs.Xml.Scanning
import UpnpGateway.Xml.Document
import UpnpGateway.Xml.WellFormed

namespace UpnpGateway.Xml

open UpnpGateway.Text

/-- The name of a tag behind its first colon, which a field of a record is known by. -/
def Tag.key (tag : Tag) : String :=
  String.ofList (match cutFirst ':' tag.name with
    | some (_, name) => name
    | none => tag.name)

lemma Node.hasKey_element (key : String) (tag : Tag) (content : List Node) :
    (Node.element tag content).hasKey key = (tag.key == key) := by
  rw [Bool.eq_iff_iff, Node.hasKey, beq_iff_eq, beq_iff_eq, ← String.toList_inj]
  exact iff_of_eq (congrArg (· = key.toList) String.toList_ofList.symm)

lemma mem_name_of_mem_key {tag : Tag} {c : Char} (hc : c ∈ tag.key.toList) : c ∈ tag.name := by
  rw [Tag.key, String.toList_ofList] at hc
  split at hc
  · rename_i a b hcut
    rw [(eq_of_cutFirst hcut).1]
    exact List.mem_append_right _ (List.mem_cons_of_mem _ hc)
  · exact hc

/-- What is asked of the events of a document up to the end of its root element: the names of
all tags satisfy `N`, and no comment, processing instruction or character data section
stands directly in an element at a path that satisfies `Q`.  A path has the keys of the open
elements, the innermost first. -/
def Admitted (N : List Char → Prop) (Q : List String → Prop) : List String → List Event → Prop
  | _, [] => True
  | path, .opening tag :: es => N tag.name ∧ Admitted N Q (tag.key :: path) es
  | [], .empty tag :: _ => N tag.name
  | key :: path, .empty tag :: es => N tag.name ∧ Admitted N Q (key :: path) es
  | _ :: key :: path, .closing _ :: es => Admitted N Q (key :: path) es
  | _, .closing _ :: _ => True
  | path, .text _ :: es => Admitted N Q path es
  | path, .doctype :: es => Admitted N Q path es
  | path, .cdata _ :: es => ¬ Q path ∧ Admitted N Q path es
  | path, .remark :: es => ¬ Q path ∧ Admitted N Q path es

instance instDecidableAdmitted {N : List Char → Prop} {Q : List String → Prop}
    [DecidablePred N] [DecidablePred Q] : ∀ path es, Decidable (Admitted N Q path es)
  | _, [] => .isTrue trivial
  | path, .opening tag :: es =>
    @instDecidableAnd _ _ _ (instDecidableAdmitted (tag.key :: path) es)
  | [], .empty tag :: _ => inferInstanceAs (Decidable (N tag.name))
  | key :: path, .empty _ :: es => @instDecidableAnd _ _ _ (instDecidableAdmitted (key :: path) es)
  | _ :: key :: path, .closing _ :: es => instDecidableAdmitted (key :: path) es
  | [], .closing _ :: _ => .isTrue trivial
  | [_], .closing _ :: _ => .isTrue trivial
  | path, .text _ :: es => instDecidableAdmitted path es
  | path, .doctype :: es => instDecidableAdmitted path es
  | path, .cdata _ :: es => @instDecidableAnd _ _ _ (instDecidableAdmitted path es)
  | path, .remark :: es => @instDecidableAnd _ _ _ (instDecidableAdmitted path es)

lemma admitted_of_forall {N : List Char → Prop} {es : List Event}
    (h : ∀ e ∈ es, ∀ tag, e.tag? = some tag → N tag.name) (path : List String) :
    Admitted N (fun _ => False) path es := by
  induction es generalizing path with
  | nil => trivial
  | cons e es ih =>
    obtain ⟨he, hes⟩ := List.forall_mem_cons.1 h
    cases e with
    | opening tag => exact ⟨he tag rfl, ih hes _⟩
    | empty tag =>
      cases path with
      | nil => exact he tag rfl
      | cons key path => exact ⟨he tag rfl, ih hes _⟩
    | closing name =>
      match path with
      | [] => trivial
      | [_] => trivial
      | _ :: key :: path => exact ih hes _
    | text raw => exact ih hes path
    | doctype => exact ih hes path
    | cdata data => exact ⟨id, ih hes path⟩
    | remark => exact ⟨id, ih hes path⟩

section Mirrors

variable (N : List Char → Prop) (Q : List String → Prop)

mutual

/-- An element of the tree mirrors a node inside the elements of a path: the two have one
name, the children mirror the content, and at a path that satisfies `Q` an element that has
nothing but text in it has the same text. -/
inductive Mirrors : List String → Node → Element → Prop where
  | element {path : List String} {tag : Tag} {content : List Node} {e : Element}
    (name_eq : e.name = String.ofList tag.name) (name : N tag.name)
    (text : Q (tag.key :: path) →
      ∀ d, (Node.element tag content).data? = some d → e.text = String.ofList d)
    (children : MirrorsAll (tag.key :: path) content e.children) :
    Mirrors path (.element tag content) e

/-- The elements mirror the nodes that are elements, in order. -/
inductive MirrorsAll : List String → List Node → List Element → Prop where
  | nil {path : List String} : MirrorsAll path [] []
  | text {path : List String} {data : Option (List Char)} {ns : List Node} {es : List Element}
    (rest : MirrorsAll path ns es) : MirrorsAll path (.text data :: ns) es
  | cons {path : List String} {n : Node} {ns : List Node} {e : Element} {es : List Element}
    (head : Mirrors path n e) (rest : MirrorsAll path ns es) :
    MirrorsAll path (n :: ns) (e :: es)

end

end Mirrors

variable {N : List Char → Prop} {Q : List String → Prop}

namespace MirrorsAll

lemma append {path : List String} {ns ns' : List Node} {es es' : List Element}
    (h : MirrorsAll N Q path ns es) (h' : MirrorsAll N Q path ns' es') :
    MirrorsAll N Q path (ns ++ ns') (es ++ es') := by
  induction ns generalizing es with
  | nil =>
    cases h
    exact h'
  | cons n ns ih =>
    cases h with
    | text rest => exact .text (ih rest)
    | cons head rest => exact .cons head (ih rest)

lemma exists_of_mem {path : List String} {ns : List Node} {es : List Element} {tag : Tag}
    {content : List Node} (h : MirrorsAll N Q path ns es) (hn : .element tag content ∈ ns) :
    ∃ e, Mirrors N Q path (.element tag content) e := by
  induction ns generalizing es with
  | nil => simp at hn
  | cons n ns ih =>
    cases h with
    | text rest => exact ih rest (by simpa using hn)
    | @cons _ _ _ e es head rest =>
      rcases List.mem_cons.1 hn with rfl | hn
      · exact ⟨e, head⟩
      · exact ih rest hn

/-- A test that texts fail, and that says the same of a node and its mirror image, picks
mirror images. -/
lemma filter {path : List String} {ns : List Node} {es : List Element} {p : Node → Bool}
    {q : Element → Bool} (h : MirrorsAll N Q path ns es) (htext : ∀ d, p (.text d) = false)
    (hpq : ∀ n e, Mirrors N Q path n e → p n = q e) :
    List.Forall₂ (Mirrors N Q path) (ns.filter p) (es.filter q) := by
  induction ns generalizing es with
  | nil =>
    cases h
    exact .nil
  | cons n ns ih =>
    cases h with
    | text rest => simpa [htext] using ih rest
    | @cons _ _ _ e es head rest =>
      rw [List.filter_cons, List.filter_cons, hpq n e head]
      split
      · exact .cons head (ih rest)
      · exact ih rest

end MirrorsAll

/-! ## Runs of text -/

/-- The text written so far is that of the nodes so far, the last one first, as long as these
are nothing but text. -/
def Written (nodes : List Node) (t : List Char) : Prop :=
  ∀ ds : List (List Char), nodes.reverse = ds.map (fun d => .text (some d)) → t = ds.flatten

lemma written_nil : Written [] [] := by
  intro ds h
  cases ds with
  | nil => rfl
  | cons d ds => simp at h

lemma written_element (tag : Tag) (content nodes : List Node) (t : List Char) :
    Written (.element tag content :: nodes) t := by
  intro ds h
  have hmem : Node.element tag content ∈ ds.map (fun d => Node.text (some d)) := by
    rw [← h]
    simp
  simp at hmem

lemma Written.data {nodes : List Node} {t d : List Char} {tag : Tag} (h : Written nodes t)
    (hd : (Node.element tag nodes.reverse).data? = some d) : t = d := by
  generalize hc : nodes.reverse = content at hd
  match content, hd with
  | [], hd =>
    rw [h [] (by simp [hc])]
    simpa [Node.data?] using hd
  | [.text data], hd =>
    have hdata : data = some d := hd
    subst hdata
    rw [h [d] (by simp [hc])]
    simp

/-- A run of one part is settled as the tree settles each part. -/
lemma settle_text (raw : List Char) :
    (raw.all isMarkupBlank = true → Bit.settle [.text raw] = []) ∧
      (raw.all isMarkupBlank = false →
        Bit.settle [.text raw] = [.text (dropEndsWhile isMarkupBlank raw)]) := by
  constructor
  · intro h
    simp only [Bit.settle, List.dropWhile, Bit.isLayout, h]
  · intro h
    simp only [Bit.settle, List.dropWhile, Bit.isLayout, h]
    rfl

lemma Written.run {nodes : List Node} {t : List Char} (h : Written nodes t) (raw : List Char) :
    Written (Node.ofRun [.text raw] ++ nodes) (t ++ runText raw) := by
  intro ds hds
  cases hall : raw.all isMarkupBlank with
  | true =>
    have hempty : dropEndsWhile isMarkupBlank raw = [] := by
      rw [dropEndsWhile, List.dropWhile_eq_nil_iff.2 (List.all_eq_true.1 hall)]
      rfl
    rw [Node.ofRun, (settle_text raw).1 hall, List.nil_append] at hds
    rw [runText, hempty, unescape_nil, List.append_nil, h ds hds]
  | false =>
    rw [Node.ofRun, (settle_text raw).2 hall] at hds
    simp only [Bit.join?, List.mapM_cons, Bit.data?, List.mapM_nil, List.cons_append,
      List.nil_append, List.reverse_cons] at hds
    rcases List.eq_nil_or_concat ds with rfl | ⟨ds, d, rfl⟩
    · simp at hds
    · rw [List.concat_eq_append, List.map_append, List.map_singleton] at hds
      obtain ⟨hinit, hlast⟩ := List.append_inj' hds rfl
      have hd : unescape? (dropEndsWhile isMarkupBlank raw) = some d := by
        cases hu : unescape? (dropEndsWhile isMarkupBlank raw) with
        | none => simp [hu] at hlast
        | some d' => simpa [hu] using hlast
      rw [h ds hinit, runText, unescape, hd]
      simp

/-! ## The two readers side by side -/

/-- The keys of the open elements of the strict reader, the innermost first. -/
def pathOf (stack : List (Tag × List Node)) : List String := stack.map fun p => p.1.key

/-- An open element of the strict reader and the frame of the other reader for it. -/
structure Matches (N : List Char → Prop) (Q : List String → Prop) (path : List String)
    (open_ : Tag × List Node) (fr : Frame) : Prop where
  name_eq : fr.name = open_.1.name
  name : N open_.1.name
  children : MirrorsAll N Q (open_.1.key :: path) open_.2.reverse fr.children.reverse

/-- The open elements of the two readers where no run of text is pending. -/
def Settled (N : List Char → Prop) (Q : List String → Prop) :
    List (Tag × List Node) → List Frame → Prop
  | [], [] => True
  | open_ :: stack, fr :: frames =>
    Matches N Q (pathOf stack) open_ fr ∧
      (Q (pathOf (open_ :: stack)) → Written open_.2 fr.text) ∧ Settled N Q stack frames
  | _, _ => False

/-- The open elements of the two readers where the strict one has yet to write down the parts
of a run: at a path that satisfies `Q` there is at most one part, and it is text. -/
def Pending (N : List Char → Prop) (Q : List String → Prop) (bits : List Bit) :
    List (Tag × List Node) → List Frame → Prop
  | [], [] => True
  | open_ :: stack, fr :: frames =>
    Matches N Q (pathOf stack) open_ fr ∧
      (Q (pathOf (open_ :: stack)) → ∃ t, Written open_.2 t ∧
        ((bits = [] ∧ fr.text = t) ∨ ∃ raw, bits = [.text raw] ∧ fr.text = t ++ runText raw)) ∧
      Settled N Q stack frames
  | _, _ => False

/-- The open elements after the parts of a run have been written down. -/
def flush (bits : List Bit) : List (Tag × List Node) → List (Tag × List Node)
  | [] => []
  | (tag, nodes) :: stack => (tag, Node.ofRun bits ++ nodes) :: stack

@[simp] lemma pathOf_cons (open_ : Tag × List Node) (stack : List (Tag × List Node)) :
    pathOf (open_ :: stack) = open_.1.key :: pathOf stack := rfl

@[simp] lemma pathOf_flush (bits : List Bit) (stack : List (Tag × List Node)) :
    pathOf (flush bits stack) = pathOf stack := by
  cases stack with
  | nil => rfl
  | cons open_ stack => rfl

lemma Settled.pending {stack : List (Tag × List Node)} {frames : List Frame}
    (h : Settled N Q stack frames) : Pending N Q [] stack frames := by
  match stack, frames, h with
  | [], [], _ => trivial
  | open_ :: stack, fr :: frames, ⟨hm, hw, hs⟩ =>
    exact ⟨hm, fun hq => ⟨fr.text, hw hq, .inl ⟨rfl, rfl⟩⟩, hs⟩

/-! The two readers have the same number of elements open. -/

lemma Settled.eq_nil {frames : List Frame} (h : Settled N Q [] frames) : frames = [] := by
  cases frames with
  | nil => rfl
  | cons fr frames => exact False.elim h

lemma Settled.exists_cons {open_ : Tag × List Node} {stack : List (Tag × List Node)}
    {frames : List Frame} (h : Settled N Q (open_ :: stack) frames) :
    ∃ fr frames', frames = fr :: frames' := by
  cases frames with
  | nil => exact False.elim h
  | cons fr frames => exact ⟨fr, frames, rfl⟩

lemma mirrorsAll_ofRun {path : List String} (bits : List Bit) :
    MirrorsAll N Q path (Node.ofRun bits).reverse [] := by
  rw [Node.ofRun]
  split
  · exact .nil
  · exact .text .nil

lemma Pending.settled {bits : List Bit} {stack : List (Tag × List Node)} {frames : List Frame}
    (h : Pending N Q bits stack frames) : Settled N Q (flush bits stack) frames := by
  match stack, frames, h with
  | [], [], _ => trivial
  | (tag, nodes) :: stack, fr :: frames, ⟨hm, hw, hs⟩ =>
    refine ⟨⟨hm.name_eq, hm.name, ?_⟩, fun hq => ?_, hs⟩
    · simpa using hm.children.append (mirrorsAll_ofRun bits)
    · obtain ⟨t, ht, ⟨rfl, rfl⟩ | ⟨raw, rfl, htext⟩⟩ := hw hq
      · simpa [Node.ofRun, Bit.settle] using ht
      · rw [htext]
        exact ht.run raw

/-- Text that is met where no run is pending is written down by the one reader and kept by
the other. -/
lemma Pending.text {bits : List Bit} {stack : List (Tag × List Node)} {frames : List Frame}
    {fr : Frame} (h : Pending N Q bits stack (fr :: frames))
    (hbits : Q (pathOf stack) → bits = []) (raw : List Char) :
    Pending N Q (bits ++ [.text raw]) stack (fr.write (runText raw) :: frames) := by
  match stack, h with
  | open_ :: stack, ⟨hm, hw, hs⟩ =>
    refine ⟨⟨hm.name_eq, hm.name, hm.children⟩, fun hq => ?_, hs⟩
    obtain ⟨t, ht, ⟨-, rfl⟩ | ⟨raw', hraw', -⟩⟩ := hw hq
    · exact ⟨fr.text, ht, .inr ⟨raw, by rw [hbits hq, List.nil_append], rfl⟩⟩
    · simp [hbits hq] at hraw'

/-- What stands at a path that does not satisfy `Q` may have any text. -/
lemma Pending.other {bits bits' : List Bit} {stack : List (Tag × List Node)}
    {frames : List Frame} {fr : Frame} (h : Pending N Q bits stack (fr :: frames))
    (hq : ¬ Q (pathOf stack)) (s : List Char) :
    Pending N Q bits' stack (fr.write s :: frames) := by
  match stack, h with
  | open_ :: stack, ⟨hm, _, hs⟩ =>
    exact ⟨⟨hm.name_eq, hm.name, hm.children⟩, fun hq' => absurd hq' hq, hs⟩

lemma Settled.opened {stack : List (Tag × List Node)} {frames : List Frame}
    (h : Settled N Q stack frames) {tag : Tag} (htag : N tag.name) :
    Settled N Q ((tag, []) :: stack) (Frame.opened tag :: frames) :=
  ⟨⟨rfl, htag, .nil⟩, fun _ => written_nil, h⟩

/-- An element that ends is the mirror image of the node that ends. -/
lemma Settled.mirrors {tag : Tag} {nodes : List Node} {stack : List (Tag × List Node)}
    {fr : Frame} {frames : List Frame} (h : Settled N Q ((tag, nodes) :: stack) (fr :: frames)) :
    Mirrors N Q (pathOf stack) (.element tag nodes.reverse) fr.close := by
  obtain ⟨hm, hw, -⟩ := h
  refine .element (congrArg String.ofList hm.name_eq) hm.name (fun hq d hd => ?_) hm.children
  exact congrArg String.ofList ((hw hq).data hd)

lemma Settled.push {tag : Tag} {content : List Node} {stack : List (Tag × List Node)}
    {outer : Tag} {nodes : List Node} {fr : Frame} {frames : List Frame} {e : Element}
    (h : Settled N Q ((outer, nodes) :: stack) (fr :: frames))
    (he : Mirrors N Q (outer.key :: pathOf stack) (.element tag content) e) :
    Settled N Q ((outer, .element tag content :: nodes) :: stack) (fr.push e :: frames) := by
  obtain ⟨hm, -, hs⟩ := h
  refine ⟨⟨hm.name_eq, hm.name, ?_⟩, fun _ => written_element _ _ _ _, hs⟩
  simpa [Frame.push] using hm.children.append (.cons he .nil)

/-- The parts of a run in front of what is no text are one piece. -/
lemma foldr_join {ps : List Piece} (hps : ∀ b, Piece.join b ps = .run [b] :: ps) {bits : List Bit}
    (hne : bits ≠ []) : bits.foldr Piece.join ps = .run bits :: ps := by
  induction bits with
  | nil => exact absurd rfl hne
  | cons b bits ih =>
    rw [List.foldr_cons]
    cases bits with
    | nil => exact hps b
    | cons b' bits => rw [ih (by simp), Piece.join]

lemma assemble_flush {ps : List Piece} (hps : ∀ b, Piece.join b ps = .run [b] :: ps)
    {bits : List Bit} {stack : List (Tag × List Node)} {n : Node}
    (h : Node.assemble stack (bits.foldr Piece.join ps) = some n) :
    Node.assemble (flush bits stack) ps = some n := by
  by_cases hne : bits = []
  · subst hne
    cases stack with
    | nil => exact h
    | cons open_ stack => simpa [flush, Node.ofRun, Bit.settle] using h
  · rw [foldr_join hps hne] at h
    cases stack with
    | nil =>
      rw [Node.assemble] at h
      split at h
      · exact h
      · simp at h
    | cons open_ stack => exact h

/-- Where the strict reader gets to the end of a root element, the other reader gets there
too, and its element mirrors the node. -/
lemma assemble_mirrors (complete : Bool) {es : List Event} {bits : List Bit}
    {stack : List (Tag × List Node)} {frames : List Frame} {n : Node}
    (hchain : es.IsChain fun a b => a.isText = true → b.isText = false)
    (hbits : Q (pathOf stack) → bits ≠ [] → ∀ e, es.head? = some e → e.isText = false)
    (hadm : Admitted N Q (pathOf stack) es) (hpend : Pending N Q bits stack frames)
    (h : Node.assemble stack (bits.foldr Piece.join (Piece.ofEvents es)) = some n) :
    ∃ e, assemble complete frames es = .ok e ∧ Mirrors N Q [] n e := by
  -- by induction on the events; `bits` are the parts of the run of text that is being read
  induction es generalizing bits stack frames with
  | nil =>
    have hend := assemble_flush (fun _ => rfl) h
    simp [Piece.ofEvents, Node.assemble] at hend
  | cons ev es ih =>
    obtain ⟨hnext, hchain'⟩ := List.isChain_cons.1 hchain
    have hs := hpend.settled
    have hdone : ∀ stack : List (Tag × List Node), Q (pathOf stack) → ([] : List Bit) ≠ [] →
        ∀ e, es.head? = some e → e.isText = false := fun _ _ hne => absurd rfl hne
    cases ev with
    | opening tag =>
      have hf := assemble_flush (fun _ => rfl) h
      exact ih hchain' (hdone _) (by simpa using hadm.2) (hs.opened hadm.1).pending hf
    | empty tag =>
      have hf : Node.assemble (flush bits stack)
          (.opening tag :: .closing tag.name :: Piece.ofEvents es) = some n :=
        assemble_flush (fun _ => rfl) h
      cases stack with
      | nil =>
        obtain rfl := hs.eq_nil
        have hn : n = .element tag [] := by simpa [flush, Node.assemble, eq_comm] using hf
        subst hn
        exact ⟨_, rfl, (hs.opened hadm).mirrors⟩
      | cons open_ stack =>
        obtain ⟨fr, frames, rfl⟩ := hs.exists_cons
        have hm := (hs.opened hadm.1).mirrors
        have hrest : Admitted N Q
            (pathOf ((open_.1, .element tag [] :: (Node.ofRun bits ++ open_.2)) :: stack)) es :=
          hadm.2
        refine ih hchain' (fun _ hne => absurd rfl hne) hrest (hs.push hm).pending ?_
        simpa [flush, Node.assemble] using hf
    | closing name =>
      have hf : Node.assemble (flush bits stack) (.closing name :: Piece.ofEvents es) = some n :=
        assemble_flush (fun _ => rfl) h
      cases stack with
      | nil => simp [flush, Node.assemble] at hf
      | cons open_ stack =>
        obtain ⟨fr, frames, rfl⟩ := hs.exists_cons
        cases stack with
        | nil =>
          -- the end of the root element, behind which the tolerant reader does not look
          obtain rfl := hs.2.2.eq_nil
          simp only [flush, Node.assemble, Option.ite_none_right_eq_some,
            Option.some.injEq] at hf
          obtain ⟨-, rfl⟩ := hf
          exact ⟨_, rfl, hs.mirrors⟩
        | cons outer stack =>
          obtain ⟨fr', frames, rfl⟩ := hs.2.2.exists_cons
          simp only [flush, Node.assemble, Option.ite_none_right_eq_some] at hf
          exact ih hchain' (hdone _) hadm (hs.2.2.push hs.mirrors).pending hf.2
    | text raw =>
      have hf : Node.assemble stack
          ((bits ++ [Bit.text raw]).foldr Piece.join (Piece.ofEvents es)) = some n := by
        simpa [Piece.ofEvents] using h
      cases stack with
      | nil =>
        obtain rfl := hs.eq_nil
        have hp : Pending N Q (bits ++ [Bit.text raw]) [] [] := hpend
        exact ih hchain' (fun _ _ e he => hnext e he rfl) hadm hp hf
      | cons open_ stack =>
        obtain ⟨fr, frames, rfl⟩ := hs.exists_cons
        -- no second part of a run where a string is read: runs of text are no neighbours
        have hnone : Q (pathOf (open_ :: stack)) → bits = [] := by
          intro hq
          by_contra hne
          exact absurd (hbits hq hne _ rfl) (by simp [Event.isText])
        exact ih hchain' (fun _ _ e he => hnext e he rfl) hadm (hpend.text hnone raw) hf
    | cdata data =>
      have hf : Node.assemble stack ((bits ++ [Bit.cdata data]).foldr Piece.join
          (Piece.ofEvents es)) = some n := by simpa [Piece.ofEvents] using h
      have hno : ∀ hq : Q (pathOf stack), ∀ e, es.head? = some e → e.isText = false :=
        fun hq => absurd hq hadm.1
      cases stack with
      | nil =>
        obtain rfl := hs.eq_nil
        have hp : Pending N Q (bits ++ [Bit.cdata data]) [] [] := hpend
        exact ih hchain' (fun hq _ => hno hq) hadm.2 hp hf
      | cons open_ stack =>
        obtain ⟨fr, frames, rfl⟩ := hs.exists_cons
        exact ih hchain' (fun hq _ => hno hq) hadm.2 (hpend.other hadm.1 data) hf
    | doctype =>
      have hf := assemble_flush (fun _ => rfl) h
      have hf' : Node.assemble (flush bits stack) (Piece.ofEvents es) = some n := by
        cases stack <;> exact hf
      have hadm' : Admitted N Q (pathOf stack) es := hadm
      exact ih hchain' (hdone _) (by simpa using hadm') hs.pending hf'
    | remark =>
      have hno : ∀ hq : Q (pathOf stack), ∀ e, es.head? = some e → e.isText = false :=
        fun hq => absurd hq hadm.1
      exact ih hchain' (fun hq _ => hno hq) hadm.2 hpend h

/-- The tree of a well-formed document mirrors its nodes. -/
lemma mirrors_of_parse? {d : String} {n : Node} (hadm : Admitted N Q [] (events d).1)
    (h : Node.parse? d = some n) : ∃ e, parse d = .ok e ∧ Mirrors N Q [] n e := by
  have hchain : (events d).1.IsChain fun a b => a.isText = true → b.isText = false := by
    rw [events_eq]
    exact isChain_scan _
  have hadm' : Admitted N Q (pathOf []) (events d).1 := hadm
  have hpend : Pending N Q [] [] [] := trivial
  exact assemble_mirrors (events d).2 hchain (fun _ hne => absurd rfl hne) hadm' hpend h

/-! ## Looking up -/

/-- A name with at most one colon, so that there is one way to drop the namespace. -/
def OneColon (name : List Char) : Prop := name.count ':' ≤ 1

lemma localPart_eq_key {tag : Tag} (h : OneColon tag.name) :
    localPart (String.ofList tag.name) = tag.key := by
  rw [localPart, Tag.key, String.toList_ofList]
  cases hcut : cutFirst ':' tag.name with
  | none =>
    rw [cutLast_eq_none.2 (cutFirst_eq_none.1 hcut)]
  | some p =>
    obtain ⟨a, b⟩ := p
    obtain ⟨hname, ha⟩ := eq_of_cutFirst hcut
    have hb : ':' ∉ b := by
      intro hmem
      have hpos : 0 < b.count ':' := List.count_pos_iff.2 hmem
      rw [OneColon, hname, List.count_append, List.count_cons_self] at h
      omega
    have hlast : cutLast ':' tag.name = some (a, b) := by
      rw [hname]
      exact cutLast_append hb a
    simp [hlast]

/-- Of the elements whose names satisfy `N`, a rule of comparison finds those of a key that the
strict reader finds, too. -/
def TagRule.Reads (rule : TagRule) (N : List Char → Prop) (key : String) : Prop :=
  ∀ tag : Tag, N tag.name → rule.matches (String.ofList tag.name) key = (tag.key == key)

lemma reads_localName (key : String) : TagRule.localName.Reads OneColon key := by
  intro tag hcolon
  rw [TagRule.matches, localPart_eq_key hcolon]

lemma hasKey_of_field? {content : List Node} {key : String} {n : Node}
    (h : Node.field? content key = some (some n)) : n.hasKey key = true := by
  rw [Node.field?] at h
  split at h
  · simp at h
  · rename_i m hm
    cases h
    exact (List.mem_filter.1 (hm ▸ List.mem_singleton_self n)).2
  · simp at h

section Reads

variable {path : List String} {content : List Node} {e : Element} {key : String} {rule : TagRule}
  (hr : rule.Reads N key)
include hr

lemma Mirrors.hasKey_of_reads {n : Node} (h : Mirrors N Q path n e) :
    n.hasKey key = rule.matches e.name key := by
  obtain ⟨hname, hn, -, -⟩ := h
  rw [Node.hasKey_element, hname, hr _ hn]

namespace MirrorsAll

lemma childrenNamed_of_reads (h : MirrorsAll N Q path content e.children) :
    List.Forall₂ (Mirrors N Q path) (content.filter (·.hasKey key)) (e.childrenNamed key rule) :=
  h.filter (fun _ => rfl) fun _ _ hm => hm.hasKey_of_reads hr

/-- The only element of a field is the first child with its name. -/
lemma child?_of_reads (h : MirrorsAll N Q path content e.children) {field : Option Node}
    (hfield : Node.field? content key = some field) :
    Option.Rel (Mirrors N Q path) field (e.child? key rule) := by
  have hall := h.childrenNamed_of_reads hr
  have hchild : e.child? key rule = (e.childrenNamed key rule).head? := List.head?_filter.symm
  rw [hchild]
  rw [Node.field?] at hfield
  split at hfield
  · rename_i hnil
    rw [hnil, List.forall₂_nil_left_iff] at hall
    cases hfield
    rw [hall]
    exact .none
  · rename_i n hone
    cases hfield
    rw [hone, List.forall₂_cons_left_iff] at hall
    obtain ⟨c, cs, hm, -, hcs⟩ := hall
    rw [hcs]
    exact .some hm
  · simp at hfield

/-- A text field that is read is the text of the first child with its name, if there is
one. -/
lemma childText?_of_reads (h : MirrorsAll N Q path content e.children) (hq : Q (key :: path))
    {required : Bool} {s : List Char} (hs : Node.textField? content key required = some s) :
    (e.childText? key rule = none ∧ required = false ∧ s = []) ∨
      e.childText? key rule = some (trimmed (String.ofList s)) := by
  rw [Node.textField?] at hs
  split at hs
  · simp at hs
  · rename_i hfield
    have hrel := h.child?_of_reads hr hfield
    generalize hc : e.child? key rule = c at hrel
    cases hrel
    left
    cases required with
    | true => simp at hs
    | false => simpa [Element.childText?, hc, eq_comm] using hs
  · rename_i n hfield
    have hrel := h.child?_of_reads hr hfield
    generalize hc : e.child? key rule = c at hrel
    cases hrel with
    | some hm =>
      rename_i c
      right
      have hkey := hasKey_of_field? hfield
      obtain ⟨-, -, htext, -⟩ := hm
      rw [Node.hasKey_element, beq_iff_eq] at hkey
      rw [Element.childText?, hc, Option.map_some, htext (hkey ▸ hq) s hs]

/-- The text of a field, or nothing if there is none. -/
lemma childTextD_of_reads (h : MirrorsAll N Q path content e.children) (hq : Q (key :: path))
    {required : Bool} {s : List Char} (hs : Node.textField? content key required = some s) :
    e.childTextD key rule = trimmed (String.ofList s) := by
  rcases h.childText?_of_reads hr hq hs with ⟨hnone, -, rfl⟩ | hsome
  · rw [Element.childTextD, hnone]
    rfl
  · rw [Element.childTextD, hsome, Option.getD_some]

end MirrorsAll

end Reads

/-! ### Behind one colon -/

namespace MirrorsAll

variable {path : List String} {content : List Node} {e : Element} {key : String}

lemma child? (h : MirrorsAll OneColon Q path content e.children) {field : Option Node}
    (hfield : Node.field? content key = some field) :
    Option.Rel (Mirrors OneColon Q path) field (e.child? key .localName) :=
  h.child?_of_reads (reads_localName key) hfield

lemma childText? (h : MirrorsAll OneColon Q path content e.children) (hq : Q (key :: path))
    {required : Bool} {s : List Char} (hs : Node.textField? content key required = some s) :
    (e.childText? key .localName = none ∧ required = false ∧ s = []) ∨
      e.childText? key .localName = some (trimmed (String.ofList s)) :=
  h.childText?_of_reads (reads_localName key) hq hs

lemma childTextD (h : MirrorsAll OneColon Q path content e.children) (hq : Q (key :: path))
    {required : Bool} {s : List Char} (hs : Node.textField? content key required = some s) :
    e.childTextD key .localName = trimmed (String.ofList s) :=
  h.childTextD_of_reads (reads_localName key) hq hs

end MirrorsAll

/-! ### Lists -/

lemma filter_dropWhile_not {α : Type} (p : α → Bool) (s : List α) :
    (s.dropWhile fun x => !p x).filter p = s.filter p := by
  induction s with
  | nil => rfl
  | cons x s ih => by_cases hx : p x <;> simp [hx, ih]

lemma hasKey_of_isNamed {key : String} {tag : Tag} {inner : List Node} {n : Node}
    (hkey : (Node.element tag inner).hasKey key = true) (hn : n.isNamed tag.name = true) :
    n.hasKey key = true := by
  cases n with
  | text data => simp [Node.isNamed] at hn
  | element tag' inner' =>
    have hname : tag'.name = tag.name := by simpa [Node.isNamed] using hn
    rw [Node.hasKey_element, Tag.key] at hkey ⊢
    rwa [hname]

/-- The items of a list field are all the elements with its key. -/
lemma eq_filter_of_items? {content items : List Node} {key : String}
    (h : Node.items? content key = some items) : items = content.filter (·.hasKey key) := by
  have hfirst := List.head?_dropWhile_not (fun n : Node => !n.hasKey key) content
  rw [← filter_dropWhile_not (fun n : Node => n.hasKey key)]
  rw [Node.items?] at h
  split at h
  · rename_i tag inner r hr
    rw [hr] at hfirst ⊢
    have hkey : (Node.element tag inner).hasKey key = true := by simpa using hfirst
    dsimp only at h
    split at h
    · simp at h
    · rename_i hrest
      cases h
      simp only [Bool.or_eq_true, not_or, Bool.not_eq_true, List.any_eq_false] at hrest
      have htake : (r.takeWhile (Node.isNamed tag.name)).filter (·.hasKey key) =
          r.takeWhile (Node.isNamed tag.name) :=
        List.filter_eq_self.2 fun n hn =>
          hasKey_of_isNamed hkey (List.mem_takeWhile_imp hn)
      have hdrop : (r.dropWhile (Node.isNamed tag.name)).filter (·.hasKey key) = [] :=
        List.filter_eq_nil_iff.2 fun n hn => by simp [hrest.2 n hn]
      rw [List.filter_cons_of_pos hkey]
      conv_rhs => rw [← List.takeWhile_append_dropWhile (p := Node.isNamed tag.name) (l := r),
        List.filter_append, htake, hdrop, List.append_nil]
  · rename_i hne
    cases h
    cases hc : content.dropWhile fun n => !n.hasKey key with
    | nil => rfl
    | cons n r =>
      rw [hc] at hfirst
      cases n with
      | element tag inner => exact absurd hc (hne tag inner r)
      | text data => simp [Node.hasKey] at hfirst

/-- The items of a list field that is read are mirrored by the elements of the first list. -/
lemma MirrorsAll.listField?_of_reads {path : List String} {content items : List Node}
    {e : Element} {list key : String} {rule : TagRule} {required : Bool}
    (hrlist : rule.Reads N list) (hrkey : rule.Reads N key)
    (h : MirrorsAll N Q path content e.children)
    (hlist : Node.listField? content list key required = some items) :
    (e.child? list rule = none ∧ required = false ∧ items = []) ∨
      ∃ l, e.child? list rule = some l ∧
        List.Forall₂ (fun n c => n.hasKey key = true ∧ Mirrors N Q (list :: path) n c) items
          (l.childrenNamed key rule) := by
  rw [Node.listField?] at hlist
  split at hlist
  · simp at hlist
  · rename_i hfield
    have hrel := h.child?_of_reads hrlist hfield
    generalize hc : e.child? list rule = c at hrel
    cases hrel
    left
    cases required with
    | true => simp at hlist
    | false => simpa [eq_comm] using hlist
  · rename_i n hfield
    have hrel := h.child?_of_reads hrlist hfield
    generalize hc : e.child? list rule = c at hrel
    cases hrel with
    | some hm =>
      rename_i l
      right
      refine ⟨l, rfl, ?_⟩
      obtain ⟨inner, hinner, hitems⟩ := Option.bind_eq_some_iff.1 hlist
      obtain ⟨tag, rfl⟩ := Node.record?_eq_some hinner
      have hkey := hasKey_of_field? hfield
      rw [Node.hasKey_element, beq_iff_eq] at hkey
      obtain ⟨-, -, -, hchildren⟩ := hm
      rw [hkey] at hchildren
      rw [eq_filter_of_items? hitems]
      exact (List.forall₂_and_left _ _).2
        ⟨fun n hn => (List.mem_filter.1 hn).2, hchildren.childrenNamed_of_reads hrkey⟩

lemma MirrorsAll.listField? {path : List String} {content items : List Node} {e : Element}
    {list key : String} {required : Bool} (h : MirrorsAll OneColon Q path content e.children)
    (hlist : Node.listField? content list key required = some items) :
    (e.child? list .localName = none ∧ required = false ∧ items = []) ∨
      ∃ l, e.child? list .localName = some l ∧
        List.Forall₂ (fun n c => n.hasKey key = true ∧ Mirrors OneColon Q (list :: path) n c) items
          (l.childrenNamed key .localName) :=
  h.listField?_of_reads (reads_localName list) (reads_localName key) hlist

end UpnpGateway.Xml
