/-
# The order of a document

What stands in an element has an address there, which says for each level the number of the child to
go on with.  An element begins before another one if its address is the lesser one in the
lexicographic order: before what is in it, and before what stands behind it.  The outline of an
element lists its descendants in this order, and a search goes through them in the order of the
outline.
-/
import Mathlib.Data.List.Basic
import Mathlib.Logic.Relation
import Mathlib.Tactic.Lemma
import UpnpGateway.Xml.Element

namespace UpnpGateway.Xml

namespace Element

/-! ## Descendants -/

/-- An element stands in another one, at any depth. -/
def IsDescendant : Element → Element → Prop := Relation.TransGen fun c e => c ∈ e.children

lemma sizeOf_lt_of_mem_children {c e : Element} (h : c ∈ e.children) : sizeOf c < sizeOf e := by
  cases e with
  | mk name text children =>
    have := List.sizeOf_lt_of_mem h
    simp only [mk.sizeOf_spec] at this ⊢
    omega

/-- What holds of an element whenever it holds of its children holds of all elements. -/
@[elab_as_elim]
lemma children_induction {motive : Element → Prop}
    (step : ∀ e, (∀ c ∈ e.children, motive c) → motive e) (e : Element) : motive e := by
  induction hn : sizeOf e using Nat.strongRecOn generalizing e with
  | _ n ih => exact step e fun c hc => ih _ (hn ▸ sizeOf_lt_of_mem_children hc) c rfl

/-- No element stands in itself. -/
lemma IsDescendant.ne {c e : Element} (h : c.IsDescendant e) : c ≠ e := by
  have hlt : sizeOf c < sizeOf e := by
    induction h with
    | single hc => exact sizeOf_lt_of_mem_children hc
    | tail _ hc ih => exact Nat.lt_trans ih (sizeOf_lt_of_mem_children hc)
  rintro rfl
  exact Nat.lt_irrefl _ hlt

/-! ## The outline -/

/-- The elements in an element as its outline has them. -/
def descendants (e : Element) : List Element := (e.outline 0).tail.map Prod.snd

lemma outlineAll_eq (depth : ℕ) (es : List Element) :
    outlineAll depth es = es.flatMap (outline depth) := by
  induction es with
  | nil => rfl
  | cons e es ih => rw [outlineAll, ih, List.flatMap_cons]

lemma outline_eq (depth : ℕ) (e : Element) :
    e.outline depth = (depth, e) :: e.children.flatMap (outline (depth + 1)) := by
  cases e with
  | mk name text children => rw [outline, outlineAll_eq]

/-- At every depth the outline has the element and its descendants. -/
lemma map_snd_outline (depth : ℕ) (e : Element) :
    (e.outline depth).map Prod.snd = e :: e.descendants := by
  induction e using children_induction generalizing depth with
  | step e ih =>
    rw [descendants, outline_eq, outline_eq, List.map_cons, List.tail_cons, List.map_flatMap,
      List.map_flatMap]
    refine congrArg (e :: ·) (List.flatMap_congr fun c hc => ?_)
    rw [ih c hc, ih c hc]

/-- A child comes before its own descendants, and these before the next child. -/
lemma descendants_eq (e : Element) :
    e.descendants = e.children.flatMap fun c => c :: c.descendants := by
  rw [descendants, outline_eq, List.tail_cons, List.map_flatMap]
  exact List.flatMap_congr fun c _ => map_snd_outline 1 c

lemma mem_descendants {c e : Element} : c ∈ e.descendants ↔ c.IsDescendant e := by
  induction e using children_induction with
  | step e ih =>
    rw [descendants_eq, List.mem_flatMap, IsDescendant, Relation.TransGen.tail'_iff]
    constructor
    · rintro ⟨d, hd, hc⟩
      rcases List.mem_cons.1 hc with rfl | hc
      · exact ⟨c, .refl, hd⟩
      · exact ⟨d, ((ih d hd).1 hc).to_reflTransGen, hd⟩
    · rintro ⟨d, hcd, hd⟩
      refine ⟨d, hd, ?_⟩
      rcases Relation.reflTransGen_iff_eq_or_transGen.1 hcd with rfl | hcd
      · exact List.mem_cons_self
      · exact List.mem_cons_of_mem d ((ih d hd).2 hcd)

/-! ## Addresses -/

/-- The element at an address. -/
def at? : List ℕ → Element → Option Element
  | [], e => some e
  | i :: a, e => e.children[i]?.bind (at? a)

mutual

/-- The addresses in an element, in the order of its outline. -/
def addresses : Element → List (List ℕ)
  | ⟨_, _, children⟩ => addressesFrom 0 children

/-- The addresses in an element of the children from the one with number `i` on, and of what is in
them. -/
def addressesFrom (i : ℕ) : List Element → List (List ℕ)
  | [] => []
  | c :: cs => ([] :: addresses c).map (i :: ·) ++ addressesFrom (i + 1) cs

end

/-- What stands in an element, listed in the order of the document. -/
structure ListedInOrder (e : Element) (as : List (List ℕ)) (es : List Element) : Prop where
  /-- The addresses come from the least to the greatest, none of them twice. -/
  sorted : as.Pairwise (· < ·)
  /-- They are all addresses that there are, but for that of the element itself. -/
  mem_iff : ∀ a, a ∈ as ↔ a ≠ [] ∧ (e.at? a).isSome = true
  /-- The elements are what stands at the addresses. -/
  map_some : es.map some = as.map fun a => e.at? a

lemma addressesFrom_eq (i : ℕ) (cs : List Element) :
    addressesFrom i cs =
      (cs.zipIdx i).flatMap fun p => ([] :: p.1.addresses).map (p.2 :: ·) := by
  induction cs generalizing i with
  | nil => rfl
  | cons c cs ih => rw [addressesFrom, ih, List.zipIdx_cons, List.flatMap_cons]

lemma addresses_eq (e : Element) :
    e.addresses = e.children.zipIdx.flatMap fun p => ([] :: p.1.addresses).map (p.2 :: ·) := by
  cases e with
  | mk name text children => rw [addresses, addressesFrom_eq]

/-- The addresses below that of a child are those in the child. -/
lemma at?_cons {c e : Element} {i : ℕ} (hc : e.children[i]? = some c) (a : List ℕ) :
    e.at? (i :: a) = c.at? a := by
  rw [at?, hc, Option.bind_some]

lemma nil_notMem_addresses (e : Element) : [] ∉ e.addresses := by
  simp [addresses_eq e]

lemma cons_mem_addresses {e : Element} {i : ℕ} {a : List ℕ} :
    i :: a ∈ e.addresses ↔ ∃ c, e.children[i]? = some c ∧ (a = [] ∨ a ∈ c.addresses) := by
  rw [addresses_eq, List.mem_flatMap]
  constructor
  · rintro ⟨⟨c, j⟩, hc, ha⟩
    obtain ⟨b, hb, heq⟩ := List.mem_map.1 ha
    obtain ⟨rfl, rfl⟩ := List.cons.inj heq
    exact ⟨c, List.mk_mem_zipIdx_iff_getElem?.1 hc, List.mem_cons.1 hb⟩
  · rintro ⟨c, hc, ha⟩
    exact ⟨(c, i), List.mk_mem_zipIdx_iff_getElem?.2 hc,
      List.mem_map.2 ⟨a, List.mem_cons.2 ha, rfl⟩⟩

lemma mem_addresses (e : Element) (a : List ℕ) :
    a ∈ e.addresses ↔ a ≠ [] ∧ (e.at? a).isSome = true := by
  induction a generalizing e with
  | nil => simp [nil_notMem_addresses]
  | cons i a ih =>
    have hbelow : ∀ c : Element, (a = [] ∨ a ∈ c.addresses) ↔ (c.at? a).isSome = true := by
      intro c
      rw [ih]
      cases a <;> simp [at?]
    simp only [cons_mem_addresses, hbelow, at?]
    cases e.children[i]? <;> simp

/-- A child begins before what is in it, and this before the next child. -/
lemma pairwise_addresses (e : Element) : e.addresses.Pairwise (· < ·) := by
  induction e using children_induction with
  | step e ih =>
    rw [addresses_eq, List.pairwise_flatMap]
    constructor
    · -- the address of a child is the beginning of the addresses in it
      rintro ⟨c, i⟩ hc
      have hmem : c ∈ e.children :=
        List.mem_of_getElem? (List.mk_mem_zipIdx_iff_getElem?.1 hc)
      have hfirst : ∀ a ∈ c.addresses, [] < a := by
        intro a ha
        cases a with
        | nil => exact absurd ha (nil_notMem_addresses c)
        | cons j a => exact List.nil_lt_cons j a
      exact List.pairwise_map.2 ((List.pairwise_cons.2 ⟨hfirst, ih c hmem⟩).imp fun hab =>
        List.cons_lt_cons_iff.2 (.inr ⟨rfl, hab⟩))
    · -- the addresses in two children differ in the number of the child
      have hnumbers : e.children.zipIdx.Pairwise fun p q => p.2 < q.2 := by
        refine List.pairwise_map.1 ?_
        rw [List.zipIdx_map_snd]
        exact List.pairwise_lt_range' 1
      refine hnumbers.imp fun hpq a ha b hb => ?_
      obtain ⟨a, -, rfl⟩ := List.mem_map.1 ha
      obtain ⟨b, -, rfl⟩ := List.mem_map.1 hb
      exact List.cons_lt_cons_iff.2 (.inl hpq)

lemma map_at?_addresses (e : Element) :
    e.descendants.map some = e.addresses.map fun a => e.at? a := by
  induction e using children_induction with
  | step e ih =>
    have hchild : ∀ p ∈ e.children.zipIdx, (p.1 :: p.1.descendants).map some =
        (([] :: p.1.addresses).map (p.2 :: ·)).map fun a => e.at? a := by
      rintro ⟨c, i⟩ hp
      have hc := List.mk_mem_zipIdx_iff_getElem?.1 hp
      have hbelow : (fun a => e.at? a) ∘ (i :: ·) = fun a => c.at? a := funext (at?_cons hc)
      rw [List.map_cons, ih c (List.mem_of_getElem? hc), List.map_map, hbelow, List.map_cons, at?]
    calc e.descendants.map some
        = (e.children.zipIdx.map Prod.fst).flatMap fun c => (c :: c.descendants).map some := by
          rw [List.zipIdx_map_fst, descendants_eq, List.map_flatMap]
      _ = e.children.zipIdx.flatMap fun p =>
            (([] :: p.1.addresses).map (p.2 :: ·)).map fun a => e.at? a := by
          rw [List.flatMap_map]
          exact List.flatMap_congr hchild
      _ = e.addresses.map fun a => e.at? a := by rw [addresses_eq, List.map_flatMap]

/-- The outline of an element is in the order of the document. -/
lemma listedInOrder (e : Element) : e.ListedInOrder e.addresses e.descendants :=
  ⟨pairwise_addresses e, mem_addresses e, map_at?_addresses e⟩

/-! ## Searching -/

section Search

variable (name : String) (rule : TagRule)

lemma find?_eq_findAmong? (e : Element) :
    find? name rule e = findAmong? name rule e.children := by
  cases e with
  | mk name text children => rw [find?]

lemma findAmong?_eq_find? {cs : List Element}
    (h : ∀ c ∈ cs, find? name rule c = c.descendants.find? fun d => rule.matches d.name name) :
    findAmong? name rule cs =
      (cs.flatMap fun c => c :: c.descendants).find? fun d => rule.matches d.name name := by
  induction cs with
  | nil => rfl
  | cons c cs ih =>
    rw [findAmong?, h c List.mem_cons_self, ih fun d hd => h d (List.mem_cons_of_mem c hd),
      List.flatMap_cons, List.cons_append, List.find?_cons, List.find?_append]
    cases rule.matches c.name name <;> rfl

/-- A search stops at the first descendant with the name. -/
lemma find?_eq_find?_descendants (e : Element) :
    find? name rule e = e.descendants.find? fun c => rule.matches c.name name := by
  induction e using children_induction with
  | step e ih => rw [find?_eq_findAmong?, descendants_eq, findAmong?_eq_find? name rule ih]

end Search

/-- A search for a name goes through all descendants of an element in the order in which they stand
in the document, and finds the first one that has the name.  It finds nothing exactly if there is
no such descendant, and it never finds the element itself. -/
theorem find?_inDocumentOrder (name : String) (rule : TagRule) (e : Element) :
    e.ListedInOrder e.addresses e.descendants ∧
      find? name rule e = (e.descendants.find? fun c => rule.matches c.name name) ∧
      (find? name rule e = none ↔
        ¬∃ c : Element, c.IsDescendant e ∧ rule.matches c.name name = true) ∧
      find? name rule e ≠ some e := by
  refine ⟨listedInOrder e, find?_eq_find?_descendants name rule e, ?_, ?_⟩
  · rw [find?_eq_find?_descendants, List.find?_eq_none]
    simp [mem_descendants]
  · intro hself
    rw [find?_eq_find?_descendants] at hself
    exact (mem_descendants.1 (List.mem_of_find?_eq_some hself)).ne rfl

/-- What is deep in an early child comes before a later child. -/
example :
    find? "code" .localName ⟨"code", "", [⟨"detail", "", [⟨"u:code", "714", []⟩]⟩,
      ⟨"code", "0", []⟩]⟩ = some ⟨"u:code", "714", []⟩ := by
  rfl

end Element

end UpnpGateway.Xml
