/-
# Entries with one child changed

In a tree that is written, the text of one element or one item of a list may be changed.  What is
read under the name of that element changes with it, and what is read under all other names does
not.
-/
import UpnpGateway.Proofs.Xml.Entities
import UpnpGateway.Proofs.Xml.Entries

namespace UpnpGateway.Xml

open UpnpGateway.Text

/-! ## Lists with one item changed -/

section Modify

variable {α β : Type} {l : List α} {f : α → α}

lemma forall_mem_modify {p : α → Prop} (hl : ∀ a ∈ l, p a) (hf : ∀ a, p a → p (f a)) (i : ℕ) :
    ∀ a ∈ l.modify i f, p a := by
  induction l generalizing i with
  | nil => simp
  | cons b l ih =>
    obtain ⟨hb, hl⟩ := List.forall_mem_cons.1 hl
    cases i with
    | zero =>
      rw [List.modify_zero_cons, List.forall_mem_cons]
      exact ⟨hf b hb, hl⟩
    | succ i =>
      rw [List.modify_succ_cons, List.forall_mem_cons]
      exact ⟨hb, ih hl i⟩

/-- A function that turns one change into another turns a change of an item into one of its
image. -/
lemma map_modify {g : α → β} {h : β → β} (heq : ∀ a ∈ l, g (f a) = h (g a)) (i : ℕ) :
    (l.modify i f).map g = (l.map g).modify i h := by
  induction l generalizing i with
  | nil => simp
  | cons a l ih =>
    obtain ⟨ha, hl⟩ := List.forall_mem_cons.1 heq
    cases i with
    | zero => rw [List.modify_zero_cons, List.map_cons, ha, List.map_cons, List.modify_zero_cons]
    | succ i =>
      rw [List.modify_succ_cons, List.map_cons, ih hl i, List.map_cons, List.modify_succ_cons]

/-- If a change of an item is a change of what is read of it, then so it is for the whole list. -/
lemma mapM_modify {g : α → Option β} {h : β → β} {bs : List β}
    (heq : ∀ a ∈ l, ∀ b, g a = some b → g (f a) = some (h b)) (hl : l.mapM g = some bs) (i : ℕ) :
    (l.modify i f).mapM g = some (bs.modify i h) := by
  induction l generalizing i bs with
  | nil =>
    obtain rfl : [] = bs := Option.some.inj hl
    simp
  | cons a l ih =>
    obtain ⟨ha, hrest⟩ := List.forall_mem_cons.1 heq
    simp only [List.mapM_cons, Option.bind_eq_bind, Option.bind_eq_some_iff, Option.pure_def,
      Option.some.injEq] at hl
    obtain ⟨b, hb, bs, hbs, rfl⟩ := hl
    cases i with
    | zero =>
      rw [List.modify_zero_cons, List.modify_zero_cons, List.mapM_cons, ha b hb, hbs]
      rfl
    | succ i =>
      rw [List.modify_succ_cons, List.modify_succ_cons, List.mapM_cons, hb, ih hrest hbs i]
      rfl

end Modify

/-! ## Entries with one child changed -/

/-- What is read in a run that is the text of an element. -/
def Run.text (run : Run) : String := trimmed (String.ofList (runText run.raw))

/-- A text with a broken entity is read as it is written. -/
lemma Run.text_of_broken {run : Run} (h : HasBrokenEntity run.raw) :
    run.text = trimmed (String.ofList run.raw) := by
  rw [text, h.runText_eq, trimmed, trimmed, String.toList_ofList, String.toList_ofList,
    trim_dropEndsWhile]

namespace Entry

variable {κ : Type} [DecidableEq κ]

/-- The element with its children of a name changed. -/
def changeChild (k : κ) (change : Entry κ → Entry κ) (f : Entry κ) : Entry κ :=
  .record f.key (f.entries.map fun g => if g.key = k then change g else g)

/-- The element with a run of characters in the place of a text. -/
def putText (k : κ) (run : Run) : Entry κ → Entry κ := changeChild k fun _ => .text k run

/-- The element with one item of a list changed. -/
def changeItem (list : κ) (i : ℕ) (change : Entry κ → Entry κ) : Entry κ → Entry κ :=
  changeChild list fun g => .record list (g.entries.modify i change)

variable {k : κ} {change : Entry κ → Entry κ} {f : Entry κ}

lemma find?_changeChild (hkey : ∀ g, (change g).key = k) (j : κ) :
    ((f.changeChild k change).entries.find? fun g => g.key = j) =
      (f.entries.find? fun g => g.key = j).map fun g => if j = k then change g else g := by
  have hsame : ((fun g : Entry κ => decide (g.key = j)) ∘
      fun g => if g.key = k then change g else g) = fun g => decide (g.key = j) := by
    funext g
    by_cases hg : g.key = k
    · simp [hg, hkey]
    · simp [hg]
  rw [changeChild, entries, List.find?_map, hsame]
  refine Option.map_congr fun g hg => ?_
  have hgj : g.key = j := by simpa using List.find?_some hg
  rw [hgj]

/-- The children of other names stay as they are. -/
lemma find?_changeChild_of_ne (hkey : ∀ g, (change g).key = k) {j : κ} (hne : j ≠ k) :
    ((f.changeChild k change).entries.find? fun g => g.key = j) =
      f.entries.find? fun g => g.key = j := by
  rw [find?_changeChild hkey]
  simp [hne]

end Entry

namespace Layout

variable {κ : Type} [DecidableEq κ] {V : Vocabulary κ} (L : Layout V) {rule : TagRule}
  (hrule : rule ≠ .exact) {k j : κ} {change : Entry κ → Entry κ} {f : Entry κ}
include hrule

lemma child?_changeChild_of_ne (hkey : ∀ g, (change g).key = k) (hne : j ≠ k) :
    (L.element (f.changeChild k change)).child? (V.spelling j) rule =
      (L.element f).child? (V.spelling j) rule := by
  rw [L.child?_element hrule, L.child?_element hrule, Entry.find?_changeChild_of_ne hkey hne]

lemma childText?_changeChild_of_ne (hkey : ∀ g, (change g).key = k) (hne : j ≠ k) :
    (L.element (f.changeChild k change)).childText? (V.spelling j) rule =
      (L.element f).childText? (V.spelling j) rule := by
  rw [Element.childText?, L.child?_changeChild_of_ne hrule hkey hne, ← Element.childText?]

/-- A run is read in the place where it was put, and all other texts are as they were. -/
lemma childText?_putText {run : Run} (hmem : (f.entries.find? fun g => g.key = k).isSome = true) :
    (L.element (f.putText k run)).childText? (V.spelling j) rule =
      if j = k then some run.text else (L.element f).childText? (V.spelling j) rule := by
  split
  · rename_i hjk
    obtain ⟨g, hg⟩ := Option.isSome_iff_exists.1 hmem
    have hfind : ((f.putText k run).entries.find? fun g => g.key = j) = some (.text k run) := by
      rw [Entry.putText, Entry.find?_changeChild (k := k) (fun _ => rfl), hjk, hg]
      simp
    rw [Element.childText?, L.child?_element hrule, hfind, Option.map_some, Option.map_some,
      element, inner, Content.data]
    rfl
  · rename_i hjk
    exact L.childText?_changeChild_of_ne hrule (k := k) (fun _ => rfl) hjk

lemma childTextD_putText {run : Run} (hmem : (f.entries.find? fun g => g.key = k).isSome = true) :
    (L.element (f.putText k run)).childTextD (V.spelling j) rule =
      if j = k then run.text else (L.element f).childTextD (V.spelling j) rule := by
  rw [Element.childTextD, L.childText?_putText hrule hmem]
  split <;> rfl

/-- What is read of the items of a list in which one is changed. -/
lemma elim_child?_changeItem {β : Type} (read : List Element → β) (i : ℕ)
    (change : Entry κ → Entry κ) {keep : Bool} {list item : κ} {items : List (Entry κ)}
    (hlist : (f.entries.find? fun g => g.key = list) = (Entry.ofItems keep list items).head?)
    (hitems : ∀ g ∈ items, g.key = item) (hkey : ∀ g, g.key = item → (change g).key = item) :
    ((L.element (f.changeItem list i change)).child? (V.spelling list) rule).elim (read [])
      (fun l => read (l.childrenNamed (V.spelling item) rule)) =
        read ((items.modify i change).map L.element) := by
  have hempty : (items.modify i change).isEmpty = items.isEmpty := by
    rw [Bool.eq_iff_iff, List.isEmpty_iff_length_eq_zero, List.isEmpty_iff_length_eq_zero,
      List.length_modify]
  have hchanged : ((f.changeItem list i change).entries.find? fun g => g.key = list) =
      (Entry.ofItems keep list (items.modify i change)).head? := by
    rw [Entry.changeItem, Entry.find?_changeChild (k := list) (fun _ => rfl), hlist,
      Entry.ofItems, Entry.ofItems, hempty]
    simp only [if_true]
    split
    · rfl
    · rfl
  exact L.elim_child?_element hrule read hchanged (forall_mem_modify hitems hkey i)

end Layout

end UpnpGateway.Xml
