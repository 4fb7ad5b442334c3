/-
# Renaming the elements of a document

The reader of trees takes the names of tags as they come, so a document whose tags have other
names gives the same tree with other names in it.  A lookup does not notice a change of names
that the rule of comparison does not notice.
-/
import Mathlib.Tactic.Lemma
import UpnpGateway.Xml.Document

namespace UpnpGateway.Xml

open UpnpGateway.Text

variable (f : List Char → List Char)

/-- The tag under another name. -/
def Tag.rename (tag : Tag) : Tag := { tag with name := f tag.name }

/-- The event with the name of its tag changed. -/
def Event.rename : Event → Event
  | .opening tag => .opening (tag.rename f)
  | .empty tag => .empty (tag.rename f)
  | .closing name => .closing (f name)
  | e => e

namespace Element

mutual

/-- The element with its name and the names of all its descendants changed. -/
def rename : Element → Element
  | ⟨name, text, children⟩ => ⟨String.ofList (f name.toList), text, renameAll children⟩

/-- Some elements with all names changed. -/
def renameAll : List Element → List Element
  | [] => []
  | c :: cs => rename c :: renameAll cs

end

lemma renameAll_eq_map (es : List Element) : renameAll f es = es.map (rename f) := by
  induction es with
  | nil => rfl
  | cons e es ih => rw [renameAll, ih, List.map_cons]

@[simp] lemma name_rename (e : Element) : (e.rename f).name = String.ofList (f e.name.toList) := by
  cases e
  rfl

@[simp] lemma text_rename (e : Element) : (e.rename f).text = e.text := by
  cases e
  rfl

@[simp] lemma children_rename (e : Element) :
    (e.rename f).children = e.children.map (rename f) := by
  cases e
  exact renameAll_eq_map f _

end Element

/-- The frame with all names changed. -/
def Frame.rename (fr : Frame) : Frame :=
  ⟨f fr.name, fr.text, fr.children.map (Element.rename f)⟩

namespace Frame

@[simp] lemma close_rename (fr : Frame) : (fr.rename f).close = fr.close.rename f := by
  simp only [close, rename, Element.rename, Element.renameAll_eq_map, String.toList_ofList,
    List.map_reverse]

@[simp] lemma push_rename (fr : Frame) (e : Element) :
    (fr.rename f).push (e.rename f) = (fr.push e).rename f := rfl

@[simp] lemma write_rename (fr : Frame) (s : List Char) :
    (fr.rename f).write s = (fr.write s).rename f := rfl

@[simp] lemma opened_rename (tag : Tag) : opened (tag.rename f) = (opened tag).rename f := rfl

end Frame

/-! ## Reading -/

lemma closeAll_rename (stack : List Frame) :
    closeAll (stack.map (Frame.rename f)) = (closeAll stack).map (Element.rename f) := by
  induction hn : stack.length generalizing stack with
  | zero =>
    rw [List.length_eq_zero_iff.1 hn]
    simp [closeAll, Except.map]
  | succ n ih =>
    obtain ⟨fr, stack, rfl⟩ := List.exists_cons_of_length_eq_add_one hn
    cases stack with
    | nil => simp [closeAll, Except.map]
    | cons g stack =>
      have hlen : (g.push fr.close :: stack).length = n := by simpa using hn
      simpa [closeAll] using ih _ hlen

/-- The tree of events with other names is the tree with other names. -/
lemma assemble_rename (complete : Bool) (stack : List Frame) (es : List Event) :
    assemble complete (stack.map (Frame.rename f)) (es.map (Event.rename f)) =
      (assemble complete stack es).map (Element.rename f) := by
  induction es generalizing stack with
  | nil =>
    simp only [List.map_nil, assemble]
    split
    · exact closeAll_rename f stack
    · rfl
  | cons e es ih =>
    cases e with
    | opening tag =>
      simpa [assemble, Event.rename] using ih (Frame.opened tag :: stack)
    | empty tag =>
      cases stack with
      | nil => simp [assemble, Event.rename, Except.map]
      | cons fr stack =>
        simpa [assemble, Event.rename] using ih (fr.push (Frame.opened tag).close :: stack)
    | closing name =>
      match stack with
      | [] => simpa [assemble, Event.rename] using ih []
      | [fr] => simp [assemble, Event.rename, Except.map]
      | fr :: g :: stack =>
        simpa [assemble, Event.rename] using ih (g.push fr.close :: stack)
    | text raw =>
      cases stack with
      | nil => simpa [assemble, Event.rename] using ih []
      | cons fr stack => simpa [assemble, Event.rename] using ih (fr.write (runText raw) :: stack)
    | cdata data =>
      cases stack with
      | nil => simpa [assemble, Event.rename] using ih []
      | cons fr stack => simpa [assemble, Event.rename] using ih (fr.write data :: stack)
    | doctype => simpa [assemble, Event.rename] using ih stack
    | remark => simpa [assemble, Event.rename] using ih stack

/-- Two outcomes that agree after a change of what is read are one failure, or two things that are
read and agree after the change. -/
lemma cases_of_map_eq {ε α β : Type} {g : α → β} {x y : Except ε α} (h : x.map g = y.map g) :
    (∃ e, x = .error e ∧ y = .error e) ∨ ∃ a b, x = .ok a ∧ y = .ok b ∧ g a = g b := by
  cases x with
  | error e =>
    cases y with
    | error e' => exact .inl ⟨e, rfl, congrArg Except.error (Except.error.inj h).symm⟩
    | ok b => cases h
  | ok a =>
    cases y with
    | error e' => cases h
    | ok b => exact .inr ⟨a, b, rfl, rfl, Except.ok.inj h⟩

/-- Documents that differ in the names of tags have trees that differ in the names of
elements. -/
lemma parse_rename {d d' : String}
    (hes : (events d).1.map (Event.rename f) = (events d').1.map (Event.rename f))
    (hcomplete : (events d).2 = (events d').2) :
    (parse d).map (Element.rename f) = (parse d').map (Element.rename f) := by
  have h := assemble_rename f (events d).2 [] (events d).1
  have h' := assemble_rename f (events d').2 [] (events d').1
  calc (parse d).map (Element.rename f)
      = assemble (events d).2 [] ((events d).1.map (Event.rename f)) := h.symm
    _ = assemble (events d').2 [] ((events d').1.map (Event.rename f)) := by rw [hes, hcomplete]
    _ = (parse d').map (Element.rename f) := h'

/-- The name of the root element is the name under which its tag goes. -/
lemma rootNameOf_rename (complete : Bool) (es : List Event) :
    rootNameOf complete (es.map (Event.rename f)) =
      (rootNameOf complete es).map fun name => String.ofList (f name.toList) := by
  induction es with
  | nil => rfl
  | cons e es ih =>
    cases e with
    | opening tag => simp [rootNameOf, Event.rename, Tag.rename, Except.map]
    | empty tag => simp [rootNameOf, Event.rename, Tag.rename, Except.map]
    | closing name => rfl
    | text raw => exact ih
    | cdata data => exact ih
    | doctype => exact ih
    | remark => exact ih

lemma rootName_rename {d d' : String}
    (hes : (events d).1.map (Event.rename f) = (events d').1.map (Event.rename f))
    (hcomplete : (events d).2 = (events d').2) :
    (rootName d).map (fun name => String.ofList (f name.toList)) =
      (rootName d').map fun name => String.ofList (f name.toList) := by
  have h := rootNameOf_rename f (events d).2 (events d).1
  have h' := rootNameOf_rename f (events d').2 (events d').1
  calc (rootName d).map (fun name => String.ofList (f name.toList))
      = rootNameOf (events d).2 ((events d).1.map (Event.rename f)) := h.symm
    _ = rootNameOf (events d').2 ((events d').1.map (Event.rename f)) := by rw [hes, hcomplete]
    _ = (rootName d').map fun name => String.ofList (f name.toList) := h'

/-! ## Looking up -/

/-- A change of names that a rule of comparison does not notice. -/
def TagRule.Ignores (rule : TagRule) : Prop :=
  ∀ qualified wanted : String,
    rule.matches (String.ofList (f qualified.toList)) wanted = rule.matches qualified wanted

namespace Element

variable {f} {rule : TagRule} (hf : rule.Ignores f)
include hf

lemma child?_rename (e : Element) (name : String) :
    (e.rename f).child? name rule = (e.child? name rule).map (rename f) := by
  rw [child?, children_rename, List.find?_map, child?]
  congr 2
  funext c
  simp [hf c.name name]

lemma childrenNamed_rename (e : Element) (name : String) :
    (e.rename f).childrenNamed name rule = (e.childrenNamed name rule).map (rename f) := by
  rw [childrenNamed, children_rename, List.filter_map, childrenNamed]
  congr 2
  funext c
  simp [hf c.name name]

lemma childText?_rename (e : Element) (name : String) :
    (e.rename f).childText? name rule = e.childText? name rule := by
  rw [childText?, child?_rename hf, childText?, Option.map_map]
  congr 1
  funext c
  simp

lemma childTextD_rename (e : Element) (name : String) :
    (e.rename f).childTextD name rule = e.childTextD name rule := by
  rw [childTextD, childText?_rename hf, childTextD]

end Element

namespace Element

variable {f} {rule : TagRule}

mutual

/-- A search for a descendant finds the same one under its other name. -/
lemma find?_rename (hf : rule.Ignores f) (name : String) :
    ∀ e : Element, find? name rule (e.rename f) = (find? name rule e).map (rename f)
  | ⟨_, _, children⟩ => by
    rw [rename, find?, find?]
    exact findAmong?_rename hf name children

lemma findAmong?_rename (hf : rule.Ignores f) (name : String) :
    ∀ es : List Element,
      findAmong? name rule (renameAll f es) = (findAmong? name rule es).map (rename f)
  | [] => by
    rw [renameAll, findAmong?]
    rfl
  | e :: es => by
    rw [renameAll, findAmong?, findAmong?, name_rename, hf e.name name]
    split
    · rfl
    · rw [find?_rename hf name e, findAmong?_rename hf name es, Option.map_or]

end

end Element

end UpnpGateway.Xml
