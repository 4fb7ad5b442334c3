/-
# The two readers of service descriptions

The declarations of a service are read from records or from a tree.  The tolerant reader does not
notice a change of names that its rule of comparison does not notice.  A description that the strict
reader accepts is read by the tolerant one to the same end, if the two find the same elements by
their names and nothing but text stands where a string is read.
-/
import UpnpGateway.Device.ServiceDescription
import UpnpGateway.Proofs.Device.Agreement

namespace UpnpGateway.ServiceDescription

open UpnpGateway.Text UpnpGateway.Xml

/-! ## Equations -/

/-- The declarations in a document with the given root element. -/
def ofRoot (rule : TagRule) (root : Element) : Declarations :=
  ⟨(listed rule "actionList" "action" root).map (actionOfElement rule),
    (listed rule "serviceStateTable" "stateVariable" root).map (variableOfElement rule)⟩

lemma ofTree_eq (rule : TagRule) (document : String) :
    ofTree rule document = (Xml.parse document).map (ofRoot rule) := by
  rw [ofTree]
  cases Xml.parse document with
  | error cause => rfl
  | ok root => rfl

/-- The root element of a document has the name of service descriptions. -/
def hasRoot (rule : TagRule) (document : String) : Bool :=
  (rootName document).toOption.any (rule.matches · "scpd")

/-- What the strict reader alone makes of a document. -/
def strictTable? (rule : TagRule) (document : String) : Option ServiceTable :=
  if hasRoot rule document then (ofRecords? document).map Declarations.resolve else none

/-- What the tolerant reader alone makes of a document. -/
def treeTable? (rule : TagRule) (document : String) : Option ServiceTable :=
  if hasRoot rule document then (ofTree rule document).toOption.map Declarations.resolve else none

/-- A document says what the strict reader makes of it, or else what the tolerant reader does. -/
lemma toOption_parse (rule : TagRule) (document : String) :
    (parse rule document).toOption =
      (strictTable? rule document).or (treeTable? rule document) := by
  rw [parse, strictTable?, treeTable?, hasRoot]
  cases rootName document with
  | error cause => rfl
  | ok name =>
    by_cases hname : rule.matches name "scpd"
    · cases hrecords : ofRecords? document with
      | some d =>
        simp [hname, Except.mapError, Except.toOption, bind, Except.bind, pure, Except.pure]
      | none =>
        cases ofTree rule document with
        | error cause => simp [hname, Except.mapError, Except.toOption, bind, Except.bind]
        | ok d =>
          simp [hname, Except.mapError, Except.toOption, bind, Except.bind, pure, Except.pure]
    · simp [hname, Except.mapError, Except.toOption, bind, Except.bind, throw, throwThe,
        MonadExceptOf.throw]

/-! ## Other names -/

section Renaming

variable {f : List Char → List Char} {rule : TagRule} (hf : rule.Ignores f)
include hf

lemma listed_rename (list item : String) (e : Element) :
    listed rule list item (e.rename f) = (listed rule list item e).map (Element.rename f) := by
  rw [listed, listed, Element.child?_rename hf]
  cases e.child? list rule with
  | none => rfl
  | some l => exact Element.childrenNamed_rename hf l item

/-- What is read of each element of a list does not depend on names that the rule ignores. -/
lemma map_listed_rename {α : Type} {g : Element → α} (hg : ∀ e, g (e.rename f) = g e)
    (list item : String) (e : Element) :
    (listed rule list item (e.rename f)).map g = (listed rule list item e).map g := by
  rw [listed_rename hf, List.map_map]
  exact List.map_congr_left fun c _ => hg c

lemma argumentOfElement_rename (e : Element) :
    argumentOfElement rule (e.rename f) = argumentOfElement rule e := by
  simp only [argumentOfElement, Element.childTextD_rename hf]

lemma actionOfElement_rename (e : Element) :
    actionOfElement rule (e.rename f) = actionOfElement rule e := by
  rw [actionOfElement, actionOfElement, Element.childTextD_rename hf,
    map_listed_rename hf (argumentOfElement_rename hf)]

lemma variableOfElement_rename (e : Element) :
    variableOfElement rule (e.rename f) = variableOfElement rule e := by
  simp only [variableOfElement, Element.childTextD_rename hf]

lemma ofRoot_rename (root : Element) : ofRoot rule (root.rename f) = ofRoot rule root := by
  rw [ofRoot, ofRoot, map_listed_rename hf (actionOfElement_rename hf),
    map_listed_rename hf (variableOfElement_rename hf)]

/-- Documents whose trees differ in names that the rule does not tell apart declare the same. -/
lemma ofTree_congr {d d' : String}
    (h : (Xml.parse d).map (Element.rename f) = (Xml.parse d').map (Element.rename f)) :
    ofTree rule d = ofTree rule d' := by
  rw [ofTree_eq, ofTree_eq]
  rcases cases_of_map_eq h with ⟨cause, hd, hd'⟩ | ⟨root, root', hd, hd', hroot⟩
  · rw [hd, hd']
  · have hof := ofRoot_rename hf root
    rw [hroot, ofRoot_rename hf root'] at hof
    rw [hd, hd', Except.map, Except.map, hof]

end Renaming

/-! ## Plain documents -/

/-- The names of the elements that are looked for. -/
def keys : List String := ["actionList", "action", "argumentList", "argument",
  "serviceStateTable", "stateVariable", "name", "direction", "relatedStateVariable", "dataType"]

/-- The paths of the elements that are read as strings, but for the name of the root element. -/
def stringPaths : List (List String) := [
  ["name", "action", "actionList"],
  ["name", "argument", "argumentList", "action", "actionList"],
  ["direction", "argument", "argumentList", "action", "actionList"],
  ["relatedStateVariable", "argument", "argumentList", "action", "actionList"],
  ["name", "stateVariable", "serviceStateTable"],
  ["dataType", "stateVariable", "serviceStateTable"]]

/-- The path of an element that is read as a string. -/
def StringPath (path : List String) : Prop := path.dropLast ∈ stringPaths

instance : DecidablePred StringPath := fun path =>
  inferInstanceAs (Decidable (path.dropLast ∈ stringPaths))

/-- The rule of comparison and the strict reader take a name for the same one of the names that are
looked for, or both for none of them. -/
def KnownBy (rule : TagRule) (name : List Char) : Prop :=
  ∀ key ∈ keys, rule.matches (String.ofList name) key = (Tag.key ⟨name, []⟩ == key)

instance (rule : TagRule) : DecidablePred (KnownBy rule) := fun name =>
  inferInstanceAs
    (Decidable (∀ key ∈ keys, rule.matches (String.ofList name) key = (Tag.key ⟨name, []⟩ == key)))

/-- A service description in which, up to the end of the root element, the rule of comparison and
the strict reader find the same elements, and no element that is read as a string has a comment, a
processing instruction or a character data section in it. -/
structure Plain (rule : TagRule) (document : String) : Prop where
  admitted : Admitted (KnownBy rule) StringPath [] (events document).1

instance (rule : TagRule) (document : String) : Decidable (Plain rule document) :=
  decidable_of_iff (Admitted (KnownBy rule) StringPath [] (events document).1)
    ⟨Plain.mk, Plain.admitted⟩

/-! ## The readers agree -/

section Agreement

variable {rule : TagRule} {path : List String} {content : List Node} {e : Element} {key : String}

lemma reads_of_mem (hkey : key ∈ keys) : rule.Reads (KnownBy rule) key :=
  fun _ hname => hname key hkey

lemma childTextD_of_fieldText? {text : String} {required : Bool} (hkey : key ∈ keys)
    (h : MirrorsAll (KnownBy rule) StringPath path content e.children)
    (hq : StringPath (key :: path))
    (ht : Description.fieldText? content key required = some text) :
    e.childTextD key rule = text := by
  obtain ⟨s, hs, rfl⟩ := Option.map_eq_some_iff.1 ht
  rw [h.childTextD_of_reads (reads_of_mem hkey) hq hs, trimmed, String.toList_ofList]

/-- If two readers agree on the items of a list, they agree on the list. -/
lemma map_listed_of_mirrors {γ : Type} {f : Node → Option γ} {g : Element → γ} {list : String}
    {required : Bool} {items : List Node} {cs : List γ} (hlist : list ∈ keys) (hkey : key ∈ keys)
    (h : MirrorsAll (KnownBy rule) StringPath path content e.children)
    (hfg : ∀ tag inner (c : Element) b, tag.key = key →
      MirrorsAll (KnownBy rule) StringPath (key :: list :: path) inner c.children →
      f (.element tag inner) = some b → g c = b)
    (hitems : Node.listField? content list key required = some items)
    (hf : items.mapM f = some cs) : (listed rule list key e).map g = cs := by
  rw [listed]
  rcases h.listField?_of_reads (reads_of_mem hlist) (reads_of_mem hkey) hitems with
    ⟨hnone, -, rfl⟩ | ⟨l, hl, hall⟩
  · rw [hnone]
    simpa [eq_comm] using hf
  · rw [hl]
    have hitem : ∀ n ∈ items, ∀ c b, n.hasKey key = true ∧
        Mirrors (KnownBy rule) StringPath (list :: path) n c → f n = some b →
        some (g c) = some b := by
      rintro n - c b ⟨hnkey, hm⟩ hn
      obtain ⟨-, -, -, hchildren⟩ := hm
      rw [Node.hasKey_element, beq_iff_eq] at hnkey
      rw [hnkey] at hchildren
      rw [hfg _ _ c b hnkey hchildren hn]
    have hmap := Description.mapM_of_forall₂ (g := fun c => some (g c)) hall hitem hf
    exact Option.some.inj ((List.mapM_pure (m := Option)).symm.trans hmap)

lemma argumentOfElement_of_mirrors {tag : Tag} {r : String} {a : DeclaredArgument}
    (h : MirrorsAll (KnownBy rule) StringPath
      ["argument", "argumentList", "action", "actionList", r] content e.children)
    (ha : argumentOfRecord? (.element tag content) = some a) : argumentOfElement rule e = a := by
  simp only [argumentOfRecord?, Option.bind_eq_bind, Option.bind_eq_some_iff, Option.pure_def,
    Option.some.injEq] at ha
  obtain ⟨inner, hinner, name, h1, direction, h2, variable_, h3, rfl⟩ := ha
  obtain ⟨tag, htag⟩ := Node.record?_eq_some hinner
  cases htag
  rw [argumentOfElement,
    childTextD_of_fieldText? (by decide) h (by simp [StringPath, stringPaths]) h1,
    childTextD_of_fieldText? (by decide) h (by simp [StringPath, stringPaths]) h2,
    childTextD_of_fieldText? (by decide) h (by simp [StringPath, stringPaths]) h3]

lemma actionOfElement_of_mirrors {tag : Tag} {r : String} {a : DeclaredAction}
    (h : MirrorsAll (KnownBy rule) StringPath ["action", "actionList", r] content e.children)
    (ha : actionOfRecord? (.element tag content) = some a) : actionOfElement rule e = a := by
  simp only [actionOfRecord?, Option.bind_eq_bind, Option.bind_eq_some_iff, Option.pure_def,
    Option.some.injEq] at ha
  obtain ⟨inner, hinner, name, h1, items, hitems, arguments, harguments, rfl⟩ := ha
  obtain ⟨tag, htag⟩ := Node.record?_eq_some hinner
  cases htag
  have hlist := map_listed_of_mirrors (g := argumentOfElement rule) (by decide) (by decide) h
    (fun _ _ _ _ _ hm ha => argumentOfElement_of_mirrors hm ha) hitems harguments
  rw [actionOfElement, hlist,
    childTextD_of_fieldText? (by decide) h (by simp [StringPath, stringPaths]) h1]

lemma variableOfElement_of_mirrors {tag : Tag} {r : String} {v : String × String}
    (h : MirrorsAll (KnownBy rule) StringPath ["stateVariable", "serviceStateTable", r] content
      e.children)
    (hv : variableOfRecord? (.element tag content) = some v) : variableOfElement rule e = v := by
  simp only [variableOfRecord?, Option.bind_eq_bind, Option.bind_eq_some_iff, Option.pure_def,
    Option.some.injEq] at hv
  obtain ⟨inner, hinner, name, h1, type, h2, rfl⟩ := hv
  obtain ⟨tag, htag⟩ := Node.record?_eq_some hinner
  cases htag
  rw [variableOfElement,
    childTextD_of_fieldText? (by decide) h (by simp [StringPath, stringPaths]) h1,
    childTextD_of_fieldText? (by decide) h (by simp [StringPath, stringPaths]) h2]

/-- What the strict reader reads in a plain document, the tolerant one reads in it, too. -/
theorem ofTree_eq_ok {document : String} {r : Declarations} (hplain : Plain rule document)
    (h : ofRecords? document = some r) : ofTree rule document = .ok r := by
  simp only [ofRecords?, Option.bind_eq_bind, Option.bind_eq_some_iff, Option.pure_def,
    Option.some.injEq] at h
  obtain ⟨root, hroot, content, hc, items, hitems, actions, hactions, rows, hrows, table,
    htable, rfl⟩ := h
  obtain ⟨e, he, hm⟩ := mirrors_of_parse? hplain.admitted hroot
  obtain ⟨tag, rfl⟩ := Node.record?_eq_some hc
  obtain ⟨-, -, -, hall⟩ := hm
  have ha := map_listed_of_mirrors (g := actionOfElement rule) (by decide) (by decide) hall
    (fun _ _ _ _ _ hm ha => actionOfElement_of_mirrors hm ha) hitems hactions
  have hv := map_listed_of_mirrors (g := variableOfElement rule) (by decide) (by decide) hall
    (fun _ _ _ _ _ hm hv => variableOfElement_of_mirrors hm hv) hrows htable
  rw [ofTree_eq, he, Except.map, ofRoot, ha, hv]

end Agreement

/-- A document that the strict reader reads as the tolerant one does, if it reads it at all. -/
def ReadAsTree (rule : TagRule) (d : String) : Prop :=
  ∀ table, strictTable? rule d = some table → treeTable? rule d = some table

namespace ReadAsTree

variable {rule : TagRule} {d : String}

lemma of_ofRecords? (h : ofRecords? d = none) : ReadAsTree rule d := by
  intro table hstrict
  simp [strictTable?, h] at hstrict

/-- The strict reader reads a plain document as the tolerant one does. -/
lemma of_plain (h : Plain rule d) : ReadAsTree rule d := by
  intro table hstrict
  rw [strictTable?] at hstrict
  split at hstrict
  · rename_i hroot
    obtain ⟨r, hr, rfl⟩ := Option.map_eq_some_iff.1 hstrict
    rw [treeTable?, if_pos hroot, ofTree_eq_ok h hr]
    rfl
  · simp at hstrict

/-- For such a document the strict reader can be left out. -/
lemma toOption_parse (h : ReadAsTree rule d) : (parse rule d).toOption = treeTable? rule d := by
  rw [ServiceDescription.toOption_parse]
  cases hstrict : strictTable? rule d with
  | none => rfl
  | some table => exact (h table hstrict).symm

end ReadAsTree

end UpnpGateway.ServiceDescription
