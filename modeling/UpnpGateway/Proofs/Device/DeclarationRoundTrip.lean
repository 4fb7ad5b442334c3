/-
# Service descriptions are read as they are written

The description of a service is written from its declarations in any layout.  What is read from it
are the actions in their order, each with its arguments told apart by direction and otherwise in
their order, and a table in which the last declaration of a state variable counts; an argument has
the data type that the table has for its state variable.
-/
import Mathlib.Data.Fintype.Basic
import UpnpGateway.Proofs.Device.Declarations
import UpnpGateway.Proofs.Xml.Entries

namespace UpnpGateway

open UpnpGateway.Text UpnpGateway.Xml

/-! ## Tables of state variables -/

namespace StateTable

variable (table : StateTable) (name : String) (type : DataType)

lemma get?_cons (row : String × DataType) (rows : StateTable) :
    get? (row :: rows) name = if row.1 = name then some row.2 else get? rows name := by
  by_cases h : row.1 = name <;> simp [get?, h]

/-- What is put into a table takes the place of what was there. -/
lemma get?_put (other : String) :
    (put table name type).get? other = if name = other then some type else table.get? other := by
  induction table with
  | nil => rw [put, get?_cons]
  | cons row rows ih =>
    rw [put, get?_cons]
    by_cases hrow : row.1 = name
    · subst hrow
      rw [if_pos (beq_self_eq_true _), get?_cons]
      split <;> rfl
    · rw [if_neg (by simpa using hrow), get?_cons, ih]
      by_cases h : row.1 = other
      · rw [if_pos h, if_pos h, if_neg fun hname => hrow (h.trans hname.symm)]
      · rw [if_neg h, if_neg h]

lemma map_fst_put :
    (put table name type).map Prod.fst =
      if name ∈ table.map Prod.fst then table.map Prod.fst else table.map Prod.fst ++ [name] := by
  induction table with
  | nil => rfl
  | cons row rows ih =>
    rw [put]
    by_cases hrow : row.1 = name
    · simp [hrow]
    · rw [if_neg (by simpa using hrow), List.map_cons, ih]
      have hne : ¬ name = row.1 := Ne.symm hrow
      by_cases hmem : name ∈ rows.map Prod.fst
      · rw [if_pos hmem, if_pos (by simpa using .inr (by simpa using hmem))]
        rfl
      · rw [if_neg hmem, if_neg (by simpa [hne] using hmem)]
        rfl

/-- Each name is in the table once. -/
lemma nodup_ofRows (rows : List (String × DataType)) : ((ofRows rows).map Prod.fst).Nodup := by
  induction rows using List.reverseRecOn with
  | nil => exact List.nodup_nil
  | append_singleton rows row ih =>
    rw [ofRows, List.foldl_append, List.foldl_cons, List.foldl_nil, ← ofRows, map_fst_put]
    split
    · exact ih
    · rename_i hmem
      rw [← List.concat_eq_append]
      exact ih.concat hmem

/-- Of the declarations of a name the last one counts. -/
lemma get?_ofRows (rows : List (String × DataType)) (name : String) :
    (ofRows rows).get? name = (rows.reverse.find? fun row => row.1 == name).map Prod.snd := by
  induction rows using List.reverseRecOn with
  | nil => rfl
  | append_singleton rows row ih =>
    rw [ofRows, List.foldl_append, List.foldl_cons, List.foldl_nil, ← ofRows, get?_put, ih,
      List.reverse_append]
    by_cases h : row.1 = name <;> simp [h]

end StateTable

namespace ServiceDescription

/-! ## Service descriptions as they are written -/

/-- The words in a service description. -/
inductive Word where
  | scpd | actionList | action | name | argumentList | argument | direction
  | relatedStateVariable | serviceStateTable | stateVariable | dataType
deriving DecidableEq

instance : Fintype Word where
  elems := {.scpd, .actionList, .action, .name, .argumentList, .argument, .direction,
    .relatedStateVariable, .serviceStateTable, .stateVariable, .dataType}
  complete k := by cases k <;> decide

/-- The words in a service description as they are spelled. -/
def Word.spelling : Word → String
  | scpd => "scpd"
  | actionList => "actionList"
  | action => "action"
  | name => "name"
  | argumentList => "argumentList"
  | argument => "argument"
  | direction => "direction"
  | relatedStateVariable => "relatedStateVariable"
  | serviceStateTable => "serviceStateTable"
  | stateVariable => "stateVariable"
  | dataType => "dataType"

/-- The names of the elements of a service description. -/
def vocabulary : Vocabulary Word where
  spelling := Word.spelling

/-- The element that is written for an argument. -/
def argumentEntry (a : DeclaredArgument) : Entry Word :=
  .record .argument [.ofText .name a.name, .ofText .direction a.direction,
    .ofText .relatedStateVariable a.relatedStateVariable]

/-- The element that is written for a state variable. -/
def variableEntry (v : String × String) : Entry Word :=
  .record .stateVariable [.ofText .name v.1, .ofText .dataType v.2]

section Writing

variable (keep : Word → Bool)

/-- The element that is written for an action; `keep` says which lists without items are
written. -/
def actionEntry (a : DeclaredAction) : Entry Word :=
  .record .action (.ofText .name a.name ::
    Entry.ofItems (keep .argumentList) .argumentList (a.arguments.map argumentEntry))

/-- The root element that is written for some declarations. -/
def rootEntry (ds : Declarations) : Entry Word :=
  .record .scpd (
    Entry.ofItems (keep .actionList) .actionList (ds.actions.map (actionEntry keep)) ++
    Entry.ofItems (keep .serviceStateTable) .serviceStateTable
      (ds.stateVariables.map variableEntry))

end Writing

/-- The texts of an argument. -/
def DeclaredArgument.texts (a : DeclaredArgument) : List String :=
  [a.name, a.direction, a.relatedStateVariable]

/-- The texts of an action and of its arguments. -/
def DeclaredAction.texts (a : DeclaredAction) : List String :=
  a.name :: a.arguments.flatMap DeclaredArgument.texts

/-- The texts of some declarations. -/
def Declarations.texts (ds : Declarations) : List String :=
  ds.actions.flatMap DeclaredAction.texts ++ ds.stateVariables.flatMap fun v => [v.1, v.2]

/-! ## Reading -/

lemma map_listed_eq {α : Type} (read : Element → α) (rule : TagRule) (list item : String)
    (e : Element) :
    (listed rule list item e).map read =
      (e.child? list rule).elim [] fun c => (c.childrenNamed item rule).map read := by
  rw [listed]
  cases e.child? list rule <;> rfl

section Reading

variable (L : Layout vocabulary) {rule : TagRule} (hrule : rule ≠ .exact) (keep : Word → Bool)
include hrule

lemma argumentOfElement_argumentEntry {a : DeclaredArgument}
    (htexts : ∀ t ∈ a.texts, trimmed t = t) :
    argumentOfElement rule (L.element (argumentEntry a)) = a := by
  simp only [DeclaredArgument.texts, List.forall_mem_cons] at htexts
  obtain ⟨h1, h2, h3, -⟩ := htexts
  calc argumentOfElement rule (L.element (argumentEntry a))
      = ⟨(L.element (argumentEntry a)).childTextD (vocabulary.spelling .name) rule,
          (L.element (argumentEntry a)).childTextD (vocabulary.spelling .direction) rule,
          (L.element (argumentEntry a)).childTextD
            (vocabulary.spelling .relatedStateVariable) rule⟩ := rfl
    _ = a := by
      rw [L.childTextD_of_trimmed hrule h1 rfl, L.childTextD_of_trimmed hrule h2 rfl,
        L.childTextD_of_trimmed hrule h3 rfl]

lemma actionOfElement_actionEntry {a : DeclaredAction} (htexts : ∀ t ∈ a.texts, trimmed t = t) :
    actionOfElement rule (L.element (actionEntry keep a)) = a := by
  rw [DeclaredAction.texts, List.forall_mem_cons] at htexts
  have hread : ∀ b ∈ a.arguments, argumentOfElement rule (L.element (argumentEntry b)) = b :=
    fun b hb => argumentOfElement_argumentEntry L hrule
      fun t ht => htexts.2 t (List.mem_flatMap.2 ⟨b, hb, ht⟩)
  have hname : (L.element (actionEntry keep a)).childTextD "name" rule = a.name :=
    L.childTextD_of_trimmed hrule (j := .name) htexts.1 rfl
  have hlist : ((actionEntry keep a).entries.find? fun g => g.key = .argumentList) =
      (Entry.ofItems (keep .argumentList) .argumentList (a.arguments.map argumentEntry)).head? := by
    simp [actionEntry, Entry.entries, Entry.find?_ofItems]
  have harguments : (listed rule "argumentList" "argument" (L.element (actionEntry keep a))).map
      (argumentOfElement rule) = a.arguments := by
    rw [map_listed_eq]
    exact L.map_items_element hrule hlist (fun _ => rfl) hread
  rw [actionOfElement, hname, harguments]

lemma variableOfElement_variableEntry {v : String × String} (h1 : trimmed v.1 = v.1)
    (h2 : trimmed v.2 = v.2) : variableOfElement rule (L.element (variableEntry v)) = v := by
  have hname : (L.element (variableEntry v)).childTextD "name" rule = v.1 :=
    L.childTextD_of_trimmed hrule (j := .name) h1 rfl
  have htype : (L.element (variableEntry v)).childTextD "dataType" rule = v.2 :=
    L.childTextD_of_trimmed hrule (j := .dataType) h2 rfl
  rw [variableOfElement, hname, htype]

/-- What is read of a root element are the declarations that it was written for. -/
lemma ofRoot_rootEntry {ds : Declarations} (htexts : ∀ t ∈ ds.texts, trimmed t = t) :
    ofRoot rule (L.element (rootEntry keep ds)) = ds := by
  rw [Declarations.texts, List.forall_mem_append] at htexts
  have haction : ∀ a ∈ ds.actions, actionOfElement rule (L.element (actionEntry keep a)) = a :=
    fun a ha => actionOfElement_actionEntry L hrule keep
      fun t ht => htexts.1 t (List.mem_flatMap.2 ⟨a, ha, ht⟩)
  have hvariable : ∀ v ∈ ds.stateVariables,
      variableOfElement rule (L.element (variableEntry v)) = v :=
    fun v hv => variableOfElement_variableEntry L hrule
      (htexts.2 _ (List.mem_flatMap.2 ⟨v, hv, by simp⟩))
      (htexts.2 _ (List.mem_flatMap.2 ⟨v, hv, by simp⟩))
  have hlist : ((rootEntry keep ds).entries.find? fun g => g.key = .actionList) =
        (Entry.ofItems (keep .actionList) .actionList (ds.actions.map (actionEntry keep))).head? ∧
      ((rootEntry keep ds).entries.find? fun g => g.key = .serviceStateTable) =
        (Entry.ofItems (keep .serviceStateTable) .serviceStateTable
          (ds.stateVariables.map variableEntry)).head? := by
    simp [rootEntry, Entry.entries, Entry.find?_ofItems]
  have hactions : (listed rule "actionList" "action" (L.element (rootEntry keep ds))).map
      (actionOfElement rule) = ds.actions := by
    rw [map_listed_eq]
    exact L.map_items_element hrule hlist.1 (fun _ => rfl) haction
  have hvariables : (listed rule "serviceStateTable" "stateVariable"
      (L.element (rootEntry keep ds))).map (variableOfElement rule) = ds.stateVariables := by
    rw [map_listed_eq]
    exact L.map_items_element hrule hlist.2 (fun _ => rfl) hvariable
  rw [ofRoot, hactions, hvariables]

end Reading

/-! ## Both readers -/

/-- All names that are looked for are words of service descriptions. -/
lemma exists_spelling_of_mem_keys : ∀ key ∈ keys, ∃ k, vocabulary.spelling k = key := by
  decide +kernel

section Document

variable (L : Layout vocabulary) {rule : TagRule} (hrule : rule ≠ .exact) (keep : Word → Bool)
include hrule

lemma knownBy_name (k : Word) : KnownBy rule (L.name k) := by
  intro key hkey
  obtain ⟨j, rfl⟩ := exists_spelling_of_mem_keys key hkey
  rw [L.matches_name hrule, L.key_name, Bool.eq_iff_iff, decide_eq_true_iff, beq_iff_eq,
    vocabulary.spelling_injective.eq_iff]

lemma plain_write (f : Entry Word) : Plain rule (L.write f) :=
  ⟨L.admitted_write (knownBy_name L hrule) (by decide) f⟩

variable {ds : Declarations} (htexts : ∀ t ∈ ds.texts, trimmed t = t)
include htexts

lemma ofTree_rootEntry : ofTree rule (L.write (rootEntry keep ds)) = .ok ds := by
  rw [ofTree_eq, L.parse_write, Except.map, ofRoot_rootEntry L hrule keep htexts]

/-- Whichever reader reads a service description, it comes to the same declarations. -/
lemma parse_rootEntry_eq_resolve :
    parse rule (L.write (rootEntry keep ds)) = .ok ds.resolve := by
  have htree := ofTree_rootEntry L hrule keep htexts
  have hname : rule.matches (String.ofList (L.name (rootEntry keep ds).key)) "scpd" = true :=
    (L.matches_name hrule .scpd .scpd).trans (by decide)
  rw [parse, L.rootName_write]
  simp only [Except.mapError, bind, Except.bind, hname, Bool.not_true, if_neg Bool.false_ne_true]
  cases hrecords : ofRecords? (L.write (rootEntry keep ds)) with
  | none =>
    rw [htree]
    rfl
  | some r =>
    have hr := ofTree_eq_ok (plain_write L hrule _) hrecords
    obtain rfl := Except.ok.inj (htree.symm.trans hr)
    rfl

end Document

/-! ## What is read -/

/-- The data type that the last declaration of a state variable gives it. -/
def Declarations.typeOf? (ds : Declarations) (name : String) : Option DataType :=
  (ds.stateVariables.reverse.find? fun v => v.1 == name).map fun v => .ofName v.2

/-- The argument that is declared: if its state variable is not declared, it is a text. -/
def Declarations.argument (ds : Declarations) (a : DeclaredArgument) : Argument :=
  ⟨a.name, a.relatedStateVariable, (ds.typeOf? a.relatedStateVariable).getD .string⟩

/-- An action has the arguments that are declared for it, each of them once: those of the direction
`out` come back, the others are sent, and both are in declared order. -/
structure HasDeclared (ds : Declarations) (a : DeclaredAction) (action : Action) : Prop where
  name_eq : action.name = a.name
  outputs_eq : action.outputs =
    (a.arguments.filter fun b => lower b.direction.toList = "out".toList).map ds.argument
  inputs_eq : action.inputs =
    (a.arguments.filter fun b => lower b.direction.toList ≠ "out".toList).map ds.argument
  perm : (action.outputs ++ action.inputs).Perm (a.arguments.map ds.argument)

/-- A table says what is declared: the actions in declared order, and for each state variable the
data type of its last declaration. -/
structure Tells (ds : Declarations) (table : ServiceTable) : Prop where
  actions : List.Forall₂ (HasDeclared ds) ds.actions table.actions
  get?_stateVariables : ∀ name, table.stateVariables.get? name = ds.typeOf? name
  nodup : (table.stateVariables.map Prod.fst).Nodup

lemma get?_resolve (ds : Declarations) (name : String) :
    ds.resolve.stateVariables.get? name = ds.typeOf? name := by
  rw [Declarations.resolve, StateTable.get?_ofRows, ← List.map_reverse, List.find?_map,
    Option.map_map, Declarations.typeOf?]
  simp only [Function.comp_def]

lemma isOutput_eq (a : DeclaredArgument) :
    a.isOutput = decide (lower a.direction.toList = "out".toList) := by
  have hout : lower "out".toList = "out".toList := by decide
  rw [DeclaredArgument.isOutput, sameLetters, hout, beq_eq_decide]

lemma hasDeclared_resolveAction (ds : Declarations) (a : DeclaredAction) :
    HasDeclared ds a (resolveAction ds.resolve.stateVariables a) := by
  have hargument : resolveArgument ds.resolve.stateVariables = ds.argument := by
    funext b
    rw [resolveArgument, get?_resolve, Declarations.argument]
  refine ⟨rfl, ?_, ?_, ?_⟩
  · simp only [resolveAction, hargument, isOutput_eq]
  · simp only [resolveAction, hargument, isOutput_eq, ne_eq, decide_not]
  · rw [resolveAction, hargument, ← List.map_append]
    exact (List.filter_append_perm _ _).map _

lemma tells_resolve (ds : Declarations) : Tells ds ds.resolve := by
  refine ⟨?_, get?_resolve ds, StateTable.nodup_ofRows _⟩
  have hactions : ds.resolve.actions =
      ds.actions.map (resolveAction ds.resolve.stateVariables) := rfl
  rw [hactions, List.forall₂_map_right_iff]
  exact List.forall₂_same.2 fun a _ => hasDeclared_resolveAction ds a

/-- A service description is read as it was written, in any layout, and by the tolerant reader
alone as well as by both. -/
theorem tells_parse_rootEntry {rule : TagRule} (hrule : rule ≠ .exact) (L : Layout vocabulary)
    (keep : Word → Bool) {ds : Declarations} (htexts : ∀ t ∈ ds.texts, trimmed t = t) :
    ∃ table, parse rule (L.write (rootEntry keep ds)) = .ok table ∧
      (ofTree rule (L.write (rootEntry keep ds))).map Declarations.resolve = .ok table ∧
      Tells ds table := by
  refine ⟨ds.resolve, parse_rootEntry_eq_resolve L hrule keep htexts, ?_, tells_resolve ds⟩
  rw [ofTree_rootEntry L hrule keep htexts, Except.map]

/-! ### A service with a name declared twice -/

/-- A service with two actions of one name, arguments of several directions, a state variable that
is declared twice and one that is not declared. -/
def muddledDeclarations : Declarations where
  actions := [
    ⟨"Get", [⟨"A", "OUT", "V"⟩, ⟨"B", "in", "W"⟩, ⟨"C", "", "V"⟩, ⟨"D", "out", "X"⟩]⟩,
    ⟨"Get", []⟩]
  stateVariables := [("V", "ui2"), ("W", "a<b"), ("V", "BOOLEAN")]

/-- A layout with a namespace for all elements and with text between the tags. -/
def muddledLayout : Layout vocabulary where
  prolog := none
  space _ := some ['s']
  attributes _ := []
  gap := .ofText "out".toList

/-- The arguments of the service are read with the data types of the last declarations. -/
theorem tells_parse_muddledDeclarations :
    (∀ t ∈ muddledDeclarations.texts, trimmed t = t) ∧
      ∃ table, parse .ignoreCase (muddledLayout.write
          (rootEntry (fun k => k ≠ .argumentList) muddledDeclarations)) = .ok table ∧
        table.actions.map Action.outputs = [[⟨"A", "V", .boolean⟩, ⟨"D", "X", .string⟩], []] ∧
        table.actions.map Action.inputs =
          [[⟨"B", "W", .other "a<b"⟩, ⟨"C", "V", .boolean⟩], []] := by
  have htexts : ∀ t ∈ muddledDeclarations.texts, trimmed t = t := by decide +kernel
  have hrule : TagRule.ignoreCase ≠ .exact := by decide
  obtain ⟨table, hparse, -, htable⟩ :=
    tells_parse_rootEntry hrule muddledLayout (fun k => k ≠ .argumentList) htexts
  refine ⟨htexts, table, hparse, ?_⟩
  obtain ⟨first, rest, hfirst, hrest, hactions⟩ := List.forall₂_cons_left_iff.1 htable.actions
  obtain ⟨second, rest, hsecond, hnil, rfl⟩ := List.forall₂_cons_left_iff.1 hrest
  obtain rfl := List.forall₂_nil_left_iff.1 hnil
  simp only [hactions, List.map_cons, List.map_nil, hfirst.outputs_eq, hfirst.inputs_eq,
    hsecond.outputs_eq, hsecond.inputs_eq]
  decide +kernel

end ServiceDescription

end UpnpGateway
