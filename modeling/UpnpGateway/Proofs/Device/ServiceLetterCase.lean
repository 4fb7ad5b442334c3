/-
# The case of letters in service descriptions

With the rule that ignores the case of letters, the tolerant reader takes a service description in
whatever case the names of its tags are written.  The strict reader comes first, however, and passes
over elements whose names are in another case, unless the table of state variables or the name of
something is among them; then it is out of the way.  So the case of letters matters in the name of
a list that may be left out, and it does not matter in the name of the table.
-/
import UpnpGateway.Proofs.Device.Declarations
import UpnpGateway.Proofs.Xml.LetterCase

namespace UpnpGateway.ServiceDescription

open UpnpGateway.Text UpnpGateway.Xml

/-! ## The tolerant reader -/

/-- The tolerant reader alone does not notice the case of letters. -/
lemma treeTable?_recased {d d' : String} (h : Recased d.toList d'.toList) :
    treeTable? .ignoreCase d = treeTable? .ignoreCase d' := by
  rw [treeTable?, treeTable?, hasRoot, hasRoot, rootName_recased h,
    ofTree_congr ignores_lower (Xml.parse_recased h)]

/-! ## The strict reader -/

/-- The strict reader asks for the table of state variables. -/
lemma ofRecords?_eq_none {d : String}
    (h : ∀ e ∈ (events d).1, ∀ tag, e.tag? = some tag → tag.key ≠ "serviceStateTable") :
    ofRecords? d = none := by
  by_contra hne
  obtain ⟨r, hr⟩ := Option.ne_none_iff_exists'.1 hne
  simp only [ofRecords?, Option.bind_eq_bind, Option.bind_eq_some_iff, Option.pure_def,
    Option.some.injEq] at hr
  obtain ⟨root, hroot, content, hc, -, -, -, -, rows, hrows, -⟩ := hr
  have hnames : ∀ e ∈ (events d).1, ∀ tag, e.tag? = some tag →
      Tag.key ⟨tag.name, []⟩ ≠ "serviceStateTable" := h
  obtain ⟨e, -, hm⟩ := mirrors_of_parse?
    (admitted_of_forall (N := fun name => Tag.key ⟨name, []⟩ ≠ "serviceStateTable") hnames [])
    hroot
  obtain ⟨tag, rfl⟩ := Node.record?_eq_some hc
  obtain ⟨-, -, -, hall⟩ := hm
  rw [Node.listField?] at hrows
  split at hrows
  · simp at hrows
  · simp at hrows
  · rename_i n hfield
    have hkey := hasKey_of_field? hfield
    cases n with
    | text data => simp [Node.hasKey] at hkey
    | element tag' inner =>
      obtain ⟨_, -, hname, -, -⟩ := hall.exists_of_mem (Node.mem_of_field? hfield)
      rw [Node.hasKey_element, beq_iff_eq] at hkey
      exact hname hkey

/-- The strict reader finds no table in a document whose names are all in upper case. -/
lemma ofRecords?_eq_none_of_inCapitals {d : String}
    (h : ∀ e ∈ (events d).1, ∀ tag, e.tag? = some tag → InCapitals tag.name) :
    ofRecords? d = none := by
  refine ofRecords?_eq_none fun e he tag htag hkey => ?_
  have hmem : 's' ∈ tag.name := mem_name_of_mem_key (by rw [hkey]; decide)
  simpa using h e he tag htag 's' hmem

/-! ## Both readers -/

/-- The ways to write a service description with the case of letters changed in names say the same
where the strict reader passes over nothing, and only there. -/
structure LetterCase (d : String) : Prop where
  /-- The case of letters does not matter between two documents that the strict reader, if it reads
  them, reads as the tolerant one does: both say nothing, or both the same. -/
  same : ∀ d' : String, Recased d.toList d'.toList →
    ReadAsTree .ignoreCase d → ReadAsTree .ignoreCase d' →
    (parse .ignoreCase d').toOption = (parse .ignoreCase d).toOption
  /-- It matters to no way to write the document only if all are such documents. -/
  same_iff : (∀ d' : String, Recased d.toList d'.toList →
      (parse .ignoreCase d').toOption = (parse .ignoreCase d).toOption) ↔
    ∀ d' : String, Recased d.toList d'.toList → ReadAsTree .ignoreCase d'
  /-- A document is such a one if the names that are looked for are as in the standard and the
  strings are without interruptions. -/
  plain : ∀ d' : String, Recased d.toList d'.toList → Plain .ignoreCase d' →
    ReadAsTree .ignoreCase d'
  /-- A document is such a one if no name in it is that of the table of state variables as in the
  standard. -/
  no_table : ∀ d' : String, Recased d.toList d'.toList →
    (∀ e ∈ (events d').1, ∀ tag, e.tag? = some tag → tag.key ≠ "serviceStateTable") →
    ReadAsTree .ignoreCase d'

/-- What the case of letters in names does to the reading of a service description. -/
theorem letterCase (d : String) : LetterCase d := by
  have hpair : ∀ d' : String, Recased d.toList d'.toList →
      ReadAsTree .ignoreCase d → ReadAsTree .ignoreCase d' →
      (parse .ignoreCase d').toOption = (parse .ignoreCase d).toOption := by
    intro d' hr h h'
    rw [h.toOption_parse, h'.toOption_parse, treeTable?_recased hr]
  constructor
  case same => exact hpair
  case same_iff =>
    constructor
    · intro hall d' hr table hstrict
      -- the strict reader is out of the way where all names are in upper case
      obtain ⟨u, hu, hupper⟩ := exists_recased_document d
      have hread : ReadAsTree .ignoreCase u :=
        .of_ofRecords? (ofRecords?_eq_none_of_inCapitals hupper)
      calc treeTable? .ignoreCase d'
          = treeTable? .ignoreCase u := by rw [← treeTable?_recased hr, treeTable?_recased hu]
        _ = (parse .ignoreCase u).toOption := hread.toOption_parse.symm
        _ = (parse .ignoreCase d').toOption := (hall u hu).trans (hall d' hr).symm
        _ = some table := by rw [toOption_parse, hstrict, Option.some_or]
    · intro hall d' hr
      exact hpair d' hr (hall d (.same _)) (hall d' hr)
  case plain => exact fun d' _ h => .of_plain h
  case no_table => exact fun d' _ h => .of_ofRecords? (ofRecords?_eq_none h)

/-- The name of the root element of a service description. -/
def scpdName : List Char := ['s', 'c', 'p', 'd']

/-- The name of an action in a service description. -/
def actionName : List Char := ['a', 'c', 't', 'i', 'o', 'n']

/-- The name of a name in a service description. -/
def nameName : List Char := ['n', 'a', 'm', 'e']

/-- A service description with the given names for the list of actions, in which there is the action
`A`, and for the table of state variables. -/
def documentWith (list table : List Char) : String :=
  String.ofList ('<' :: (scpdName ++ '>' :: '<' :: (list ++ '>' :: '<' :: (actionName ++ '>' ::
    '<' :: (nameName ++ '>' :: (['A'] ++ '<' :: '/' :: (nameName ++ '>' ::
    '<' :: '/' :: (actionName ++ '>' :: '<' :: '/' :: (list ++ '>' ::
    '<' :: (table ++ '>' :: '<' :: '/' :: (table ++ '>' ::
    '<' :: '/' :: (scpdName ++ ['>']))))))))))))

lemma recased_documentWith {list list' table table' : List Char} (hl : IsName list)
    (ht : IsName table) (hlist : lower list = lower list') (htable : lower table = lower table') :
    Recased (documentWith list table).toList (documentWith list' table').toList := by
  have hscpd : IsName scpdName := by decide
  have haction : IsName actionName := by decide
  have hname : IsName nameName := by decide
  rw [documentWith, documentWith, String.toList_ofList, String.toList_ofList]
  refine .of_opening hscpd rfl (.of_opening hl hlist (.of_opening haction rfl
    (.of_opening hname rfl ?_)))
  refine .of_text (by decide) (fun c hc => by cases hc; rfl) ?_
  refine .of_closing hname rfl (.of_closing haction rfl (.of_closing hl hlist ?_))
  exact .of_opening ht htable (.of_closing ht htable (.same _))

/-- Under the rule that ignores the case of letters, it matters in the name of the list of
actions. -/
theorem parse_ignoreCase_list :
    Recased (documentWith "actionList".toList "serviceStateTable".toList).toList
        (documentWith "ActionList".toList "serviceStateTable".toList).toList ∧
      (parse .ignoreCase
        (documentWith "actionList".toList "serviceStateTable".toList)).toOption.map
          (·.actions.map Action.name) = some ["A"] ∧
      (parse .ignoreCase
        (documentWith "ActionList".toList "serviceStateTable".toList)).toOption.map
          (·.actions.map Action.name) = some [] := by
  refine ⟨recased_documentWith (by decide) (by decide) (by decide) rfl, ?_, ?_⟩
  · decide +kernel
  · decide +kernel

/-- It does not matter if the name of the table is among those in another case. -/
theorem parse_ignoreCase_table :
    (parse .ignoreCase
        (documentWith "ActionList".toList "ServiceStateTable".toList)).toOption =
      (parse .ignoreCase
        (documentWith "actionList".toList "serviceStateTable".toList)).toOption := by
  have hr : Recased (documentWith "actionList".toList "serviceStateTable".toList).toList
      (documentWith "ActionList".toList "ServiceStateTable".toList).toList :=
    recased_documentWith (by decide) (by decide) (by decide) (by decide)
  have hno : (events (documentWith "ActionList".toList "ServiceStateTable".toList)).1.all
      (fun e => e.tag?.all fun tag => tag.key != "serviceStateTable") = true := by
    decide +kernel
  have hcase := letterCase (documentWith "actionList".toList "serviceStateTable".toList)
  refine hcase.same _ hr (hcase.plain _ (.same _) (by decide +kernel)) (hcase.no_table _ hr ?_)
  intro e he tag htag
  simpa [htag] using List.all_eq_true.1 hno e he

end UpnpGateway.ServiceDescription
