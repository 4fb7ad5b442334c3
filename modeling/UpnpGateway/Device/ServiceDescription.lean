/-
# Service descriptions

The description of a service declares its actions, with the direction of each argument, and
the data types of its state variables.  As with the root document, it is read strictly first
and then as a tree; but the name of its root element is checked either way.  An argument
takes the data type of the state variable that it is related to.
-/
import UpnpGateway.Device.Description

namespace UpnpGateway

open UpnpGateway.Text UpnpGateway.Xml

/-- Why a service description says nothing. -/
inductive ServiceDescriptionError where
  /-- It has no tree. -/
  | unreadable (cause : ReadError)
  /-- Its root element has the given name. -/
  | wrongRoot (name : String)
deriving DecidableEq, Repr

/-- The text that is shown for a service description that says nothing. -/
def ServiceDescriptionError.message : ServiceDescriptionError → String
  | .unreadable cause => cause.message
  | .wrongRoot name => s!"root element is <{name}>, not <scpd>"

namespace ServiceDescription

/-- An argument as declared. -/
structure DeclaredArgument where
  /-- The name of the argument. -/
  name : String
  /-- The direction; anything but `out` means that the argument is sent. -/
  direction : String
  /-- The related state variable. -/
  relatedStateVariable : String
deriving DecidableEq, Repr

/-- An action as declared. -/
structure DeclaredAction where
  /-- The name of the action. -/
  name : String
  /-- The arguments of both directions. -/
  arguments : List DeclaredArgument
deriving DecidableEq, Repr

/-- A service description as declared. -/
structure Declarations where
  /-- The actions. -/
  actions : List DeclaredAction
  /-- The state variables with the names of their data types. -/
  stateVariables : List (String × String)
deriving DecidableEq, Repr

/-! ## Strictly, as records -/

/-- The argument of a record; only the name is required. -/
def argumentOfRecord? (n : Node) : Option DeclaredArgument := do
  let content ← n.record? ["name", "direction", "relatedStateVariable"]
  return {
    name := ← Description.fieldText? content "name" true
    direction := ← Description.fieldText? content "direction" false
    relatedStateVariable := ← Description.fieldText? content "relatedStateVariable" false }

/-- The action of a record; only the name is required. -/
def actionOfRecord? (n : Node) : Option DeclaredAction := do
  let content ← n.record? ["name", "argumentList"]
  let name ← Description.fieldText? content "name" true
  let arguments ← Node.listField? content "argumentList" "argument" false
  return ⟨name, ← arguments.mapM argumentOfRecord?⟩

/-- The state variable of a record; only the name is required. -/
def variableOfRecord? (n : Node) : Option (String × String) := do
  let content ← n.record? ["name", "dataType"]
  return (← Description.fieldText? content "name" true,
    ← Description.fieldText? content "dataType" false)

/-- The declarations in a document that is read strictly; the table of state variables is
required. -/
def ofRecords? (document : String) : Option Declarations := do
  let root ← Node.parse? document
  let content ← root.record? ["actionList", "serviceStateTable"]
  let actions ← Node.listField? content "actionList" "action" false
  let actions ← actions.mapM actionOfRecord?
  let rows ← Node.listField? content "serviceStateTable" "stateVariable" true
  let rows ← rows.mapM variableOfRecord?
  return ⟨actions, rows⟩

/-! ## Tolerantly, as a tree -/

/-- The elements of a list in an element. -/
def listed (rule : TagRule) (list item : String) (e : Element) : List Element :=
  match e.child? list rule with
  | some l => l.childrenNamed item rule
  | none => []

/-- The argument of an element. -/
def argumentOfElement (rule : TagRule) (e : Element) : DeclaredArgument where
  name := e.childTextD "name" rule
  direction := e.childTextD "direction" rule
  relatedStateVariable := e.childTextD "relatedStateVariable" rule

/-- The action of an element. -/
def actionOfElement (rule : TagRule) (e : Element) : DeclaredAction where
  name := e.childTextD "name" rule
  arguments := (listed rule "argumentList" "argument" e).map (argumentOfElement rule)

/-- The state variable of an element. -/
def variableOfElement (rule : TagRule) (e : Element) : String × String :=
  (e.childTextD "name" rule, e.childTextD "dataType" rule)

/-- The declarations in a document that is read as a tree. -/
def ofTree (rule : TagRule) (document : String) : Except ReadError Declarations := do
  let root ← Xml.parse document
  return ⟨(listed rule "actionList" "action" root).map (actionOfElement rule),
    (listed rule "serviceStateTable" "stateVariable" root).map (variableOfElement rule)⟩

/-! ## Together -/

/-- The argument with the data type of its state variable, or a text if there is none. -/
def resolveArgument (table : StateTable) (a : DeclaredArgument) : Argument :=
  ⟨a.name, a.relatedStateVariable, (table.get? a.relatedStateVariable).getD .string⟩

/-- Whether the argument comes back from the gateway. -/
def DeclaredArgument.isOutput (a : DeclaredArgument) : Bool :=
  sameLetters a.direction.toList "out".toList

/-- The action with its arguments told apart by direction. -/
def resolveAction (table : StateTable) (a : DeclaredAction) : Action where
  name := a.name
  inputs := (a.arguments.filter (!·.isOutput)).map (resolveArgument table)
  outputs := (a.arguments.filter (·.isOutput)).map (resolveArgument table)

/-- What a service can do according to its declarations. -/
def Declarations.resolve (d : Declarations) : ServiceTable :=
  let table := StateTable.ofRows (d.stateVariables.map fun row => (row.1, .ofName row.2))
  ⟨d.actions.map (resolveAction table), table⟩

/-- What a service can do according to a document: read strictly if that succeeds, and
otherwise as a tree with the names compared by `rule`. -/
def parse (rule : TagRule) (document : String) :
    Except ServiceDescriptionError ServiceTable := do
  let name ← (rootName document).mapError .unreadable
  if !rule.matches name "scpd" then
    throw (.wrongRoot name)
  match ofRecords? document with
  | some d => return d.resolve
  | none => return (← (ofTree rule document).mapError .unreadable).resolve

end ServiceDescription

end UpnpGateway
