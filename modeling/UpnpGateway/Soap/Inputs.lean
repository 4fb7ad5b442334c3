/-
# The arguments of a request

A caller names the arguments of an action in any order.  They are sent in the order in which
the service declares them, each one written for its declared type; nothing is sent unless
there is exactly what is declared.
-/
import UpnpGateway.Device.Basic
import UpnpGateway.Soap.Value

namespace UpnpGateway.Soap

/-- What is wrong with an argument. -/
inductive ArgumentFlaw where
  /-- The action does not declare it. -/
  | undeclared
  /-- The caller does not supply it. -/
  | missing
  /-- Its value cannot be written for its type. -/
  | unfit (cause : EncodeError)
deriving DecidableEq, Repr

/-- The text that is shown for a flaw. -/
def ArgumentFlaw.message : ArgumentFlaw → String
  | undeclared => "not declared by the action"
  | missing => "missing"
  | unfit cause => cause.message

/-- An argument with a flaw. -/
structure ArgumentError where
  /-- The name of the argument. -/
  argument : String
  /-- What is wrong with it. -/
  flaw : ArgumentFlaw
deriving DecidableEq, Repr

/-- The written value of a declared argument: that of the first supplied one of its name. -/
def encodeInput (args : List (String × Value)) (input : Argument) :
    Except ArgumentError (String × String) :=
  match args.find? fun arg => arg.1 == input.name with
  | none => .error ⟨input.name, .missing⟩
  | some arg =>
    match arg.2.encode input.dataType with
    | .ok s => .ok (input.name, s)
    | .error e => .error ⟨input.name, .unfit e⟩

/-- The names and written values of all arguments, in declared order.  An argument that is not
declared is found before one that is missing or does not fit. -/
def encodeInputs (action : Action) (args : List (String × Value)) :
    Except ArgumentError (List (String × String)) :=
  match args.find? fun arg => !action.inputs.any fun input => input.name == arg.1 with
  | some arg => .error ⟨arg.1, .undeclared⟩
  | none => action.inputs.mapM (encodeInput args)

end UpnpGateway.Soap
