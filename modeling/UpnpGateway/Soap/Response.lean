/-
# Answers to actions

The answer to an action holds one slot for each output that the service declares, in declared
order.  A slot is empty if the gateway left the output out or the answer cannot be read; it
is up to the caller which outputs it cannot do without.
-/
import UpnpGateway.Device.Basic
import UpnpGateway.Error
import UpnpGateway.Soap.Envelope

namespace UpnpGateway.Soap

open UpnpGateway.Xml

/-- The answer to an action. -/
structure Response where
  /-- The name of the action. -/
  action : String
  /-- The declared outputs with their values. -/
  values : List (String × Option String)
deriving DecidableEq, Repr

namespace Response

/-- The value of an output, if there is one. -/
def get? (r : Response) (name : String) : Option String :=
  (r.values.find? fun slot => slot.1 == name).bind Prod.snd

/-- Whether an output has no value. -/
def isMissing (r : Response) (name : String) : Bool := (r.get? name).isNone

/-- The value of an output that is needed. -/
def require (r : Response) (name : String) : Except Error String :=
  match r.get? name with
  | some value => .ok value
  | none => .error (.missingOutput r.action name)

/-- The slot of an output among the values that were received. -/
def slot (rule : TagRule) (received : List (String × String)) (output : Argument) :
    String × Option String :=
  (output.name, (received.find? fun p => rule.matches p.1 output.name).map Prod.snd)

/-- The answer in an envelope, with names compared by `rule`. -/
def ofEnvelope (rule : TagRule) (action : Action) (envelope : String) : Response where
  action := action.name
  values :=
    let received :=
      match readArguments rule (action.name ++ "Response") envelope with
      | .ok received => received
      | .error _ => []
    action.outputs.map (slot rule received)

/-- The slots are those of the declared outputs, in declared order. -/
theorem map_fst_values_ofEnvelope (rule : TagRule) (action : Action) (envelope : String) :
    (ofEnvelope rule action envelope).values.map Prod.fst =
      action.outputs.map Argument.name := by
  simp only [ofEnvelope, List.map_map]
  rfl

end Response

end UpnpGateway.Soap
