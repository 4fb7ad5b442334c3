/-
# Invoking actions

An action is invoked on a service that declares it.  Everything that can be checked is
checked before anything is sent; what comes back is an answer, a refusal by the gateway, or a
status without one.
-/
import UpnpGateway.Http.Client
import UpnpGateway.Soap.Inputs
import UpnpGateway.Soap.Response

namespace UpnpGateway.Soap

open UpnpGateway.Http UpnpGateway.Net

/-- A request for an action that has passed all checks. -/
structure Call where
  /-- The action. -/
  action : Action
  /-- What is sent as the name of the action. -/
  soapAction : String
  /-- The envelope with the arguments. -/
  envelope : String
deriving DecidableEq, Repr

/-- Checks a request for an action of a service. -/
def prepare (service : Service) (name : String) (args : List (String × Value)) :
    Except Error Call :=
  match service.action? name with
  | none => .error (.actionUndeclared name service.serviceType)
  | some action =>
    match encodeInputs action args with
    | .error e => .error (.invalidArgument action.name e.argument e.flaw.message)
    | .ok inputs =>
      .ok ⟨action, "\"" ++ service.serviceType ++ "#" ++ name ++ "\"",
        requestEnvelope service.serviceType name inputs⟩

/-- What a reply says about an action. -/
def interpret (profile : Profile) (action : Action) (reply : Reply) : Except Error Response :=
  if reply.isSuccess then .ok (.ofEnvelope profile.tagRule action reply.body)
  else
    match Fault.parse? profile reply.body with
    | some fault => .error (.refused action.name fault)
    | none => .error (.requestFailed action.name (.status reply.status))

/-- Invokes an action of a service. -/
def invoke (client : Client) (profile : Profile) (service : Service) (name : String)
    (args : List (String × Value)) : Exchange Error Response := do
  let call ← .ofExcept (prepare service name args)
  let reply ← (client.post service.controlUrl call.soapAction call.envelope).mapError
    (.requestFailed name)
  .ofExcept (interpret profile call.action reply)

end UpnpGateway.Soap
