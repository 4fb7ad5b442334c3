/-
# Control points

A control point talks to one gateway at a time.  It searches for the gateway when it is told
to connect, or when it gets a command that needs one, and it keeps the gateway until it is
told to use another.  Operations that are called directly need a gateway that is there
already.
-/
import UpnpGateway.Mapping.Operations

namespace UpnpGateway

open UpnpGateway.Discovery UpnpGateway.Net UpnpGateway.Soap

/-- What can be done with a gateway. -/
inductive Operation where
  /-- Asking for the address of the gateway outside. -/
  | externalIp
  /-- Making a mapping. -/
  | addMapping (request : MappingRequest)
  /-- Reading the mapping at an index. -/
  | mappingAt (index : UInt32)
  /-- Reading all mappings. -/
  | mappings
  /-- Reading the mapping of a port. -/
  | specificMapping (remoteHost : Option String) (externalPort : UInt16) (protocol : Protocol)
  /-- Ending the mapping of a port. -/
  | deleteMapping (remoteHost : Option String) (externalPort : UInt16) (protocol : Protocol)
  /-- Finding a free port, which is mapped if there is a template. -/
  | nextMapping (protocol : Protocol) (base : UInt16) (template : Option MappingRequest)
deriving DecidableEq, Repr

/-- What a control point can be told to do. -/
inductive Command where
  /-- To search for gateways. -/
  | search
  /-- To do something with its gateway. -/
  | operate (operation : Operation)
deriving DecidableEq, Repr

/-- What a command results in. -/
inductive CommandResult where
  /-- The gateways that answered a search. -/
  | gateways (found : List Advertisement)
  /-- The address of the gateway outside. -/
  | externalIp (ip : Option Ip)
  /-- Nothing but that it is done. -/
  | done
  /-- A mapping. -/
  | mapping (m : PortMapping)
  /-- All mappings. -/
  | mappings (ms : List PortMapping)
  /-- A free port, and whether it has been mapped. -/
  | nextPort (port : UInt16) (added : Bool)
deriving DecidableEq, Repr

/-- Carries out an operation. -/
def Session.perform (s : Session) : Operation → Exchange Error CommandResult
  | .externalIp => return .externalIp (← s.externalIp)
  | .addMapping request => do
    s.addMapping (request.mapping s.defaultClient)
    return .done
  | .mappingAt index => return .mapping (← s.mappingAt index)
  | .mappings => return .mappings (← s.mappings)
  | .specificMapping remoteHost externalPort protocol =>
    return .mapping (← s.specificMapping remoteHost externalPort protocol)
  | .deleteMapping remoteHost externalPort protocol => do
    s.deleteMapping remoteHost externalPort protocol
    return .done
  | .nextMapping protocol base template => do
    let template := template.map fun request => request.mapping s.defaultClient
    let port ← s.nextMapping protocol base template
    return .nextPort port template.isSome

/-- A control point. -/
structure ControlPoint where
  /-- What the user has set. -/
  config : Config
  /-- The session with the gateway, if there is one. -/
  session : Option Session
deriving Repr

namespace ControlPoint

/-- A control point that has no gateway yet. -/
def new (config : Config) : ControlPoint := ⟨config, none⟩

/-- The session with the gateway. -/
def ready (c : ControlPoint) : Except Error Session :=
  match c.session with
  | some s => .ok s
  | none => .error .notReady

/-- What a step of a control point leaves: a control point in any case, and a result or a
failure. -/
abbrev Outcome (α : Type) := ControlPoint × Except Error α

/-- The control point with the session that is established, if it is. -/
def adopt (c : ControlPoint) (x : Exchange Error Session) :
    Exchange Empty (Outcome Session) := do
  match ← x.attempt with
  | .ok s => return ({ c with session := some s }, .ok s)
  | .error e => return (c, .error e)

/-- Searches for the gateway unless there is one. -/
def connect (c : ControlPoint) : Exchange Empty (Outcome Session) :=
  match c.session with
  | some s => return (c, .ok s)
  | none => c.adopt (Session.establish c.config)

/-- Uses a gateway that has been found by an earlier search. -/
def connectTo (c : ControlPoint) (a : Advertisement) : Exchange Empty (Outcome Session) :=
  c.adopt (Session.ofAdvertisement c.config a)

/-- Searches for gateways. -/
def search (c : ControlPoint) : Exchange Error (List Advertisement) := discover c.config

/-- Carries out an operation on the gateway, if there is one. -/
def act {α : Type} (c : ControlPoint) (operation : Session → Exchange Error α) :
    Exchange Error α := do
  operation (← .ofExcept c.ready)

/-- Carries out a command, and searches for the gateway first if the command needs one. -/
def execute (c : ControlPoint) : Command → Exchange Empty (Outcome CommandResult)
  | .search => do return (c, ← (CommandResult.gateways <$> c.search).attempt)
  | .operate operation => do
    let (c, connected) ← c.connect
    match connected with
    | .error e => return (c, .error e)
    | .ok s => return (c, ← (s.perform operation).attempt)

end ControlPoint

end UpnpGateway
