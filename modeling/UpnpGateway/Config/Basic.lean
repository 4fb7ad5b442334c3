/-
# Configuration

What a user may set about the search for a gateway and the exchanges with it.
-/
import UpnpGateway.Discovery.Search
import UpnpGateway.Error

namespace UpnpGateway

open UpnpGateway.Discovery UpnpGateway.Net

/-- The configuration of a control point. -/
structure Config where
  /-- The address that searches are sent from; if unspecified, any. -/
  localIp : Ipv4 := .unspecified
  /-- The address of the gateway, if only that one is to be asked. -/
  gatewayIp : Option Ip := none
  /-- The host that mappings are for when a request leaves it open. -/
  lanIp : Option Ip := none
  /-- How long an exchange over HTTP may take. -/
  timeout : Duration := ⟨5 * nanosPerSecond, by decide⟩
  /-- The seconds that the first round of a search gives to answer. -/
  mx : UInt8 := 2
  /-- How often a search without an answer is repeated. -/
  retries : UInt32 := 2
  /-- The window of the first round, if it is not to follow from its seconds. -/
  responseWindow : Option Duration := none
  /-- What is searched for. -/
  searchTarget : String := gatewayTarget
  /-- Headers of the user's own in a search. -/
  searchHeaders : Headers := []
  /-- The port that searches are sent to. -/
  searchPort : UInt16 := Discovery.searchPort
  /-- How many mappings are read before a list counts as endless. -/
  enumerationLimit : UInt32 := 1024
deriving DecidableEq, Repr, Inhabited

/-- An interface of the host. -/
structure Interface where
  /-- The name of the interface. -/
  name : String
  /-- Its addresses. -/
  addresses : List Ip
deriving DecidableEq, Repr

/-- An address of four bytes. -/
def Net.Ip.ipv4? : Ip → Option Ipv4
  | .v4 ip => some ip
  | .v6 _ => none

/-- The first address of four bytes of the interfaces with the given name. -/
def interfaceIp (interfaces : List Interface) (name : String) : Except Error Ipv4 :=
  let addresses := (interfaces.filter (·.name == name)).flatMap Interface.addresses
  match addresses.findSome? Ip.ipv4? with
  | some ip => .ok ip
  | none => .error (.noInterface name)

/-- The configuration with searches sent from an interface. -/
def Config.withInterface (c : Config) (interfaces : List Interface) (name : String) :
    Except Error Config :=
  (interfaceIp interfaces name).map fun ip => { c with localIp := ip }

end UpnpGateway
