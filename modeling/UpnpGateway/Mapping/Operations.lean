/-
# Operations on port mappings

Each operation invokes an action of the gateway; nothing is remembered between them.  All
mappings of a gateway are read one by one, by their index, until the gateway says that there
is no further one, or until there are more than the user is ready to read.
-/
import UpnpGateway.Mapping.Answer
import UpnpGateway.Mapping.FreePort
import UpnpGateway.Session

namespace UpnpGateway

open UpnpGateway.Net UpnpGateway.Soap

/-- The value of a remote host; all hosts are written as nothing. -/
def remoteHostValue (host : Option String) : Value := .text (host.getD "")

/-- The value of a port. -/
def portValue (port : UInt16) : Value := .unsigned port.toUInt64

/-- The value of a number of 32 bits. -/
def wordValue (n : UInt32) : Value := .unsigned n.toUInt64

/-- The arguments by which one mapping is told from the others. -/
def keyArguments (remoteHost : Option String) (externalPort : UInt16) (protocol : Protocol) :
    List (String × Value) := [
  ("NewRemoteHost", remoteHostValue remoteHost),
  ("NewExternalPort", portValue externalPort),
  ("NewProtocol", .text protocol.name)]

/-- The arguments that a mapping is made with. -/
def PortMapping.arguments (m : PortMapping) : List (String × Value) :=
  keyArguments m.remoteHost m.externalPort m.protocol ++ [
    ("NewInternalPort", portValue m.internalPort),
    ("NewInternalClient", .text m.internalClient.text),
    ("NewEnabled", .truth m.enabled),
    ("NewPortMappingDescription", .text m.description),
    ("NewLeaseDuration", wordValue m.leaseDuration)]

namespace Session

/-- The address of the gateway outside, if it has one. -/
def externalIp (s : Session) : Exchange Error (Option Ip) := do
  let response ← s.invoke "GetExternalIPAddress" []
  .ofExcept response.externalIp

/-- Makes a mapping. -/
def addMapping (s : Session) (m : PortMapping) : Exchange Error Unit := do
  let _ ← s.invoke "AddPortMapping" m.arguments
  return ()

/-- The mapping of a port. -/
def specificMapping (s : Session) (remoteHost : Option String) (externalPort : UInt16)
    (protocol : Protocol) : Exchange Error PortMapping := do
  let response ← s.invoke "GetSpecificPortMappingEntry"
    (keyArguments remoteHost externalPort protocol)
  .ofExcept (response.mapping (remoteHost.filter fun h => !h.isEmpty) externalPort protocol)

/-- The mapping at an index. -/
def mappingAt (s : Session) (index : UInt32) : Exchange Error PortMapping := do
  let response ← s.invoke "GetGenericPortMappingEntry" [("NewPortMappingIndex", wordValue index)]
  .ofExcept response.indexedMapping

/-- Ends a mapping. -/
def deleteMapping (s : Session) (remoteHost : Option String) (externalPort : UInt16)
    (protocol : Protocol) : Exchange Error Unit := do
  let _ ← s.invoke "DeletePortMapping" (keyArguments remoteHost externalPort protocol)
  return ()

/-- Whether a failure says that there is no further mapping. -/
def isEndOfList (s : Session) (e : Error) : Bool :=
  e.fault?.any fun fault => s.profile.isEndOfList fault.code

/-- The mappings from an index on, of which up to `left` are read. -/
def mappingsFrom (s : Session) : Nat → Nat → Exchange Error (List PortMapping)
  | 0, _ => .fail (.endlessList s.enumerationLimit)
  | left + 1, index => do
    match ← (s.mappingAt (.ofNat index)).attempt with
    | .ok m => return m :: (← s.mappingsFrom left (index + 1))
    | .error e => if s.isEndOfList e then return [] else .fail e

/-- All mappings of the gateway. -/
def mappings (s : Session) : Exchange Error (List PortMapping) :=
  s.mappingsFrom s.enumerationLimit.toNat 0

/-- The ports that some mappings take up for a protocol. -/
def usedPorts (protocol : Protocol) (ms : List PortMapping) : List UInt16 :=
  (ms.filter fun m => m.protocol == protocol).map PortMapping.externalPort

/-- The first port from `base` on that is free for a protocol; with a template, the port is
mapped like it. -/
def nextMapping (s : Session) (protocol : Protocol) (base : UInt16)
    (template : Option PortMapping) : Exchange Error UInt16 := do
  let ms ← s.mappings
  let port ← .ofExcept (nextFreePort (usedPorts protocol ms) base)
  match template with
  | none => return port
  | some template =>
    s.addMapping (template.at protocol port)
    return port

end Session

end UpnpGateway
