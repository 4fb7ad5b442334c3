/-
# Port mappings

A port mapping lets hosts outside reach a port of a host inside.  This file sets up mappings
as gateways hold them, and requests for mappings, which may leave it open for which host they
are.
-/
import UpnpGateway.Net.Ip
import UpnpGateway.Text.Blank
import UpnpGateway.Text.Quoted

namespace UpnpGateway

open UpnpGateway.Net UpnpGateway.Text

/-- The protocol of a port. -/
inductive Protocol where
  | tcp | udp
deriving DecidableEq, Repr

/-- A word that names no protocol, in upper case. -/
structure UnknownProtocol where
  /-- The word. -/
  word : String
deriving DecidableEq, Repr

/-- The text that is shown for a word that names no protocol. -/
def UnknownProtocol.message (e : UnknownProtocol) : String := "unknown protocol " ++ quoted e.word

namespace Protocol

/-- The name of a protocol. -/
def name : Protocol → String
  | tcp => "TCP"
  | udp => "UDP"

/-- Reads the name of a protocol, in any case of letters and with blanks at its ends. -/
def parse (s : String) : Except UnknownProtocol Protocol :=
  let word := upper (trim s.toList)
  if word == "TCP".toList then .ok tcp
  else if word == "UDP".toList then .ok udp
  else .error ⟨String.ofList word⟩

end Protocol

/-- A mapping. -/
structure PortMapping where
  /-- The port that is reached from outside. -/
  externalPort : UInt16
  /-- The protocol of both ports. -/
  protocol : Protocol
  /-- The only host outside that the mapping is for, unless it is for all of them. -/
  remoteHost : Option String
  /-- The host inside. -/
  internalClient : Ip
  /-- The port of the host inside. -/
  internalPort : UInt16
  /-- Whether the mapping is in force. -/
  enabled : Bool
  /-- What the mapping is for. -/
  description : String
  /-- The seconds after which the mapping ends; zero if it does not end. -/
  leaseDuration : UInt32
deriving DecidableEq, Repr

/-- A request for a mapping. -/
structure MappingRequest where
  /-- The port that is reached from outside. -/
  externalPort : UInt16
  /-- The protocol of both ports. -/
  protocol : Protocol
  /-- The port of the host inside. -/
  internalPort : UInt16
  /-- The host inside, if it is not the one that asks. -/
  internalClient : Option Ip := none
  /-- The only host outside that the mapping is for, unless it is for all of them. -/
  remoteHost : Option String := none
  /-- Whether the mapping is in force. -/
  enabled : Bool := true
  /-- What the mapping is for. -/
  description : String := ""
  /-- The seconds after which the mapping ends; zero if it does not end. -/
  leaseDuration : UInt32 := 0
deriving DecidableEq, Repr

/-- The mapping that is asked for, when `client` is the host that asks. -/
def MappingRequest.mapping (r : MappingRequest) (client : Ip) : PortMapping where
  externalPort := r.externalPort
  protocol := r.protocol
  remoteHost := r.remoteHost
  internalClient := r.internalClient.getD client
  internalPort := r.internalPort
  enabled := r.enabled
  description := r.description
  leaseDuration := r.leaseDuration

/-- The mapping of a template at another port: the internal port follows if the template
leaves it at zero. -/
def PortMapping.at (template : PortMapping) (protocol : Protocol) (port : UInt16) :
    PortMapping :=
  { template with
    externalPort := port
    protocol
    internalPort := if template.internalPort == 0 then port else template.internalPort }

end UpnpGateway
