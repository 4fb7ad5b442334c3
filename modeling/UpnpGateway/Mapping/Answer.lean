/-
# Mappings in answers

A gateway answers a question for a mapping with its parts as texts.  The client and the ports
have to be there and make sense; a mapping that does not say so is in force, has no
description and does not end.
-/
import UpnpGateway.Mapping.Basic
import UpnpGateway.Soap.Response
import UpnpGateway.Text.Letter

namespace UpnpGateway

open UpnpGateway.Net UpnpGateway.Soap UpnpGateway.Text

namespace Soap.Response

/-- The failure of a value that cannot be read. -/
def invalid (r : Response) (name value : String) : Error := .invalidOutput r.action name value

/-- A value that is needed, read after the blanks at its ends are dropped. -/
def read {α : Type} (r : Response) (name : String) (reader : String → Option α) :
    Except Error α := do
  let raw ← r.require name
  match reader (trimmed raw) with
  | some x => return x
  | none => throw (r.invalid name raw)

/-- What a gateway means by a digit or a word, in any case of letters and with blanks at its ends,
if it stands for whether a mapping is in force. -/
def readEnabled? (raw : String) : Option Bool :=
  match String.ofList (lower (trim raw.toList)) with
  | "1" | "true" | "yes" => some true
  | "0" | "false" | "no" => some false
  | _ => none

/-- Whether the mapping in an answer is in force. -/
def enabled (r : Response) : Except Error Bool :=
  match r.get? "NewEnabled" with
  | none => .ok true
  | some raw =>
    match readEnabled? raw with
    | some b => .ok b
    | none => .error (r.invalid "NewEnabled" raw)

/-- The seconds after which the mapping in an answer ends. -/
def leaseDuration (r : Response) : Except Error UInt32 :=
  match (r.get? "NewLeaseDuration").map trimmed with
  | none | some "" => .ok 0
  | some raw =>
    match readWord? raw.toList with
    | some n => .ok n
    | none => .error (r.invalid "NewLeaseDuration" raw)

/-- The host outside that the mapping in an answer is for. -/
def remoteHost? (r : Response) : Option String :=
  ((r.get? "NewRemoteHost").map trimmed).filter fun host => !host.isEmpty

/-- The mapping in an answer, of which the caller knows the remote host, the external port and
the protocol. -/
def mapping (r : Response) (remoteHost : Option String) (externalPort : UInt16)
    (protocol : Protocol) : Except Error PortMapping := do
  let enabled ← r.enabled
  let leaseDuration ← r.leaseDuration
  let internalClient ← r.read "NewInternalClient" Ip.parse?
  let internalPort ← r.read "NewInternalPort" fun s => readPort? s.toList
  return {
    externalPort, protocol, remoteHost, internalClient, internalPort, enabled
    description := (r.get? "NewPortMappingDescription").getD ""
    leaseDuration }

/-- The mapping in an answer to a question for the mapping at an index. -/
def indexedMapping (r : Response) : Except Error PortMapping := do
  let externalPort ← r.read "NewExternalPort" fun s => readPort? s.toList
  let protocol ← r.read "NewProtocol" fun s => (Protocol.parse s).toOption
  r.mapping r.remoteHost? externalPort protocol

/-- The address in an answer to a question for the address of the gateway outside; a gateway
that is not connected has none. -/
def externalIp (r : Response) : Except Error (Option Ip) :=
  match (r.get? "NewExternalIPAddress").map trimmed with
  | none | some "" => .ok none
  | some raw =>
    match Ip.parse? raw with
    | some ip => .ok (some ip)
    | none => .error (r.invalid "NewExternalIPAddress" raw)

end Soap.Response

end UpnpGateway
