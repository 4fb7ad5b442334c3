/-
# Failures

Everything that can go wrong between looking for a gateway and getting an answer from it,
with the text that is shown for it, the phase that it belongs to, and whether it came from
waiting too long.
-/
import UpnpGateway.Duration
import UpnpGateway.Net.Ip
import UpnpGateway.Soap.Fault
import UpnpGateway.Text.Quoted

namespace UpnpGateway

open UpnpGateway.Net UpnpGateway.Soap UpnpGateway.Text

/-- Why an exchange over HTTP failed. -/
inductive TransportFailure where
  /-- There was no answer in time. -/
  | timedOut (limit : Duration)
  /-- The answer has a status that does not go with a document. -/
  | status (code : UInt16)
  /-- The request could not be made, or what came back is not HTTP. -/
  | http (text : String)
  /-- The connection could not be made or broke. -/
  | connection (text : String)
  /-- The answer on a connection cannot be read. -/
  | malformed (text : String)
deriving DecidableEq, Repr

namespace TransportFailure

/-- The text that is shown for a failed exchange. -/
def message : TransportFailure → String
  | timedOut limit => "timed out after " ++ limit.text
  | status code => "unexpected HTTP status " ++ String.ofList (decimal code.toNat)
  | http text => text
  | connection text => "connection failed: " ++ text
  | malformed text => "malformed HTTP response: " ++ text

/-- Whether the exchange failed because it took too long. -/
def isTimeout : TransportFailure → Bool
  | timedOut _ => true
  | _ => false

end TransportFailure

/-- A document that describes a gateway. -/
inductive Document where
  /-- The description of the root device. -/
  | root
  /-- The description of the service with the given identifier. -/
  | service (serviceId : String)
deriving DecidableEq, Repr

/-- What a document is called in messages. -/
def Document.label : Document → String
  | root => "root device description"
  | service serviceId => "SCPD of " ++ serviceId

/-- The phase in which something fails. -/
inductive Phase where
  | discovery | description | action | session
deriving DecidableEq, Repr

/-- The name of a phase. -/
def Phase.name : Phase → String
  | discovery => "discovery"
  | description => "description"
  | action => "action"
  | session => "session"

/-- What went wrong. -/
inductive Error where
  /-- The search could not be sent. -/
  | socket (text : String)
  /-- No gateway answered the search. -/
  | discoveryTimeout (attempts : UInt32)
  /-- The gateway that was asked for did not answer the search. -/
  | gatewaySilent (gateway : Ip)
  /-- The window of a search is too long to be counted. -/
  | windowOverflow
  /-- The window of a search ends later than the clock can count. -/
  | clockOverflow
  /-- A document could not be fetched. -/
  | documentUnreachable (document : Document) (url : String) (cause : TransportFailure)
  /-- A document could not be read. -/
  | documentUnreadable (document : Document) (reason : String)
  /-- The gateway makes no port mappings. -/
  | noConnectionService (device : String)
  /-- The service does not declare the action. -/
  | actionUndeclared (action service : String)
  /-- An argument is not declared, missing, or does not fit its type. -/
  | invalidArgument (action argument reason : String)
  /-- The request for an action failed. -/
  | requestFailed (action : String) (cause : TransportFailure)
  /-- The gateway refused an action. -/
  | refused (action : String) (fault : Fault)
  /-- An answer lacks a value that is needed. -/
  | missingOutput (action argument : String)
  /-- A value in an answer cannot be read. -/
  | invalidOutput (action argument value : String)
  /-- The list of mappings did not end. -/
  | endlessList (limit : UInt32)
  /-- Every port from a port on is in use. -/
  | portsExhausted (start : UInt16)
  /-- The host has no such interface, or it has no address of four bytes. -/
  | noInterface (name : String)
  /-- There is no way to the gateway from an address of four bytes. -/
  | noLocalAddress (gateway : Ip)
  /-- No client for documents and envelopes could be set up. -/
  | noClient (text : String)
  /-- There is no gateway yet. -/
  | notReady
deriving DecidableEq, Repr

namespace Error

/-- The text that is shown for a failure. -/
def message : Error → String
  | socket text => "socket error: " ++ text
  | discoveryTimeout attempts =>
    "no gateway answered M-SEARCH after " ++ String.ofList (decimal attempts.toNat) ++
      " attempt(s)"
  | gatewaySilent gateway => "gateway " ++ gateway.text ++ " did not answer M-SEARCH"
  | windowOverflow => "overflow when multiplying duration by scalar"
  | clockOverflow => "overflow when adding duration to instant"
  | documentUnreachable document url cause =>
    "failed to fetch " ++ document.label ++ " from " ++ url ++ ": " ++ cause.message
  | documentUnreadable document reason => "failed to parse " ++ document.label ++ ": " ++ reason
  | noConnectionService device =>
    "device " ++ device ++ " exposes no WANIPConnection or WANPPPConnection service"
  | actionUndeclared action service => "action " ++ action ++ " is not declared by " ++ service
  | invalidArgument action argument reason =>
    "invalid argument " ++ argument ++ " for " ++ action ++ ": " ++ reason
  | requestFailed action cause => "SOAP request " ++ action ++ " failed: " ++ cause.message
  | refused action fault => action ++ " failed: " ++ fault.text
  | missingOutput action argument => action ++ " response is missing " ++ argument
  | invalidOutput action argument value =>
    action ++ " returned an invalid " ++ argument ++ ": " ++ quoted value
  | endlessList limit =>
    "port mapping list did not terminate within " ++ String.ofList (decimal limit.toNat) ++
      " entries"
  | portsExhausted start =>
    "no free external port at or above " ++ String.ofList (decimal start.toNat)
  | noInterface name => "interface " ++ name ++ " not found or has no IPv4 address"
  | noLocalAddress gateway => "no local IPv4 address routes to gateway " ++ gateway.text
  | noClient text => "failed to build HTTP client: " ++ text
  | notReady => "gateway session is not ready: discovery and description must succeed first"

/-- The phase that a failure belongs to. -/
def phase : Error → Phase
  | socket _ | discoveryTimeout _ | gatewaySilent _ | windowOverflow | clockOverflow => .discovery
  | documentUnreachable .. | documentUnreadable .. | noConnectionService _ => .description
  | actionUndeclared .. | invalidArgument .. | requestFailed .. | refused .. | missingOutput ..
  | invalidOutput .. | endlessList _ | portsExhausted _ => .action
  | noInterface _ | noLocalAddress _ | noClient _ | notReady => .session

/-- Whether a failure came from waiting too long. -/
def isTimeout : Error → Bool
  | discoveryTimeout _ | gatewaySilent _ => true
  | documentUnreachable _ _ cause | requestFailed _ cause => cause.isTimeout
  | _ => false

/-- The fault behind a failure, if the gateway refused something. -/
def fault? : Error → Option Fault
  | refused _ fault => some fault
  | _ => none

end Error

end UpnpGateway
