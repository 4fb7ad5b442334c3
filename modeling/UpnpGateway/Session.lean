/-
# Sessions

A session is a gateway that has been found and described, so that actions can be invoked on
it.  It does not change once it is established.
-/
import UpnpGateway.Config.Basic
import UpnpGateway.Device.Retrieval
import UpnpGateway.Discovery.Discover
import UpnpGateway.Soap.Invocation

namespace UpnpGateway

open UpnpGateway.Discovery UpnpGateway.Http UpnpGateway.Net UpnpGateway.Soap

/-- A gateway that actions can be invoked on. -/
structure Session where
  /-- How the gateway was found. -/
  advertisement : Advertisement
  /-- What is known about it from its documents. -/
  portrait : Portrait
  /-- The service that makes port mappings. -/
  service : Service
  /-- The address of this host on the way to the gateway. -/
  localIp : Ipv4
  /-- The host that mappings are for when a request leaves it open, if it is set. -/
  lanIp : Option Ip
  /-- The headers of the user's own in the search. -/
  searchHeaders : Headers
  /-- How many mappings are read before a list counts as endless. -/
  enumerationLimit : UInt32
  /-- How long an exchange may take. -/
  timeout : Duration
deriving Repr

namespace Session

/-- How the gateway is talked to. -/
def profile (s : Session) : Profile := s.portrait.profile

/-- The address that the gateway was found at. -/
def gatewayIp (s : Session) : Ip := s.advertisement.sender.ip

/-- The host that mappings are for when a request leaves it open. -/
def defaultClient (s : Session) : Ip := s.lanIp.getD (.v4 s.localIp)

/-- What goes between the control point and the gateway. -/
def client (s : Session) : Client := ⟨s.timeout, s.profile.headerStyle⟩

/-- Invokes an action of the service that makes port mappings. -/
def invoke (s : Session) (name : String) (args : List (String × Value)) :
    Exchange Error Response :=
  Soap.invoke s.client s.profile s.service name args

/-- The address of this host on the way to an endpoint: the configured one, or else the one
that the host would use. -/
def findLocalIp (config : Config) (target : Endpoint) : Exchange Error Ipv4 :=
  if config.localIp == .unspecified then do
    match ← (Exchange.localIp target).mapError .socket with
    | .v4 ip => if ip == .unspecified then .fail (.noLocalAddress target.ip) else return ip
    | .v6 _ => .fail (.noLocalAddress target.ip)
  else return config.localIp

/-- The session with a gateway that has been found.  The client that fetches its documents also
posts to it, unless the headers of its envelopes are written in another way. -/
def ofAdvertisement (config : Config) (a : Advertisement) : Exchange Error Session := do
  Exchange.client.mapError .noClient
  let portrait ← Portrait.fetch ⟨config.timeout, .lower⟩ a.location a.server
  match portrait.device.wanService? with
  | none => .fail (.noConnectionService portrait.device.label)
  | some service =>
    let localIp ← findLocalIp config a.sender
    if portrait.profile.headerStyle != .lower then Exchange.client.mapError .noClient
    return {
      advertisement := a, portrait, service, localIp
      lanIp := config.lanIp
      searchHeaders := config.searchHeaders
      enumerationLimit := config.enumerationLimit
      timeout := config.timeout }

/-- The session with the first gateway that answers a search. -/
def establish (config : Config) : Exchange Error Session := do
  match ← discover config with
  | [] => .fail (.discoveryTimeout (attempts config.retries))
  | a :: _ => ofAdvertisement config a

end Session

end UpnpGateway
