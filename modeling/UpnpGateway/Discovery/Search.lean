/-
# Searches

A search asks all gateways of the network, or one of them, to answer within a number of
seconds.  Headers of the caller's own come first and as given; the usual ones follow unless
the caller has set them.
-/
import UpnpGateway.Discovery.Advertisement

namespace UpnpGateway.Discovery

open UpnpGateway.Net UpnpGateway.Text

/-- The address that all gateways of a network listen to. -/
def multicastIp : Ipv4 := ⟨239, 255, 255, 250⟩

/-- The port that gateways listen to. -/
def searchPort : UInt16 := 1900

/-- What gateways are searched as. -/
def gatewayTarget : String := "urn:schemas-upnp-org:device:InternetGatewayDevice:1"

/-- A search. -/
structure Search where
  /-- What to search for. -/
  target : String
  /-- The seconds within which to answer. -/
  mx : Nat
  /-- Headers of the caller's own. -/
  headers : Headers
deriving DecidableEq, Repr

namespace Search

/-- The usual headers. -/
def usualHeaders (s : Search) : Headers := [
  ("HOST", multicastIp.text ++ ":" ++ String.ofList (decimal searchPort.toNat)),
  ("MAN", "\"ssdp:discover\""),
  ("MX", String.ofList (decimal s.mx)),
  ("ST", s.target)]

/-- The headers that are sent. -/
def allHeaders (s : Search) : Headers :=
  s.headers ++ s.usualHeaders.filter fun h => (s.headers.get? h.1).isNone

/-- The line of a header. -/
def headerLine (h : String × String) : String := h.1 ++ ": " ++ h.2 ++ "\r\n"

/-- The text that is sent. -/
def datagram (s : Search) : String :=
  "M-SEARCH * HTTP/1.1\r\n" ++ String.join (s.allHeaders.map headerLine) ++ "\r\n"

end Search

end UpnpGateway.Discovery
