/-
# Advertisements

A gateway answers a search with an advertisement: a status line and headers that say where
its description is and by which name it is known.  Names of headers are compared without
regard to the case of letters, and the first header of a name counts.
-/
import UpnpGateway.Net.Ip
import UpnpGateway.Text.Blank
import UpnpGateway.Vendor

namespace UpnpGateway.Discovery

open UpnpGateway.Net UpnpGateway.Text

/-- Headers in the order in which they are written. -/
abbrev Headers := List (String × String)

/-- The value of the first header with the given name. -/
def Headers.get? (headers : Headers) (name : String) : Option String :=
  (headers.find? fun h => sameLetters h.1.toList name.toList).map Prod.snd

/-- The answer of a gateway to a search. -/
structure Advertisement where
  /-- Where the description of the gateway is. -/
  location : String
  /-- The name by which the gateway is known. -/
  usn : String
  /-- What the gateway was searched as. -/
  st : String
  /-- The server that the gateway runs. -/
  server : String
  /-- Where the answer came from. -/
  sender : Endpoint
  /-- All headers of the answer. -/
  headers : Headers
deriving DecidableEq, Repr

namespace Advertisement

/-- What is known about the gateway from its answer. -/
def signature (a : Advertisement) : Signature := .ofServer a.server

/-- The value of the first header with the given name. -/
def header? (a : Advertisement) (name : String) : Option String := a.headers.get? name

/-- Whether a line is the status line of a successful answer. -/
def isSuccess (line : List Char) : Bool :=
  match words (trim line) with
  | version :: code :: _ => "HTTP/".toList.isPrefixOf version && code == "200".toList
  | _ => false

/-- The header in a line with a colon; quotes around the value are left out. -/
def headerOfLine? (line : List Char) : Option (String × String) :=
  (cutFirst ':' line).map fun (name, value) =>
    (String.ofList (trim name), String.ofList (dropEndsWhile (· == '"') (trim value)))

/-- A header that is there and not empty. -/
def needed? (headers : Headers) (name : String) : Option String :=
  (headers.get? name).filter fun value => !value.isEmpty

/-- Reads an answer; one without a location or a name is none. -/
def parse? (datagram : String) (sender : Endpoint) : Option Advertisement :=
  match lines datagram.toList with
  | [] => none
  | first :: rest => do
    if !isSuccess first then none
    let headers : Headers := rest.filterMap headerOfLine?
    let location ← needed? headers "LOCATION"
    let usn ← needed? headers "USN"
    return ⟨location, usn, (headers.get? "ST").getD "", (headers.get? "SERVER").getD "",
      sender, headers⟩

end Advertisement

end UpnpGateway.Discovery
