/-
# Exchanges over HTTP

Documents are fetched and actions posted with a limit on the time that an exchange takes.
Headers whose names have to be written as in the standard go out on a connection of their
own, and the reply is read from it piece by piece until it is complete or too long.
-/
import UpnpGateway.Error
import UpnpGateway.Net.Network
import UpnpGateway.Net.Url.Parse

namespace UpnpGateway.Http

open UpnpGateway.Net UpnpGateway.Text

/-- What goes between a control point and a gateway. -/
structure Client where
  /-- How long an exchange may take. -/
  timeout : Duration
  /-- How the names of headers are written. -/
  style : HeaderStyle
deriving DecidableEq, Repr

/-- The content type of an envelope. -/
def envelopeType : String := "text/xml; charset=\"utf-8\""

/-- The most bytes that are read from a connection. -/
def maxReplySize : Nat := 1048576

/-- The headers of a request that is written as in the standard. -/
def verbatimHeaders (host : String) (port : Nat) (soapAction body : String) :
    List (String × String) := [
  ("Host", host ++ ":" ++ String.ofList (decimal port)),
  ("Content-Type", envelopeType),
  ("Content-Length", String.ofList (decimal body.utf8ByteSize)),
  ("SOAPAction", soapAction),
  ("Connection", "close")]

/-- A request that is written as in the standard. -/
def verbatimRequest (target host : String) (port : Nat) (soapAction body : String) : String :=
  "POST " ++ target ++ " HTTP/1.1\r\n" ++
  String.join ((verbatimHeaders host port soapAction body).map fun h =>
    h.1 ++ ": " ++ h.2 ++ "\r\n") ++
  "\r\n" ++ body

/-- The bytes of a reply, read piece by piece behind those that are there already; an empty
piece counts as the end. -/
def receive (limit : Duration) (ending : ConnectionEnd) (raw : Bytes) :
    List Bytes → Except TransportFailure Bytes
  | [] =>
    match ending with
    | .closed => .ok raw
    | .broken text => .error (.connection text)
    | .silent => .error (.timedOut limit)
  | piece :: pieces =>
    if piece.isEmpty then .ok raw
    else
      let raw := raw ++ piece
      if maxReplySize < raw.length then
        .error (.malformed ("response larger than " ++ String.ofList (decimal maxReplySize) ++
          " bytes"))
      else if isComplete raw then .ok raw
      else receive limit ending raw pieces

namespace Client

/-- What is wrong when the client below has no reply. -/
def failure (c : Client) : ClientFailure → TransportFailure
  | .timedOut => .timedOut c.timeout
  | .failed text => .http text

/-- Fetches a document. -/
def get (c : Client) (url : String) : Exchange TransportFailure String := do
  let reply ← (Exchange.get url).mapError c.failure
  if reply.isSuccess then return reply.body else .fail (.status reply.status)

/-- Posts an envelope with the names of headers as in the standard. -/
def postVerbatim (c : Client) (url soapAction envelope : String) :
    Exchange TransportFailure Reply :=
  match Url.parse? url with
  | none => .fail (.malformed ("bad URL " ++ url ++ ": relative URL without a base"))
  | some u =>
    match u.host? with
    | none => .fail (.malformed ("URL " ++ u.text ++ " has no host"))
    | some host => do
      let host := String.ofList host.chars
      let port := u.port?.getD 80
      let text := verbatimRequest (String.ofList u.requestTarget) host port soapAction envelope
      let arrival ← (Exchange.send host port text).mapError .connection
      let raw ← .ofExcept (receive c.timeout arrival.ending [] arrival.pieces)
      .ofExcept ((Reply.parse raw).mapError fun e => .malformed e.message)

/-- Posts an envelope. -/
def post (c : Client) (url soapAction envelope : String) : Exchange TransportFailure Reply :=
  match c.style with
  | .verbatim => c.postVerbatim url soapAction envelope
  | .lower => (Exchange.post url soapAction envelope).mapError c.failure

end Client

end UpnpGateway.Http
