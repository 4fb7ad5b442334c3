/-
# Replies on a connection

A reply begins with a status line and headers; its body ends where a length says, behind the
last of a row of chunks, or where the peer closes the connection.  This file reads a reply
from its bytes, and says when the bytes that have arrived are enough, so that one need not
wait for the peer to close.  Bytes behind the body do not count.
-/
import UpnpGateway.Text.Blank
import UpnpGateway.Text.Letter
import UpnpGateway.Text.Quoted
import UpnpGateway.Text.Utf8

namespace UpnpGateway.Http

open UpnpGateway.Text

/-- A row of bytes. -/
abbrev Bytes := List UInt8

/-- A reply. -/
structure Reply where
  /-- The status. -/
  status : UInt16
  /-- The body as text. -/
  body : String
deriving DecidableEq, Repr, Inhabited

/-- Whether the status of a reply says that all is well. -/
def Reply.isSuccess (r : Reply) : Bool := 200 ≤ r.status && r.status < 300

/-- Why the bytes of a reply cannot be read. -/
inductive ReplyError where
  /-- They end inside the headers. -/
  | cutHead
  /-- The first line has no status. -/
  | badStatusLine (line : String)
  /-- They end inside a chunk. -/
  | cutChunks
  /-- The size of a chunk is no number. -/
  | badChunkSize (size : String)
deriving DecidableEq, Repr

/-- The text that is shown for an unreadable reply. -/
def ReplyError.message : ReplyError → String
  | cutHead => "response ended inside the headers"
  | badStatusLine line => "bad status line " ++ quoted line
  | cutChunks => "truncated chunked body"
  | badChunkSize size => "bad chunk size " ++ quoted size

/-- The bytes that end a line. -/
def lineEnd : Bytes := [13, 10]

/-- The bytes that end the headers. -/
def headEnd : Bytes := [13, 10, 13, 10]

/-- The status line and headers as text, and the bytes behind them. -/
def cutHead? (raw : Bytes) : Option (List Char × Bytes) :=
  (cutRun headEnd raw).map fun (head, body) => (decodeUtf8 head, body)

/-- The value of a line if it is a header with the given name. -/
def headerValue? (name line : List Char) : Option (List Char) :=
  (cutFirst ':' line).bind fun (key, value) =>
    if sameLetters (trim key) name then some (trim value) else none

/-- The value of the first header with the given name. -/
def header? (head : List Char) (name : String) : Option (List Char) :=
  ((lines head).drop 1).findSome? (headerValue? name.toList)

/-- Whether the body comes in chunks. -/
def isChunked (head : List Char) : Bool :=
  (header? head "Transfer-Encoding").any (hasLetters "chunked".toList)

/-- The length of the body, if the headers say it. -/
def contentLength? (head : List Char) : Option Nat :=
  (header? head "Content-Length").bind (readNat? 10 maxLong)

/-- The bytes that the last chunk ends with. -/
def lastChunk : Bytes := [48, 13, 10, 13, 10]

/-- Whether the bytes that have arrived are enough. -/
def isComplete (raw : Bytes) : Bool :=
  match cutHead? raw with
  | none => false
  | some (head, body) =>
    if isChunked head then lastChunk.isSuffixOf body
    else (contentLength? head).any (· ≤ body.length)

/-- The size in the line before a chunk, in hexadecimal and without the extensions behind a
semicolon. -/
def chunkSize (line : Bytes) : Except ReplyError Nat :=
  let size := trim ((decodeUtf8 line).takeWhile (· != ';'))
  match readNat? 16 maxLong size with
  | some n => .ok n
  | none => .error (.badChunkSize (String.ofList size))

/-- Drops the end of a line. -/
def dropLineEnd : Bytes → Bytes
  | 13 :: 10 :: r => r
  | r => r

theorem length_dropLineEnd_le (s : Bytes) : (dropLineEnd s).length ≤ s.length := by
  unfold dropLineEnd
  split <;> simp
  omega

/-- The bytes in a row of chunks; a chunk of no bytes ends the row. -/
def dechunk (body : Bytes) : Except ReplyError Bytes :=
  match h : cutRun lineEnd body with
  | none => .error .cutChunks
  | some (line, rest) =>
    match chunkSize line with
    | .error e => .error e
    | .ok 0 => .ok []
    | .ok (n + 1) =>
      let chunk := rest.take (n + 1)
      if chunk.length < n + 1 then .error .cutChunks
      else
        have : (dropLineEnd (rest.drop (n + 1))).length < body.length := by
          have := length_of_cutRunFrom h
          have := length_dropLineEnd_le (rest.drop (n + 1))
          simp only [lineEnd, List.length_cons, List.length_nil, List.length_drop] at *
          omega
        (dechunk (dropLineEnd (rest.drop (n + 1)))).map (chunk ++ ·)
termination_by body.length

/-- The status in the first line of a head. -/
def statusOf (head : List Char) : Except ReplyError UInt16 :=
  let line := (lines head).head?.getD []
  match (words line)[1]?.bind readPort? with
  | some code => .ok code
  | none => .error (.badStatusLine (String.ofList line))

/-- The bytes of the body, given what stands behind the head. -/
def bodyBytes (head : List Char) (rest : Bytes) : Except ReplyError Bytes :=
  if isChunked head then dechunk rest
  else .ok (((contentLength? head).map rest.take).getD rest)

/-- The reply in a row of bytes. -/
def Reply.parse (raw : Bytes) : Except ReplyError Reply :=
  match cutHead? raw with
  | none => .error .cutHead
  | some (head, rest) => do
    let code ← statusOf head
    let body ← bodyBytes head rest
    return ⟨code, String.ofList (decodeUtf8 body)⟩

end UpnpGateway.Http
