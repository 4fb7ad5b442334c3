/-
# The network

A control point sees the network as something that answers requests.  What comes back may
depend on everything that has been asked before, so a network is given by functions of the
requests so far; what a control point does is a course of exchanges, which yields a result or
a failure and the longer list of requests.
-/
import UpnpGateway.Duration
import UpnpGateway.Http.Reply
import UpnpGateway.Net.Ip

namespace UpnpGateway.Net

open UpnpGateway.Http

/-- What the network is asked for. -/
inductive Request where
  /-- A document. -/
  | get (url : String)
  /-- An action, through a client that writes the names of headers in lower case. -/
  | post (url soapAction envelope : String)
  /-- An answer to a text that is sent on a connection to a port of a host. -/
  | send (host : String) (port : Nat) (text : String)
  /-- Answers to a datagram that is sent from an address to an endpoint. -/
  | search (source : Ipv4) (target : Endpoint) (datagram : String)
deriving DecidableEq, Repr

/-- Why a client has no reply. -/
inductive ClientFailure where
  /-- There was none in time. -/
  | timedOut
  /-- The client gave up, for the reason in its text. -/
  | failed (text : String)
deriving DecidableEq, Repr

/-- How a connection ends. -/
inductive ConnectionEnd where
  /-- The peer closes it. -/
  | closed
  /-- It breaks. -/
  | broken (text : String)
  /-- Nothing more comes. -/
  | silent
deriving DecidableEq, Repr

/-- What arrives on a connection. -/
structure Arrival where
  /-- The bytes, piece by piece as they are read. -/
  pieces : List Bytes
  /-- What happens behind the last piece. -/
  ending : ConnectionEnd
deriving DecidableEq, Repr

/-- What arrives within a span of time after a datagram, in order and with the senders. -/
abbrev Answers := Duration → List (Endpoint × Bytes)

/-- A network.  Its functions take the requests that came before. -/
structure Network where
  /-- The reply to a request for the document at a URL. -/
  get : List Request → String → Except ClientFailure Reply
  /-- The reply to an envelope that is posted to a URL for an action. -/
  post : List Request → String → String → String → Except ClientFailure Reply
  /-- What arrives after a text is sent to a port of a host, if there is a connection. -/
  send : List Request → String → Nat → String → Except String Arrival
  /-- What arrives after a datagram is sent from an address to an endpoint, if it can be. -/
  search : List Request → Ipv4 → Endpoint → String → Except String Answers
  /-- The address that an endpoint is reached from. -/
  localIp : Endpoint → Except String Ip
  /-- Whether the host can set up a client for documents and envelopes. -/
  client : List Request → Except String Unit := fun _ => .ok ()
  /-- The nanoseconds that the clock of the host has counted. -/
  clock : List Request → Nat := fun _ => 0

/-- A course of exchanges with the network. -/
def Exchange (ε α : Type) : Type := Network → List Request → Except ε α × List Request

namespace Exchange

variable {ε ε' α β : Type}

/-- The result and the requests of a course on a network, after the requests `past`. -/
def run (x : Exchange ε α) (net : Network) (past : List Request) : Except ε α × List Request :=
  x net past

/-- The course without exchanges that yields `a`. -/
def done (a : α) : Exchange ε α := fun _ past => (.ok a, past)

/-- The course without exchanges that fails. -/
def fail (e : ε) : Exchange ε α := fun _ past => (.error e, past)

/-- One course after another, unless the first one fails. -/
def andThen (x : Exchange ε α) (f : α → Exchange ε β) : Exchange ε β := fun net past =>
  match x net past with
  | (.ok a, past) => f a net past
  | (.error e, past) => (.error e, past)

instance : Monad (Exchange ε) where
  pure := done
  bind := andThen

/-- The course without exchanges that has the given outcome. -/
def ofExcept (r : Except ε α) : Exchange ε α := fun _ past => (r, past)

/-- The course with its failures put in other terms. -/
def mapError (f : ε → ε') (x : Exchange ε α) : Exchange ε' α := fun net past =>
  let (r, past) := x net past
  (r.mapError f, past)

/-- The course that yields the outcome of another, failure or not. -/
def attempt (x : Exchange ε α) : Exchange ε' (Except ε α) := fun net past =>
  let (r, past) := x net past
  (.ok r, past)

/-- Asks for a document. -/
def get (url : String) : Exchange ClientFailure Reply := fun net past =>
  (net.get past url, past ++ [.get url])

/-- Posts an envelope. -/
def post (url soapAction envelope : String) : Exchange ClientFailure Reply := fun net past =>
  (net.post past url soapAction envelope, past ++ [.post url soapAction envelope])

/-- Sends a text on a connection. -/
def send (host : String) (port : Nat) (text : String) : Exchange String Arrival :=
  fun net past => (net.send past host port text, past ++ [.send host port text])

/-- Sends a datagram. -/
def search (source : Ipv4) (target : Endpoint) (datagram : String) : Exchange String Answers :=
  fun net past => (net.search past source target datagram, past ++ [.search source target datagram])

/-- Learns the address that an endpoint is reached from; nothing is sent. -/
def localIp (target : Endpoint) : Exchange String Ip := fun net past => (net.localIp target, past)

/-- Sets up a client; nothing is sent. -/
def client : Exchange String Unit := fun net past => (net.client past, past)

/-- Looks at the clock; nothing is sent. -/
def clock : Exchange ε Nat := fun net past => (.ok (net.clock past), past)

section run

variable (net : Network) (past : List Request)

@[simp] theorem run_pure (a : α) : (pure a : Exchange ε α).run net past = (.ok a, past) := rfl

@[simp] theorem run_fail (e : ε) : (fail e : Exchange ε α).run net past = (.error e, past) := rfl

@[simp] theorem run_ofExcept (r : Except ε α) : (ofExcept r).run net past = (r, past) := rfl

theorem run_bind (x : Exchange ε α) (f : α → Exchange ε β) :
    (x >>= f).run net past =
      match x.run net past with
      | (.ok a, past) => (f a).run net past
      | (.error e, past) => (.error e, past) := rfl

theorem run_bind_ok {x : Exchange ε α} {f : α → Exchange ε β} {a : α} {later : List Request}
    (h : x.run net past = (.ok a, later)) : (x >>= f).run net past = (f a).run net later := by
  rw [run_bind, h]

theorem run_bind_error {x : Exchange ε α} {f : α → Exchange ε β} {e : ε} {later : List Request}
    (h : x.run net past = (.error e, later)) : (x >>= f).run net past = (.error e, later) := by
  rw [run_bind, h]

@[simp] theorem run_mapError (f : ε → ε') (x : Exchange ε α) :
    (x.mapError f).run net past = ((x.run net past).1.mapError f, (x.run net past).2) := rfl

@[simp] theorem run_attempt (x : Exchange ε α) :
    (x.attempt : Exchange ε' (Except ε α)).run net past =
      (.ok (x.run net past).1, (x.run net past).2) := rfl

@[simp] theorem run_get (url : String) :
    (get url).run net past = (net.get past url, past ++ [.get url]) := rfl

@[simp] theorem run_post (url soapAction envelope : String) :
    (post url soapAction envelope).run net past =
      (net.post past url soapAction envelope, past ++ [.post url soapAction envelope]) := rfl

@[simp] theorem run_send (host : String) (port : Nat) (text : String) :
    (send host port text).run net past =
      (net.send past host port text, past ++ [.send host port text]) := rfl

@[simp] theorem run_search (source : Ipv4) (target : Endpoint) (datagram : String) :
    (search source target datagram).run net past =
      (net.search past source target datagram, past ++ [.search source target datagram]) := rfl

@[simp] theorem run_localIp (target : Endpoint) :
    (localIp target).run net past = (net.localIp target, past) := rfl

@[simp] theorem run_client : client.run net past = (net.client past, past) := rfl

@[simp] theorem run_clock : (clock : Exchange ε Nat).run net past = (.ok (net.clock past), past) :=
  rfl

end run

end Exchange

end UpnpGateway.Net
