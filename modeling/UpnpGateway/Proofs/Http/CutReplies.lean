/-
# Replies that are cut short

A peer may close the connection before its reply is whole.  In the headers and in a row of
chunks this is noticed: what is left of them is no reply, unless it settles the reply already.
A length, however, only says where to stop reading.  If the peer closes the connection before
that, the bytes that have come are the body, and what is read from them is a part of what the
peer was about to say.
-/
import UpnpGateway.Net.Offline
import UpnpGateway.Proofs.Http.Framing
import UpnpGateway.Proofs.Http.Posting
import UpnpGateway.Soap.Fault
import UpnpGateway.Soap.Response

namespace UpnpGateway.Http

open UpnpGateway.Net UpnpGateway.Soap UpnpGateway.Text

/-- The reply with a status and the bytes of a body. -/
def Reply.ofBytes (body : Bytes) (code : UInt16) : Reply :=
  ⟨code, String.ofList (decodeUtf8 body)⟩

/-- A reply is cut short: there are fewer bytes behind its head than the head says. -/
structure IsCut (raw : Bytes) (head : List Char) (rest : Bytes) : Prop where
  cutHead?_eq : cutHead? raw = some (head, rest)
  isChunked_eq : isChunked head = false
  exists_length : ∃ n, contentLength? head = some n ∧ rest.length < n

lemma parse_of_no_head {raw : Bytes} (h : cutHead? raw = none) :
    Reply.parse raw = .error .cutHead := by
  rw [Reply.parse, h]

/-- A row of chunks that is read without failure, or with another one than that it is cut short,
is read in the same way whatever follows. -/
lemma parse_append_of_isChunked {raw rest : Bytes} {head : List Char}
    (h : cutHead? raw = some (head, rest)) (hchunked : isChunked head = true)
    (hparse : Reply.parse raw ≠ .error .cutChunks) (ext : Bytes) :
    Reply.parse (raw ++ ext) = Reply.parse raw := by
  have hext := cutHead?_append h ext
  cases hs : statusOf head with
  | error e => rw [parse_of_bad_status h hs, parse_of_bad_status hext hs]
  | ok code =>
    rw [parse_of_status h hs, ne_eq, map_eq_error, bodyBytes, if_pos hchunked] at hparse
    rw [parse_of_status h hs, parse_of_status hext hs, bodyBytes, bodyBytes, if_pos hchunked,
      if_pos hchunked, dechunk_append hparse]

namespace IsCut

variable {raw rest : Bytes} {head : List Char}

/-- No byte of a body that is cut short is missed. -/
lemma bodyBytes_eq (h : IsCut raw head rest) : bodyBytes head rest = .ok rest := by
  obtain ⟨n, hn, hlt⟩ := h.exists_length
  rw [bodyBytes, h.isChunked_eq, hn, Option.map_some, Option.getD_some,
    List.take_of_length_le (Nat.le_of_lt hlt)]
  rfl

lemma parse_eq (h : IsCut raw head rest) :
    Reply.parse raw = (statusOf head).map (Reply.ofBytes rest) := by
  cases hs : statusOf head with
  | error e => rw [parse_of_bad_status h.cutHead?_eq hs]; rfl
  | ok code => rw [parse_of_status h.cutHead?_eq hs, h.bodyBytes_eq]; rfl

lemma isComplete_eq (h : IsCut raw head rest) : isComplete raw = false := by
  obtain ⟨n, hn, hlt⟩ := h.exists_length
  rw [isComplete, h.cutHead?_eq]
  simp [h.isChunked_eq, hn, hlt]

/-- The bytes up to any place in a reply that is cut short are not enough. -/
lemma isComplete_take_eq (h : IsCut raw head rest) {front back : Bytes}
    (hraw : raw = front ++ back) : isComplete front = false := by
  cases hfront : cutHead? front with
  | none => rw [isComplete, hfront]
  | some p =>
    obtain ⟨head', rest'⟩ := p
    have happ := cutHead?_append hfront back
    rw [← hraw, h.cutHead?_eq, Option.some.injEq, Prod.mk.injEq] at happ
    obtain ⟨rfl, rfl⟩ := happ
    obtain ⟨n, hn, hlt⟩ := h.exists_length
    have hshort : IsCut front head rest' :=
      ⟨hfront, h.isChunked_eq, n, hn, by rw [List.length_append] at hlt; omega⟩
    exact hshort.isComplete_eq

/-- All bytes of a reply that is cut short are read, however they come in pieces. -/
lemma receive_eq (h : IsCut raw head rest) (limit : Duration) {pieces : List Bytes}
    (hpieces : pieces.flatten = raw) (hne : [] ∉ pieces) (hlen : raw.length ≤ maxReplySize) :
    receive limit .closed [] pieces = .ok raw := by
  subst hpieces
  obtain ⟨got, rest', hgot, hrest, hall | hcomplete⟩ := receive_closed hlen limit hne
  · rw [hgot, hrest, hall, List.append_nil]
  · rw [h.isComplete_take_eq hrest] at hcomplete
    cases hcomplete

end IsCut

/-- What the end of a connection does to a reply.  A reply that ends in its head is none, and one
that ends in a row of chunks is none either, unless nothing that could follow would change it.  But
if it ends before its length, then it is an error only if it has no status; otherwise the part of
the body that has come is taken for the whole, and a client that has posted an envelope is given
it as the reply, however it comes in pieces. -/
theorem parse_of_closed (raw : Bytes) :
    (cutHead? raw = none → Reply.parse raw = .error .cutHead) ∧
    (∀ head rest, cutHead? raw = some (head, rest) → isChunked head = true →
      Reply.parse raw = .error .cutChunks ∨
        ∀ ext, Reply.parse (raw ++ ext) = Reply.parse raw) ∧
    ∀ head rest, IsCut raw head rest →
      Reply.parse raw = (statusOf head).map (Reply.ofBytes rest) ∧
      ((∃ e, Reply.parse raw = .error e) ↔ ∃ e, statusOf head = .error e) ∧
      ∀ (c : Client) (url soapAction envelope host text : String) (port : Nat) (net : Network)
        (past : List Request) (pieces : List Bytes),
        c.request? url soapAction envelope = some (.send host port text) →
        net.send past host port text = .ok ⟨pieces, .closed⟩ →
        pieces.flatten = raw → [] ∉ pieces → raw.length ≤ maxReplySize →
        ((c.post url soapAction envelope).run net past).1 =
          ((statusOf head).map (Reply.ofBytes rest)).mapError fun e => .malformed e.message := by
  refine ⟨parse_of_no_head, fun head rest hhead hchunked => ?_, fun head rest hcut =>
    ⟨hcut.parse_eq, ?_, ?_⟩⟩
  · by_cases hparse : Reply.parse raw = .error .cutChunks
    · exact .inl hparse
    · exact .inr (parse_append_of_isChunked hhead hchunked hparse)
  · simp only [hcut.parse_eq, map_eq_error]
  · intro c url soapAction envelope host text port net past pieces hrequest harrival hpieces hne
      hlen
    rw [c.fst_run_post_of_send url soapAction envelope net past hrequest harrival,
      hcut.receive_eq c.timeout hpieces hne hlen, Except.bind, hcut.parse_eq]

/-! ### A number that is cut in two -/

/-- The first bytes of an answer with a lease of 3600 seconds. -/
def cutLease : Bytes :=
  encodeUtf8 ("HTTP/1.1 200 OK\r\nContent-Length: 90\r\n\r\n" ++
    "<Envelope><Body><QueryResponse><NewLeaseDuration>36").toList

/-- The first bytes of a refusal with the code 718. -/
def cutRefusal : Bytes :=
  encodeUtf8 ("HTTP/1.1 500 Refused\r\nContent-Length: 90\r\n\r\n" ++
    "<Envelope><Body><UPnPError><errorCode>71").toList

/-- An action with the lease as its output. -/
def leaseQuery : Action := ⟨"Query", [], [⟨"NewLeaseDuration", "A", .integer .ui4⟩]⟩

/-- A client that writes the names of headers as in the standard. -/
def plainClient : Client := ⟨default, .verbatim⟩

/-- A network in which the peer sends some pieces and closes the connection. -/
def closingNetwork (pieces : List Bytes) : Network :=
  { Network.offline with send _ _ _ _ := .ok ⟨pieces, .closed⟩ }

lemma exists_isCut_cutLease : ∃ head rest, IsCut cutLease head rest ∧
    (statusOf head).map (Reply.ofBytes rest) =
      .ok ⟨200, "<Envelope><Body><QueryResponse><NewLeaseDuration>36"⟩ := by
  have hhead : cutHead? cutLease = some ("HTTP/1.1 200 OK\r\nContent-Length: 90".toList,
      encodeUtf8 "<Envelope><Body><QueryResponse><NewLeaseDuration>36".toList) := by
    decide +kernel
  refine ⟨_, _, ⟨hhead, by decide +kernel, 90, by decide +kernel, by decide +kernel⟩, ?_⟩
  decide +kernel

/-- The client takes what has come of the answer for the reply, and the lease in it is one of 36
seconds. -/
theorem parse_of_closed_lease :
    ((plainClient.post "http://[::1]/" "" "").run
      (closingNetwork [cutLease.take 50, cutLease.drop 50]) []).1 =
      .ok ⟨200, "<Envelope><Body><QueryResponse><NewLeaseDuration>36"⟩ ∧
    (Response.ofEnvelope .exact leaseQuery
      "<Envelope><Body><QueryResponse><NewLeaseDuration>36").get? "NewLeaseDuration" =
      some "36" := by
  constructor
  · obtain ⟨head, rest, hcut, hreply⟩ := exists_isCut_cutLease
    have hrequest : plainClient.request? "http://[::1]/" "" "" =
        some (.send "[::1]" 80 (verbatimRequest "/" "[::1]" 80 "" "")) := by
      decide +kernel
    have hpieces : ([cutLease.take 50, cutLease.drop 50] : List Bytes).flatten = cutLease := by
      decide +kernel
    have hne : [] ∉ ([cutLease.take 50, cutLease.drop 50] : List Bytes) := by decide +kernel
    have hlen : cutLease.length ≤ maxReplySize := by decide +kernel
    rw [((parse_of_closed cutLease).2.2 head rest hcut).2.2 plainClient _ _ _ _ _ _
      (closingNetwork [cutLease.take 50, cutLease.drop 50]) [] _ hrequest rfl hpieces hne hlen,
      hreply]
    rfl
  · decide +kernel

/-- Replies that are cut short are read without failure, and so are a shorter lease and another
code than the gateway sent. -/
theorem parse_of_cut_number :
    ¬ (∀ raw head rest, IsCut raw head rest → ∃ e, Reply.parse raw = .error e) ∧
    (∃ head rest reply, IsCut cutLease head rest ∧ Reply.parse cutLease = .ok reply ∧
      (Response.ofEnvelope .exact leaseQuery reply.body).get? "NewLeaseDuration" = some "36") ∧
    ∃ head rest reply, IsCut cutRefusal head rest ∧ Reply.parse cutRefusal = .ok reply ∧
      Fault.parse? .avm reply.body = some (.new 71 "") := by
  obtain ⟨head, rest, hcut, hreply⟩ := exists_isCut_cutLease
  have hparse := hcut.parse_eq.trans hreply
  refine ⟨fun hall => ?_, ⟨head, rest, _, hcut, hparse, by decide +kernel⟩, ?_⟩
  · obtain ⟨e, he⟩ := hall _ _ _ hcut
    rw [hparse] at he
    cases he
  · have hhead : cutHead? cutRefusal = some ("HTTP/1.1 500 Refused\r\nContent-Length: 90".toList,
        encodeUtf8 "<Envelope><Body><UPnPError><errorCode>71".toList) := by
      decide +kernel
    have hrefusal : IsCut cutRefusal _ _ :=
      ⟨hhead, by decide +kernel, 90, by decide +kernel, by decide +kernel⟩
    refine ⟨_, _, ⟨500, "<Envelope><Body><UPnPError><errorCode>71"⟩, hrefusal, ?_, ?_⟩
    · decide +kernel
    · decide +kernel

end UpnpGateway.Http
