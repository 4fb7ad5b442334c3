/-
# Invoking one action after another

Whether anything is sent for an action, and what, is decided before anything comes back: an action
that the service does not declare and arguments that cannot be written are refused without a
request, and any other call is posted once.  What comes back then decides about this call alone.
-/
import UpnpGateway.Net.Offline
import UpnpGateway.Proofs.Http.Framing
import UpnpGateway.Proofs.Soap.RequestFraming

namespace UpnpGateway

open UpnpGateway.Http UpnpGateway.Net UpnpGateway.Soap UpnpGateway.Text

/-! ## Replies that come back -/

/-- What arrives on a connection is a complete reply. -/
structure Net.Arrival.Brings (a : Arrival) (reply : Reply) : Prop where
  nil_notMem : [] ∉ a.pieces
  parse_eq : Reply.parse a.pieces.flatten = .ok reply

/-- What arrives on a connection is heard.  Reading stops with bytes that are not too many and do
not end inside a chunk or, if it does not stop, the peer closes the connection. -/
def Net.Arrival.IsHeard (a : Arrival) : Prop :=
  match stop? a.pieces with
  | some got => got.length ≤ maxReplySize ∧ Reply.parse got ≠ .error .cutChunks
  | none => a.ending = .closed

/-- The network answers a request with a complete reply. -/
inductive Net.Network.Answers (net : Network) (past : List Request) : Request → Reply → Prop
  /-- Through the client that writes the names of headers in lower case. -/
  | post {url action envelope : String} {reply : Reply}
      (h : net.post past url action envelope = .ok reply) :
      Answers net past (.post url action envelope) reply
  /-- On a connection. -/
  | send {host text : String} {port : Nat} {arrival : Arrival} {reply : Reply}
      (h : net.send past host port text = .ok arrival) (hreply : arrival.Brings reply) :
      Answers net past (.send host port text) reply

/-- What the network answers to a request is heard; through the client that writes the names of
headers in lower case it always is. -/
def Net.Network.IsHeard (net : Network) (past : List Request) : Request → Prop
  | .send host port text =>
    ∀ arrival, net.send past host port text = .ok arrival → arrival.IsHeard
  | _ => True

lemma Net.Network.isHeard_send_iff {net : Network} {past : List Request} {host text : String}
    {port : Nat} {arrival : Arrival} (h : net.send past host port text = .ok arrival) :
    net.IsHeard past (.send host port text) ↔ arrival.IsHeard := by
  simp only [IsHeard, h, Except.ok.injEq, forall_eq']

/-- A complete reply is read from the connection on which it arrives if it is heard, and otherwise
there is a failure. -/
lemma Net.Arrival.Brings.receive_bind {a : Arrival} {reply : Reply} (h : a.Brings reply)
    (limit : Duration) :
    let back := (receive limit a.ending [] a.pieces).bind fun raw =>
      (Reply.parse raw).mapError fun e => TransportFailure.malformed e.message
    (a.IsHeard → back = .ok reply) ∧ (¬ a.IsHeard → ∃ cause, back = .error cause) := by
  intro back
  have hback : back = (receive limit a.ending [] a.pieces).bind fun raw =>
      (Reply.parse raw).mapError fun e => TransportFailure.malformed e.message := rfl
  rw [receive_eq limit a.ending h.nil_notMem] at hback
  rw [Arrival.IsHeard]
  cases hstop : stop? a.pieces with
  | none =>
    rw [hstop] at hback
    dsimp only at hback ⊢
    cases hending : a.ending with
    | closed =>
      have hclosed : back = (Reply.parse a.pieces.flatten).mapError fun e =>
          TransportFailure.malformed e.message := by
        rw [hback, hending]
        rfl
      rw [h.parse_eq] at hclosed
      exact ⟨fun _ => hclosed, fun hnot => absurd rfl hnot⟩
    | broken text => exact ⟨nofun, fun _ => ⟨_, by rw [hback, hending]; rfl⟩⟩
    | silent => exact ⟨nofun, fun _ => ⟨_, by rw [hback, hending]; rfl⟩⟩
  | some got =>
    obtain ⟨hstops, rest, hrest⟩ := exists_append_of_stop? hstop
    rw [hstop] at hback
    dsimp only at hback ⊢
    by_cases hsize : maxReplySize < got.length
    · rw [if_pos hsize] at hback
      exact ⟨fun hheard => absurd hheard.1 (Nat.not_le.2 hsize), fun _ => ⟨_, hback⟩⟩
    · have hcomplete : isComplete got = true := by
        rwa [stopsReading, decide_eq_false hsize, Bool.false_or] at hstops
      rw [if_neg hsize] at hback
      dsimp only [Except.bind] at hback
      constructor
      · -- the bytes that have been read settle the reply in all of them
        rintro ⟨-, hcut⟩
        rw [hback, ← (parse_append_iff hcomplete).2 hcut rest, ← hrest, h.parse_eq]
        rfl
      · intro hnot
        have hcut : Reply.parse got = .error .cutChunks := by
          by_contra hcut
          exact hnot ⟨Nat.not_lt.1 hsize, hcut⟩
        exact ⟨_, by rw [hback, hcut]; rfl⟩

/-- A text of characters that may stand in the value of a header. -/
def IsVisible (s : String) : Prop := ∀ c ∈ s.toList, 0x20 ≤ c.toNat ∧ c.toNat < 0x7F

instance (s : String) : Decidable (IsVisible s) := List.decidableBAll _ _

lemma notMem_soapAction {serviceType name : String} (htype : IsVisible serviceType)
    (hname : IsVisible name) : '\r' ∉ (soapAction serviceType name).toList := by
  have hnot : ∀ {s : String}, IsVisible s → '\r' ∉ s.toList := by
    intro s hs hmem
    exact absurd (hs _ hmem).1 (by decide)
  simp [soapAction, hnot htype, hnot hname]

namespace Session

/-! ## A course of calls -/

/-- Invokes actions one after the other, whatever comes of each. -/
def invokeAll (s : Session) :
    List (String × List (String × Value)) → Exchange Error (List (Except Error Response))
  | [] => return []
  | (name, args) :: calls => do
    let outcome ← (s.invoke name args).attempt
    let outcomes ← s.invokeAll calls
    return outcome :: outcomes

section Course

variable (s : Session) (u : Url) (net : Network)

/-- An envelope is posted for an action to the control URL of the service, which is read as `u`, and
something comes back. -/
inductive Posts (past : List Request) (name envelope : String) :
    Request → Except TransportFailure Reply → Prop
  /-- Through the client that writes the names of headers in lower case. -/
  | lower (hstyle : s.profile.headerStyle = .lower) :
      Posts past name envelope
        (.post s.service.controlUrl (soapAction s.service.serviceType name) envelope)
        ((net.post past s.service.controlUrl (soapAction s.service.serviceType name)
          envelope).mapError s.client.failure)
  /-- As one message to the host and the port of the URL, with headers as in the standard. -/
  | verbatim (hstyle : s.profile.headerStyle = .verbatim) {host : Host}
      (hhost : u.host? = some host) {text : String} {head : Bytes}
      (hframed : FramedAs (encodeUtf8 text.toList) head (String.ofList u.requestTarget)
        (verbatimHeaders (String.ofList host.chars) (u.port?.getD 80)
          (soapAction s.service.serviceType name) envelope) (encodeUtf8 envelope.toList)) :
      Posts past name envelope (.send (String.ofList host.chars) (u.port?.getD 80) text)
        (((net.send past (String.ofList host.chars) (u.port?.getD 80) text).mapError
          .connection).bind fun arrival =>
            (receive s.timeout arrival.ending [] arrival.pieces).bind fun raw =>
              (Reply.parse raw).mapError fun e => .malformed e.message)

/-- What a call that has been posted comes to, by what comes back for it. -/
inductive Settles (name : String) (action : Action) :
    Except TransportFailure Reply → Except Error Response → Prop
  /-- A success has a slot for each declared output, in declared order, whatever its body is. -/
  | success {reply : Reply} (hstatus : 200 ≤ reply.status ∧ reply.status < 300)
      {response : Response}
      (hresponse : response = .ofEnvelope s.profile.tagRule action reply.body)
      (hslots : response.values.map Prod.fst = action.outputs.map Argument.name) :
      Settles name action (.ok reply) (.ok response)
  /-- Any other status with a fault in the body is this fault. -/
  | refused {reply : Reply} (hstatus : ¬(200 ≤ reply.status ∧ reply.status < 300))
      {fault : Fault} (hfault : Fault.parse? s.profile reply.body = some fault) :
      Settles name action (.ok reply) (.error (.refused name fault))
  /-- Any other status without a fault is the status. -/
  | status {reply : Reply} (hstatus : ¬(200 ≤ reply.status ∧ reply.status < 300))
      (hnone : Fault.parse? s.profile reply.body = none) :
      Settles name action (.ok reply) (.error (.requestFailed name (.status reply.status)))
  /-- Without a reply it is the failure of the exchange. -/
  | failed (cause : TransportFailure) :
      Settles name action (.error cause) (.error (.requestFailed name cause))

/-- What one call comes to, and what is sent for it. -/
inductive Turn (past : List Request) (name : String) (args : List (String × Value)) :
    Except Error Response → List Request → Prop
  /-- For an action that is not declared nothing is sent. -/
  | undeclared (hnone : ∀ action ∈ s.service.table.actions, action.name ≠ name) :
      Turn past name args (.error (.actionUndeclared name s.service.serviceType)) []
  /-- For arguments that cannot be written nothing is sent. -/
  | unwritten {action : Action} (haction : s.service.action? name = some action)
      {e : ArgumentError} (herror : encodeInputs action args = .error e) :
      Turn past name args (.error (.invalidArgument name e.argument e.flaw.message)) []
  /-- Any other call is posted once, and its envelope carries its inputs in declared order. -/
  | posted {action : Action} (haction : s.service.action? name = some action)
      {texts : List (String × String)} (htexts : encodeInputs action args = .ok texts)
      (hnames : texts.map Prod.fst = action.inputs.map Argument.name)
      {envelope : String} (henvelope : envelope = requestEnvelope s.service.serviceType name texts)
      (hcarries : Carries envelope name texts)
      {request : Request} {back : Except TransportFailure Reply}
      (hposts : s.Posts u net past name envelope request back)
      {outcome : Except Error Response} (hsettles : s.Settles name action back outcome) :
      Turn past name args outcome [request]

/-- What some calls come to, one after the other, and what is sent for them. -/
inductive Course : List Request → List (String × List (String × Value)) →
    List (Except Error Response) → List Request → Prop
  /-- Without calls nothing is sent. -/
  | nil {past : List Request} : Course past [] [] []
  /-- What is sent for a call comes before what is sent for the calls behind it. -/
  | cons {past : List Request} {name : String} {args : List (String × Value)}
      {outcome : Except Error Response} {sent : List Request}
      {calls : List (String × List (String × Value))} {outcomes : List (Except Error Response)}
      {more : List Request} (hturn : s.Turn u net past name args outcome sent)
      (hrest : Course (past ++ sent) calls outcomes more) :
      Course past ((name, args) :: calls) (outcome :: outcomes) (sent ++ more)

end Course

/-! ## One call -/

section Turn

variable {s : Session} {u : Url} {net : Network}

/-- A complete reply comes back as it is if it is heard, and otherwise there is a failure. -/
lemma Posts.back_of_answers {past : List Request} {name envelope : String} {request : Request}
    {back : Except TransportFailure Reply} {reply : Reply}
    (h : s.Posts u net past name envelope request back) (hreply : net.Answers past request reply) :
    (net.IsHeard past request → back = .ok reply) ∧
      (¬ net.IsHeard past request → ∃ cause, back = .error cause) := by
  cases h with
  | lower hstyle =>
    cases hreply with
    | post hpost =>
      rw [hpost]
      exact ⟨fun _ => rfl, fun hnot => absurd trivial hnot⟩
  | verbatim hstyle hhost hframed =>
    cases hreply with
    | send hsend hbrings =>
      rw [Network.isHeard_send_iff hsend, hsend]
      exact hbrings.receive_bind s.timeout

/-- A call that fails a check sends nothing. -/
lemma run_invoke_of_prepare_error {name : String} {args : List (String × Value)} {e : Error}
    (h : prepare s.service name args = .error e) (net : Network) (past : List Request) :
    (s.invoke name args).run net past = (.error e, past ++ []) := by
  rw [invoke, Soap.invoke, h, Exchange.run_bind, Exchange.run_ofExcept, List.append_nil]

/-- What a reply says about an action. -/
lemma settles_outcome {name : String} {action : Action}
    (haction : s.service.action? name = some action) (back : Except TransportFailure Reply) :
    s.Settles name action back (s.outcome name action back) := by
  have hname : action.name = name := by simpa using List.find?_some haction
  cases back with
  | error cause => exact .failed cause
  | ok reply =>
    have hsuccess : reply.isSuccess = true ↔ 200 ≤ reply.status ∧ reply.status < 300 := by
      simp [Reply.isSuccess]
    rw [outcome, interpret, hname]
    split
    · rename_i h
      exact .success (hsuccess.1 h) rfl (Response.map_fst_values_ofEnvelope _ _ _)
    · rename_i h
      have hstatus := mt hsuccess.2 h
      split
      · rename_i fault hfault
        exact .refused hstatus hfault
      · rename_i hnone
        exact .status hstatus hnone

section Visible

variable {envelope name : String} (hurl : Url.parse? s.service.controlUrl = some u)
  (hscheme : u.scheme = "http".toList) (htype : IsVisible s.service.serviceType)
include hurl hscheme htype

/-- An envelope for an action with a visible name is posted. -/
lemma exists_posts (hname : IsVisible name) :
    ∃ request, s.request? name envelope = some request ∧ ∀ net past,
      s.Posts u net past name envelope request
        ((s.client.post s.service.controlUrl (soapAction s.service.serviceType name)
          envelope).run net past).1 := by
  cases hstyle : s.profile.headerStyle with
  | lower =>
    have hclient : s.client.style = .lower := hstyle
    refine ⟨.post s.service.controlUrl (soapAction s.service.serviceType name) envelope, ?_,
      fun net past => ?_⟩
    · rw [request?, Client.request?, hclient]
    · rw [Client.post, hclient]
      exact .lower hstyle
  | verbatim =>
    have hclient : s.client.style = .verbatim := hstyle
    obtain ⟨host, hhost⟩ := Url.exists_host?_of_http hurl hscheme
    obtain ⟨htarget, hchars⟩ := Url.isSolid_of_host? hurl hhost
    have hroot := Url.head?_requestTarget hurl hhost (hscheme ▸ (by decide))
    have hline : ¬ ['\r', '\n'] <:+: (soapAction s.service.serviceType name).toList :=
      fun h => notMem_soapAction htype hname (h.subset List.mem_cons_self)
    obtain ⟨head, hframed⟩ : ∃ head, FramedAs (encodeUtf8 (verbatimRequest
        (String.ofList u.requestTarget) (String.ofList host.chars) (u.port?.getD 80)
        (soapAction s.service.serviceType name) envelope).toList) head
        (String.ofList u.requestTarget) (verbatimHeaders (String.ofList host.chars)
          (u.port?.getD 80) (soapAction s.service.serviceType name) envelope)
        (encodeUtf8 envelope.toList) :=
      exists_framedAs_verbatimRequest (by rwa [String.toList_ofList])
        (by rwa [String.toList_ofList]) (by rwa [String.toList_ofList]) hline
    have hrequest : s.request? name envelope = some (.send (String.ofList host.chars)
        (u.port?.getD 80) (verbatimRequest (String.ofList u.requestTarget)
          (String.ofList host.chars) (u.port?.getD 80) (soapAction s.service.serviceType name)
          envelope)) := by
      simp only [request?, Client.request?, hclient, hurl, hhost, Option.map_some]
    refine ⟨_, hrequest, fun net past => ?_⟩
    rw [Client.fst_run_post_of_request? _ _ _ _ net past hrequest]
    exact .verbatim hstyle hhost hframed

/-- Every call is one turn, and what is sent in it is the same on every network. -/
lemma exists_turn (hnames : ∀ action ∈ s.service.table.actions, IsVisible action.name)
    (name : String) (args : List (String × Value)) :
    ∃ sent, ∀ net past, ∃ outcome, (s.invoke name args).run net past = (outcome, past ++ sent) ∧
      s.Turn u net past name args outcome sent := by
  cases haction : s.service.action? name with
  | none =>
    have hprepare : prepare s.service name args =
        .error (.actionUndeclared name s.service.serviceType) := by
      rw [prepare, haction]
    refine ⟨[], fun net past => ⟨_, run_invoke_of_prepare_error hprepare net past,
      .undeclared fun action h => ?_⟩⟩
    simpa using List.find?_eq_none.1 haction action h
  | some action =>
    have hname : action.name = name := by simpa using List.find?_some haction
    cases htexts : encodeInputs action args with
    | error e =>
      have hprepare : prepare s.service name args =
          .error (.invalidArgument name e.argument e.flaw.message) := by
        rw [prepare, haction]
        dsimp only
        rw [htexts, hname]
      exact ⟨[], fun net past => ⟨_, run_invoke_of_prepare_error hprepare net past,
        .unwritten haction htexts⟩⟩
    | ok texts =>
      have hprepare : prepare s.service name args =
          .ok ⟨action, soapAction s.service.serviceType name,
            requestEnvelope s.service.serviceType name texts⟩ := by
        rw [prepare, haction]
        dsimp only
        rw [htexts]
        rfl
      have hvisible : IsVisible name := hname ▸ hnames action (List.mem_of_find?_eq_some haction)
      obtain ⟨request, hrequest, hposts⟩ := exists_posts hurl hscheme htype hvisible
      refine ⟨[request], fun net past => ⟨_, ?_, .posted haction htexts
        (map_fst_of_encodeInputs htexts) rfl (carries_requestEnvelope _ _ _) (hposts net past)
        (settles_outcome haction _)⟩⟩
      rw [s.run_invoke hprepare net past]
      dsimp only
      rw [hrequest]
      rfl

end Visible

end Turn

/-! ## Many calls -/

section Calls

variable {s : Session} {u : Url} (hurl : Url.parse? s.service.controlUrl = some u)
  (hscheme : u.scheme = "http".toList) (htype : IsVisible s.service.serviceType)
  (hnames : ∀ action ∈ s.service.table.actions, IsVisible action.name)
include hurl hscheme htype hnames

/-- Calls are made one after the other, each after what has been sent for the ones before it. -/
lemma exists_course (calls : List (String × List (String × Value))) :
    ∃ sent, ∀ net past, ∃ outcomes,
      (s.invokeAll calls).run net past = (.ok outcomes, past ++ sent) ∧
        s.Course u net past calls outcomes sent := by
  induction calls with
  | nil =>
    exact ⟨[], fun net past => ⟨[], by rw [invokeAll, Exchange.run_pure, List.append_nil], .nil⟩⟩
  | cons call calls ih =>
    obtain ⟨name, args⟩ := call
    obtain ⟨sent, hturns⟩ := exists_turn hurl hscheme htype hnames name args
    obtain ⟨more, hcourses⟩ := ih
    refine ⟨sent ++ more, fun net past => ?_⟩
    obtain ⟨outcome, hrun, hturn⟩ := hturns net past
    obtain ⟨outcomes, hruns, hcourse⟩ := hcourses net (past ++ sent)
    refine ⟨outcome :: outcomes, ?_, .cons hturn hcourse⟩
    rw [invokeAll, Exchange.run_bind, Exchange.run_attempt, hrun]
    dsimp only
    rw [Exchange.run_bind, hruns, List.append_assoc]
    rfl

/-- What is sent for some calls is decided before anything comes back for them, so it is the same on
every network: in order, each call of a declared action with arguments that can be written is posted
once to the control URL of the service, with the name of the action and an envelope in which its
inputs are read in declared order, and nothing is sent for the other calls, which are refused.  A
call that was posted comes to what comes back for it: a success has one slot for each declared
output, whatever its body is, and any other status is the fault in the body or, if there is none,
the status.  A complete reply comes back as it is exactly if it is heard: on a connection reading
must not stop inside a chunk, and if it does not stop by itself the peer has to close the
connection.  Otherwise the exchange fails. -/
theorem run_invokeAll (calls : List (String × List (String × Value))) :
    (∃ sent, ∀ net past, ∃ outcomes,
      (s.invokeAll calls).run net past = (.ok outcomes, past ++ sent) ∧
        s.Course u net past calls outcomes sent) ∧
    ∀ net past name envelope request back reply, s.Posts u net past name envelope request back →
      net.Answers past request reply →
        (net.IsHeard past request → back = .ok reply) ∧
        (¬ net.IsHeard past request → ∃ cause, back = .error cause) :=
  ⟨exists_course hurl hscheme htype hnames calls,
    fun _ _ _ _ _ _ _ hposts hreply => hposts.back_of_answers hreply⟩

end Calls

/-! ### A gateway that answers twice -/

/-- An action with an input and an output. -/
def leaseAction : Action :=
  ⟨"GetLease", [⟨"NewExternalPort", "A", .integer .ui2⟩],
    [⟨"NewLeaseDuration", "B", .integer .ui4⟩]⟩

/-- A session with a gateway that compares the names of headers letter by letter. -/
def leaseSession : Session where
  advertisement := ⟨"", "", "", "", ⟨default, 1900⟩, []⟩
  portrait := ⟨default, default, .avm⟩
  service := { askedService mappingType with table := ⟨[leaseAction], []⟩ }
  localIp := default
  lanIp := none
  searchHeaders := []
  enumerationLimit := 100
  timeout := default

/-- The envelope with the input of the action. -/
def leaseEnvelope : String := requestEnvelope mappingType "GetLease" [("NewExternalPort", "80")]

/-- A success with something unreadable in it, in two pieces on a connection that stays open. -/
def keptAnswer : Arrival where
  pieces := [encodeUtf8 "HTTP/1.1 200 OK\r\nContent-".toList,
    encodeUtf8 "Length: 2\r\n\r\n<!".toList]
  ending := .silent

/-- An envelope with an answer, in which a number has an empty line behind it. -/
def leaseAnswer : String :=
  "<Envelope><Body><R><NewLeaseDuration>0\r\n\r\n</NewLeaseDuration></R></Body></Envelope>"

/-- A success with the envelope in one chunk, of which the first piece ends like a last chunk. -/
def splitAnswer : Arrival where
  pieces := [
    encodeUtf8 ("HTTP/1.1 200 OK\r\nTransfer-Encoding: chunked\r\n\r\n53\r\n" ++
      "<Envelope><Body><R><NewLeaseDuration>0\r\n\r\n").toList,
    encodeUtf8 "</NewLeaseDuration></R></Body></Envelope>\r\n0\r\n\r\n".toList]
  ending := .closed

/-- A success without a body on a connection that stays open; its last chunk has an extension. -/
def openAnswer : Arrival where
  pieces := [encodeUtf8 "HTTP/1.1 200 OK\r\nTransfer-Encoding: chunked\r\n\r\n0;x\r\n\r\n".toList]
  ending := .silent

/-- A network on which a gateway answers everything in one way. -/
def answeringNetwork (a : Arrival) : Network :=
  { Network.offline with send _ _ _ _ := .ok a }

/-- A network on which the gateway answers the first request with something unreadable and any other
one with a status. -/
def leaseNetwork : Network :=
  { Network.offline with
    send past _ _ _ :=
      if past.isEmpty then .ok keptAnswer
      else .ok ⟨[encodeUtf8 "HTTP/1.1 404 Not Found\r\n\r\n".toList], .closed⟩ }

/-- Calls of which the second and the third one are refused at once. -/
def leaseCalls : List (String × List (String × Value)) := [
  ("GetLease", [("NewExternalPort", .unsigned 80)]),
  ("GetLease", [("NewExternalPort", .unsigned 70000)]),
  ("GetPort", []),
  ("GetLease", [("NewExternalPort", .text " 080")])]

/-- What the calls come to: the first one has an empty slot, and the last one is a status. -/
def leaseOutcomes : List (Except Error Response) := [
  .ok ⟨"GetLease", [("NewLeaseDuration", none)]⟩,
  .error (.invalidArgument "GetLease" "NewExternalPort" "70000 is out of range for ui2"),
  .error (.actionUndeclared "GetPort" mappingType),
  .error (.requestFailed "GetLease" (.status 404))]

/-- What the gateway answers on a connection is an answer to what is posted, and is heard as soon as
it can be heard on the connection. -/
lemma Posts.answers_of_verbatim {s : Session} {u : Url} {a : Arrival} {past : List Request}
    {name envelope : String} {request : Request} {back : Except TransportFailure Reply}
    {reply : Reply} (h : s.Posts u (answeringNetwork a) past name envelope request back)
    (hstyle : s.profile.headerStyle = .verbatim) (ha : a.Brings reply) :
    (answeringNetwork a).Answers past request reply ∧
      ((answeringNetwork a).IsHeard past request ↔ a.IsHeard) := by
  cases h with
  | lower hlower =>
    rw [hstyle] at hlower
    cases hlower
  | verbatim => exact ⟨.send rfl ha, Network.isHeard_send_iff rfl⟩

lemma brings_keptAnswer : keptAnswer.Brings ⟨200, "<!"⟩ := ⟨by decide +kernel, by decide +kernel⟩

lemma isHeard_keptAnswer : keptAnswer.IsHeard := by
  have hstop : stop? keptAnswer.pieces = some keptAnswer.pieces.flatten := by decide +kernel
  rw [Arrival.IsHeard, hstop]
  decide +kernel

lemma brings_splitAnswer : splitAnswer.Brings ⟨200, leaseAnswer⟩ :=
  ⟨by decide +kernel, by decide +kernel⟩

lemma not_isHeard_splitAnswer : ¬ splitAnswer.IsHeard := by
  have hstop : stop? splitAnswer.pieces = some (splitAnswer.pieces.headD []) := by decide +kernel
  rw [Arrival.IsHeard, hstop]
  decide +kernel

lemma brings_openAnswer : openAnswer.Brings ⟨200, ""⟩ := ⟨by decide +kernel, by decide +kernel⟩

/-- The envelope of the first call is posted in the session. -/
lemma exists_posts_lease (net : Network) :
    ∃ request, leaseSession.Posts askedUrl net [] "GetLease" leaseEnvelope request
      ((leaseSession.client.post leaseSession.service.controlUrl
        (soapAction leaseSession.service.serviceType "GetLease") leaseEnvelope).run net []).1 := by
  have htype : IsVisible leaseSession.service.serviceType := by decide
  have hname : IsVisible "GetLease" := by decide
  exact (exists_posts parse?_askedUrl rfl htype hname).imp fun _ h => h.2 net []

/-- Two of the four calls are sent.  An answer in two pieces comes back as it is, and is lost if the
first piece ends like a last chunk. -/
theorem run_invokeAll_lease :
    (Url.parse? leaseSession.service.controlUrl = some askedUrl ∧
      IsVisible leaseSession.service.serviceType ∧
      ((leaseSession.invokeAll leaseCalls).run leaseNetwork []).1 = .ok leaseOutcomes ∧
      ((leaseSession.invokeAll leaseCalls).run leaseNetwork []).2.length = 2) ∧
    (∃ sent, ∀ net past, ∃ outcomes,
      (leaseSession.invokeAll leaseCalls).run net past = (.ok outcomes, past ++ sent) ∧
        leaseSession.Course askedUrl net past leaseCalls outcomes sent) ∧
    (∃ request back, back = .ok ⟨200, "<!"⟩ ∧
      leaseSession.Posts askedUrl (answeringNetwork keptAnswer) [] "GetLease" leaseEnvelope
        request back) ∧
    ∃ request back cause, back = .error cause ∧
      leaseSession.Posts askedUrl (answeringNetwork splitAnswer) [] "GetLease" leaseEnvelope
        request back := by
  have htype : IsVisible leaseSession.service.serviceType := by decide
  have hnames : ∀ action ∈ leaseSession.service.table.actions, IsVisible action.name := by decide
  obtain ⟨hcourse, hback⟩ := run_invokeAll parse?_askedUrl rfl htype hnames leaseCalls
  refine ⟨⟨parse?_askedUrl, htype, by decide +kernel, by decide +kernel⟩, hcourse, ?_, ?_⟩
  · obtain ⟨request, hposts⟩ := exists_posts_lease (answeringNetwork keptAnswer)
    obtain ⟨hanswers, hheard⟩ := hposts.answers_of_verbatim rfl brings_keptAnswer
    have hreply := (hback _ _ _ _ _ _ _ hposts hanswers).1 (hheard.2 isHeard_keptAnswer)
    exact ⟨request, _, hreply, hposts⟩
  · obtain ⟨request, hposts⟩ := exists_posts_lease (answeringNetwork splitAnswer)
    obtain ⟨hanswers, hheard⟩ := hposts.answers_of_verbatim rfl brings_splitAnswer
    obtain ⟨cause, hcause⟩ :=
      (hback _ _ _ _ _ _ _ hposts hanswers).2 fun h => not_isHeard_splitAnswer (hheard.1 h)
    exact ⟨request, _, cause, hcause, hposts⟩

/-- Not every complete answer comes back: an answer in chunks is lost if a piece of it ends like a
last chunk, and if its last chunk has an extension and the connection stays open. -/
theorem run_invoke_unheard :
    ¬ (∀ (s : Session) (u : Url), Url.parse? s.service.controlUrl = some u →
      u.scheme = "http".toList → IsVisible s.service.serviceType →
      (∀ action ∈ s.service.table.actions, IsVisible action.name) →
      ∀ net past name envelope request back reply, s.Posts u net past name envelope request back →
        net.Answers past request reply → back = .ok reply) ∧
    (splitAnswer.Brings ⟨200, leaseAnswer⟩ ∧
      ((leaseSession.invoke "GetLease" [("NewExternalPort", .unsigned 80)]).run
        (answeringNetwork splitAnswer) []).1 =
        .error (.requestFailed "GetLease" (.malformed "truncated chunked body"))) ∧
    openAnswer.Brings ⟨200, ""⟩ ∧
      ((leaseSession.invoke "GetLease" [("NewExternalPort", .unsigned 80)]).run
        (answeringNetwork openAnswer) []).1 =
        .error (.requestFailed "GetLease" (.timedOut default)) := by
  refine ⟨fun hall => ?_, ⟨brings_splitAnswer, by decide +kernel⟩, brings_openAnswer,
    by decide +kernel⟩
  have htype : IsVisible leaseSession.service.serviceType := by decide
  have hnames : ∀ action ∈ leaseSession.service.table.actions, IsVisible action.name := by decide
  obtain ⟨request, hposts⟩ := exists_posts_lease (answeringNetwork openAnswer)
  obtain ⟨hanswers, -⟩ := hposts.answers_of_verbatim rfl brings_openAnswer
  have hback := hall leaseSession askedUrl parse?_askedUrl rfl htype hnames _ _ _ _ _ _ _ hposts
    hanswers
  revert hback
  decide +kernel

end Session

end UpnpGateway
