/-
# Invoking actions in a session

An action of the service of a session is invoked by one request, which tells the name of the
action whatever way the headers are written.  This file shows what is sent when an action is
invoked and what is made of the answer, so that the operations of a session can be described
by the actions that they invoke.
-/
import UpnpGateway.Proofs.Http.Posting
import UpnpGateway.Proofs.Soap.Requests
import UpnpGateway.Proofs.Text.Numeral
import UpnpGateway.Session

namespace UpnpGateway

open UpnpGateway.Http UpnpGateway.Net UpnpGateway.Soap UpnpGateway.Text

/-! ## Requests that are checked -/

namespace Soap

/-- What is sent as the name of an action. -/
def soapAction (serviceType name : String) : String := "\"" ++ serviceType ++ "#" ++ name ++ "\""

/-- A request is made only of an action that is declared and of arguments that fit. -/
lemma exists_of_prepare {service : Service} {name : String} {args : List (String × Value)}
    {call : Call} (h : prepare service name args = .ok call) :
    ∃ texts, service.action? name = some call.action ∧
      encodeInputs call.action args = .ok texts ∧
      call.soapAction = soapAction service.serviceType name ∧
      call.envelope = requestEnvelope service.serviceType name texts := by
  rw [prepare] at h
  split at h
  · simp at h
  · rename_i action haction
    split at h
    · simp at h
    · rename_i texts htexts
      obtain rfl := Except.ok.inj h
      exact ⟨texts, haction, htexts, rfl, rfl⟩

end Soap

/-- An action that passes all checks is invoked by one request, which posts its envelope. -/
lemma Soap.run_invoke (client : Client) (profile : Profile) {service : Service} {name : String}
    {args : List (String × Value)} {call : Call} (hcall : prepare service name args = .ok call)
    (net : Network) (past : List Request) :
    (invoke client profile service name args).run net past =
      (match ((client.post service.controlUrl call.soapAction call.envelope).run net past).1 with
        | .error cause => .error (.requestFailed name cause)
        | .ok reply => interpret profile call.action reply,
        past ++ (client.request? service.controlUrl call.soapAction call.envelope).toList) := by
  obtain ⟨reply, later, hpost⟩ :=
    (client.post service.controlUrl call.soapAction call.envelope).exists_run net past
  have hlater := client.snd_run_post service.controlUrl call.soapAction call.envelope net past
  rw [hpost] at hlater
  rw [invoke, hcall, Exchange.run_bind, Exchange.run_ofExcept, ← hlater, hpost]
  dsimp only
  rw [Exchange.run_bind, Exchange.run_mapError, hpost]
  cases reply <;> rfl

/-! ## What a request tells -/

/-- The name of an action can be told from what is sent for it. -/
lemma Soap.eq_of_soapAction {serviceType a b : String} (ha : '"' ∉ a.toList) (hb : '"' ∉ b.toList)
    {u v : List Char}
    (h : (soapAction serviceType a).toList ++ u = (soapAction serviceType b).toList ++ v) :
    a = b := by
  simp only [soapAction, String.toList_append, List.append_assoc] at h
  have h' := List.append_cancel_left (List.append_cancel_left (List.append_cancel_left h))
  exact String.toList_inj.1 (append_cons_inj ha hb h').1

/-- What stands before the number of the bytes in a request that is written as in the
standard. -/
def Http.verbatimStart (target host : String) (port : Nat) : String :=
  "POST " ++ target ++ " HTTP/1.1\r\nHost: " ++ host ++ ":" ++ String.ofList (decimal port) ++
    "\r\nContent-Type: " ++ envelopeType ++ "\r\nContent-Length: "

lemma Http.toList_verbatimRequest (target host : String) (port : Nat) (action body : String) :
    (verbatimRequest target host port action body).toList =
      (verbatimStart target host port).toList ++ (decimal body.utf8ByteSize ++
        '\r' :: ("\nSOAPAction: ".toList ++ (action.toList ++
          ("\r\nConnection: close\r\n\r\n" ++ body).toList))) := by
  simp [verbatimRequest, verbatimHeaders, verbatimStart]

/-- The name of an action can be told from a request that is written as in the standard: it
stands behind the number of the bytes of the envelope, which ends with its line. -/
lemma Http.eq_of_verbatimRequest {target host serviceType a b envelope envelope' : String}
    {port : Nat} (ha : '"' ∉ a.toList) (hb : '"' ∉ b.toList)
    (h : verbatimRequest target host port (soapAction serviceType a) envelope =
      verbatimRequest target host port (soapAction serviceType b) envelope') : a = b := by
  have hdigits : ∀ n, '\r' ∉ decimal n := by
    intro n hmem
    exact absurd (plain_of_mem_decimal hmem).1 (by decide)
  have htext := congrArg String.toList h
  rw [toList_verbatimRequest, toList_verbatimRequest] at htext
  have hrest := (append_cons_inj (hdigits _) (hdigits _) (List.append_cancel_left htext)).2
  exact eq_of_soapAction ha hb (List.append_cancel_left hrest)

namespace Session

variable (s : Session) {name : String}

/-- The request by which an action is invoked with an envelope, if there is one. -/
def request? (name envelope : String) : Option Request :=
  s.client.request? s.service.controlUrl (soapAction s.service.serviceType name) envelope

/-- A request invokes the action with the given name. -/
def Invokes (name : String) (r : Request) : Prop :=
  ∃ envelope, s.request? name envelope = some r

/-- A request invokes one action only. -/
lemma Invokes.eq {s : Session} {a b : String} (ha : '"' ∉ a.toList) (hb : '"' ∉ b.toList)
    {r : Request} (h : s.Invokes a r) (h' : s.Invokes b r) : a = b := by
  obtain ⟨envelope, h⟩ := h
  obtain ⟨envelope', h'⟩ := h'
  have heq := h.trans h'.symm
  rw [request?] at h
  unfold request? Client.request? at heq
  -- the name is a part of the request by itself, or stands in the text that is sent
  cases hstyle : s.client.style with
  | lower =>
    simp only [hstyle, Option.some.injEq, Request.post.injEq] at heq
    exact eq_of_soapAction ha hb (u := []) (v := []) (by rw [heq.2.1])
  | verbatim =>
    cases hurl : Url.parse? s.service.controlUrl with
    | none => simp [Client.request?, hstyle, hurl] at h
    | some u =>
      cases hhost : u.host? with
      | none => simp [Client.request?, hstyle, hurl, hhost] at h
      | some host =>
        simp only [hstyle, hurl, hhost, Option.map_some, Option.some.injEq,
          Request.send.injEq] at heq
        exact eq_of_verbatimRequest ha hb heq.2.2

/-- A request invokes the action with the given name for the given arguments, each written as the
service declares it, and its envelope carries what is written. -/
def InvokesWith (name : String) (args : List (String × Value)) (r : Request) : Prop :=
  ∃ action texts envelope, s.service.action? name = some action ∧
    encodeInputs action args = .ok texts ∧
    envelope = requestEnvelope s.service.serviceType name texts ∧ Carries envelope name texts ∧
    s.request? name envelope = some r

/-- An action is invoked by requests that tell its name. -/
lemma asks_invoke (args : List (String × Value)) : (s.invoke name args).Asks (s.Invokes name) := by
  refine .ofExcept_bind fun call hcall => ?_
  refine .bind (.mapError _ fun net past => ?_) fun reply => .ofExcept _
  obtain ⟨texts, -, -, haction, -⟩ := exists_of_prepare hcall
  refine ⟨_, Client.snd_run_post .., fun r hr => ⟨call.envelope, ?_⟩⟩
  rw [request?, ← haction]
  simpa using hr

/-! ## What comes back -/

/-- What an action comes to, by what comes back for its request. -/
def outcome (name : String) (action : Action) :
    Except TransportFailure Reply → Except Error Response
  | .error cause => .error (.requestFailed name cause)
  | .ok reply => interpret s.profile action reply

/-- An action that passes all checks is invoked by one request, and comes to what comes back for
it. -/
lemma run_invoke {args : List (String × Value)} {call : Call}
    (hcall : prepare s.service name args = .ok call) (net : Network) (past : List Request) :
    (s.invoke name args).run net past =
      (s.outcome name call.action
        ((s.client.post s.service.controlUrl call.soapAction call.envelope).run net past).1,
        past ++ (s.request? name call.envelope).toList) := by
  obtain ⟨texts, -, -, haction, -⟩ := exists_of_prepare hcall
  rw [invoke, Soap.run_invoke s.client s.profile hcall, request?, ← haction]
  rfl

/-- An action is invoked by one request at most, and by one if there is an answer. -/
lemma exists_run_invoke (name : String) (args : List (String × Value)) (net : Network)
    (past : List Request) :
    ∃ (answer : Except Error Response) (sent : Option Request),
      (s.invoke name args).run net past = (answer, past ++ sent.toList) ∧
      (∀ r ∈ sent, s.InvokesWith name args r) ∧
      (∀ response, answer = .ok response → sent.isSome = true) := by
  cases hcall : prepare s.service name args with
  | error e =>
    refine ⟨.error e, none, ?_, by simp, by simp⟩
    rw [invoke, Soap.invoke, hcall, Exchange.run_bind, Exchange.run_ofExcept, Option.toList_none,
      List.append_nil]
  | ok call =>
    obtain ⟨texts, haction, htexts, hname, henvelope⟩ := exists_of_prepare hcall
    refine ⟨_, s.request? name call.envelope, s.run_invoke hcall net past, fun r hr => ?_,
      fun response hresponse => ?_⟩
    · exact ⟨call.action, texts, call.envelope, haction, htexts, henvelope,
        henvelope ▸ carries_requestEnvelope _ _ _, hr⟩
    · obtain ⟨reply, later, hpost⟩ :=
        (s.client.post s.service.controlUrl call.soapAction call.envelope).exists_run net past
      rw [hpost] at hresponse
      cases reply with
      | error cause => cases hresponse
      | ok reply =>
        rw [request?, ← hname]
        exact Client.isSome_request?_of_run_post _ _ _ _ _ _ hpost

end Session

end UpnpGateway
