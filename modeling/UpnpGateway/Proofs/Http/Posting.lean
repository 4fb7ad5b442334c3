/-
# What is sent when an envelope is posted

An envelope is posted by one request, or by none if the headers are written as in the standard
and the URL does not say where to connect to.  Which request it is can be told from the URL,
the name of the action and the envelope; the network only decides what comes back.
-/
import UpnpGateway.Http.Client
import UpnpGateway.Proofs.Net.Asking

namespace UpnpGateway.Http.Client

open UpnpGateway.Net

variable (c : Client) (url soapAction envelope : String)

/-- The request by which an envelope is posted, if there is one. -/
def request? : Option Request :=
  match c.style with
  | .lower => some (.post url soapAction envelope)
  | .verbatim =>
    match Url.parse? url with
    | none => none
    | some u => u.host?.map fun host =>
      let host := String.ofList host.chars
      let port := u.port?.getD 80
      .send host port
        (verbatimRequest (String.ofList u.requestTarget) host port soapAction envelope)

/-- Whether there is one depends on the URL alone. -/
lemma isSome_request? (soapAction' envelope' : String) :
    (c.request? url soapAction envelope).isSome = (c.request? url soapAction' envelope').isSome := by
  unfold request?
  split
  · rfl
  · split
    · rfl
    · rw [Option.isSome_map, Option.isSome_map]

section Run

variable (net : Network) (past : List Request)

/-- Whatever comes of it, the request is all that is sent. -/
lemma snd_run_post :
    ((c.post url soapAction envelope).run net past).2 =
      past ++ (c.request? url soapAction envelope).toList := by
  unfold post request?
  cases c.style with
  | lower => rfl
  | verbatim =>
    dsimp only
    unfold postVerbatim
    cases Url.parse? url with
    | none => simp
    | some u =>
      dsimp only
      cases u.host? with
      | none => simp
      | some host =>
        dsimp only [Option.map_some, Option.toList_some]
        rw [Exchange.IsSilent.snd_run_bind, Exchange.run_mapError, Exchange.run_send]
        exact fun arrival => .bind (.ofExcept _) fun raw => .ofExcept _

/-- A reply is a reply to the request. -/
lemma isSome_request?_of_run_post {reply : Reply} {later : List Request}
    (h : (c.post url soapAction envelope).run net past = (.ok reply, later)) :
    (c.request? url soapAction envelope).isSome = true := by
  unfold post at h
  unfold request?
  cases hstyle : c.style with
  | lower => rfl
  | verbatim =>
    rw [hstyle] at h
    dsimp only at h ⊢
    unfold postVerbatim at h
    cases hurl : Url.parse? url with
    | none => simp [hurl] at h
    | some u =>
      cases hhost : u.host? with
      | none => simp [hurl, hhost] at h
      | some host => simp [hhost]

/-- What comes back for a text that is sent on a connection: what the bytes that arrive say, as far
as they are read. -/
lemma fst_run_post_of_request? {host text : String} {port : Nat}
    (hrequest : c.request? url soapAction envelope = some (.send host port text)) :
    ((c.post url soapAction envelope).run net past).1 =
      ((net.send past host port text).mapError .connection).bind fun arrival =>
        (receive c.timeout arrival.ending [] arrival.pieces).bind fun raw =>
          (Reply.parse raw).mapError fun e => .malformed e.message := by
  unfold request? at hrequest
  unfold post
  cases hstyle : c.style with
  | lower => simp [hstyle] at hrequest
  | verbatim =>
    rw [hstyle] at hrequest
    dsimp only at hrequest ⊢
    unfold postVerbatim
    cases hurl : Url.parse? url with
    | none => simp [hurl] at hrequest
    | some u =>
      cases hhost : u.host? with
      | none => simp [hurl, hhost] at hrequest
      | some name =>
        simp only [hurl, hhost, Option.map_some, Option.some.injEq,
          Request.send.injEq] at hrequest
        obtain ⟨rfl, rfl, rfl⟩ := hrequest
        simp only [hhost]
        rw [Exchange.run_bind, Exchange.run_mapError, Exchange.run_send]
        cases net.send past (String.ofList name.chars) (u.port?.getD 80) _ with
        | error e => rfl
        | ok arrival =>
          change ((Exchange.ofExcept (receive c.timeout arrival.ending [] arrival.pieces) >>=
              _).run net _).1 = (receive c.timeout arrival.ending [] arrival.pieces).bind _
          rw [Exchange.run_bind, Exchange.run_ofExcept]
          cases receive c.timeout arrival.ending [] arrival.pieces with
          | error e => rfl
          | ok raw => rfl

/-- What comes back on a connection is what its bytes say, as far as they are read. -/
lemma fst_run_post_of_send {host text : String} {port : Nat} {arrival : Arrival}
    (hrequest : c.request? url soapAction envelope = some (.send host port text))
    (harrival : net.send past host port text = .ok arrival) :
    ((c.post url soapAction envelope).run net past).1 =
      (receive c.timeout arrival.ending [] arrival.pieces).bind fun raw =>
        (Reply.parse raw).mapError fun e => .malformed e.message := by
  rw [c.fst_run_post_of_request? url soapAction envelope net past hrequest, harrival]
  rfl

end Run

end UpnpGateway.Http.Client
