/-
# What a gateway is asked for

A control point searches for gateways, reads their descriptions, and invokes actions of the one
that it has.  This file tells these requests apart, lists what can be done with a gateway that is
there, and shows that all of it is done by actions alone, as searching is done by searches alone.
-/
import UpnpGateway.ControlPoint
import UpnpGateway.Proofs.Mapping.NextMapping

namespace UpnpGateway

open UpnpGateway.Discovery UpnpGateway.Net UpnpGateway.Soap

namespace Net

/-- A request is for an action, and not for a document or for a gateway. -/
def Request.IsAction : Request → Prop
  | .post .. | .send .. => True
  | .get .. | .search .. => False

/-- A request is for a gateway. -/
def Request.IsSearch : Request → Prop
  | .search .. => True
  | .get .. | .post .. | .send .. => False

end Net

/-! ## Searches -/

namespace Discovery

variable (config : Config) (target : Endpoint) (filter : Option Ip)

lemma searchRound_asks_isSearch (round : Nat) :
    (searchRound config target filter round).Asks Request.IsSearch := by
  refine .bind (.mapError _ (.search trivial)) fun answers => ?_
  split
  · exact .fail _
  · refine .bind .clock fun now => ?_
    split
    · exact .fail _
    · exact .pure _

lemma searchFrom_asks_isSearch (left round : Nat) :
    (searchFrom config target filter left round).Asks Request.IsSearch := by
  induction left generalizing round with
  | zero => exact .fail _
  | succ left ih =>
    refine .bind (searchRound_asks_isSearch config target filter round) fun found => ?_
    split
    · exact ih _
    · exact .pure _

/-- A search for gateways asks for nothing but gateways. -/
lemma discover_asks_isSearch : (discover config).Asks Request.IsSearch := by
  unfold discover
  split <;> exact searchFrom_asks_isSearch _ _ _ _ _

end Discovery

/-! ## Deeds -/

/-- What can be asked of a gateway directly, with the type of the result. -/
inductive Deed : Type → Type where
  /-- Its address outside. -/
  | externalIp : Deed (Option Ip)
  /-- To make a mapping. -/
  | addMapping (m : PortMapping) : Deed Unit
  /-- The mapping at an index. -/
  | mappingAt (index : UInt32) : Deed PortMapping
  /-- All mappings. -/
  | mappings : Deed (List PortMapping)
  /-- The mapping of a port. -/
  | specificMapping (remoteHost : Option String) (externalPort : UInt16) (protocol : Protocol) :
    Deed PortMapping
  /-- To end the mapping of a port. -/
  | deleteMapping (remoteHost : Option String) (externalPort : UInt16) (protocol : Protocol) :
    Deed Unit
  /-- A free port, which is mapped if there is a template. -/
  | nextMapping (protocol : Protocol) (base : UInt16) (template : Option PortMapping) : Deed UInt16

/-- Does a deed. -/
def Session.carryOut {α : Type} (s : Session) : Deed α → Exchange Error α
  | .externalIp => s.externalIp
  | .addMapping m => s.addMapping m
  | .mappingAt index => s.mappingAt index
  | .mappings => s.mappings
  | .specificMapping remoteHost externalPort protocol =>
    s.specificMapping remoteHost externalPort protocol
  | .deleteMapping remoteHost externalPort protocol =>
    s.deleteMapping remoteHost externalPort protocol
  | .nextMapping protocol base template => s.nextMapping protocol base template

namespace Session

variable (s : Session)

/-- What invokes an action of a session is a request for an action. -/
lemma Invokes.isAction {s : Session} {name : String} {r : Request} (h : s.Invokes name r) :
    r.IsAction := by
  obtain ⟨envelope, h⟩ := h
  unfold request? Http.Client.request? at h
  split at h
  · obtain rfl := Option.some.inj h
    trivial
  · split at h
    · cases h
    · obtain ⟨host, -, rfl⟩ := Option.map_eq_some_iff.1 h
      trivial

lemma invoke_asks_isAction (name : String) (args : List (String × Value)) :
    (s.invoke name args).Asks Request.IsAction :=
  (s.asks_invoke args).mono fun _ => Invokes.isAction

lemma addMapping_asks_isAction (m : PortMapping) : (s.addMapping m).Asks Request.IsAction :=
  .bind (s.invoke_asks_isAction _ _) fun _ => .pure _

lemma mappings_asks_isAction : s.mappings.Asks Request.IsAction :=
  s.asks_mappings.mono fun _ => Invokes.isAction

lemma nextMapping_asks_isAction (protocol : Protocol) (base : UInt16)
    (template : Option PortMapping) :
    (s.nextMapping protocol base template).Asks Request.IsAction := by
  refine .bind s.mappings_asks_isAction fun ms => .bind (.ofExcept _) fun port => ?_
  cases template with
  | none => exact .pure _
  | some t => exact .bind (s.addMapping_asks_isAction _) fun _ => .pure _

/-- Whatever the deed is, only actions are asked for. -/
lemma carryOut_asks_isAction {α : Type} (deed : Deed α) :
    (s.carryOut deed).Asks Request.IsAction := by
  cases deed with
  | externalIp => exact .bind (s.invoke_asks_isAction _ _) fun _ => .ofExcept _
  | addMapping m => exact s.addMapping_asks_isAction m
  | mappingAt index => exact .bind (s.invoke_asks_isAction _ _) fun _ => .ofExcept _
  | mappings => exact s.mappings_asks_isAction
  | specificMapping remoteHost externalPort protocol =>
    exact .bind (s.invoke_asks_isAction _ _) fun _ => .ofExcept _
  | deleteMapping remoteHost externalPort protocol =>
    exact .bind (s.invoke_asks_isAction _ _) fun _ => .pure _
  | nextMapping protocol base template =>
    exact s.nextMapping_asks_isAction protocol base template

/-- An operation does one deed. -/
lemma perform_asks_isAction (operation : Operation) :
    (s.perform operation).Asks Request.IsAction := by
  cases operation with
  | externalIp => exact .bind (s.carryOut_asks_isAction .externalIp) fun _ => .pure _
  | addMapping request => exact .bind (s.addMapping_asks_isAction _) fun _ => .pure _
  | mappingAt index => exact .bind (s.carryOut_asks_isAction (.mappingAt index)) fun _ => .pure _
  | mappings => exact .bind (s.carryOut_asks_isAction .mappings) fun _ => .pure _
  | specificMapping remoteHost externalPort protocol =>
    exact .bind (s.carryOut_asks_isAction (.specificMapping remoteHost externalPort protocol))
      fun _ => .pure _
  | deleteMapping remoteHost externalPort protocol =>
    exact .bind (s.carryOut_asks_isAction (.deleteMapping remoteHost externalPort protocol))
      fun _ => .pure _
  | nextMapping protocol base template =>
    exact .bind (s.nextMapping_asks_isAction _ _ _) fun _ => .pure _

end Session

end UpnpGateway
