/-
# Enumerating mappings

All mappings of a gateway are read by asking for one index after the other.  This file shows
that nothing is lost, made up or asked for twice on the way: the mappings come back as the
gateway has them, the first answer that is none of them decides how the reading ends, and
nothing is asked for after it.
-/
import UpnpGateway.Proofs.Mapping.ReadBack
import UpnpGateway.Proofs.Session.Invocation

namespace UpnpGateway

open UpnpGateway.Http UpnpGateway.Net UpnpGateway.Soap UpnpGateway.Text UpnpGateway.Xml

/-! ## Indices as arguments -/

/-- Whether a data type has room for a number. -/
def DataType.Admits : DataType → Nat → Prop
  | .string, _ | .other _, _ => True
  | .boolean, n => n ≤ 1
  | .integer type, n => n ≤ type.max

/-- A number is written in decimal for every data type that has room for it. -/
lemma encode_wordValue {type : DataType} {n : UInt32} (h : type.Admits n.toNat) :
    (wordValue n).encode type = .ok (String.ofList (decimal n.toNat)) := by
  have hvalue : ∃ s, (wordValue n).encode type = .ok s := by
    cases type with
    | string | other name => exact ⟨_, rfl⟩
    | boolean =>
      have hn : n = 0 ∨ n = 1 := by
        rcases Nat.le_one_iff_eq_zero_or_eq_one.1 h with h | h
        · exact .inl (UInt32.toNat_inj.1 h)
        · exact .inr (UInt32.toNat_inj.1 h)
      rcases hn with rfl | rfl <;> exact ⟨_, rfl⟩
    | integer type =>
      have hmin : type.min ≤ (n.toNat : Int) := by
        cases type <;> simp only [IntegerType.min] <;> omega
      have hmax : (n.toNat : Int) ≤ type.max := h
      simp [Value.encode, wordValue, Value.integer?, hmin, hmax]
  obtain ⟨s, hs⟩ := hvalue
  rw [hs, Value.eq_plain_of_encode hs (by simp [wordValue, Value.isText]), plain_wordValue]

/-- The name of the action that reads the mapping at an index. -/
def indexAction : String := "GetGenericPortMappingEntry"

/-- A service declares the action by which mappings are read: its only input is the index, which
has room for all numbers below a limit. -/
structure Service.NumbersMappings (service : Service) (action : Action) (limit : Nat) : Prop where
  action?_eq : service.action? indexAction = some action
  exists_input : ∃ input, action.inputs = [input] ∧ input.name = "NewPortMappingIndex" ∧
    ∀ n < limit, input.dataType.Admits n

/-- The envelope of the question for the mapping at an index. -/
def Service.indexEnvelope (service : Service) (i : Nat) : String :=
  requestEnvelope service.serviceType indexAction
    [("NewPortMappingIndex", String.ofList (decimal i))]

/-- The only argument that is read in the question is the index, in decimal. -/
lemma Service.readArguments_indexEnvelope (service : Service) (i : Nat) {rule : TagRule}
    (hrule : rule ≠ .exact) :
    readArguments rule indexAction (service.indexEnvelope i) =
      .ok [("NewPortMappingIndex", toString i)] := by
  have hname : IsName indexAction.toList := by decide
  have hindex : IsPlainName "NewPortMappingIndex" := by decide
  rw [indexEnvelope, (carries_requestEnvelope _ _ _).readArguments_eq hname
    (by simpa using hindex) rule hrule, List.map_singleton, trimmed_decimal]
  rfl

/-- The question passes all checks. -/
lemma Service.NumbersMappings.prepare_eq {service : Service} {action : Action} {limit : Nat}
    (h : service.NumbersMappings action limit) {n : UInt32} (hn : n.toNat < limit) :
    prepare service indexAction [("NewPortMappingIndex", wordValue n)] =
      .ok ⟨action, soapAction service.serviceType indexAction, service.indexEnvelope n.toNat⟩ := by
  obtain ⟨input, hinputs, hname, hadmits⟩ := h.exists_input
  have hencode : encodeInputs action [("NewPortMappingIndex", wordValue n)] =
      .ok [("NewPortMappingIndex", String.ofList (decimal n.toNat))] := by
    simp [encodeInputs, hinputs, hname, encodeInput, encode_wordValue (hadmits _ hn)]
  rw [prepare, h.action?_eq]
  simp only [hencode]
  rfl

namespace Session

variable (s : Session)

/-- The requests for the mappings at the first indices, in increasing order. -/
def indexRequests (count : Nat) : List Request :=
  (List.range count).filterMap fun i => s.request? indexAction (s.service.indexEnvelope i)

/-- A request asks for the mapping at an index: whoever reads its envelope finds the index and
nothing else. -/
def AsksFor (i : Nat) (r : Request) : Prop :=
  ∃ envelope, s.request? indexAction envelope = some r ∧ ∀ rule, rule ≠ .exact →
    readArguments rule indexAction envelope = .ok [("NewPortMappingIndex", toString i)]

/-- Some requests ask for the mappings at the first indices, once for each and in increasing
order. -/
structure AskInOrder (count : Nat) (rs : List Request) : Prop where
  length_eq : rs.length = count
  asksFor : ∀ i (h : i < rs.length), s.AsksFor i rs[i]

/-- What the gateway says to the question for the mapping at an index, once it has been asked for
those at the indices before, after the requests `past`. -/
def answerTo (action : Action) (net : Network) (past : List Request) (i : Nat) :
    Except Error PortMapping := do
  let reply := (s.client.post s.service.controlUrl (soapAction s.service.serviceType indexAction)
    (s.service.indexEnvelope i)).run net (past ++ s.indexRequests i)
  (← s.outcome indexAction action reply.1).indexedMapping

/-- The gateway has the given mappings at its first indices. -/
def BeginsWith (action : Action) (net : Network) (past : List Request) (ms : List PortMapping) :
    Prop :=
  ∀ i (h : i < ms.length), s.answerTo action net past i = .ok ms[i]

variable {s} {action : Action} {net : Network} {past : List Request}

/-! ## The requests -/

lemma indexRequests_succ (count : Nat) :
    s.indexRequests (count + 1) = s.indexRequests count ++
      (s.request? indexAction (s.service.indexEnvelope count)).toList := by
  rw [indexRequests, List.range_succ, List.filterMap_append, ← indexRequests]
  cases h : s.request? indexAction (s.service.indexEnvelope count) <;> simp [h]

/-- If a question can be sent, so can all the others. -/
lemma askInOrder_indexRequests {i : Nat}
    (h : (s.request? indexAction (s.service.indexEnvelope i)).isSome = true) (count : Nat) :
    s.AskInOrder count (s.indexRequests count) := by
  induction count with
  | zero => exact ⟨rfl, fun i hi => absurd hi (Nat.not_lt_zero i)⟩
  | succ count ih =>
    have hsome : (s.request? indexAction (s.service.indexEnvelope count)).isSome = true := by
      rw [← h]
      exact Client.isSome_request? ..
    obtain ⟨r, hr⟩ := Option.isSome_iff_exists.1 hsome
    rw [indexRequests_succ, hr, Option.toList_some]
    refine ⟨by rw [List.length_append, ih.length_eq, List.length_singleton], fun i hi => ?_⟩
    rcases Nat.lt_or_ge i (s.indexRequests count).length with hlt | hge
    · rw [List.getElem_append_left hlt]
      exact ih.asksFor i hlt
    · -- the last question is the one that has been added
      obtain rfl : i = count := by
        rw [List.length_append, List.length_singleton, ih.length_eq] at hi
        rw [ih.length_eq] at hge
        omega
      rw [List.getElem_append_right hge, List.getElem_singleton]
      exact ⟨_, hr, fun rule hrule => s.service.readArguments_indexEnvelope i hrule⟩

/-- If no question can be sent, there are none. -/
lemma askInOrder_or_eq_nil (count : Nat) :
    s.AskInOrder count (s.indexRequests count) ∨ s.indexRequests count = [] := by
  cases h : (s.request? indexAction (s.service.indexEnvelope 0)).isSome with
  | true => exact .inl (askInOrder_indexRequests h count)
  | false =>
    refine .inr (List.filterMap_eq_nil_iff.2 fun i _ => ?_)
    have hsame : (s.request? indexAction (s.service.indexEnvelope i)).isSome =
        (s.request? indexAction (s.service.indexEnvelope 0)).isSome := Client.isSome_request? ..
    simpa using hsame.trans h

/-- A question has reached the gateway unless its request fails. -/
lemma isSome_request?_of_answerTo {i : Nat} {answer : Except Error PortMapping}
    (h : s.answerTo action net past i = answer)
    (hanswer : ∀ cause, answer ≠ .error (.requestFailed indexAction cause)) :
    (s.request? indexAction (s.service.indexEnvelope i)).isSome = true := by
  obtain ⟨reply, later, hpost⟩ :=
    (s.client.post s.service.controlUrl (soapAction s.service.serviceType indexAction)
      (s.service.indexEnvelope i)).exists_run net (past ++ s.indexRequests i)
  rw [answerTo, hpost] at h
  cases reply with
  | ok reply => exact Client.isSome_request?_of_run_post _ _ _ _ _ _ hpost
  | error cause => exact absurd h.symm (hanswer cause)

/-- A gateway that has some mappings has been asked for each of them. -/
lemma BeginsWith.askInOrder {ms : List PortMapping} (h : s.BeginsWith action net past ms)
    {count : Nat} (hle : count ≤ ms.length) : s.AskInOrder count (s.indexRequests count) := by
  cases count with
  | zero => exact ⟨rfl, fun i hi => absurd hi (Nat.not_lt_zero i)⟩
  | succ count =>
    exact askInOrder_indexRequests (isSome_request?_of_answerTo (h 0 (by omega)) (by simp)) _

/-! ## The answers -/

/-- A reply of success is read as a mapping. -/
lemma answerTo_of_isSuccess {i : Nat} {reply : Reply} (h : reply.isSuccess = true)
    (hpost : ((s.client.post s.service.controlUrl (soapAction s.service.serviceType indexAction)
      (s.service.indexEnvelope i)).run net (past ++ s.indexRequests i)).1 = .ok reply) :
    s.answerTo action net past i =
      (Response.ofEnvelope s.profile.tagRule action reply.body).indexedMapping := by
  rw [answerTo, hpost, outcome, interpret, if_pos h]
  rfl

section Reading

-- the service has room for the indices below some number, up to the limit of the session
variable {room : Nat} (hservice : s.service.NumbersMappings action room)
  (hroom : room ≤ s.enumerationLimit.toNat)
include hservice hroom

/-- The mapping at an index is read by one request. -/
lemma run_mappingAt {i : Nat} (hi : i < room) :
    (s.mappingAt (.ofNat i)).run net (past ++ s.indexRequests i) =
      (s.answerTo action net past i, past ++ s.indexRequests (i + 1)) := by
  -- an index below the limit fits into the number that is sent
  have hsmall : (UInt32.ofNat i).toNat = i :=
    UInt32.toNat_ofNat_of_lt'
      (Nat.lt_trans (Nat.lt_of_lt_of_le hi hroom) s.enumerationLimit.toNat_lt)
  have hcall := hservice.prepare_eq (n := UInt32.ofNat i) (by rw [hsmall]; exact hi)
  rw [hsmall] at hcall
  have hinvoke : s.mappingAt (.ofNat i) =
      s.invoke indexAction [("NewPortMappingIndex", wordValue (.ofNat i))] >>=
        fun response => .ofExcept response.indexedMapping := rfl
  rw [indexRequests_succ, ← List.append_assoc, hinvoke, Exchange.run_bind, s.run_invoke hcall,
    answerTo]
  dsimp only
  cases s.outcome indexAction action _ <;> rfl

/-- One round of the reading: a mapping is kept and the reading goes on, anything else ends
it. -/
lemma run_mappingsFrom_succ {left i : Nat} (hi : i < room) :
    (s.mappingsFrom (left + 1) i).run net (past ++ s.indexRequests i) =
      match s.answerTo action net past i with
      | .ok m =>
        let rest := (s.mappingsFrom left (i + 1)).run net (past ++ s.indexRequests (i + 1))
        (rest.1.map fun ms => m :: ms, rest.2)
      | .error e =>
        (if s.isEndOfList e then .ok [] else .error e, past ++ s.indexRequests (i + 1)) := by
  rw [mappingsFrom, Exchange.run_bind, Exchange.run_attempt, run_mappingAt hservice hroom hi]
  dsimp only
  cases s.answerTo action net past i with
  | ok m =>
    dsimp only
    obtain ⟨rest, later, hrest⟩ :=
      (s.mappingsFrom left (i + 1)).exists_run net (past ++ s.indexRequests (i + 1))
    rw [Exchange.run_bind, hrest]
    cases rest <;> rfl
  | error e =>
    dsimp only
    split <;> rfl

/-- The reading of some mappings goes on behind them. -/
lemma run_mappingsFrom_append {ms : List PortMapping} {left i : Nat}
    (hle : i + ms.length ≤ room)
    (hread : ∀ j (h : j < ms.length), s.answerTo action net past (i + j) = .ok ms[j]) :
    (s.mappingsFrom (ms.length + left) i).run net (past ++ s.indexRequests i) =
      let rest := (s.mappingsFrom left (i + ms.length)).run net
        (past ++ s.indexRequests (i + ms.length))
      (rest.1.map fun more => ms ++ more, rest.2) := by
  -- the first mapping is read in one round, and the others from the next index on
  induction ms generalizing i with
  | nil =>
    rw [List.length_nil, Nat.zero_add, Nat.add_zero]
    obtain ⟨rest, later, hrest⟩ :=
      (s.mappingsFrom left i).exists_run net (past ++ s.indexRequests i)
    rw [hrest]
    cases rest <;> rfl
  | cons m ms ih =>
    rw [List.length_cons] at hle
    have hfirst : s.answerTo action net past i = .ok m := hread 0 (by simp)
    have hrest := ih (i := i + 1) (by omega) fun j hj => by
      rw [Nat.add_right_comm]
      exact hread (j + 1) (by simpa using hj)
    rw [List.length_cons, Nat.succ_add, run_mappingsFrom_succ hservice hroom (by omega), hfirst]
    dsimp only
    obtain ⟨rest, later, hrest'⟩ := (s.mappingsFrom left (i + (ms.length + 1))).exists_run net
      (past ++ s.indexRequests (i + (ms.length + 1)))
    rw [hrest, Nat.add_right_comm, Nat.add_assoc, hrest']
    cases rest <;> rfl

/-- The reading gets as far as there are mappings, and what comes next depends on the answer
behind them. -/
lemma BeginsWith.run_mappings {ms : List PortMapping} (h : s.BeginsWith action net past ms)
    (hle : ms.length ≤ room) {left : Nat}
    (hlimit : s.enumerationLimit.toNat = ms.length + left) :
    s.mappings.run net past =
      let rest := (s.mappingsFrom left ms.length).run net (past ++ s.indexRequests ms.length)
      (rest.1.map fun more => ms ++ more, rest.2) := by
  have hread : ∀ j (hj : j < ms.length), s.answerTo action net past (0 + j) = .ok ms[j] := by
    intro j hj
    rw [Nat.zero_add]
    exact h j hj
  have hrun : (s.mappingsFrom (ms.length + left) 0).run net (past ++ s.indexRequests 0) = _ :=
    run_mappingsFrom_append hservice hroom (by omega) hread
  rw [Nat.zero_add] at hrun
  rw [mappings, hlimit, ← hrun, indexRequests, List.range_zero, List.filterMap_nil,
    List.append_nil]

end Reading

section Reading

variable (hservice : s.service.NumbersMappings action s.enumerationLimit.toNat)
include hservice

/-- Too many mappings are none. -/
lemma BeginsWith.run_mappings_of_le {ms : List PortMapping} (h : s.BeginsWith action net past ms)
    (hle : s.enumerationLimit.toNat ≤ ms.length) :
    s.mappings.run net past = (.error (.endlessList s.enumerationLimit),
      past ++ s.indexRequests s.enumerationLimit.toNat) := by
  have hlength : (ms.take s.enumerationLimit.toNat).length = s.enumerationLimit.toNat := by
    rw [List.length_take, Nat.min_eq_left hle]
  have htake : s.BeginsWith action net past (ms.take s.enumerationLimit.toNat) := by
    intro i hi
    rw [List.getElem_take]
    exact h i _
  have hlimit : s.enumerationLimit.toNat = (ms.take s.enumerationLimit.toNat).length + 0 := by
    rw [hlength, Nat.add_zero]
  rw [htake.run_mappings hservice (Nat.le_refl _) (by omega) hlimit, hlength]
  rfl

/-- What is no mapping ends the reading. -/
lemma BeginsWith.run_mappings_of_error {ms : List PortMapping}
    (h : s.BeginsWith action net past ms) (hlt : ms.length < s.enumerationLimit.toNat) {e : Error}
    (he : s.answerTo action net past ms.length = .error e) :
    s.mappings.run net past =
      (if s.isEndOfList e then .ok ms else .error e, past ++ s.indexRequests (ms.length + 1)) := by
  obtain ⟨left, hleft⟩ := Nat.exists_eq_add_of_lt hlt
  have hlimit : s.enumerationLimit.toNat = ms.length + (left + 1) := by omega
  rw [h.run_mappings hservice (Nat.le_refl _) (by omega) hlimit,
    run_mappingsFrom_succ hservice (Nat.le_refl _) hlt, he]
  dsimp only
  split
  · rw [Except.map, List.append_nil]
  · rfl

/-- The reading of all mappings is exact.  If the gateway has as many mappings as there may be, the
list counts as endless, and every index below the limit has been asked for.  If it has fewer, the
answer behind them decides: a fault that says that there is no further mapping makes them the
result, and any other failure is the result itself; nothing is asked for after that.  The questions
are told by what is read in them: each has one index, and the indices go up from zero. -/
theorem mappings_enumerates (net : Network) (past : List Request) (ms : List PortMapping)
    (hbegins : s.BeginsWith action net past ms) :
    (s.enumerationLimit.toNat ≤ ms.length →
      s.mappings.run net past = (.error (.endlessList s.enumerationLimit),
        past ++ s.indexRequests s.enumerationLimit.toNat) ∧
      s.AskInOrder s.enumerationLimit.toNat (s.indexRequests s.enumerationLimit.toNat)) ∧
    (ms.length < s.enumerationLimit.toNat → ∀ e,
      s.answerTo action net past ms.length = .error e →
        ((∃ fault, e.fault? = some fault ∧ s.profile.isEndOfList fault.code = true) →
          s.mappings.run net past = (.ok ms, past ++ s.indexRequests (ms.length + 1)) ∧
          s.AskInOrder (ms.length + 1) (s.indexRequests (ms.length + 1))) ∧
        ((∀ fault, e.fault? = some fault → s.profile.isEndOfList fault.code = false) →
          s.mappings.run net past = (.error e, past ++ s.indexRequests (ms.length + 1)) ∧
          (s.AskInOrder (ms.length + 1) (s.indexRequests (ms.length + 1)) ∨
            s.indexRequests (ms.length + 1) = []))) := by
  refine ⟨fun hle => ⟨hbegins.run_mappings_of_le hservice hle, hbegins.askInOrder hle⟩,
    fun hlt e he => ⟨?_, ?_⟩⟩
  · rintro ⟨fault, hfault, hcode⟩
    have hend : s.isEndOfList e = true := by
      rw [isEndOfList, hfault, Option.any_some, hcode]
    constructor
    · rw [hbegins.run_mappings_of_error hservice hlt he, hend, if_pos rfl]
    · refine askInOrder_indexRequests (isSome_request?_of_answerTo he fun cause hcause => ?_) _
      rw [Except.error.inj hcause] at hfault
      cases hfault
  · intro hother
    have hend : s.isEndOfList e = false := by
      rw [isEndOfList]
      cases hfault : e.fault? with
      | none => rfl
      | some fault => exact hother fault hfault
    refine ⟨?_, askInOrder_or_eq_nil _⟩
    rw [hbegins.run_mappings_of_error hservice hlt he, hend]
    rfl

end Reading

/-! ### A gateway with one mapping -/

/-- The reply with the mapping. -/
def cameraReply : Reply := ⟨200, cameraLayout.write cameraAnswer⟩

/-- A network in which the gateway tells its mapping to the first request and refuses all further
ones. -/
def refusingNetwork (refusal : String) : Network :=
  { Network.offline with
    post := fun past _ _ _ => .ok (if past.isEmpty then cameraReply else ⟨500, refusal⟩) }

/-- A refusal that consists of its code. -/
def codeRefusal (code : String) : String :=
  "<Envelope><Body><errorCode>" ++ code ++ "</errorCode></Body></Envelope>"

lemma indexedMapping_cameraReply :
    (Response.ofEnvelope .ignoreCase cameraQuery cameraReply.body).indexedMapping =
      .ok cameraMapping.settled := by
  rw [cameraReply, cameraLayout.ofEnvelope_write _ (by decide)]
  decide +kernel

lemma beginsWith_refusingNetwork (limit : UInt32) (refusal : String) :
    { cameraSession with enumerationLimit := limit }.BeginsWith cameraQuery
      (refusingNetwork refusal) [] [cameraMapping.settled] := by
  intro i hi
  obtain rfl : i = 0 := by simpa using hi
  have hsuccess : cameraReply.isSuccess = true := rfl
  rw [answerTo_of_isSuccess hsuccess rfl]
  exact indexedMapping_cameraReply

lemma numbersMappings_cameraQuery (limit : UInt32) (h : limit.toNat ≤ 65536) :
    cameraSession.service.NumbersMappings cameraQuery limit.toNat := by
  refine ⟨by decide, ⟨"NewPortMappingIndex", "I", .integer .ui2⟩, rfl, rfl, fun n hn => ?_⟩
  change (n : Int) ≤ 65535
  omega

/-- The list ends with the code 402, which says so for gateways by Huawei; it is endless if only
one mapping is to be read, and with the code 501 there is none. -/
theorem mappings_camera :
    cameraSession.mappings.run (refusingNetwork (codeRefusal "402")) [] =
      (.ok [cameraMapping.settled], cameraSession.indexRequests 2) ∧
    { cameraSession with enumerationLimit := 1 }.mappings.run
      (refusingNetwork (codeRefusal "402")) [] =
      (.error (.endlessList 1), cameraSession.indexRequests 1) ∧
    cameraSession.mappings.run (refusingNetwork (codeRefusal "501")) [] =
      (.error (.refused indexAction (.new 501 "")), cameraSession.indexRequests 2) := by
  have hended : cameraSession.answerTo cameraQuery (refusingNetwork (codeRefusal "402")) [] 1 =
      .error (.refused indexAction (.new 402 "")) := by
    decide +kernel
  have hrefused : cameraSession.answerTo cameraQuery (refusingNetwork (codeRefusal "501")) [] 1 =
      .error (.refused indexAction (.new 501 "")) := by
    decide +kernel
  have hservice := numbersMappings_cameraQuery 100 (by decide)
  refine ⟨?_, ?_, ?_⟩
  · exact (((mappings_enumerates hservice _ [] [cameraMapping.settled]
      (beginsWith_refusingNetwork 100 _)).2 (by decide) _ hended).1 ⟨_, rfl, by decide⟩).1
  · exact ((mappings_enumerates (numbersMappings_cameraQuery 1 (by decide)) _ []
      [cameraMapping.settled] (beginsWith_refusingNetwork 1 _)).1 (by decide)).1
  · refine (((mappings_enumerates hservice _ [] [cameraMapping.settled]
      (beginsWith_refusingNetwork 100 _)).2 (by decide) _ hrefused).2 fun fault hfault => ?_).1
    obtain rfl : .new 501 "" = fault := by simpa [Error.fault?] using hfault
    decide

end Session

end UpnpGateway
