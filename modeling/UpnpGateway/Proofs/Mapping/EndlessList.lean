/-
# Endless lists of mappings

A gateway that has a mapping at every index cannot be read to the end.  A session gives up at
its limit and says that the list is endless; but the index is also an argument of a request,
and the service may declare a type for it that has no room for the limit.  This file tells
exactly which of the two ends the reading, and how many requests have been made by then.
-/
import UpnpGateway.Proofs.Mapping.Enumeration

namespace UpnpGateway

open UpnpGateway.Http UpnpGateway.Net UpnpGateway.Soap UpnpGateway.Text

/-! ## The room of a type -/

/-- How many numbers a type has from 0 on. -/
def IntegerType.room (type : IntegerType) : Nat := type.max.toNat + 1

lemma IntegerType.le_max_iff {type : IntegerType} {n : Nat} :
    (n : Int) ≤ type.max ↔ n < type.room := by
  cases type <;> simp only [room, max] <;> omega

/-- A number outside the room of its type is not written. -/
lemma encode_wordValue_of_room_le {type : IntegerType} {n : UInt32} (h : type.room ≤ n.toNat) :
    (wordValue n).encode (.integer type) = .error (.outOfRange n.toNat type) := by
  have hmax : ¬ (n.toNat : Int) ≤ type.max := by
    rw [IntegerType.le_max_iff]
    omega
  simp [Value.encode, wordValue, Value.integer?, hmax]

/-- A service declares the action by which mappings are read: its only input is the index, which
is a number of the given type. -/
structure Service.NumbersMappingsBy (service : Service) (action : Action) (type : IntegerType) :
    Prop where
  action?_eq : service.action? indexAction = some action
  exists_input : ∃ input, action.inputs = [input] ∧ input.name = "NewPortMappingIndex" ∧
    input.dataType = .integer type

namespace Service.NumbersMappingsBy

variable {service : Service} {action : Action} {type : IntegerType}

lemma numbersMappings (h : service.NumbersMappingsBy action type) {room : Nat}
    (hroom : room ≤ type.room) : service.NumbersMappings action room := by
  obtain ⟨input, hinputs, hname, htype⟩ := h.exists_input
  refine ⟨h.action?_eq, input, hinputs, hname, fun n hn => ?_⟩
  rw [htype]
  exact IntegerType.le_max_iff.2 (Nat.lt_of_lt_of_le hn hroom)

/-- A question with an index outside the room of its type is refused before it is sent. -/
lemma prepare_of_room_le (h : service.NumbersMappingsBy action type) {n : UInt32}
    (hn : type.room ≤ n.toNat) :
    prepare service indexAction [("NewPortMappingIndex", wordValue n)] =
      .error (.invalidArgument indexAction "NewPortMappingIndex"
        (EncodeError.outOfRange n.toNat type).message) := by
  obtain ⟨input, hinputs, hname, htype⟩ := h.exists_input
  have haction : action.name = indexAction := by
    simpa using List.find?_some h.action?_eq
  have hencode : encodeInputs action [("NewPortMappingIndex", wordValue n)] =
      .error ⟨"NewPortMappingIndex", .unfit (.outOfRange n.toNat type)⟩ := by
    simp [encodeInputs, hinputs, hname, encodeInput, htype, encode_wordValue_of_room_le hn]
  rw [prepare, h.action?_eq]
  simp only [hencode, haction]
  rfl

end Service.NumbersMappingsBy

namespace Session

variable {s : Session} {action : Action} {type : IntegerType} {net : Network}
  {past : List Request}

/-- The gateway has a mapping at every index. -/
def IsEndless (s : Session) (action : Action) (net : Network) (past : List Request) : Prop :=
  ∀ i, ∃ m, s.answerTo action net past i = .ok m

/-- An endless list begins with as many mappings as one likes. -/
lemma IsEndless.exists_beginsWith (h : s.IsEndless action net past) (count : Nat) :
    ∃ ms, ms.length = count ∧ s.BeginsWith action net past ms := by
  choose mapping hmapping using h
  refine ⟨(List.range count).map mapping, by simp, fun i hi => ?_⟩
  rw [List.getElem_map, List.getElem_range]
  exact hmapping i

/-- Nothing is asked for an index outside the room of its type. -/
lemma run_mappingAt_of_room_le (hservice : s.service.NumbersMappingsBy action type) {n : UInt32}
    (hn : type.room ≤ n.toNat) (net : Network) (past : List Request) :
    (s.mappingAt n).run net past =
      (.error (.invalidArgument indexAction "NewPortMappingIndex"
        (EncodeError.outOfRange n.toNat type).message), past) := by
  have hinvoke : s.mappingAt n =
      s.invoke indexAction [("NewPortMappingIndex", wordValue n)] >>=
        fun response => .ofExcept response.indexedMapping := rfl
  rw [hinvoke, invoke, Soap.invoke, hservice.prepare_of_room_le hn]
  rfl

/-- A session that reads on behind the room of the type is stopped by the index. -/
lemma IsEndless.run_mappings_of_room_lt (hservice : s.service.NumbersMappingsBy action type)
    (h : s.IsEndless action net past) (hlt : type.room < s.enumerationLimit.toNat) :
    s.mappings.run net past =
      (.error (.invalidArgument indexAction "NewPortMappingIndex"
        (EncodeError.outOfRange type.room type).message), past ++ s.indexRequests type.room) := by
  obtain ⟨ms, hlength, hbegins⟩ := h.exists_beginsWith type.room
  obtain ⟨left, hleft⟩ := Nat.exists_eq_add_of_lt hlt
  have hindex : (UInt32.ofNat type.room).toNat = type.room :=
    UInt32.toNat_ofNat_of_lt' (Nat.lt_trans hlt s.enumerationLimit.toNat_lt)
  have hlimit : s.enumerationLimit.toNat = ms.length + (left + 1) := by omega
  -- all mappings that the type has room for are read, and the next index does not fit
  rw [hbegins.run_mappings (hservice.numbersMappings (Nat.le_refl _)) (Nat.le_of_lt hlt)
    (Nat.le_of_eq hlength) hlimit, hlength, mappingsFrom, Exchange.run_bind,
    Exchange.run_attempt, run_mappingAt_of_room_le hservice (by omega), hindex]
  rfl

/-- The end of an endless list.  It is reported as such, after one request for every index below
the limit, if the type of the index has room for these; otherwise all indices that it has room for
are asked for, and the next one is an invalid argument. -/
theorem mappings_of_isEndless (hservice : s.service.NumbersMappingsBy action type)
    (hendless : s.IsEndless action net past) :
    ((s.mappings.run net past).1 = .error (.endlessList s.enumerationLimit) ↔
      s.enumerationLimit.toNat ≤ type.room) ∧
    (s.enumerationLimit.toNat ≤ type.room →
      s.mappings.run net past = (.error (.endlessList s.enumerationLimit),
        past ++ s.indexRequests s.enumerationLimit.toNat)) ∧
    (type.room < s.enumerationLimit.toNat →
      s.mappings.run net past =
        (.error (.invalidArgument indexAction "NewPortMappingIndex"
          (EncodeError.outOfRange type.room type).message),
        past ++ s.indexRequests type.room)) ∧
    ∀ count, (s.indexRequests count).length = count := by
  have hfit (hle : s.enumerationLimit.toNat ≤ type.room) :
      s.mappings.run net past = (.error (.endlessList s.enumerationLimit),
        past ++ s.indexRequests s.enumerationLimit.toNat) := by
    obtain ⟨ms, hlength, hbegins⟩ := hendless.exists_beginsWith s.enumerationLimit.toNat
    exact hbegins.run_mappings_of_le (hservice.numbersMappings hle) (by omega)
  have hstop := hendless.run_mappings_of_room_lt hservice
  refine ⟨⟨fun hrun => ?_, fun hle => by rw [hfit hle]⟩, hfit, hstop, fun count => ?_⟩
  · by_contra hlt
    rw [hstop (by omega)] at hrun
    cases hrun
  · obtain ⟨ms, hlength, hbegins⟩ := hendless.exists_beginsWith count
    exact (hbegins.askInOrder (by omega)).length_eq

/-! ### A gateway that repeats itself -/

/-- A session with the gateway that reads up to a limit. -/
def cameraSessionUpTo (limit : UInt32) : Session :=
  { cameraSession with enumerationLimit := limit }

lemma isEndless_cameraNetwork (limit : UInt32) :
    (cameraSessionUpTo limit).IsEndless cameraQuery cameraNetwork [] := by
  intro i
  have hsuccess : cameraReply.isSuccess = true := rfl
  exact ⟨_, (answerTo_of_isSuccess hsuccess rfl).trans indexedMapping_cameraReply⟩

lemma numbersMappingsBy_cameraQuery (limit : UInt32) :
    (cameraSessionUpTo limit).service.NumbersMappingsBy cameraQuery .ui2 :=
  have haction : cameraSession.service.action? indexAction = some cameraQuery := by decide
  ⟨haction, ⟨"NewPortMappingIndex", "I", .integer .ui2⟩, rfl, rfl, rfl⟩

/-- With an index of two bytes, a limit of 65536 is met. -/
theorem mappings_of_isEndless_camera :
    ((cameraSessionUpTo 65536).mappings.run cameraNetwork []).1 = .error (.endlessList 65536) :=
  (mappings_of_isEndless (numbersMappingsBy_cameraQuery 65536)
    (isEndless_cameraNetwork 65536)).1.2 (by decide +kernel)

/-- A session that would read 65537 mappings from an endless list does not report it as endless:
the last index does not fit into two bytes. -/
theorem mappings_endless_beyond_ui2 :
    (cameraSessionUpTo 65537).service.NumbersMappingsBy cameraQuery .ui2 ∧
    (cameraSessionUpTo 65537).IsEndless cameraQuery cameraNetwork [] ∧
    ((cameraSessionUpTo 65537).mappings.run cameraNetwork []).1 =
      .error (.invalidArgument "GetGenericPortMappingEntry" "NewPortMappingIndex"
        "65536 is out of range for ui2") := by
  refine ⟨numbersMappingsBy_cameraQuery _, isEndless_cameraNetwork _, ?_⟩
  have hlt : IntegerType.ui2.room < (cameraSessionUpTo 65537).enumerationLimit.toNat := by
    decide +kernel
  have hmessage : (EncodeError.outOfRange IntegerType.ui2.room .ui2).message =
      "65536 is out of range for ui2" := by
    decide +kernel
  rw [(isEndless_cameraNetwork _).run_mappings_of_room_lt (numbersMappingsBy_cameraQuery _) hlt,
    hmessage]
  rfl

end Session

end UpnpGateway
