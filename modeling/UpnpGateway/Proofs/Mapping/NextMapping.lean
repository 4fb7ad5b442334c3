/-
# Taking the next port

The next port for a mapping is chosen among those that the gateway does not show to be in use.
This file shows that all mappings are read before anything is changed, that the gateway is
asked for one mapping at most, and only for one at a port that is free.
-/
import UpnpGateway.Proofs.Mapping.Enumeration
import UpnpGateway.Proofs.Mapping.FreePort

namespace UpnpGateway

open UpnpGateway.Net UpnpGateway.Soap UpnpGateway.Text UpnpGateway.Xml

/-! ## The parts of a mapping in a request -/

/-- The name of the action that makes mappings. -/
def addAction : String := "AddPortMapping"

/-- The parts of a mapping stand among what is read in a request for an action. -/
structure PortMapping.IsFoundIn (m : PortMapping) (action : Action)
    (read : List (String × String)) : Prop where
  externalPort : ("NewExternalPort", toString m.externalPort.toNat) ∈ read
  internalPort : ("NewInternalPort", toString m.internalPort.toNat) ∈ read
  protocol : ("NewProtocol", m.protocol.name) ∈ read
  enabled : ("NewEnabled", if m.enabled then "1" else "0") ∈ read
  leaseDuration : ("NewLeaseDuration", toString m.leaseDuration.toNat) ∈ read
  /-- A text stands there without the blanks at its ends, unless something else than a text is
  declared for it. -/
  text : ∀ name s, (name, .text s) ∈ m.arguments →
    (∀ input ∈ action.inputs, input.name = name → input.dataType.isText = true) →
    (name, trimmed s) ∈ read

/-- The name of a protocol is no number and no truth value, so it is written as it is or not at
all. -/
lemma Protocol.eq_name_of_encode {p : Protocol} {type : DataType} {s : String}
    (h : (Value.text p.name).encode type = .ok s) : s = p.name := by
  have htruth : (Value.text p.name).truth? = none := by cases p <;> decide +kernel
  have hinteger : (Value.text p.name).integer? = none := by cases p <;> decide +kernel
  cases type with
  | string | other name => exact (Except.ok.inj h).symm
  | boolean => simp [Value.encode, htruth] at h
  | integer type => simp [Value.encode, hinteger] at h

section Found

variable {m : PortMapping} {action : Action} {texts : List (String × String)}
  (h : encodeInputs action m.arguments = .ok texts)
include h

lemma PortMapping.isPlainName_of_encodeInputs : ∀ text ∈ texts, IsPlainName text.1 := by
  have hall : ∀ name ∈ mappingInputs, IsPlainName name := by decide
  intro text htext
  exact hall _ (m.map_fst_arguments ▸ mem_map_fst_of_encodeInputs h htext)

/-- What is written for the parts of a mapping is found again. -/
lemma PortMapping.isFoundIn_of_encodeInputs :
    m.IsFoundIn action (texts.map fun text => (text.1, trimmed text.2)) := by
  have hfound : ∀ {name s : String}, (name, s) ∈ texts →
      (name, trimmed s) ∈ texts.map fun text => (text.1, trimmed text.2) :=
    fun hmem => List.mem_map.2 ⟨_, hmem, rfl⟩
  -- a number or a truth value is written in its plain form
  have hplain : ∀ {name : String} {value : Value}, (name, value) ∈ m.arguments →
      value.isText = false → trimmed value.plain = value.plain →
      (name, value.plain) ∈ texts.map fun text => (text.1, trimmed text.2) := by
    intro name value hmem hvalue htrimmed
    have htext := hfound (mem_plain_of_encodeInputs h m.nodup_arguments hmem (by simp [hvalue]))
    rwa [htrimmed] at htext
  -- and a number has no blanks in it
  have hnumber : ∀ {name : String} {value : Value} {n : Nat}, (name, value) ∈ m.arguments →
      value.isText = false → value.plain = String.ofList (decimal n) →
      (name, toString n) ∈ texts.map fun text => (text.1, trimmed text.2) := by
    intro name value n hmem hvalue hdecimal
    have htext := hplain hmem hvalue (by rw [hdecimal, trimmed_decimal])
    rw [hdecimal] at htext
    exact htext
  exact {
    externalPort := hnumber (by simp [arguments, keyArguments]) rfl (plain_portValue _)
    internalPort := hnumber (by simp [arguments]) rfl (plain_portValue _)
    protocol := by
      have hmem : ("NewProtocol", Value.text m.protocol.name) ∈ m.arguments := by
        simp [arguments, keyArguments]
      obtain ⟨input, -, s, -, hs, htext⟩ :=
        exists_encode_of_encodeInputs h m.nodup_arguments hmem
      obtain rfl := Protocol.eq_name_of_encode hs
      have htrimmed : trimmed m.protocol.name = m.protocol.name := by
        cases m.protocol <;> decide +kernel
      simpa [htrimmed] using hfound htext
    enabled := by
      have hmem : ("NewEnabled", Value.truth m.enabled) ∈ m.arguments := by simp [arguments]
      exact hplain hmem rfl (by cases m.enabled <;> decide +kernel)
    leaseDuration := hnumber (by simp [arguments]) rfl (plain_wordValue _)
    text := fun name s hmem htype =>
      hfound (mem_plain_of_encodeInputs h m.nodup_arguments hmem fun _ => htype) }

end Found

/-! ## Free ports -/

/-- A port that is free for a protocol from a wanted port on: it is not zero, and none of some
mappings takes it up. -/
structure FreeFor (ms : List PortMapping) (protocol : Protocol) (base port : UInt16) : Prop where
  pos : 0 < port
  base_le : base ≤ port
  ne_externalPort : ∀ m ∈ ms, m.protocol = protocol → m.externalPort ≠ port

lemma mem_usedPorts {ms : List PortMapping} {protocol : Protocol} {port : UInt16} :
    port ∈ Session.usedPorts protocol ms ↔
      ∃ m ∈ ms, m.protocol = protocol ∧ m.externalPort = port := by
  simp [Session.usedPorts, and_assoc]

/-- The port that is found is free. -/
lemma freeFor_of_nextFreePort {ms : List PortMapping} {protocol : Protocol} {base port : UInt16}
    (h : nextFreePort (Session.usedPorts protocol ms) base = .ok port) :
    FreeFor ms protocol base port := by
  obtain ⟨hpos, hbase, hfree⟩ := nextFreePort_ok h
  exact ⟨hpos, hbase, fun m hm hprotocol heq => hfree (mem_usedPorts.2 ⟨m, hm, hprotocol, heq⟩)⟩

namespace Session

variable (s : Session)

/-! ## What is asked -/

lemma asks_mappingAt (index : UInt32) : (s.mappingAt index).Asks (s.Invokes indexAction) :=
  .bind (s.asks_invoke _) fun _ => .ofExcept _

lemma asks_mappingsFrom (left i : Nat) :
    (s.mappingsFrom left i).Asks (s.Invokes indexAction) := by
  induction left generalizing i with
  | zero => exact .fail _
  | succ left ih =>
    refine .bind (.attempt (s.asks_mappingAt _)) fun answer => ?_
    cases answer with
    | ok m => exact .bind (ih _) fun ms => .pure _
    | error e =>
      dsimp only
      split
      · exact .pure _
      · exact .fail _

/-- All that is sent to read the mappings are questions for them. -/
lemma asks_mappings : s.mappings.Asks (s.Invokes indexAction) := s.asks_mappingsFrom _ _

/-! ## What is added -/

/-- A request asks for a mapping to be made: it invokes the action that makes mappings for the parts
of the mapping, and whoever reads its envelope finds them. -/
structure AsksToMap (m : PortMapping) (r : Request) : Prop where
  invokesWith : s.InvokesWith addAction m.arguments r
  exists_isFoundIn : ∃ action envelope, s.service.action? addAction = some action ∧
    s.request? addAction envelope = some r ∧ ∀ rule, rule ≠ .exact →
      ∃ read, readArguments rule addAction envelope = .ok read ∧ m.IsFoundIn action read

lemma InvokesWith.asksToMap {s : Session} {m : PortMapping} {r : Request}
    (h : s.InvokesWith addAction m.arguments r) : s.AsksToMap m r := by
  refine ⟨h, ?_⟩
  obtain ⟨action, texts, envelope, haction, htexts, -, hcarries, hr⟩ := h
  have hname : IsName addAction.toList := by decide
  exact ⟨action, envelope, haction, hr, fun rule hrule => ⟨_,
    hcarries.readArguments_eq hname (m.isPlainName_of_encodeInputs htexts) rule hrule,
    m.isFoundIn_of_encodeInputs htexts⟩⟩

/-- One request at most is sent to make a mapping, and one if it is made. -/
lemma exists_run_addMapping (m : PortMapping) (net : Network) (past : List Request) :
    ∃ (done : Except Error Unit) (added : Option Request),
      (s.addMapping m).run net past = (done, past ++ added.toList) ∧
      (∀ r ∈ added, s.AsksToMap m r) ∧
      (done = .ok () → added.isSome = true) := by
  have hadd : s.addMapping m = s.invoke addAction m.arguments >>= fun _ => pure () := rfl
  obtain ⟨answer, added, hrun, hinvokes, hsome⟩ :=
    s.exists_run_invoke addAction m.arguments net past
  have hadded : ∀ r ∈ added, s.AsksToMap m r := fun r hr => (hinvokes r hr).asksToMap
  cases answer with
  | error e => exact ⟨.error e, added, Exchange.run_bind_error _ _ hrun, hadded, by simp⟩
  | ok response =>
    exact ⟨.ok (), added, Exchange.run_bind_ok _ _ hrun, hadded, fun _ => hsome _ rfl⟩

/-! ## What is chosen -/

variable (protocol : Protocol) (base : UInt16) (template : Option PortMapping)

/-- What taking a port comes to: the port, unless there is a template and its mapping fails. -/
def taken (made : PortMapping → Except Error Unit) (port : UInt16) : Except Error UInt16 :=
  match template with
  | none => .ok port
  | some t => (made (t.at protocol port)).map fun _ => port

/-- What is known about the choice of a port: what the request `added` for a mapping, if there is
one, and the result have to do with the mappings that were found and with what comes of making a
mapping. -/
structure IsPortChoice (found : Except Error (List PortMapping))
    (made : PortMapping → Except Error Unit) (added : Option Request)
    (result : Except Error UInt16) : Prop where
  /-- A port is the result only if the mappings show it to be free; it is mapped if there is a
  template, and only then. -/
  of_ok : ∀ port, result = .ok port → ∃ ms, found = .ok ms ∧ FreeFor ms protocol base port ∧
    (template = none → added = none) ∧
    ∀ t, template = some t → ∃ r, added = some r ∧ s.AsksToMap
      { t with
        externalPort := port
        protocol := protocol
        internalPort := if t.internalPort = 0 then port else t.internalPort } r
  /-- Whatever the result is, the gateway is asked only to map a port that is free. -/
  of_added : ∀ r ∈ added, ∃ ms port t, found = .ok ms ∧ FreeFor ms protocol base port ∧
    template = some t ∧ s.AsksToMap (t.at protocol port) r
  /-- If the mappings cannot be read, nothing is changed. -/
  of_error : ∀ e, found = .error e → result = .error e ∧ added = none
  /-- If a port is free from the start of the search on, one is taken; only its mapping may fail. -/
  of_free : ∀ ms (q : UInt16), found = .ok ms →
    searchStart (usedPorts protocol ms) base ≤ q.toNat →
    (∀ m ∈ ms, m.protocol = protocol → m.externalPort ≠ q) →
    ∃ port, FreeFor ms protocol base port ∧ result = taken protocol template made port
  /-- If no port is free from the start of the search on, which is not below the wanted port,
  nothing is changed. -/
  of_full : ∀ ms, found = .ok ms →
    (∀ port : UInt16, searchStart (usedPorts protocol ms) base ≤ port.toNat →
      ∃ m ∈ ms, m.protocol = protocol ∧ m.externalPort = port) →
    result = .error (.portsExhausted (.ofNat (searchStart (usedPorts protocol ms) base))) ∧
      added = none

variable {s protocol base template} {made : PortMapping → Except Error Unit}

lemma eq_of_taken {port port' : UInt16} (h : taken protocol template made port = .ok port') :
    port = port' := by
  cases template with
  | none => exact Except.ok.inj h
  | some t =>
    rw [taken] at h
    cases hmade : made (t.at protocol port) with
    | error e => simp [hmade, Except.map] at h
    | ok _ => simpa [hmade, Except.map] using h

namespace IsPortChoice

/-- The mappings cannot be read. -/
lemma of_unread {e : Error} :
    s.IsPortChoice protocol base template (.error e) made none (.error e) where
  of_ok := by simp
  of_added := by simp
  of_error := by simp
  of_free := by simp
  of_full := by simp

/-- No port is found. -/
lemma of_nextFreePort_error {ms : List PortMapping} {e : Error}
    (h : nextFreePort (usedPorts protocol ms) base = .error e) :
    s.IsPortChoice protocol base template (.ok ms) made none (.error e) where
  of_ok := by simp
  of_added := by simp
  of_error := by simp
  of_free := by
    intro ms' q hms hq hfree
    obtain rfl := Except.ok.inj hms
    obtain ⟨m, hm, hprotocol, hport⟩ := mem_usedPorts.1 ((nextFreePort_error_iff.1 h).1 q hq)
    exact absurd hport (hfree m hm hprotocol)
  of_full := by
    intro ms' hms _
    obtain rfl := Except.ok.inj hms
    exact ⟨by rw [(nextFreePort_error_iff.1 h).2], rfl⟩

/-- A port is found, and is the result unless its mapping fails. -/
lemma of_nextFreePort_ok {ms : List PortMapping} {port : UInt16} {added : Option Request}
    {result : Except Error UInt16}
    (h : nextFreePort (usedPorts protocol ms) base = .ok port)
    (hadded : ∀ r ∈ added, ∃ t, template = some t ∧ s.AsksToMap (t.at protocol port) r)
    (hresult : result = taken protocol template made port)
    (hsome : ∀ port', result = .ok port' → added.isSome = template.isSome) :
    s.IsPortChoice protocol base template (.ok ms) made added result where
  of_ok := by
    intro port' hport'
    have hsome := hsome port' hport'
    obtain rfl := eq_of_taken (hresult.symm.trans hport')
    refine ⟨ms, rfl, freeFor_of_nextFreePort h, ?_, ?_⟩
    · rintro rfl
      exact Option.isNone_iff_eq_none.1 (by simpa using hsome)
    · rintro t rfl
      obtain ⟨r, hr⟩ := Option.isSome_iff_exists.1 hsome
      obtain ⟨t', ht', hasks⟩ := hadded r hr
      obtain rfl := Option.some.inj ht'
      refine ⟨r, hr, ?_⟩
      simpa [PortMapping.at] using hasks
  of_added := by
    intro r hr
    obtain ⟨t, ht, hasks⟩ := hadded r hr
    exact ⟨ms, port, t, rfl, freeFor_of_nextFreePort h, ht, hasks⟩
  of_error := by simp
  of_free := by
    intro ms' q hms _ _
    obtain rfl := Except.ok.inj hms
    exact ⟨port, freeFor_of_nextFreePort h, hresult⟩
  of_full := by
    intro ms' hms hused
    obtain rfl := Except.ok.inj hms
    have herror := nextFreePort_error_iff.2 ⟨fun p hp => mem_usedPorts.2 (hused p hp), rfl⟩
    rw [h] at herror
    cases herror

end IsPortChoice

/-- The next port is taken only if the gateway shows it to be free, and the gateway is touched only
then: before that, no action that makes mappings is invoked, and then it is invoked at most
once. -/
theorem nextMapping_isPortChoice (net : Network) (past : List Request) :
    ∃ (asked : List Request) (added : Option Request),
      (s.mappings.run net past).2 = past ++ asked ∧
      (∀ r ∈ asked, ¬ s.Invokes addAction r) ∧
      ((s.nextMapping protocol base template).run net past).2 = past ++ asked ++ added.toList ∧
      s.IsPortChoice protocol base template (s.mappings.run net past).1
        (fun m => ((s.addMapping m).run net (past ++ asked)).1) added
        ((s.nextMapping protocol base template).run net past).1 := by
  obtain ⟨asked, hasked, hkind⟩ := s.asks_mappings net past
  obtain ⟨found, later, hfound⟩ := s.mappings.exists_run net past
  rw [hfound] at hasked ⊢
  obtain rfl : later = past ++ asked := hasked
  -- the questions tell the name of another action
  have hother : ∀ r ∈ asked, ¬ s.Invokes addAction r := by
    intro r hr hadd
    have hname : indexAction = addAction :=
      Invokes.eq (by decide) (by decide) (hkind r hr) hadd
    exact absurd hname (by decide)
  cases found with
  | error e =>
    have hrun : (s.nextMapping protocol base template).run net past =
        (.error e, past ++ asked) := Exchange.run_bind_error _ _ hfound
    exact ⟨asked, none, rfl, hother, by rw [hrun]; simp, by rw [hrun]; exact .of_unread⟩
  | ok ms =>
    rw [nextMapping, Exchange.run_bind_ok _ _ hfound, Exchange.run_bind, Exchange.run_ofExcept]
    cases hport : nextFreePort (usedPorts protocol ms) base with
    | error e => exact ⟨asked, none, rfl, hother, by simp, .of_nextFreePort_error hport⟩
    | ok port =>
      cases template with
      | none =>
        exact ⟨asked, none, rfl, hother, by simp,
          .of_nextFreePort_ok hport (by simp) rfl (by simp)⟩
      | some t =>
        -- whether the port is the result depends on what the gateway says to the new mapping
        obtain ⟨done, added, hrun, hadded, hsome⟩ :=
          s.exists_run_addMapping (t.at protocol port) net (past ++ asked)
        dsimp only
        rw [Exchange.run_bind, hrun]
        refine ⟨asked, added, rfl, hother, ?_,
          .of_nextFreePort_ok hport (fun r hr => ⟨t, rfl, hadded r hr⟩) ?_ ?_⟩
        · cases done <;> rfl
        · rw [taken, hrun]
          cases done <;> rfl
        · cases done with
          | error e => simp
          | ok u => simpa using hsome rfl

/-- A network in which the gateway says that it has no mapping, and then agrees to everything. -/
def emptyNetwork : Network :=
  { Network.offline with
    post := fun past _ _ _ =>
      .ok (if past.isEmpty then ⟨500, codeRefusal "714"⟩ else ⟨200, ""⟩) }

/-- Port zero is not taken, and the internal port follows a template that leaves it open. -/
example :
    let s := { cameraSession with
      service := { cameraSession.service with table := ⟨[cameraQuery, cameraAction], []⟩ } }
    (s.nextMapping .tcp 0 (some { cameraMapping with internalPort := 0 })).run emptyNetwork [] =
      (.ok 1, [
        .post "http://gw/" "\"#GetGenericPortMappingEntry\""
          (requestEnvelope "" indexAction [("NewPortMappingIndex", "0")]),
        .post "http://gw/" "\"#AddPortMapping\"" (requestEnvelope "" addAction [
          ("NewEnabled", "1"), ("NewExternalPort", "1"), ("NewInternalPort", "1"),
          ("NewRemoteHost", " "), ("NewProtocol", "TCP"), ("NewLeaseDuration", "4294967295"),
          ("NewInternalClient", "fe80::1"),
          ("NewPortMappingDescription", " <cam> & door")])]) := by
  decide +kernel

end Session

end UpnpGateway
