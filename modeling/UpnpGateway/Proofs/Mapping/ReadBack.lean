/-
# Mappings are read back as they were made

A mapping is made with eight arguments, and a gateway that is asked for it answers with what it
was sent.  Each part of the mapping is written in one module and read in another; this file shows
that nothing is lost on the way but the blanks at the ends of texts, for every type that the
gateway may declare for its inputs, every way in which it may lay out its answers and every
profile by which these are read.
-/
import UpnpGateway.Mapping.Operations
import UpnpGateway.Net.Offline
import UpnpGateway.Proofs.Net.IpText
import UpnpGateway.Proofs.Soap.Answers

namespace UpnpGateway

open UpnpGateway.Net UpnpGateway.Soap UpnpGateway.Text UpnpGateway.Xml

/-! ## What is sent -/

/-- The names of the arguments that a mapping is made with. -/
def mappingInputs : List String := [
  "NewRemoteHost", "NewExternalPort", "NewProtocol", "NewInternalPort", "NewInternalClient",
  "NewEnabled", "NewPortMappingDescription", "NewLeaseDuration"]

/-- The names of those whose values are texts. -/
def textInputs : List String := [
  "NewRemoteHost", "NewProtocol", "NewInternalClient", "NewPortMappingDescription"]

/-- An action that mappings can be made with: it has one input for each part of a mapping, in
any order, and those for texts take texts. -/
structure Action.MakesMappings (action : Action) : Prop where
  perm : (action.inputs.map Argument.name).Perm mappingInputs
  isText : ∀ input ∈ action.inputs, input.name ∈ textInputs → input.dataType.isText = true

namespace PortMapping

variable (m : PortMapping)

lemma map_fst_arguments : m.arguments.map Prod.fst = mappingInputs := rfl

lemma nodup_arguments : (m.arguments.map Prod.fst).Nodup := by
  rw [m.map_fst_arguments]
  decide

lemma mem_textInputs {name : String} {value : Value} (hmem : (name, value) ∈ m.arguments)
    (hvalue : value.isText = true) : name ∈ textInputs := by
  simp only [arguments, keyArguments, List.cons_append, List.nil_append, List.mem_cons,
    Prod.mk.injEq, List.not_mem_nil, or_false] at hmem
  rcases hmem with ⟨rfl, rfl⟩ | ⟨rfl, rfl⟩ | ⟨rfl, rfl⟩ | ⟨rfl, rfl⟩ | ⟨rfl, rfl⟩ | ⟨rfl, rfl⟩ |
    ⟨rfl, rfl⟩ | ⟨rfl, rfl⟩
  all_goals first | decide | cases hvalue

/-- Every argument is sent as its plain text, whatever the declared types. -/
lemma mem_of_encodeInputs {add : Action} (hadd : add.MakesMappings)
    {texts : List (String × String)} (htexts : encodeInputs add m.arguments = .ok texts)
    {name : String} {value : Value} (hmem : (name, value) ∈ m.arguments) :
    (name, value.plain) ∈ texts := by
  refine mem_plain_of_encodeInputs htexts m.nodup_arguments hmem fun hvalue input hinput hname => ?_
  exact hadd.isText input hinput (hname ▸ m.mem_textInputs hmem hvalue)

/-- What is left of a mapping when it is read back: the texts lose the blanks at their ends, and
an empty host is none. -/
def settled : PortMapping :=
  { m with
    remoteHost := (m.remoteHost.map trimmed).filter fun host => !host.isEmpty
    description := trimmed m.description }

end PortMapping

/-! ## What is read -/

@[simp] lemma plain_portValue (port : UInt16) :
    (portValue port).plain = String.ofList (decimal port.toNat) := by
  rw [portValue, Value.plain, UInt16.toNat_toUInt64]

@[simp] lemma plain_wordValue (n : UInt32) :
    (wordValue n).plain = String.ofList (decimal n.toNat) := by
  rw [wordValue, Value.plain, UInt32.toNat_toUInt64]

lemma Protocol.parse_name (p : Protocol) : Protocol.parse p.name = .ok p := by
  cases p <;> decide +kernel

namespace Soap.Response

variable {r : Response}

lemma read_of_get? {α : Type} {name raw : String} {reader : String → Option α} {x : α}
    (h : r.get? name = some raw) (hx : reader (trimmed raw) = some x) :
    r.read name reader = .ok x := by
  rw [read, require, h]
  simp only [bind, Except.bind, hx]
  rfl

lemma readPort_of_get? {name : String} {port : UInt16}
    (h : r.get? name = some (trimmed (portValue port).plain)) :
    r.read name (fun s => readPort? s.toList) = .ok port := by
  refine read_of_get? h ?_
  rw [plain_portValue, trimmed_trimmed, trimmed_decimal, String.toList_ofList, readPort?_decimal]

lemma enabled_of_get? {b : Bool} (h : r.get? "NewEnabled" = some (trimmed (truthDigit b))) :
    r.enabled = .ok b := by
  have hread : readEnabled? (trimmed (truthDigit b)) = some b := by
    cases b <;> decide +kernel
  rw [enabled, h]
  simp only [hread]

lemma leaseDuration_of_get? {n : UInt32}
    (h : r.get? "NewLeaseDuration" = some (trimmed (wordValue n).plain)) :
    r.leaseDuration = .ok n := by
  rw [leaseDuration, h, Option.map_some, plain_wordValue, trimmed_trimmed, trimmed_decimal]
  split
  · rename_i hraw
    simp at hraw
  · rename_i hraw
    have hne : decimal n.toNat ≠ [] := Nat.toDigits_ne_nil
    simp [String.ofList_eq_empty_iff, hne] at hraw
  · rename_i raw hne hraw
    rw [Option.some.injEq] at hraw
    rw [← hraw, String.toList_ofList, readWord?_decimal]

/-- A mapping is read from an answer that holds its arguments. -/
lemma indexedMapping_of_get? {m : PortMapping}
    (h : ∀ a ∈ m.arguments, r.get? a.1 = some (trimmed a.2.plain)) :
    r.indexedMapping = .ok m.settled := by
  simp only [PortMapping.arguments, keyArguments, List.cons_append, List.nil_append,
    List.forall_mem_cons, remoteHostValue, Value.plain] at h
  obtain ⟨hhost, hport, hprotocol, hinternal, hclient, henabled, hdescription, hlease, -⟩ := h
  -- the two parts that are no numbers: a name and an address
  have hname : r.read "NewProtocol" (fun s => (Protocol.parse s).toOption) = .ok m.protocol := by
    refine read_of_get? hprotocol ?_
    have hblank : trimmed (trimmed m.protocol.name) = m.protocol.name := by
      cases m.protocol <;> decide +kernel
    rw [hblank, Protocol.parse_name]
    rfl
  have haddress : r.read "NewInternalClient" Ip.parse? = .ok m.internalClient := by
    refine read_of_get? hclient ?_
    rw [trimmed_trimmed, Ip.trimmed_text, Ip.parse?_text]
  have hremote : r.remoteHost? =
      (m.remoteHost.map trimmed).filter fun host => !host.isEmpty := by
    rw [remoteHost?, hhost, Option.map_some, trimmed_trimmed]
    cases m.remoteHost <;> rfl
  rw [indexedMapping, readPort_of_get? hport]
  simp only [bind, Except.bind, hname, mapping, enabled_of_get? henabled,
    leaseDuration_of_get? hlease, haddress, readPort_of_get? hinternal, hremote, hdescription,
    Option.getD_some]
  rfl

end Soap.Response

/-! ## There and back -/

section ReadBack

/-- The names of the arguments are told apart by every rule that drops namespaces. -/
lemma matches_mappingInputs {rule : TagRule} (hrule : rule ≠ .exact) {a b : String}
    (ha : a ∈ mappingInputs) (hb : b ∈ mappingInputs) : rule.matches a b = (a == b) := by
  have hall : [TagRule.localName, .ignoreCase].all (fun rule => mappingInputs.all fun a =>
      mappingInputs.all fun b => rule.matches a b == (a == b)) = true := by
    decide +kernel
  have hmem : rule ∈ [TagRule.localName, .ignoreCase] := by
    cases rule with
    | exact => exact absurd rfl hrule
    | localName | ignoreCase => decide
  simpa using List.all_eq_true.1 (List.all_eq_true.1 (List.all_eq_true.1 hall rule hmem) a ha) b hb

variable {m : PortMapping} {add : Action} {texts : List (String × String)} {l : AnswerLayout}
  {args : List WrittenArgument}

/-- The answer holds the arguments that were sent, without the blanks at their ends. -/
lemma get?_answer {rule : TagRule} (hrule : rule ≠ .exact) {action : Action}
    (houtputs : ∀ name ∈ mappingInputs, name ∈ action.outputs.map Argument.name)
    (hadd : add.MakesMappings) (htexts : encodeInputs add m.arguments = .ok texts)
    (hargs : (args.map fun a => (a.name, a.value)).Perm texts) {a : String × Value}
    (ha : a ∈ m.arguments) :
    (Response.ofEnvelope rule action (l.write args)).get? a.1 = some (trimmed a.2.plain) := by
  -- the names that were received are the eight names, each of them once
  have hnames : (args.map WrittenArgument.name).Perm mappingInputs := by
    have hperm := (hargs.map Prod.fst).trans (.of_eq (map_fst_of_encodeInputs htexts))
    rw [List.map_map] at hperm
    exact hperm.trans hadd.perm
  have hname : a.1 ∈ mappingInputs := by
    rw [← m.map_fst_arguments]
    exact List.mem_map_of_mem ha
  obtain ⟨arg, harg, hpair⟩ := List.mem_map.1
    (hargs.mem_iff.2 (m.mem_of_encodeInputs hadd htexts ha))
  refine Response.get?_ofEnvelope (l.readArguments_write args hrule _) (houtputs _ hname) ?_ ?_ ?_
  · rw [List.map_map]
    exact hnames.nodup_iff.2 (by decide)
  · refine List.mem_map.2 ⟨arg, harg, ?_⟩
    rw [← (Prod.mk.inj hpair).1, ← (Prod.mk.inj hpair).2]
  · intro p hp
    obtain ⟨arg', harg', rfl⟩ := List.mem_map.1 hp
    exact matches_mappingInputs hrule (hnames.mem_iff.1 (List.mem_map_of_mem harg')) hname

/-- A mapping that a gateway answers as it was sent is read back as it was made, but for the
blanks at the ends of its texts. -/
theorem Session.mappingAt_added {s : Session} {index : UInt32} {call : Call} {reply : Http.Reply}
    {net : Network} {past later : List Request}
    (hprofile : s.profile = .standard ∨ s.profile ∈ vendorRegistry.map VendorRow.profile)
    (hadd : add.MakesMappings) (htexts : encodeInputs add m.arguments = .ok texts)
    (hcall : prepare s.service "GetGenericPortMappingEntry"
      [("NewPortMappingIndex", wordValue index)] = .ok call)
    (houtputs : ∀ name ∈ mappingInputs, name ∈ call.action.outputs.map Argument.name)
    (hreply : (s.client.post s.service.controlUrl call.soapAction call.envelope).run net past =
      (.ok reply, later))
    (hsuccess : reply.isSuccess = true) (hbody : reply.body = l.write args)
    (hargs : (args.map fun a => (a.name, a.value)).Perm texts) :
    (s.mappingAt index).run net past = (.ok m.settled, later) := by
  have hrule := Profile.tagRule_ne_exact hprofile
  have hresponse : (s.invoke "GetGenericPortMappingEntry"
      [("NewPortMappingIndex", wordValue index)]).run net past =
        (.ok (.ofEnvelope s.profile.tagRule call.action (l.write args)), later) := by
    rw [Session.invoke, Soap.invoke, hcall, Exchange.run_bind, Exchange.run_ofExcept]
    dsimp only
    rw [Exchange.run_bind, Exchange.run_mapError, hreply]
    simp only [Except.mapError, Exchange.run_ofExcept, interpret, hsuccess, hbody, if_true]
  rw [Session.mappingAt, Exchange.run_bind_ok net past hresponse, Exchange.run_ofExcept,
    Response.indexedMapping_of_get? fun a ha =>
      get?_answer hrule houtputs hadd htexts hargs ha]

end ReadBack

/-! ### A gateway that keeps one mapping -/

/-- A mapping with markup and blanks in its texts. -/
def cameraMapping : PortMapping where
  externalPort := 1
  protocol := .udp
  remoteHost := some " "
  internalClient := .v6 ⟨[0xFE80, 0, 0, 0, 0, 0, 0, 1], rfl⟩
  internalPort := 8443
  enabled := true
  description := " <cam> & door"
  leaseDuration := 4294967295

/-- An action that declares the parts of a mapping in an order of its own, and some of them with
other types than usual. -/
def cameraAction : Action where
  name := "AddPortMapping"
  inputs := [
    ⟨"NewEnabled", "A", .integer .i1⟩, ⟨"NewExternalPort", "B", .boolean⟩,
    ⟨"NewInternalPort", "C", .integer .ui2⟩, ⟨"NewRemoteHost", "D", .string⟩,
    ⟨"NewProtocol", "E", .other "token"⟩, ⟨"NewLeaseDuration", "F", .integer .ui4⟩,
    ⟨"NewInternalClient", "G", .string⟩, ⟨"NewPortMappingDescription", "H", .string⟩]
  outputs := []

/-- An action that declares the parts of a mapping as outputs. -/
def cameraQuery : Action where
  name := "GetGenericPortMappingEntry"
  inputs := [⟨"NewPortMappingIndex", "I", .integer .ui2⟩]
  outputs := cameraAction.inputs.reverse

/-- A session with a gateway by Huawei. -/
def cameraSession : Session where
  advertisement := ⟨"", "", "", "", ⟨default, 1900⟩, []⟩
  portrait := ⟨default, default, .huawei⟩
  service := { (default : Service) with controlUrl := "http://gw/", table := ⟨[cameraQuery], []⟩ }
  localIp := default
  lanIp := none
  searchHeaders := []
  enumerationLimit := 100
  timeout := default

/-- An argument without attributes. -/
def plainArgument (name value : String) (h : IsName name.toList := by decide) :
    WrittenArgument :=
  ⟨.empty, .ofName name.toList h, value⟩

/-- What the gateway answers. -/
def cameraAnswer : List WrittenArgument := [
  plainArgument "NewExternalPort" "1",
  plainArgument "NewEnabled" "1",
  plainArgument "n:NewInternalPort" "8443",
  plainArgument "NewRemoteHost" " ",
  plainArgument "NewProtocol" "UDP",
  plainArgument "NewLeaseDuration" "4294967295",
  plainArgument "NewInternalClient" "fe80::1",
  plainArgument "NewPortMappingDescription" " <cam> & door"]

/-- How the gateway lays out its answers. -/
def cameraLayout : AnswerLayout where
  prolog := some (.instruction "xml".toList)
  envelope := .ofName "s:Envelope".toList
  body := .ofName "s:Body".toList
  answer := .ofName "u:Answer".toList
  gap := .ofText ['\n']
  localPart_body := by decide

/-- A network in which the gateway gives its answer to every envelope. -/
def cameraNetwork : Network :=
  { Network.offline with post _ _ _ _ := .ok ⟨200, cameraLayout.write cameraAnswer⟩ }

/-- The mapping is read back from the gateway, without the blanks and without a remote host. -/
theorem Session.mappingAt_camera :
    (cameraSession.mappingAt 3).run cameraNetwork [] =
      (.ok { cameraMapping with remoteHost := none, description := "<cam> & door" },
        [.post "http://gw/" "\"#GetGenericPortMappingEntry\""
          (requestEnvelope "" "GetGenericPortMappingEntry" [("NewPortMappingIndex", "3")])]) := by
  have hadd : cameraAction.MakesMappings := by
    have htext : cameraAction.inputs.all (fun input =>
        !textInputs.contains input.name || input.dataType.isText) = true := by
      decide
    refine ⟨by decide, fun input hinput hname => ?_⟩
    simpa [hname] using List.all_eq_true.1 htext input hinput
  have houtputs : mappingInputs.all (cameraQuery.outputs.map Argument.name).contains = true := by
    decide
  have hsettled : cameraMapping.settled =
      { cameraMapping with remoteHost := none, description := "<cam> & door" } := by
    decide +kernel
  have htexts : encodeInputs cameraAction cameraMapping.arguments = .ok [
      ("NewEnabled", "1"), ("NewExternalPort", "1"), ("NewInternalPort", "8443"),
      ("NewRemoteHost", " "), ("NewProtocol", "UDP"), ("NewLeaseDuration", "4294967295"),
      ("NewInternalClient", "fe80::1"), ("NewPortMappingDescription", " <cam> & door")] := by
    rfl
  rw [← hsettled]
  have hbody : (Http.Reply.mk 200 (cameraLayout.write cameraAnswer)).body =
      cameraLayout.write cameraAnswer := rfl
  refine mappingAt_added (.inr (by decide)) hadd htexts rfl (fun name hname => ?_) rfl rfl hbody ?_
  · simpa using List.all_eq_true.1 houtputs name hname
  · decide +kernel

end UpnpGateway
