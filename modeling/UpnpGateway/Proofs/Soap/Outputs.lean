/-
# Outputs among other elements

The answer to an action holds one element for each output that the gateway has, in any order and
among other elements.  Reading it recovers the outputs: each declared one has a slot with its text,
or an empty slot if it was not written, and only the written ones can be required.
-/
import UpnpGateway.Proofs.Soap.Answers
import UpnpGateway.Proofs.Soap.Naming
import UpnpGateway.Proofs.Xml.Siblings
import UpnpGateway.Vendor

namespace UpnpGateway.Soap

open UpnpGateway.Text UpnpGateway.Xml

/-- What stands in an answer: the element of an output, or another one. -/
inductive Part where
  /-- The element of an output. -/
  | output (a : WrittenArgument)
  /-- An element that is no output. -/
  | other (s : Sibling)

namespace Part

/-- The part as it is written. -/
def chars : Part → List Char
  | output a => (Gap.ofRun a.before).chars ++ a.tag.enclose [] (.ofText a.value.toList)
  | other s => s.chars

/-- The name and the text of an output. -/
def output? : Part → Option (String × String)
  | output a => some (a.name, a.value)
  | other _ => none

/-- The element that is read of a part: that of the output, or one of the same name. -/
def IsReadAs : Part → Element → Prop
  | output a, e => e = a.element
  | other s, e => e.name = s.name

lemma exists_readsAs (part : Part) :
    ∃ (data : List Char) (e : Element), part.IsReadAs e ∧ ReadsAs part.chars data [e] := by
  cases part with
  | other s => exact s.exists_readsAs
  | output a =>
    have hread := (ReadsAs.nil.enclose a.tag (.ofText a.value.toList)).gap_append
      (.ofRun a.before) rfl
    have helement : ⟨String.ofList a.tag.name,
        String.ofList ([] ++ (Gap.ofText a.value.toList).data), []⟩ = a.element := by
      simp [WrittenArgument.element, Gap.ofText, Gap.ofRun, Gap.data, Content.data, Run.ofText]
    exact ⟨_, a.element, rfl, helement ▸ hread⟩

end Part

/-- An answer whose outputs stand among other elements, and which itself does so in the body, as
does the body in the envelope. -/
structure MixedAnswer (rule : TagRule) (action : Action) where
  /-- What stands before the envelope. -/
  prolog : Gap
  /-- The tag that opens the envelope. -/
  envelope : StartTag
  /-- What stands around the body. -/
  inEnvelope : Surroundings
  /-- The tag that opens the body. -/
  body : StartTag
  /-- What stands around the answer. -/
  inBody : Surroundings
  /-- The tag that opens the answer. -/
  answer : StartTag
  /-- The outputs and the elements among them. -/
  parts : List Part
  /-- What stands behind these. -/
  last : Gap
  /-- What stands behind the envelope. -/
  trailing : List Char
  head?_prolog : prolog.chars.head? ≠ some '\uFEFF'
  localPart_body : localPart (String.ofList body.name) = "Body"
  localPart_answer : localPart (String.ofList answer.name) = action.name ++ "Response"
  not_body : ∀ s ∈ inEnvelope.before, rule.matches s.name "Body" = false
  not_answer : ∀ s ∈ inBody.before, rule.matches s.name (action.name ++ "Response") = false
  not_output : ∀ s, .other s ∈ parts → ∀ output ∈ action.outputs,
    rule.matches s.name output.name = false

namespace MixedAnswer

variable {rule : TagRule} {action : Action} (l : MixedAnswer rule action)

/-- The answer as it is written. -/
def answerText : List Char := l.answer.enclose (l.parts.flatMap Part.chars) l.last

/-- The body as it is written. -/
def bodyText : List Char := l.body.enclose (l.inBody.around l.answerText) l.inBody.last

/-- The document as it is written. -/
def write : String :=
  String.ofList (l.prolog.chars ++
    (l.envelope.enclose (l.inEnvelope.around l.bodyText) l.inEnvelope.last ++ l.trailing))

/-- The answer is found, whatever stands around it, and the elements in it are its parts. -/
lemma exists_parse_write (hrule : rule ≠ .exact) :
    ∃ (root : Element) (element : Part → Element) (answer : Element),
      (∀ part : Part, part.IsReadAs (element part)) ∧ Xml.parse l.write = .ok root ∧
      bodyElement? root (action.name ++ "Response") rule = some answer ∧
      answer.children = l.parts.map element := by
  obtain ⟨element, helement, hread⟩ := exists_readsAs_flatMap Part.exists_readsAs
  obtain ⟨data, hparts⟩ := hread l.parts
  obtain ⟨bodyData, inBody, hinBody, hanswer⟩ :=
    l.inBody.exists_readsAs_around (hparts.enclose l.answer l.last) rfl
  obtain ⟨_, inEnvelope, hinEnvelope, hbody⟩ :=
    l.inEnvelope.exists_readsAs_around (hinBody.enclose l.body l.inBody.last) rfl
  have hparse : Xml.parse l.write = .ok ⟨_, _, inEnvelope⟩ :=
    hinEnvelope.parse_enclose l.envelope l.inEnvelope.last l.prolog l.head?_prolog l.trailing
  refine ⟨_, element, ⟨String.ofList l.answer.name, String.ofList (data ++ l.last.data),
    l.parts.map element⟩, helement, hparse, ?_, rfl⟩
  have hbody' := hbody rule "Body" l.not_body (matches_of_localPart hrule l.localPart_body)
  have hanswer' := hanswer rule _ l.not_answer (matches_of_localPart hrule l.localPart_answer)
  rw [bodyElement?, Element.child?, hbody', Option.some_or]
  simp only [Option.bind_eq_bind, Option.bind_some]
  rw [Element.child?, hanswer', Option.some_or]

end MixedAnswer

/-! ## Slots -/

/-- What is found first has the value that everything with the wanted name has. -/
lemma find?_map_snd_eq {α : Type} {received : List (String × α)} {p : String × α → Bool}
    {value : Option α} (hsome : ∀ x ∈ received, p x = true → value = some x.2)
    (hnone : ∀ v, value = some v → ∃ x ∈ received, p x = true) :
    (received.find? p).map Prod.snd = value := by
  cases hfind : received.find? p with
  | some x => exact (hsome x (List.mem_of_find?_eq_some hfind) (List.find?_some hfind)).symm
  | none =>
    cases value with
    | none => rfl
    | some v =>
      obtain ⟨x, hx, hpx⟩ := hnone v rfl
      exact absurd hpx (List.find?_eq_none.1 hfind x hx)

/-- A rule that drops namespaces drops them at once. -/
lemma matches_localPart {rule : TagRule} (hrule : rule ≠ .exact) (name wanted : String) :
    rule.matches (localPart name) wanted = rule.matches name wanted := by
  cases rule with
  | exact => exact absurd rfl hrule
  | localName | ignoreCase => simp only [TagRule.matches, localPart_localPart]

/-- Names that match the same name agree up to the case of letters. -/
lemma lower_eq_of_matches {rule : TagRule} (hrule : rule ≠ .exact) {qualified wanted : String}
    (h : rule.matches qualified wanted = true) :
    lower (localPart qualified).toList = lower wanted.toList := by
  cases rule with
  | exact => exact absurd rfl hrule
  | localName => rw [show localPart qualified = wanted by simpa [TagRule.matches] using h]
  | ignoreCase => exact sameLetters_iff.1 h

/-- The outputs that are given, with their texts, in declared order. -/
def givenOutputs (action : Action) (given : String → Option String) : List (String × String) :=
  action.outputs.filterMap fun output => (given output.name).map fun s => (output.name, s)

lemma mem_givenOutputs {action : Action} {given : String → Option String} {name s : String} :
    (name, s) ∈ givenOutputs action given ↔
      (∃ output ∈ action.outputs, output.name = name) ∧ given name = some s := by
  rw [givenOutputs, List.mem_filterMap]
  constructor
  · rintro ⟨output, houtput, h⟩
    obtain ⟨v, hv, hpair⟩ := Option.map_eq_some_iff.1 h
    obtain ⟨rfl, rfl⟩ := Prod.mk.inj hpair
    exact ⟨⟨output, houtput, rfl⟩, hv⟩
  · rintro ⟨⟨output, houtput, rfl⟩, h⟩
    exact ⟨output, houtput, by rw [h, Option.map_some]⟩

section Recovered

variable {rule : TagRule} {action : Action} {given : String → Option String}
  (l : MixedAnswer rule action) (hrule : rule ≠ .exact)
  (hdistinct : (action.outputs.map fun output => lower output.name.toList).Nodup)
  (hgiven : (l.parts.filterMap Part.output?).Perm (givenOutputs action given))
include hrule hdistinct hgiven

/-- What matches the name of an output is its element. -/
lemma given_of_matches {part : Part} (hpart : part ∈ l.parts) {e : Element} (he : part.IsReadAs e)
    {output : Argument} (houtput : output ∈ action.outputs)
    (hmatch : rule.matches e.localName output.name = true) :
    (given output.name).map trimmed = some (trimmed e.text) := by
  cases part with
  | other s =>
    have hname : e.name = s.name := he
    rw [Element.localName, matches_localPart hrule, hname, l.not_output s hpart output houtput]
      at hmatch
    exact absurd hmatch Bool.false_ne_true
  | output a =>
    obtain rfl : e = a.element := he
    have hmem : (a.name, a.value) ∈ givenOutputs action given :=
      hgiven.mem_iff.1 (List.mem_filterMap.2 ⟨_, hpart, rfl⟩)
    obtain ⟨⟨declared, hdeclared, hname⟩, hvalue⟩ := mem_givenOutputs.1 hmem
    -- no other output has this name up to the case of letters
    have hlower : lower a.name.toList = lower output.name.toList := by
      have hlocal := lower_eq_of_matches hrule hmatch
      rwa [Element.localName, localPart_localPart] at hlocal
    obtain rfl : declared = output := List.inj_on_of_nodup_map hdistinct hdeclared houtput
      (by rw [hname, hlower])
    rw [hname, hvalue, Option.map_some, WrittenArgument.trimmed_text_element]

/-- The slot of an output holds its text if it was given, and is empty otherwise. -/
lemma slot_parts {element : Part → Element} (helement : ∀ part : Part, part.IsReadAs (element part))
    {output : Argument} (houtput : output ∈ action.outputs) :
    Response.slot rule
      ((l.parts.map element).map fun c => (c.localName, trimmed c.text)) output =
        (output.name, (given output.name).map trimmed) := by
  rw [Response.slot, List.map_map]
  refine congrArg _ (find?_map_snd_eq (fun x hx hmatch => ?_) fun v hv => ?_)
  · obtain ⟨part, hpart, rfl⟩ := List.mem_map.1 hx
    exact given_of_matches l hrule hdistinct hgiven hpart (helement part) houtput hmatch
  · obtain ⟨s, hs, -⟩ := Option.map_eq_some_iff.1 hv
    have hmem := hgiven.mem_iff.2 (mem_givenOutputs.2 ⟨⟨output, houtput, rfl⟩, hs⟩)
    obtain ⟨part, hpart, hpair⟩ := List.mem_filterMap.1 hmem
    cases part with
    | other s => simp [Part.output?] at hpair
    | output a =>
      have hname : a.name = output.name := (Prod.mk.inj (Option.some.inj hpair)).1
      have hread : element (.output a) = a.element := helement (.output a)
      refine ⟨_, List.mem_map_of_mem hpart, matches_of_localPart hrule ?_⟩
      rw [Function.comp_apply, hread]
      exact (localPart_localPart _).trans hname

/-- The response has the slots of the declared outputs. -/
lemma ofEnvelope_mixedAnswer :
    Response.ofEnvelope rule action l.write =
      ⟨action.name, action.outputs.map fun output =>
        (output.name, (given output.name).map trimmed)⟩ := by
  obtain ⟨root, element, answer, helement, hparse, hanswer, hchildren⟩ := l.exists_parse_write hrule
  rw [ofEnvelope_of_parse hparse, received, hanswer]
  dsimp only
  rw [hchildren]
  refine congrArg (Response.mk action.name) (List.map_congr_left fun output houtput => ?_)
  exact slot_parts l hrule hdistinct hgiven helement houtput

end Recovered

/-- A value that depends on the name alone is found under each declared name. -/
lemma Response.get?_map_outputs (title : String) (outputs : List Argument)
    (value : String → Option String) (name : String) :
    Response.get? ⟨title, outputs.map fun output => (output.name, value output.name)⟩ name =
      if name ∈ outputs.map Argument.name then value name else none := by
  rw [Response.get?]
  induction outputs with
  | nil => rfl
  | cons output outputs ih =>
    rw [List.map_cons, List.find?_cons, List.map_cons]
    by_cases h : output.name = name
    · simp [h]
    · have hne : (output.name == name) = false := by simpa using h
      simp only [hne, ih, List.mem_cons, eq_comm (a := name), h, false_or]

/-- The outputs that a gateway has written are recovered from its answer, in whatever order and
among whatever other elements they stand: each declared output has a slot, in declared order, that
holds its text without the blanks at its ends if it was written, and is empty if it was not.  Only
the written outputs can be required. -/
theorem ofEnvelope_recovers (profile : Profile) {action : Action}
    {given : String → Option String}
    (hprofile : profile = .standard ∨ profile ∈ vendorRegistry.map VendorRow.profile)
    (hdistinct : (action.outputs.map fun output => lower output.name.toList).Nodup)
    (l : MixedAnswer profile.tagRule action)
    (hgiven : (l.parts.filterMap Part.output?).Perm (givenOutputs action given)) :
    (Response.ofEnvelope profile.tagRule action l.write).values =
      action.outputs.map (fun output => (output.name, (given output.name).map trimmed)) ∧
    (∀ output ∈ action.outputs, ∀ s, given output.name = some s →
      (Response.ofEnvelope profile.tagRule action l.write).require output.name =
        .ok (trimmed s)) ∧
    ∀ name, (∀ output ∈ action.outputs, output.name = name → given name = none) →
      (Response.ofEnvelope profile.tagRule action l.write).require name =
        .error (.missingOutput action.name name) := by
  have hrule := Profile.tagRule_ne_exact hprofile
  rw [ofEnvelope_mixedAnswer l hrule hdistinct hgiven]
  have hget := Response.get?_map_outputs action.name action.outputs fun name =>
    (given name).map trimmed
  refine ⟨rfl, fun output houtput s hs => ?_, fun name hnone => ?_⟩
  · rw [Response.require, hget, if_pos (List.mem_map_of_mem houtput), hs]
    rfl
  · rw [Response.require, hget]
    split
    · rename_i v hv
      obtain ⟨hdeclared, hvalue⟩ := Option.ite_none_right_eq_some.1 hv
      obtain ⟨output, houtput, hname⟩ := List.mem_map.1 hdeclared
      simp [hnone output houtput hname] at hvalue
    · rfl

/-! ### An answer with other elements -/

/-- A query with three outputs. -/
def statusQuery : Action where
  name := "GetStatusInfo"
  inputs := []
  outputs := [⟨"NewConnectionStatus", "A", .string⟩, ⟨"NewLastConnectionError", "B", .string⟩,
    ⟨"NewUptime", "C", .integer .ui4⟩]

/-- A gateway that has been connected, and that does not tell for how long. -/
def statusTexts : String → Option String
  | "NewConnectionStatus" => some " <up> & running"
  | "NewLastConnectionError" => some ""
  | _ => none

/-- An element that no action declares, with one in it that has the name of an output. -/
def vendorElement : Sibling where
  before := .ofText "\n".toList
  text := "<v:Extra><NewUptime>1</NewUptime><!-- > --></v:Extra>".toList
  tag := ⟨"v:Extra".toList, []⟩
  isElement := by decide +kernel

/-- A header before the body. -/
def headerElement : Sibling where
  before := .ofText []
  text := "<env:Header/>".toList
  tag := ⟨"env:Header".toList, []⟩
  isElement := by decide +kernel

/-- The answer of the gateway, with the outputs in another order. -/
def statusAnswer : MixedAnswer .ignoreCase statusQuery where
  prolog := .ofText []
  envelope := .ofName "env:Envelope".toList
  inEnvelope := ⟨[headerElement], .ofText [], [], .ofText []⟩
  body := .ofName "env:Body".toList
  inBody := ⟨[], .ofText [], [vendorElement], .ofText []⟩
  answer := .ofName "u:GetStatusInfoResponse".toList
  parts := [
    .output ⟨.empty, .ofName "NewLastConnectionError".toList, ""⟩,
    .other vendorElement,
    .output ⟨.empty, .ofName "u:NewConnectionStatus".toList, " <up> & running"⟩]
  last := .ofText []
  trailing := "</junk>".toList
  head?_prolog := by decide
  localPart_body := by decide +kernel
  localPart_answer := by decide +kernel
  not_body := by decide +kernel
  not_answer := by simp
  not_output := by
    intro s hs
    obtain rfl : s = vendorElement := by simpa using hs
    decide +kernel

/-- The texts are read, the empty one as such, and the missing one is told from it. -/
theorem ofEnvelope_recovers_status :
    let response := Response.ofEnvelope Profile.huawei.tagRule statusQuery statusAnswer.write
    ((statusQuery.outputs.map fun output => lower output.name.toList).Nodup ∧
      (statusAnswer.parts.filterMap Part.output?).Perm (givenOutputs statusQuery statusTexts)) ∧
    response.values = [("NewConnectionStatus", some "<up> & running"),
      ("NewLastConnectionError", some ""), ("NewUptime", none)] ∧
    response.require "NewLastConnectionError" = .ok (trimmed "") ∧
    response.require "NewUptime" = .error (.missingOutput "GetStatusInfo" "NewUptime") := by
  have hdistinct :
      (statusQuery.outputs.map fun output => lower output.name.toList).Nodup := by
    decide +kernel
  have hgiven : (statusAnswer.parts.filterMap Part.output?).Perm
      (givenOutputs statusQuery statusTexts) := by
    decide +kernel
  obtain ⟨hvalues, hpresent, hmissing⟩ :=
    ofEnvelope_recovers .huawei (.inr (by decide)) hdistinct statusAnswer hgiven
  refine ⟨⟨hdistinct, hgiven⟩, hvalues.trans (by decide +kernel),
    hpresent ⟨"NewLastConnectionError", "B", .string⟩ (by simp [statusQuery]) "" rfl,
    hmissing "NewUptime" fun _ _ _ => rfl⟩

end UpnpGateway.Soap
