/-
# Answers whose elements have other names

Gateways write the names of elements with whatever namespace they like, and some get the case of
letters wrong.  An answer, be it a success or a fault, is read up to the rule by which names are
compared: if two answers differ only in names between which the rule sees no difference, the same
is read in both, however deep in the tree the differences are.
-/
import UpnpGateway.Proofs.Text.Cut
import UpnpGateway.Proofs.Text.Letter
import UpnpGateway.Proofs.Xml.LetterCase
import UpnpGateway.Soap.Response

namespace UpnpGateway

open UpnpGateway.Text UpnpGateway.Xml

/-! ## What a rule sees of a name -/

namespace Xml

/-- What a rule sees of a qualified name: all of it, what is behind its last colon, or that without
regard to the case of letters. -/
def TagRule.view (rule : TagRule) (name : List Char) : List Char :=
  match rule with
  | .exact => name
  | .localName => (localPart (String.ofList name)).toList
  | .ignoreCase => lower (localPart (String.ofList name)).toList

lemma localPart_of_notMem {name : String} (h : ':' ∉ name.toList) : localPart name = name := by
  rw [localPart, cutLast_eq_none.2 h]

lemma notMem_localPart (name : String) : ':' ∉ (localPart name).toList := by
  rw [localPart]
  split
  · rename_i a b h
    rw [String.toList_ofList]
    exact (eq_of_cutLast h).2
  · rename_i h
    exact cutLast_eq_none.1 h

lemma localPart_localPart (name : String) : localPart (localPart name) = localPart name :=
  localPart_of_notMem (notMem_localPart name)

/-- A rule compares names by what it sees of them. -/
lemma ignores_view (rule : TagRule) : rule.Ignores rule.view := by
  intro qualified wanted
  cases rule with
  | exact => rw [TagRule.view, String.ofList_toList]
  | localName =>
    rw [TagRule.matches, TagRule.view, String.ofList_toList, String.ofList_toList,
      localPart_localPart, TagRule.matches]
  | ignoreCase =>
    have hcolon : ':' ∉ lower (localPart qualified).toList := by
      rw [mem_iff_of_lower_eq (lower_lower _) rfl]
      exact notMem_localPart qualified
    rw [TagRule.matches, TagRule.view, String.ofList_toList, localPart_of_notMem,
      String.toList_ofList, TagRule.matches, sameLetters, sameLetters, lower_lower]
    rwa [String.toList_ofList]

end Xml

variable {f : List Char → List Char} {rule : TagRule} {d d' : String}

namespace Soap

lemma trimmed_text_comp_rename (f : List Char → List Char) :
    (fun e => trimmed e.text) ∘ Element.rename f = fun e => trimmed e.text := by
  funext e
  rw [Function.comp_apply, Element.text_rename]

/-! ## Faults -/

/-- A fault is looked for in the same place, and has the same texts, under other names. -/
lemma Fault.ofLayout?_rename (hf : rule.Ignores f) (root : Element) (layout : FaultLayout) :
    Fault.ofLayout? rule (root.rename f) layout = Fault.ofLayout? rule root layout := by
  cases layout with
  | standard =>
    simp only [Fault.ofLayout?, Element.find?_rename hf]
    cases Element.find? "UPnPError" rule root with
    | none => rfl
    | some error =>
      simp only [Option.map_some, Option.bind_eq_bind, Option.bind_some,
        Element.childText?_rename hf, Element.childTextD_rename hf]
  | bareCode =>
    simp only [Fault.ofLayout?, Element.find?_rename hf]
    cases Element.find? "errorCode" rule root with
    | none => rfl
    | some code =>
      simp only [Option.map_some, Option.bind_eq_bind, Option.bind_some, Element.text_rename,
        ← Option.map_or, Option.map_map, trimmed_text_comp_rename]
  | inText =>
    simp only [Fault.ofLayout?, Element.find?_rename hf]
    cases Element.find? "faultstring" rule root with
    | none => rfl
    | some text =>
      simp only [Option.map_some, Option.bind_eq_bind, Option.bind_some, Element.text_rename]

lemma Fault.parse?_congr {profile : Profile} (hf : profile.tagRule.Ignores f)
    (h : (Xml.parse d).map (Element.rename f) = (Xml.parse d').map (Element.rename f)) :
    Fault.parse? profile d = Fault.parse? profile d' := by
  rw [Fault.parse?, Fault.parse?]
  rcases cases_of_map_eq h with ⟨cause, hd, hd'⟩ | ⟨root, root', hd, hd', hroot⟩
  · rw [hd, hd']
  · have hlayout : Fault.ofLayout? profile.tagRule root =
        Fault.ofLayout? profile.tagRule root' := by
      funext layout
      rw [← Fault.ofLayout?_rename hf, hroot, Fault.ofLayout?_rename hf]
    rw [hd, hd']
    dsimp only
    rw [hlayout]

/-! ## Successes -/

lemma bodyElement?_rename (hf : rule.Ignores f) (root : Element) (wanted : String) :
    bodyElement? (root.rename f) wanted rule =
      (bodyElement? root wanted rule).map (Element.rename f) := by
  rw [bodyElement?, bodyElement?, Element.child?_rename hf, Element.find?_rename hf,
    ← Option.map_or]
  cases (root.child? "Body" rule).or (Element.find? "Body" rule root) with
  | none => rfl
  | some body =>
    simp only [Option.map_some, Option.bind_eq_bind, Option.bind_some, Element.child?_rename hf,
      Element.children_rename, List.head?_map, ← Option.map_or]

/-- What is received in an answer with the given root element. -/
def received (rule : TagRule) (wanted : String) (root : Element) : List (String × String) :=
  match bodyElement? root wanted rule with
  | none => []
  | some e => e.children.map fun c => (c.localName, trimmed c.text)

lemma ofEnvelope_of_parse_error {cause : ReadError} (h : Xml.parse d = .error cause)
    (action : Action) :
    Response.ofEnvelope rule action d =
      ⟨action.name, action.outputs.map (Response.slot rule [])⟩ := by
  rw [Response.ofEnvelope, readArguments, h]
  rfl

lemma ofEnvelope_of_parse {root : Element} (h : Xml.parse d = .ok root) (action : Action) :
    Response.ofEnvelope rule action d =
      ⟨action.name, action.outputs.map
        (Response.slot rule (received rule (action.name ++ "Response") root))⟩ := by
  rw [Response.ofEnvelope, readArguments, h, received]
  simp only [Except.mapError, bind, Except.bind]
  cases bodyElement? root (action.name ++ "Response") rule with
  | none => rfl
  | some e => rfl

/-- A rule that does not notice a change of names does not notice it behind the last colon. -/
lemma matches_localName_rename (hf : rule.Ignores f) (e : Element) (wanted : String) :
    rule.matches (e.rename f).localName wanted = rule.matches e.localName wanted := by
  cases rule with
  | exact =>
    have hname : String.ofList (f e.name.toList) = e.name := by
      simpa [TagRule.matches] using hf e.name e.name
    rw [Element.localName, Element.name_rename, hname, Element.localName]
  | localName =>
    have h := hf e.name wanted
    rw [TagRule.matches, TagRule.matches] at h
    rw [TagRule.matches, TagRule.matches, Element.localName, Element.localName,
      Element.name_rename, localPart_localPart, localPart_localPart, h]
  | ignoreCase =>
    have h := hf e.name wanted
    rw [TagRule.matches, TagRule.matches] at h
    rw [TagRule.matches, TagRule.matches, Element.localName, Element.localName,
      Element.name_rename, localPart_localPart, localPart_localPart, h]

/-- The slot of an output gets the same value under other names. -/
lemma slot_received_rename (hf : rule.Ignores f) (root : Element) (wanted : String)
    (output : Argument) :
    Response.slot rule (received rule wanted (root.rename f)) output =
      Response.slot rule (received rule wanted root) output := by
  rw [received, received, bodyElement?_rename hf]
  cases bodyElement? root wanted rule with
  | none => rfl
  | some e =>
    have hsame : ∀ c : Element,
        ((fun p : String × String => rule.matches p.1 output.name) ∘
          (fun c => (c.localName, trimmed c.text)) ∘ Element.rename f) c =
        ((fun p : String × String => rule.matches p.1 output.name) ∘
          fun c => (c.localName, trimmed c.text)) c :=
      fun c => matches_localName_rename hf c output.name
    simp only [Option.map_some, Element.children_rename, List.map_map, Response.slot,
      List.find?_map, funext hsame, Option.map_map]
    congr 2
    funext c
    simp only [Function.comp_apply, Element.text_rename]

lemma ofEnvelope_congr (hf : rule.Ignores f)
    (h : (Xml.parse d).map (Element.rename f) = (Xml.parse d').map (Element.rename f))
    (action : Action) :
    Response.ofEnvelope rule action d = Response.ofEnvelope rule action d' := by
  rcases cases_of_map_eq h with ⟨cause, hd, hd'⟩ | ⟨root, root', hd, hd', hroot⟩
  · rw [ofEnvelope_of_parse_error hd, ofEnvelope_of_parse_error hd']
  · have hslot : Response.slot rule (received rule (action.name ++ "Response") root) =
        Response.slot rule (received rule (action.name ++ "Response") root') := by
      funext output
      rw [← slot_received_rename hf, hroot, slot_received_rename hf]
    rw [ofEnvelope_of_parse hd, ofEnvelope_of_parse hd', hslot]

/-! ## Answers -/

/-- Two documents that differ only in the names of tags: they are cut into the same pieces, up to
what the rule sees of these names. -/
structure SameButNames (rule : TagRule) (d d' : String) : Prop where
  events_eq : (events d).1.map (Event.rename rule.view) = (events d').1.map (Event.rename rule.view)
  complete_eq : (events d).2 = (events d').2

/-- What is read in answers that differ only in names between which the rule of a profile sees no
difference is the same, be they faults or successes. -/
theorem answers_of_sameButNames {profile : Profile} (h : SameButNames profile.tagRule d d') :
    Fault.parse? profile d = Fault.parse? profile d' ∧
      ∀ action, Response.ofEnvelope profile.tagRule action d =
        Response.ofEnvelope profile.tagRule action d' := by
  have hf := ignores_view profile.tagRule
  have htree := parse_rename profile.tagRule.view h.events_eq h.complete_eq
  exact ⟨Fault.parse?_congr hf htree, ofEnvelope_congr hf htree⟩

/-- An answer to an action with one output. -/
def plainAnswer : String := "<e><Body><r><Port>80</Port></r></Body></e>"

/-- The same answer with namespaces and with letters in other cases. -/
def shoutedAnswer : String := "<s:E><s:t:BODY><R><PORT>80</u:pOrt></r></body></e>"

/-- Under a profile that ignores the case of letters the output is found in both answers. -/
theorem answers_shoutedAnswer :
    SameButNames Profile.huawei.tagRule plainAnswer shoutedAnswer ∧
      Fault.parse? .huawei plainAnswer = Fault.parse? .huawei shoutedAnswer ∧
      Response.ofEnvelope .ignoreCase ⟨"Get", [], [⟨"Port", "", .string⟩]⟩ plainAnswer =
        Response.ofEnvelope .ignoreCase ⟨"Get", [], [⟨"Port", "", .string⟩]⟩ shoutedAnswer ∧
      (Response.ofEnvelope .ignoreCase ⟨"Get", [], [⟨"Port", "", .string⟩]⟩ shoutedAnswer).values =
        [("Port", some "80")] := by
  have h : SameButNames Profile.huawei.tagRule plainAnswer shoutedAnswer :=
    ⟨by decide +kernel, by decide +kernel⟩
  obtain ⟨hfault, hanswer⟩ := answers_of_sameButNames h
  exact ⟨h, hfault, hanswer _, by decide +kernel⟩

end Soap

end UpnpGateway
