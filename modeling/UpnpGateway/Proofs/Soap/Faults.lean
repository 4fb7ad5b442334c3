/-
# Faults in the standard place

A gateway that keeps to the standard puts the code of a fault and its description into an element of
their own in the detail of the fault.  There they are found by every profile, whatever else the
profile looks for and whatever numbers stand in the other texts of the fault.
-/
import Mathlib.Data.Fintype.Basic
import UpnpGateway.Proofs.Text.Numeral
import UpnpGateway.Proofs.Xml.Entries
import UpnpGateway.Soap.Fault

namespace UpnpGateway.Soap

open UpnpGateway.Text UpnpGateway.Xml

/-! ## Faults as they are written -/

/-- The words in a fault. -/
inductive FaultWord where
  | envelope | body | fault | faultcode | faultstring | detail | upnpError | errorCode
  | errorDescription
deriving DecidableEq

instance : Fintype FaultWord where
  elems := {.envelope, .body, .fault, .faultcode, .faultstring, .detail, .upnpError, .errorCode,
    .errorDescription}
  complete k := by cases k <;> decide

/-- The words in a fault as they are spelled. -/
def FaultWord.spelling : FaultWord → String
  | envelope => "Envelope"
  | body => "Body"
  | fault => "Fault"
  | faultcode => "faultcode"
  | faultstring => "faultstring"
  | detail => "detail"
  | upnpError => "UPnPError"
  | errorCode => "errorCode"
  | errorDescription => "errorDescription"

/-- The names of the elements of a fault. -/
def faultVocabulary : Vocabulary FaultWord where
  spelling := FaultWord.spelling

/-- The envelope of a fault with the given texts and the given detail. -/
def faultEnvelope (faultcode faultstring : String) (detail : List (Entry FaultWord)) :
    Entry FaultWord :=
  .record .envelope [.record .body [.record .fault [
    .ofText .faultcode faultcode, .ofText .faultstring faultstring, .record .detail detail]]]

/-- The element that the standard prescribes for the code and the description. -/
def standardError (f : Fault) : Entry FaultWord :=
  .record .upnpError [.ofText .errorCode (String.ofList (decimal f.code.toNat)),
    .ofText .errorDescription f.description]

/-- The envelope of a fault that keeps to the standard. -/
def standardFault (faultcode faultstring : String) (f : Fault) : Entry FaultWord :=
  faultEnvelope faultcode faultstring [standardError f]

/-! ## Reading -/

namespace Fault

/-- What a fault means is told by its code, in whatever place it is found. -/
lemma kind_eq_of_ofLayout? {rule : TagRule} {root : Element} {layout : FaultLayout} {f : Fault}
    (h : ofLayout? rule root layout = some f) : f.kind = .ofCode f.code := by
  cases layout with
  | standard | bareCode | inText =>
    simp only [ofLayout?, Option.bind_eq_bind, Option.bind_eq_some_iff, Option.pure_def,
      Option.some.injEq] at h
    obtain ⟨-, -, -, -, -, -, rfl⟩ := h
    rfl

/-- Every fault that is read from an answer means what its code says. -/
theorem kind_eq_of_parse? {profile : Profile} {body : String} {f : Fault}
    (h : parse? profile body = some f) : f.kind = .ofCode f.code := by
  rw [parse?] at h
  split at h
  · cases h
  · obtain ⟨layout, -, hlayout⟩ := List.exists_of_findSome?_eq_some h
    exact kind_eq_of_ofLayout? hlayout

variable (L : Layout faultVocabulary) (faultcode faultstring : String) (f : Fault)

/-- A fault in the standard place is found there. -/
lemma ofLayout?_standard {rule : TagRule} (hrule : rule ≠ .exact) :
    ofLayout? rule (L.element (standardFault faultcode faultstring f)) .standard =
      some (.new f.code (trimmed f.description)) := by
  -- the error is found at some depth, and the two texts are right in it
  have herror : Element.find? "UPnPError" rule
      (L.element (standardFault faultcode faultstring f)) = some (L.element (standardError f)) :=
    L.find?_element hrule .upnpError _
  have hcode : (L.element (standardError f)).childText? "errorCode" rule =
      some (String.ofList (decimal f.code.toNat)) := by
    rw [← trimmed_decimal]
    exact L.childText?_of_find? hrule (j := .errorCode) rfl
  have hdescription : (L.element (standardError f)).childTextD "errorDescription" rule =
      trimmed f.description :=
    L.childTextD_of_find? hrule (j := .errorDescription) rfl
  simp only [ofLayout?, herror, hcode, hdescription, Option.bind_eq_bind, Option.bind_some,
    String.toList_ofList, readPort?_decimal, Option.pure_def]

/-- A fault that keeps to the standard is read by every profile as it was sent, but for the blanks
at the ends of the description. -/
theorem parse?_standardFault {profile : Profile}
    (hprofile : profile = .standard ∨ profile ∈ vendorRegistry.map VendorRow.profile)
    (L : Layout faultVocabulary) (faultcode faultstring : String) (code : UInt16)
    (description : String) :
    ∃ f, parse? profile (L.write (standardFault faultcode faultstring (.new code description))) =
        some f ∧
      f.code = code ∧ f.description = trimmed description ∧ f.kind = .ofCode code := by
  refine ⟨.new code (trimmed description), ?_, rfl, rfl, rfl⟩
  rw [parse?, L.parse_write]
  dsimp only
  rw [List.findSome?_cons,
    ofLayout?_standard L faultcode faultstring _ (Profile.tagRule_ne_exact hprofile)]
  rfl

end Fault

/-! ### A fault among other numbers -/

/-- A layout with a number between the tags, one namespace for the envelope and another one for
the error and its code. -/
def crowdedLayout : Layout faultVocabulary where
  prolog := none
  space
    | .envelope | .body | .fault => some ['s']
    | .upnpError | .errorCode => some ['u']
    | _ => none
  attributes k := if k = .upnpError then [("xmlns:u".toList, "urn:c".toList)] else []
  gap := .ofText "606".toList

/-- A fault with numbers in all of its texts. -/
def crowdedFault : String :=
  "<s:Envelope>606<s:Body>606<s:Fault>606<faultcode>501</faultcode>606" ++
  "<faultstring>UPnPError 402</faultstring>606<detail>606<u:UPnPError xmlns:u=\"urn:c\">606" ++
  "<u:errorCode>718</u:errorCode>606<errorDescription> &lt;713&gt; </errorDescription>606" ++
  "</u:UPnPError>606</detail>606</s:Fault>606</s:Body>606</s:Envelope>606"

/-- A profile that looks for codes elsewhere, too, finds the one in the standard place. -/
theorem Fault.parse?_crowdedFault :
    Profile.netgear ∈ vendorRegistry.map VendorRow.profile ∧
      Fault.parse? .netgear crowdedFault = some (.new 718 "<713>") := by
  have hprofile : Profile.netgear ∈ vendorRegistry.map VendorRow.profile := by decide
  have hwritten : crowdedLayout.write (standardFault "501" "UPnPError 402" (.new 718 " <713> ")) =
      crowdedFault := by
    decide +kernel
  obtain ⟨⟨code, description, kind⟩, hf, rfl, hdescription, rfl⟩ :=
    Fault.parse?_standardFault (.inr hprofile) crowdedLayout "501" "UPnPError 402" 718 " <713> "
  have htrimmed : trimmed " <713> " = "<713>" := by decide +kernel
  dsimp only at hdescription
  rw [hwritten, hdescription, htrimmed] at hf
  exact ⟨hprofile, hf⟩

end UpnpGateway.Soap
