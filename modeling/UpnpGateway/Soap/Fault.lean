/-
# Faults

A gateway that refuses an action answers with a fault, which has a code and a description.
The standard says where they are; the gateways of some vendors put them elsewhere, and their
profiles list where to look after the standard place.
-/
import UpnpGateway.Vendor
import UpnpGateway.Xml.Document

namespace UpnpGateway.Soap

open UpnpGateway.Text UpnpGateway.Xml

/-- What the code of a fault means. -/
inductive FaultKind where
  | invalidAction | invalidArgs | actionFailed | argumentValueInvalid | argumentValueOutOfRange
  | optionalActionNotImplemented | outOfMemory | humanInterventionRequired
  | stringArgumentTooLong | actionNotAuthorized | specifiedArrayIndexInvalid
  | noSuchEntryInArray | wildCardNotPermittedInSrcIp | wildCardNotPermittedInExtPort
  | conflictInMappingEntry | samePortValuesRequired | onlyPermanentLeasesSupported
  | remoteHostOnlySupportsWildcard | externalPortOnlySupportsWildcard | noPortMapsAvailable
  | conflictWithOtherMechanisms | wildCardNotPermittedInIntPort | unknownVendorError
deriving DecidableEq, Repr

namespace FaultKind

/-- The codes that have a meaning. -/
def table : List (UInt16 × FaultKind) := [
  (401, invalidAction), (402, invalidArgs), (501, actionFailed), (600, argumentValueInvalid),
  (601, argumentValueOutOfRange), (602, optionalActionNotImplemented), (603, outOfMemory),
  (604, humanInterventionRequired), (605, stringArgumentTooLong), (606, actionNotAuthorized),
  (713, specifiedArrayIndexInvalid), (714, noSuchEntryInArray),
  (715, wildCardNotPermittedInSrcIp), (716, wildCardNotPermittedInExtPort),
  (718, conflictInMappingEntry), (724, samePortValuesRequired),
  (725, onlyPermanentLeasesSupported), (726, remoteHostOnlySupportsWildcard),
  (727, externalPortOnlySupportsWildcard), (728, noPortMapsAvailable),
  (729, conflictWithOtherMechanisms), (732, wildCardNotPermittedInIntPort)]

/-- The meaning of a code; a code that has none is the vendor's own. -/
def ofCode (code : UInt16) : FaultKind := (table.lookup code).getD unknownVendorError

/-- The name of a meaning. -/
def name : FaultKind → String
  | invalidAction => "InvalidAction"
  | invalidArgs => "InvalidArgs"
  | actionFailed => "ActionFailed"
  | argumentValueInvalid => "ArgumentValueInvalid"
  | argumentValueOutOfRange => "ArgumentValueOutOfRange"
  | optionalActionNotImplemented => "OptionalActionNotImplemented"
  | outOfMemory => "OutOfMemory"
  | humanInterventionRequired => "HumanInterventionRequired"
  | stringArgumentTooLong => "StringArgumentTooLong"
  | actionNotAuthorized => "ActionNotAuthorized"
  | specifiedArrayIndexInvalid => "SpecifiedArrayIndexInvalid"
  | noSuchEntryInArray => "NoSuchEntryInArray"
  | wildCardNotPermittedInSrcIp => "WildCardNotPermittedInSrcIP"
  | wildCardNotPermittedInExtPort => "WildCardNotPermittedInExtPort"
  | conflictInMappingEntry => "ConflictInMappingEntry"
  | samePortValuesRequired => "SamePortValuesRequired"
  | onlyPermanentLeasesSupported => "OnlyPermanentLeasesSupported"
  | remoteHostOnlySupportsWildcard => "RemoteHostOnlySupportsWildcard"
  | externalPortOnlySupportsWildcard => "ExternalPortOnlySupportsWildcard"
  | noPortMapsAvailable => "NoPortMapsAvailable"
  | conflictWithOtherMechanisms => "ConflictWithOtherMechanisms"
  | wildCardNotPermittedInIntPort => "WildCardNotPermittedInIntPort"
  | unknownVendorError => "UnknownVendorError"

end FaultKind

/-- A refusal by the gateway. -/
structure Fault where
  /-- The code. -/
  code : UInt16
  /-- The description that the gateway gives. -/
  description : String
  /-- What the code means. -/
  kind : FaultKind
deriving DecidableEq, Repr

namespace Fault

/-- The fault with a code and a description; the code says what it means. -/
def new (code : UInt16) (description : String) : Fault := ⟨code, description, .ofCode code⟩

/-- The text that is shown for a fault. -/
def text (f : Fault) : String :=
  "UPnP error " ++ String.ofList (decimal f.code.toNat) ++ " (" ++ f.kind.name ++ "): " ++
    f.description

/-- The code in a free text: the first row of at least three digits, if it is a number of
sixteen bits. -/
def embeddedCode? (s : List Char) : Option UInt16 :=
  ((splitWhere (fun c => !c.isDigit) s).find? fun run => 3 ≤ run.length).bind readPort?

/-- The fault in a tree, looked for in one place. -/
def ofLayout? (rule : TagRule) (root : Element) : FaultLayout → Option Fault
  | .standard => do
    let error ← Element.find? "UPnPError" rule root
    let code ← readPort? (← error.childText? "errorCode" rule).toList
    return .new code (error.childTextD "errorDescription" rule)
  | .bareCode => do
    let code ← readPort? (trim (← Element.find? "errorCode" rule root).text.toList)
    let description :=
      (Element.find? "errorDescription" rule root).or (Element.find? "faultstring" rule root)
    return .new code ((description.map fun e => trimmed e.text).getD "")
  | .inText => do
    let description := trimmed (← Element.find? "faultstring" rule root).text
    return .new (← embeddedCode? description.toList) description

/-- The fault in the body of an answer: in the standard place, or else in the first of the
places that the profile lists. -/
def parse? (profile : Profile) (body : String) : Option Fault :=
  match Xml.parse body with
  | .error _ => none
  | .ok root => (.standard :: profile.faultLayouts).findSome? (ofLayout? profile.tagRule root)

end Fault

end UpnpGateway.Soap
