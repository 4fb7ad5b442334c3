/-
# Vendors

Gateways of some vendors deviate from the standard, each in a handful of ways.  A profile
says how the gateways of one family want to be talked to and how their answers are read.
The profile of a gateway is found by what it says about itself; a gateway that no row of the
registry recognizes gets the standard profile.
-/
import UpnpGateway.Xml.Tag

namespace UpnpGateway

open UpnpGateway.Text UpnpGateway.Xml

/-- What a gateway says about itself. -/
structure Signature where
  /-- The server that it names when it is discovered. -/
  server : String
  /-- The manufacturer of its root device. -/
  manufacturer : String
  /-- The model of its root device. -/
  model : String
  /-- What kind of device its root device is. -/
  deviceType : String
deriving DecidableEq, Repr, Inhabited

/-- The signature of a gateway of which only the server is known. -/
def Signature.ofServer (server : String) : Signature := ⟨server, "", "", ""⟩

/-- How the names of headers are written in requests. -/
inductive HeaderStyle where
  /-- In lower case. -/
  | lower
  /-- As they are spelled in the standard, for gateways that compare them letter by letter. -/
  | verbatim
deriving DecidableEq, Repr

/-- A place where a fault has its code. -/
inductive FaultLayout where
  /-- In the detail that the standard prescribes. -/
  | standard
  /-- In an element of its own, without the element that should be around it. -/
  | bareCode
  /-- In the text of the fault, as in `UPnPError 714`. -/
  | inText
deriving DecidableEq, Repr

/-- How the gateways of one family are talked to. -/
structure Profile where
  /-- The name of the family. -/
  name : String
  /-- How the names of headers are written. -/
  headerStyle : HeaderStyle
  /-- How the names of tags are compared. -/
  tagRule : TagRule
  /-- Where faults have their code, besides the standard place. -/
  faultLayouts : List FaultLayout
  /-- The codes, besides the standard ones, that say that there is no further mapping. -/
  endCodes : List UInt16
deriving DecidableEq, Repr

namespace Profile

/-- The codes by which every gateway says that there is no further mapping. -/
def standardEndCodes : List UInt16 := [714, 713]

/-- Whether a fault with the given code says that there is no further mapping. -/
def isEndOfList (p : Profile) (code : UInt16) : Bool :=
  standardEndCodes.contains code || p.endCodes.contains code

/-- The profile of a gateway that keeps to the standard. -/
def standard : Profile := ⟨"default", .lower, .localName, [], []⟩

/-- Gateways by Huawei. -/
def huawei : Profile := ⟨"huawei", .lower, .ignoreCase, [.bareCode], [402]⟩

/-- Gateways with the server of Broadcom. -/
def broadcom : Profile := ⟨"broadcom", .lower, .localName, [.inText], [501]⟩

/-- Gateways by AVM. -/
def avm : Profile := ⟨"avm", .verbatim, .localName, [], []⟩

/-- Gateways with the server of ZyXEL. -/
def zyxel : Profile := ⟨"zyxel", .verbatim, .ignoreCase, [.inText], []⟩

/-- Gateways by TP-LINK. -/
def tpLink : Profile := ⟨"tp-link", .lower, .localName, [.bareCode], [402, 501]⟩

/-- Gateways by NETGEAR. -/
def netgear : Profile := ⟨"netgear", .lower, .ignoreCase, [.bareCode, .inText], [501]⟩

end Profile

/-- The part of a signature that a clue is looked for in. -/
inductive Trait where
  | server | manufacturer | deviceType
deriving DecidableEq, Repr

/-- The text of a part of a signature. -/
def Signature.trait (s : Signature) : Trait → String
  | .server => s.server
  | .manufacturer => s.manufacturer
  | .deviceType => s.deviceType

/-- A row of the registry: words of which each has to occur in its part of the signature,
whatever the case of its letters, and the profile of the gateways that they occur in. -/
structure VendorRow where
  /-- The words. -/
  clues : List (Trait × String)
  /-- The profile. -/
  profile : Profile
deriving DecidableEq, Repr

/-- Whether a row recognizes a gateway; a row without clues recognizes none. -/
def VendorRow.recognizes (row : VendorRow) (s : Signature) : Bool :=
  !row.clues.isEmpty && row.clues.all fun clue =>
    hasLetters clue.2.toList (s.trait clue.1).toList

/-- The rows by which gateways are recognized. -/
def vendorRegistry : List VendorRow := [
  ⟨[(.manufacturer, "Huawei")], .huawei⟩,
  ⟨[(.server, "Huawei")], .huawei⟩,
  ⟨[(.server, "BRCM")], .broadcom⟩,
  ⟨[(.manufacturer, "AVM")], .avm⟩,
  ⟨[(.server, "ZyXEL")], .zyxel⟩,
  ⟨[(.manufacturer, "TP-LINK")], .tpLink⟩,
  ⟨[(.manufacturer, "NETGEAR")], .netgear⟩]

/-- The profile of a gateway: that of the first row that recognizes it. -/
def Profile.ofSignature (s : Signature) : Profile :=
  ((vendorRegistry.find? fun row => row.recognizes s).map VendorRow.profile).getD .standard

/-- A profile is found in the registry unless it is the standard one. -/
theorem Profile.ofSignature_mem (s : Signature) :
    Profile.ofSignature s = .standard ∨
      Profile.ofSignature s ∈ vendorRegistry.map VendorRow.profile := by
  unfold Profile.ofSignature
  cases h : vendorRegistry.find? fun row => row.recognizes s with
  | none => exact .inl rfl
  | some row => exact .inr (List.mem_map_of_mem (List.mem_of_find?_eq_some h))

/-- No profile compares names with their namespaces. -/
theorem Profile.tagRule_ne_exact {p : Profile}
    (hp : p = .standard ∨ p ∈ vendorRegistry.map VendorRow.profile) : p.tagRule ≠ .exact := by
  rcases hp with rfl | hp
  · decide
  · have hall : (vendorRegistry.map VendorRow.profile).all (fun p => p.tagRule != .exact) =
        true := by
      decide
    simpa using List.all_eq_true.1 hall p hp

end UpnpGateway
