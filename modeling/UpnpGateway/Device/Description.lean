/-
# Device descriptions

The root document of a gateway holds the tree of its devices.  It is read strictly first, as
records with fields of fixed names; a document that is not well formed, lacks a field or has
one twice is read again as a plain tree, with the names compared by the rule that suits the
vendor.
-/
import UpnpGateway.Device.Basic
import UpnpGateway.Xml.Document
import UpnpGateway.Xml.WellFormed

namespace UpnpGateway

open UpnpGateway.Text UpnpGateway.Xml

/-- What a root document says: the base of its URLs, if it names one, and its root device. -/
structure Description where
  /-- The base of the URLs in the document. -/
  urlBase : Option String
  /-- The root device. -/
  device : Device
deriving Repr, BEq

/-- Why a root document says nothing. -/
inductive DescriptionError where
  /-- It has no tree. -/
  | unreadable (cause : ReadError)
  /-- Its root element has no device in it. -/
  | noDevice
  /-- A device in it does not say what kind of device it is. -/
  | noDeviceType
deriving DecidableEq, Repr

/-- The text that is shown for a root document that says nothing. -/
def DescriptionError.message : DescriptionError → String
  | .unreadable cause => cause.message
  | .noDevice => "no <device> element"
  | .noDeviceType => "device without <deviceType>"

/-- The text without the blanks at its ends, unless that leaves nothing. -/
def nonBlank? (s : String) : Option String :=
  let s := trimmed s
  if s.isEmpty then none else some s

namespace Description

/-! ## Strictly, as records -/

/-- The text of a field, without the blanks at its ends. -/
def fieldText? (content : List Node) (key : String) (required : Bool) : Option String :=
  (Node.textField? content key required).map fun s => String.ofList (trim s)

/-- The service of a record; every field may be left out. -/
def serviceOfRecord? (n : Node) : Option Service := do
  let content ← n.record? ["serviceType", "serviceId", "controlURL", "eventSubURL", "SCPDURL"]
  return {
    serviceType := ← fieldText? content "serviceType" false
    serviceId := ← fieldText? content "serviceId" false
    controlUrl := ← fieldText? content "controlURL" false
    eventSubUrl := ← fieldText? content "eventSubURL" false
    scpdUrl := ← fieldText? content "SCPDURL" false
    table := ⟨[], []⟩ }

/-- The device of a record; only the device type is required. -/
def deviceOfRecord? (n : Node) : Option Device :=
  match h : n.record? ["deviceType", "friendlyName", "manufacturer", "modelName", "UDN",
      "serviceList", "deviceList"] with
  | none => none
  | some content =>
    match h' : Node.listField? content "deviceList" "device" false with
    | none => none
    | some items => do
      let deviceType ← fieldText? content "deviceType" true
      let friendlyName ← fieldText? content "friendlyName" false
      let manufacturer ← fieldText? content "manufacturer" false
      let modelName ← fieldText? content "modelName" false
      let udn ← fieldText? content "UDN" false
      let services ← Node.listField? content "serviceList" "service" false
      let services ← services.mapM serviceOfRecord?
      let devices ← items.attach.mapM fun ⟨m, hm⟩ =>
        have : sizeOf m < sizeOf n := by
          obtain ⟨tag, rfl⟩ := Node.record?_eq_some h
          have := Node.sizeOf_lt_of_listField? h' hm
          simp only [Node.element.sizeOf_spec]
          omega
        deviceOfRecord? m
      return ⟨udn, deviceType, friendlyName, manufacturer, modelName, services, devices⟩
termination_by sizeOf n

/-- The description in a document that is read strictly. -/
def ofRecords? (document : String) : Option Description := do
  let root ← Node.parse? document
  let content ← root.record? ["URLBase", "device"]
  let urlBase ← Node.textField? content "URLBase" false
  let device ← (← Node.field? content "device").bind deviceOfRecord?
  return ⟨nonBlank? (String.ofList urlBase), device⟩

/-! ## Tolerantly, as a tree -/

/-- The service of an element. -/
def serviceOfElement (rule : TagRule) (e : Element) : Service where
  serviceType := e.childTextD "serviceType" rule
  serviceId := e.childTextD "serviceId" rule
  controlUrl := e.childTextD "controlURL" rule
  eventSubUrl := e.childTextD "eventSubURL" rule
  scpdUrl := e.childTextD "SCPDURL" rule
  table := ⟨[], []⟩

/-- The services in the service list of an element. -/
def servicesOfElement (rule : TagRule) (e : Element) : List Service :=
  match e.child? "serviceList" rule with
  | some list => (list.childrenNamed "service" rule).map (serviceOfElement rule)
  | none => []

theorem sizeOf_lt_of_mem_list {e list d : Element} {rule : TagRule} {name key : String}
    (h : e.child? key rule = some list) (hd : d ∈ list.childrenNamed name rule) :
    sizeOf d < sizeOf e := by
  have h1 := List.sizeOf_lt_of_mem (List.mem_of_find?_eq_some h)
  have h2 := List.sizeOf_lt_of_mem (List.mem_filter.1 hd).1
  cases e
  cases list
  simp only [Element.mk.sizeOf_spec] at *
  omega

/-- The device of an element; only the device type is required. -/
def deviceOfElement? (rule : TagRule) (e : Element) : Option Device :=
  match e.childText? "deviceType" rule with
  | none => none
  | some deviceType => do
    let devices ←
      match h : e.child? "deviceList" rule with
      | none => some []
      | some list =>
        (list.childrenNamed "device" rule).attach.mapM fun ⟨d, hd⟩ =>
          have := sizeOf_lt_of_mem_list h hd
          deviceOfElement? rule d
    return ⟨e.childTextD "UDN" rule, deviceType, e.childTextD "friendlyName" rule,
      e.childTextD "manufacturer" rule, e.childTextD "modelName" rule,
      servicesOfElement rule e, devices⟩
termination_by sizeOf e

/-- The description in a document that is read as a tree. -/
def ofTree (rule : TagRule) (document : String) : Except DescriptionError Description := do
  let root ← (Xml.parse document).mapError .unreadable
  match root.child? "device" rule with
  | none => throw .noDevice
  | some e =>
    match deviceOfElement? rule e with
    | none => throw .noDeviceType
    | some device => return ⟨(root.childText? "URLBase" rule).bind nonBlank?, device⟩

/-! ## Together -/

/-- The description in a document: strictly if that succeeds, and otherwise as a tree with
the names compared by `rule`. -/
def parse (rule : TagRule) (document : String) : Except DescriptionError Description :=
  match ofRecords? document with
  | some description => .ok description
  | none => ofTree rule document

end Description

end UpnpGateway
