/-
# Reading devices

A device is read together with the devices in it.  The readers carry the membership of these
along, so that they end; their equations do without.  From the equations it follows that the
tolerant reader does not notice a change of names that its rule of comparison does not notice.
-/
import Mathlib.Data.List.Basic
import UpnpGateway.Device.Description
import UpnpGateway.Proofs.Xml.Renaming

namespace UpnpGateway.Description

open UpnpGateway.Text UpnpGateway.Xml

/-! ## Equations -/

/-- The device of a record is read field by field. -/
lemma deviceOfRecord?_eq (n : Node) :
    deviceOfRecord? n = (do
      let content ← n.record? ["deviceType", "friendlyName", "manufacturer", "modelName", "UDN",
        "serviceList", "deviceList"]
      let items ← Node.listField? content "deviceList" "device" false
      let deviceType ← fieldText? content "deviceType" true
      let friendlyName ← fieldText? content "friendlyName" false
      let manufacturer ← fieldText? content "manufacturer" false
      let modelName ← fieldText? content "modelName" false
      let udn ← fieldText? content "UDN" false
      let services ← Node.listField? content "serviceList" "service" false
      let services ← services.mapM serviceOfRecord?
      let devices ← items.mapM deviceOfRecord?
      return ⟨udn, deviceType, friendlyName, manufacturer, modelName, services, devices⟩) := by
  rw [deviceOfRecord?]
  split
  · rename_i h
    rw [h]
    rfl
  · rename_i content h
    split
    · rename_i h'
      simp [h, h']
    · rename_i items h'
      simp [h, h']

/-- The devices in the device list of an element. -/
def devicesOfElement? (rule : TagRule) (e : Element) : Option (List Device) :=
  match e.child? "deviceList" rule with
  | none => some []
  | some list => (list.childrenNamed "device" rule).mapM (deviceOfElement? rule)

/-- The device of an element is read field by field. -/
lemma deviceOfElement?_eq (rule : TagRule) (e : Element) :
    deviceOfElement? rule e = (do
      let deviceType ← e.childText? "deviceType" rule
      let devices ← devicesOfElement? rule e
      return ⟨e.childTextD "UDN" rule, deviceType, e.childTextD "friendlyName" rule,
        e.childTextD "manufacturer" rule, e.childTextD "modelName" rule,
        servicesOfElement rule e, devices⟩) := by
  rw [deviceOfElement?, devicesOfElement?]
  split
  · rename_i h
    rw [h]
    rfl
  · rename_i deviceType h
    rw [h]
    split
    · rename_i h'
      simp [h']
    · rename_i list h'
      simp [h']

/-- The description in a document with the given root element. -/
def ofRoot (rule : TagRule) (root : Element) : Except DescriptionError Description :=
  match root.child? "device" rule with
  | none => .error .noDevice
  | some e =>
    match deviceOfElement? rule e with
    | none => .error .noDeviceType
    | some device => .ok ⟨(root.childText? "URLBase" rule).bind nonBlank?, device⟩

lemma ofTree_eq (rule : TagRule) (document : String) :
    ofTree rule document = ((Xml.parse document).mapError .unreadable).bind (ofRoot rule) := by
  rw [ofTree]
  cases Xml.parse document with
  | error cause => rfl
  | ok root =>
    simp only [Except.mapError, bind, Except.bind, ofRoot]
    cases root.child? "device" rule with
    | none => rfl
    | some e =>
      dsimp only
      cases deviceOfElement? rule e with
      | none => rfl
      | some device => rfl

/-! ## Other names -/

lemma mapM_congr {α β : Type} {g k : α → Option β} {l : List α} (heq : ∀ a ∈ l, g a = k a) :
    l.mapM g = l.mapM k := by
  induction l with
  | nil => rfl
  | cons a l ih =>
    rw [List.mapM_cons, List.mapM_cons, heq a List.mem_cons_self,
      ih fun b hb => heq b (List.mem_cons_of_mem a hb)]

section Renaming

variable {f : List Char → List Char} {rule : TagRule} (hf : rule.Ignores f)
include hf

lemma serviceOfElement_rename (e : Element) :
    serviceOfElement rule (e.rename f) = serviceOfElement rule e := by
  simp only [serviceOfElement, Element.childTextD_rename hf]

lemma servicesOfElement_rename (e : Element) :
    servicesOfElement rule (e.rename f) = servicesOfElement rule e := by
  rw [servicesOfElement, servicesOfElement, Element.child?_rename hf]
  cases e.child? "serviceList" rule with
  | none => rfl
  | some list =>
    simp only [Option.map_some, Element.childrenNamed_rename hf, List.map_map]
    exact List.map_congr_left fun s _ => serviceOfElement_rename hf s

lemma deviceOfElement?_rename (e : Element) :
    deviceOfElement? rule (e.rename f) = deviceOfElement? rule e := by
  -- the devices in the device list are smaller than the device
  induction hsize : sizeOf e using Nat.strongRecOn generalizing e with
  | _ size ih =>
    have hdevices : devicesOfElement? rule (e.rename f) = devicesOfElement? rule e := by
      rw [devicesOfElement?, devicesOfElement?, Element.child?_rename hf]
      cases hlist : e.child? "deviceList" rule with
      | none => rfl
      | some list =>
        simp only [Option.map_some, Element.childrenNamed_rename hf, List.mapM_map]
        refine mapM_congr fun d hd => ih _ ?_ d rfl
        rw [← hsize]
        exact sizeOf_lt_of_mem_list hlist hd
    rw [deviceOfElement?_eq, deviceOfElement?_eq, hdevices, servicesOfElement_rename hf,
      Element.childText?_rename hf]
    simp only [Element.childTextD_rename hf]

lemma ofRoot_rename (root : Element) : ofRoot rule (root.rename f) = ofRoot rule root := by
  rw [ofRoot, ofRoot, Element.child?_rename hf, Element.childText?_rename hf]
  cases root.child? "device" rule with
  | none => rfl
  | some e => simp only [Option.map_some, deviceOfElement?_rename hf]

/-- Documents whose trees differ in names that the rule does not tell apart say the same. -/
lemma ofTree_congr {d d' : String}
    (h : (Xml.parse d).map (Element.rename f) = (Xml.parse d').map (Element.rename f)) :
    ofTree rule d = ofTree rule d' := by
  rw [ofTree_eq, ofTree_eq]
  rcases cases_of_map_eq h with ⟨cause, hd, hd'⟩ | ⟨root, root', hd, hd', hroot⟩
  · rw [hd, hd']
  · have hof := ofRoot_rename hf root
    rw [hroot, ofRoot_rename hf root'] at hof
    rw [hd, hd']
    exact hof.symm

end Renaming

end UpnpGateway.Description
