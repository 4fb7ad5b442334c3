/-
# The two readers of root documents agree

A root document that the strict reader accepts is read by the tolerant one to the same end.
The strict reader knows a field by the part of its name behind the first colon, the tolerant
one by the part behind the last colon; the strict reader joins the text around comments and
character data sections before it drops the blanks at the ends, the tolerant one does not.
Where a document gives no occasion for these two differences, every field that the one finds
is found by the other, at any depth of the tree of devices.
-/
import UpnpGateway.Proofs.Device.Reading
import UpnpGateway.Proofs.Text.Blank
import UpnpGateway.Proofs.Xml.Agreement

namespace UpnpGateway.Description

open UpnpGateway.Text UpnpGateway.Xml

/-- The paths of the elements that are read as devices. -/
inductive DevicePath : List String → Prop where
  /-- The root device. -/
  | root (r : String) : DevicePath ["device", r]
  /-- A device in the device list of a device. -/
  | nested {path : List String} (outer : DevicePath path) :
    DevicePath ("device" :: "deviceList" :: path)

/-- The paths of the elements that are read as strings. -/
inductive StringPath : List String → Prop where
  /-- The base of the URLs. -/
  | urlBase (r : String) : StringPath ["URLBase", r]
  /-- The fields of a device. -/
  | device {path : List String} {key : String} (device : DevicePath path)
    (key_mem : key ∈ ["deviceType", "friendlyName", "manufacturer", "modelName", "UDN"]) :
    StringPath (key :: path)
  /-- The fields of a service. -/
  | service {path : List String} {key : String} (device : DevicePath path)
    (key_mem : key ∈ ["serviceType", "serviceId", "controlURL", "eventSubURL", "SCPDURL"]) :
    StringPath (key :: "service" :: "serviceList" :: path)

/-- A root document in which, up to the end of the root element, no name has more than one
colon and no element that is read as a string has a comment, a processing instruction or a
character data section in it. -/
structure Plain (document : String) : Prop where
  admitted : Admitted OneColon StringPath [] (events document).1

/-! ## Fields -/

variable {path : List String} {content : List Node} {e : Element}

lemma childTextD_of_fieldText? {key text : String} {required : Bool}
    (h : MirrorsAll OneColon StringPath path content e.children) (hq : StringPath (key :: path))
    (ht : fieldText? content key required = some text) : e.childTextD key .localName = text := by
  obtain ⟨s, hs, rfl⟩ := Option.map_eq_some_iff.1 ht
  rw [h.childTextD hq hs, trimmed, String.toList_ofList]

lemma childText?_of_fieldText? {key text : String}
    (h : MirrorsAll OneColon StringPath path content e.children) (hq : StringPath (key :: path))
    (ht : fieldText? content key true = some text) :
    e.childText? key .localName = some text := by
  obtain ⟨s, hs, rfl⟩ := Option.map_eq_some_iff.1 ht
  rcases h.childText? hq hs with ⟨-, hfalse, -⟩ | hsome
  · simp at hfalse
  · rw [hsome, trimmed, String.toList_ofList]

/-- Readers that agree on mirror images agree on lists of them. -/
lemma mapM_of_forall₂ {α β γ : Type} {R : α → β → Prop} {f : α → Option γ} {g : β → Option γ}
    {as : List α} {bs : List β} {cs : List γ} (h : List.Forall₂ R as bs)
    (hfg : ∀ a ∈ as, ∀ b c, R a b → f a = some c → g b = some c)
    (hf : as.mapM f = some cs) : bs.mapM g = some cs := by
  induction h generalizing cs with
  | nil => exact hf
  | @cons a b as bs hab _ ih =>
    simp only [List.mapM_cons, Option.bind_eq_bind, Option.bind_eq_some_iff, Option.pure_def,
      Option.some.injEq] at hf ⊢
    obtain ⟨c, hc, cs, hcs, rfl⟩ := hf
    exact ⟨c, hfg a List.mem_cons_self b c hab hc, cs,
      ih (fun a' ha' => hfg a' (List.mem_cons_of_mem a ha')) hcs, rfl⟩

/-! ## Services and devices -/

lemma serviceOfElement_of_mirrors {n : Node} {s : Service} (hpath : DevicePath path)
    (hkey : n.hasKey "service" = true)
    (h : Mirrors OneColon StringPath ("serviceList" :: path) n e)
    (hs : serviceOfRecord? n = some s) : serviceOfElement .localName e = s := by
  obtain ⟨-, -, -, hall⟩ := h
  rw [Node.hasKey_element, beq_iff_eq] at hkey
  rw [hkey] at hall
  simp only [serviceOfRecord?, Option.bind_eq_bind, Option.bind_eq_some_iff, Option.pure_def,
    Option.some.injEq] at hs
  obtain ⟨content, hc, serviceType, h1, serviceId, h2, controlUrl, h3, eventSubUrl, h4, scpdUrl,
    h5, rfl⟩ := hs
  obtain ⟨tag, htag⟩ := Node.record?_eq_some hc
  cases htag
  rw [serviceOfElement,
    childTextD_of_fieldText? hall (.service hpath (by simp)) h1,
    childTextD_of_fieldText? hall (.service hpath (by simp)) h2,
    childTextD_of_fieldText? hall (.service hpath (by simp)) h3,
    childTextD_of_fieldText? hall (.service hpath (by simp)) h4,
    childTextD_of_fieldText? hall (.service hpath (by simp)) h5]

lemma servicesOfElement_of_mirrors {items : List Node} {services : List Service}
    (hpath : DevicePath path) (h : MirrorsAll OneColon StringPath path content e.children)
    (hitems : Node.listField? content "serviceList" "service" false = some items)
    (hs : items.mapM serviceOfRecord? = some services) :
    servicesOfElement .localName e = services := by
  rw [servicesOfElement]
  rcases h.listField? hitems with ⟨hnone, -, rfl⟩ | ⟨list, hlist, hall⟩
  · rw [hnone]
    simpa [eq_comm] using hs
  · rw [hlist]
    have hmap := mapM_of_forall₂ (g := fun c => some (serviceOfElement .localName c)) hall
      (fun n _ c s hnc hn => congrArg some (serviceOfElement_of_mirrors hpath hnc.1 hnc.2 hn)) hs
    exact Option.some.inj ((List.mapM_pure (m := Option)).symm.trans hmap)

/-- The device of a record is the device of the element that mirrors it. -/
lemma deviceOfElement?_of_mirrors {n : Node} {d : Device} (hpath : DevicePath ("device" :: path))
    (hkey : n.hasKey "device" = true) (h : Mirrors OneColon StringPath path n e)
    (hd : deviceOfRecord? n = some d) : deviceOfElement? .localName e = some d := by
  -- the devices in the device list are smaller than the device
  induction hsize : sizeOf n using Nat.strongRecOn generalizing n e d path with
  | _ size ih =>
    obtain ⟨-, -, -, hall⟩ := h
    rw [Node.hasKey_element, beq_iff_eq] at hkey
    rw [hkey] at hall
    simp only [deviceOfRecord?_eq, Option.bind_eq_bind, Option.bind_eq_some_iff, Option.pure_def,
      Option.some.injEq] at hd
    obtain ⟨content, hc, items, hitems, deviceType, h1, friendlyName, h2, manufacturer, h3,
      modelName, h4, udn, h5, serviceItems, h6, services, h7, devices, h8, rfl⟩ := hd
    obtain ⟨tag, htag⟩ := Node.record?_eq_some hc
    cases htag
    have hdevices : devicesOfElement? .localName e = some devices := by
      rw [devicesOfElement?]
      rcases hall.listField? hitems with ⟨hnone, -, rfl⟩ | ⟨list, hlist, hmirrors⟩
      · rw [hnone]
        simpa [eq_comm] using h8
      · rw [hlist]
        refine mapM_of_forall₂ hmirrors (fun m hm c d hmc hmd => ?_) h8
        have hlt : sizeOf m < size := by
          have := Node.sizeOf_lt_of_listField? hitems hm
          rw [← hsize, Node.element.sizeOf_spec]
          omega
        exact ih _ hlt (.nested hpath) hmc.1 hmc.2 hmd rfl
    rw [deviceOfElement?_eq, childText?_of_fieldText? hall (.device hpath (by simp)) h1,
      childTextD_of_fieldText? hall (.device hpath (by simp)) h2,
      childTextD_of_fieldText? hall (.device hpath (by simp)) h3,
      childTextD_of_fieldText? hall (.device hpath (by simp)) h4,
      childTextD_of_fieldText? hall (.device hpath (by simp)) h5,
      servicesOfElement_of_mirrors hpath hall h6 h7, hdevices]
    rfl

/-! ## Documents -/

/-- The base of the URLs is the text of its element. -/
lemma urlBase_of_textField? {s : List Char}
    (h : MirrorsAll OneColon StringPath path content e.children)
    (hq : StringPath ("URLBase" :: path))
    (hs : Node.textField? content "URLBase" false = some s) :
    (e.childText? "URLBase" .localName).bind nonBlank? = nonBlank? (String.ofList s) := by
  rcases h.childText? hq hs with ⟨hnone, -, rfl⟩ | hsome
  · rw [hnone]
    rfl
  · rw [hsome, Option.bind_some, nonBlank?, trimmed_trimmed]
    rfl

/-- What the strict reader reads in a plain document, the tolerant one reads in it, too. -/
theorem ofTree_of_ofRecords? {document : String} {r : Description} (hplain : Plain document)
    (h : ofRecords? document = some r) : ofTree .localName document = .ok r := by
  simp only [ofRecords?, Option.bind_eq_bind, Option.bind_eq_some_iff, Option.pure_def,
    Option.some.injEq] at h
  obtain ⟨root, hroot, content, hc, urlBase, hurl, field, hfield, device,
    ⟨n, rfl, hdevice⟩, rfl⟩ := h
  obtain ⟨e, he, hm⟩ := mirrors_of_parse? hplain.admitted hroot
  obtain ⟨tag, rfl⟩ := Node.record?_eq_some hc
  obtain ⟨-, -, -, hall⟩ := hm
  have hrel := hall.child? hfield
  generalize hchild : e.child? "device" .localName = c at hrel
  cases hrel with
  | @some _ c hnc =>
    have hd := deviceOfElement?_of_mirrors (.root tag.key) (hasKey_of_field? hfield) hnc hdevice
    have hu := urlBase_of_textField? hall (.urlBase tag.key) hurl
    rw [ofTree, he]
    simp only [Except.mapError, bind, Except.bind, hchild, hd, hu]
    rfl

/-- A root document with a device in its root device, and with a comment where no string is
read. -/
def nestedDocument : String :=
  "<r><device><!-- --><deviceType>a&amp;b</deviceType><u:deviceList><device><deviceType/>" ++
  "</device></u:deviceList></device></r>"

lemma two_le_length_of_devicePath (h : DevicePath path) : 2 ≤ path.length := by
  cases h <;> simp

lemma plain_nestedDocument : Plain nestedDocument := by
  constructor
  have hes : (events nestedDocument).1 = [.opening ⟨"r".toList, []⟩,
      .opening ⟨"device".toList, []⟩, .remark, .opening ⟨"deviceType".toList, []⟩,
      .text "a&amp;b".toList, .closing "deviceType".toList, .opening ⟨"u:deviceList".toList, []⟩,
      .opening ⟨"device".toList, []⟩, .empty ⟨"deviceType".toList, []⟩, .closing "device".toList,
      .closing "u:deviceList".toList, .closing "device".toList, .closing "r".toList] := by
    decide +kernel
  have hno : ∀ r, ¬ StringPath ["device", r] := by
    intro r h
    generalize hp : ["device", r] = path at h
    cases h with
    | urlBase r => simp at hp
    | device hd _ =>
      rw [← (List.cons.inj hp).2] at hd
      simpa using two_le_length_of_devicePath hd
    | service _ _ => simp at hp
  have hkey : Tag.key ⟨"device".toList, []⟩ = "device" := by decide
  rw [hes]
  simp only [Admitted, hkey]
  simp [OneColon, hno]

/-- The two readers on a document. -/
theorem ofTree_nestedDocument : Plain nestedDocument ∧ ∃ r, ofRecords? nestedDocument = some r ∧
    ofTree .localName nestedDocument = .ok r := by
  have hsome : (ofRecords? nestedDocument).isSome = true := by decide +kernel
  obtain ⟨r, hr⟩ := Option.isSome_iff_exists.1 hsome
  exact ⟨plain_nestedDocument, r, hr, ofTree_of_ofRecords? plain_nestedDocument hr⟩

end UpnpGateway.Description
