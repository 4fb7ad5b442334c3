/-
# Root documents are read as they are written

A root document is written from a tree of devices in any layout, and the lists of a device that
have no items may be left out.  Both readers find in it the tree that was written, at every depth
with all services and devices in their order.  The strict reader may refuse a document for what the
layout puts between its tags, but what it accepts, the tolerant reader reads to the same end.
-/
import Mathlib.Data.Fintype.Basic
import UpnpGateway.Proofs.Device.Agreement
import UpnpGateway.Proofs.Device.Retrieval
import UpnpGateway.Proofs.Xml.Entries

namespace UpnpGateway

open UpnpGateway.Text UpnpGateway.Xml

/-! ## The texts of a device -/

/-- The texts of a service. -/
def Service.texts (s : Service) : List String :=
  [s.serviceType, s.serviceId, s.controlUrl, s.eventSubUrl, s.scpdUrl]

namespace Device

mutual

/-- The texts of a device and of all services and devices in it. -/
def texts : Device → List String
  | ⟨udn, deviceType, friendlyName, manufacturer, modelName, services, devices⟩ =>
    [udn, deviceType, friendlyName, manufacturer, modelName] ++ services.flatMap Service.texts ++
      textsOfAll devices

/-- The texts of some devices, one after the other. -/
def textsOfAll : List Device → List String
  | [] => []
  | d :: ds => texts d ++ textsOfAll ds

end

lemma texts_eq (d : Device) :
    d.texts = [d.udn, d.deviceType, d.friendlyName, d.manufacturer, d.modelName] ++
      d.services.flatMap Service.texts ++ textsOfAll d.devices := by
  cases d
  rw [texts]

end Device

namespace Description

/-! ## Root documents as they are written -/

/-- The words in a root document. -/
inductive Word where
  | root | urlBase | device | deviceType | friendlyName | manufacturer | modelName | udn
  | serviceList | service | serviceType | serviceId | controlUrl | eventSubUrl | scpdUrl
  | deviceList
deriving DecidableEq

instance : Fintype Word where
  elems := {.root, .urlBase, .device, .deviceType, .friendlyName, .manufacturer, .modelName, .udn,
    .serviceList, .service, .serviceType, .serviceId, .controlUrl, .eventSubUrl, .scpdUrl,
    .deviceList}
  complete k := by cases k <;> decide

/-- The words in a root document as they are spelled. -/
def Word.spelling : Word → String
  | root => "root"
  | urlBase => "URLBase"
  | device => "device"
  | deviceType => "deviceType"
  | friendlyName => "friendlyName"
  | manufacturer => "manufacturer"
  | modelName => "modelName"
  | udn => "UDN"
  | serviceList => "serviceList"
  | service => "service"
  | serviceType => "serviceType"
  | serviceId => "serviceId"
  | controlUrl => "controlURL"
  | eventSubUrl => "eventSubURL"
  | scpdUrl => "SCPDURL"
  | deviceList => "deviceList"

/-- The names of the elements of a root document. -/
def vocabulary : Vocabulary Word where
  spelling := Word.spelling

/-- The element that is written for a service. -/
def serviceEntry (s : Service) : Entry Word :=
  .record .service [.ofText .serviceType s.serviceType, .ofText .serviceId s.serviceId,
    .ofText .controlUrl s.controlUrl, .ofText .eventSubUrl s.eventSubUrl,
    .ofText .scpdUrl s.scpdUrl]

section Writing

variable (keep : List ℕ → Word → Bool)

mutual

/-- The element that is written for a device at a place in the tree; `keep` says which of the
lists without items are written. -/
def deviceEntry (place : List ℕ) : Device → Entry Word
  | ⟨udn, deviceType, friendlyName, manufacturer, modelName, services, devices⟩ =>
    .record .device (
      [.ofText .deviceType deviceType, .ofText .friendlyName friendlyName,
        .ofText .manufacturer manufacturer, .ofText .modelName modelName, .ofText .udn udn] ++
      Entry.ofItems (keep place .serviceList) .serviceList (services.map serviceEntry) ++
      Entry.ofItems (keep place .deviceList) .deviceList (deviceEntries place devices))

/-- The elements that are written for the devices in a device list.  The place of a device is told
by how many devices follow it. -/
def deviceEntries (place : List ℕ) : List Device → List (Entry Word)
  | [] => []
  | d :: ds => deviceEntry (ds.length :: place) d :: deviceEntries place ds

end

lemma entries_deviceEntry (place : List ℕ) (d : Device) :
    (deviceEntry keep place d).entries =
      [.ofText .deviceType d.deviceType, .ofText .friendlyName d.friendlyName,
        .ofText .manufacturer d.manufacturer, .ofText .modelName d.modelName,
        .ofText .udn d.udn] ++
      Entry.ofItems (keep place .serviceList) .serviceList (d.services.map serviceEntry) ++
      Entry.ofItems (keep place .deviceList) .deviceList (deviceEntries keep place d.devices) := by
  cases d
  rw [deviceEntry, Entry.entries]

lemma find?_serviceList (place : List ℕ) (d : Device) :
    ((deviceEntry keep place d).entries.find? fun g => g.key = .serviceList) =
      (Entry.ofItems (keep place .serviceList) .serviceList
        (d.services.map serviceEntry)).head? := by
  simp [entries_deviceEntry, Entry.find?_ofItems]

lemma find?_deviceList (place : List ℕ) (d : Device) :
    ((deviceEntry keep place d).entries.find? fun g => g.key = .deviceList) =
      (Entry.ofItems (keep place .deviceList) .deviceList
        (deviceEntries keep place d.devices)).head? := by
  simp [entries_deviceEntry, Entry.find?_ofItems]

/-- The root element that is written for a description. -/
def rootEntry (r : Description) : Entry Word :=
  .record .root ((r.urlBase.map (Entry.ofText .urlBase)).toList ++ [deviceEntry keep [] r.device])

end Writing

/-! ## Reading -/

lemma servicesOfElement_eq (rule : TagRule) (e : Element) :
    servicesOfElement rule e = (e.child? "serviceList" rule).elim [] fun list =>
      (list.childrenNamed "service" rule).map (serviceOfElement rule) := by
  rw [servicesOfElement]
  cases e.child? "serviceList" rule <;> rfl

lemma devicesOfElement?_eq (rule : TagRule) (e : Element) :
    devicesOfElement? rule e = (e.child? "deviceList" rule).elim (some []) fun list =>
      (list.childrenNamed "device" rule).mapM (deviceOfElement? rule) := by
  rw [devicesOfElement?]
  cases e.child? "deviceList" rule <;> rfl

section Reading

variable (L : Layout vocabulary) {rule : TagRule} (keep : List ℕ → Word → Bool)

/-- A service is read as it was written. -/
lemma serviceOfElement_serviceEntry (hrule : rule ≠ .exact) {s : Service}
    (htexts : ∀ t ∈ s.texts, trimmed t = t) (htable : s.table = ⟨[], []⟩) :
    serviceOfElement rule (L.element (serviceEntry s)) = s := by
  simp only [Service.texts, List.forall_mem_cons] at htexts
  obtain ⟨h1, h2, h3, h4, h5, -⟩ := htexts
  calc serviceOfElement rule (L.element (serviceEntry s))
      = ⟨(L.element (serviceEntry s)).childTextD (vocabulary.spelling .serviceType) rule,
          (L.element (serviceEntry s)).childTextD (vocabulary.spelling .serviceId) rule,
          (L.element (serviceEntry s)).childTextD (vocabulary.spelling .controlUrl) rule,
          (L.element (serviceEntry s)).childTextD (vocabulary.spelling .eventSubUrl) rule,
          (L.element (serviceEntry s)).childTextD (vocabulary.spelling .scpdUrl) rule,
          ⟨[], []⟩⟩ := rfl
    _ = s := by
      rw [L.childTextD_of_trimmed hrule h1 rfl, L.childTextD_of_trimmed hrule h2 rfl,
        L.childTextD_of_trimmed hrule h3 rfl, L.childTextD_of_trimmed hrule h4 rfl,
        L.childTextD_of_trimmed hrule h5 rfl, ← htable]

/-- The services of a device are read as they were written. -/
lemma servicesOfElement_deviceEntry (hrule : rule ≠ .exact) (place : List ℕ) {d : Device}
    (htexts : ∀ t ∈ d.services.flatMap Service.texts, trimmed t = t)
    (htable : ∀ s ∈ d.services, s.table = ⟨[], []⟩) :
    servicesOfElement rule (L.element (deviceEntry keep place d)) = d.services := by
  have hread : ∀ s ∈ d.services, serviceOfElement rule (L.element (serviceEntry s)) = s :=
    fun s hs => serviceOfElement_serviceEntry L hrule
      (fun t ht => htexts t (List.mem_flatMap.2 ⟨s, hs, ht⟩)) (htable s hs)
  rw [servicesOfElement_eq]
  exact L.map_items_element hrule (find?_serviceList keep place d) (fun _ => rfl) hread

lemma key_deviceEntry (place : List ℕ) (d : Device) :
    (deviceEntry keep place d).key = .device := by
  cases d
  rw [deviceEntry, Entry.key]

/-- What is written in a device list is written for devices. -/
lemma exists_of_mem_deviceEntries {keep : List ℕ → Word → Bool} {place : List ℕ}
    {ds : List Device} {f : Entry Word} (hf : f ∈ deviceEntries keep place ds) :
    ∃ place' d, f = deviceEntry keep place' d := by
  induction ds with
  | nil => simp [deviceEntries] at hf
  | cons d ds ih =>
    rw [deviceEntries, List.mem_cons] at hf
    rcases hf with rfl | hf
    · exact ⟨_, d, rfl⟩
    · exact ih hf

lemma key_of_mem_deviceEntries {keep : List ℕ → Word → Bool} {place : List ℕ} {ds : List Device}
    {f : Entry Word} (hf : f ∈ deviceEntries keep place ds) : f.key = .device := by
  obtain ⟨place', d, rfl⟩ := exists_of_mem_deviceEntries hf
  exact key_deviceEntry keep place' d

/-- A device is read as it was written if the devices in it are. -/
lemma deviceOfElement?_of_devices (hrule : rule ≠ .exact) (place : List ℕ) {d : Device}
    (htexts : ∀ t ∈ d.texts, trimmed t = t) (htable : ∀ s ∈ d.services, s.table = ⟨[], []⟩)
    (hdevices : ((deviceEntries keep place d.devices).map L.element).mapM
      (deviceOfElement? rule) = some d.devices) :
    deviceOfElement? rule (L.element (deviceEntry keep place d)) = some d := by
  rw [Device.texts_eq, List.forall_mem_append, List.forall_mem_append] at htexts
  obtain ⟨⟨hown, hservices⟩, -⟩ := htexts
  simp only [List.forall_mem_cons] at hown
  obtain ⟨h1, h2, h3, h4, h5, -⟩ := hown
  have hreadServices := servicesOfElement_deviceEntry L keep hrule place hservices htable
  have hlist := find?_deviceList keep place d
  have hentries := entries_deviceEntry keep place d
  generalize deviceEntry keep place d = f at hreadServices hlist hentries ⊢
  have hreadDevices : devicesOfElement? rule (L.element f) = some d.devices := by
    rw [devicesOfElement?_eq, ← hdevices]
    exact L.elim_child?_element hrule (List.mapM (deviceOfElement? rule)) hlist
      fun g hg => key_of_mem_deviceEntries hg
  have hudn : (L.element f).childTextD "UDN" rule = d.udn :=
    L.childTextD_of_trimmed hrule (j := .udn) h1 (by rw [hentries]; rfl)
  have htype : (L.element f).childText? "deviceType" rule = some (trimmed d.deviceType) :=
    L.childText?_of_find? hrule (j := .deviceType) (by rw [hentries]; rfl)
  have hname : (L.element f).childTextD "friendlyName" rule = d.friendlyName :=
    L.childTextD_of_trimmed hrule (j := .friendlyName) h3 (by rw [hentries]; rfl)
  have hmaker : (L.element f).childTextD "manufacturer" rule = d.manufacturer :=
    L.childTextD_of_trimmed hrule (j := .manufacturer) h4 (by rw [hentries]; rfl)
  have hmodel : (L.element f).childTextD "modelName" rule = d.modelName :=
    L.childTextD_of_trimmed hrule (j := .modelName) h5 (by rw [hentries]; rfl)
  rw [deviceOfElement?_eq, htype, hreadDevices, hname, hmaker, hmodel, hudn, hreadServices, h2]
  cases d
  rfl

mutual

/-- A device is read as it was written, with all devices in it. -/
lemma deviceOfElement?_deviceEntry (hrule : rule ≠ .exact) (place : List ℕ) : ∀ d : Device,
    (∀ t ∈ d.texts, trimmed t = t) → IsBare d →
      deviceOfElement? rule (L.element (deviceEntry keep place d)) = some d
  | ⟨udn, deviceType, friendlyName, manufacturer, modelName, services, devices⟩, htexts, hbare => by
    rw [IsBare, Device.allServices, List.forall_mem_append] at hbare
    refine deviceOfElement?_of_devices L keep hrule place htexts hbare.1 ?_
    rw [Device.texts, List.forall_mem_append] at htexts
    exact mapM_deviceEntries hrule place devices htexts.2 hbare.2

lemma mapM_deviceEntries (hrule : rule ≠ .exact) (place : List ℕ) : ∀ ds : List Device,
    (∀ t ∈ Device.textsOfAll ds, trimmed t = t) →
      (∀ s ∈ Device.servicesOfAll ds, s.table = ⟨[], []⟩) →
      ((deviceEntries keep place ds).map L.element).mapM (deviceOfElement? rule) = some ds
  | [], _, _ => rfl
  | d :: ds, htexts, hbare => by
    rw [Device.textsOfAll, List.forall_mem_append] at htexts
    rw [Device.servicesOfAll, List.forall_mem_append] at hbare
    rw [deviceEntries, List.map_cons, List.mapM_cons,
      deviceOfElement?_deviceEntry hrule _ d htexts.1 hbare.1,
      mapM_deviceEntries hrule place ds htexts.2 hbare.2]
    rfl

end

/-- The base of the URLs, if there is one, is not empty and has no blanks at its ends, no text of a
device has blanks at its ends, and no service has a table yet. -/
structure IsSettled (r : Description) : Prop where
  trimmed_urlBase : ∀ url ∈ r.urlBase, trimmed url = url
  urlBase_ne : ∀ url ∈ r.urlBase, url ≠ ""
  trimmed_text : ∀ t ∈ r.device.texts, trimmed t = t
  isBare : IsBare r.device

lemma urlBase_rootEntry (hrule : rule ≠ .exact) {r : Description} (hr : r.IsSettled) :
    ((L.element (rootEntry keep r)).childText? "URLBase" rule).bind nonBlank? = r.urlBase := by
  cases hbase : r.urlBase with
  | none =>
    have hnone : (L.element (rootEntry keep r)).child? "URLBase" rule = none := by
      refine (L.child?_element hrule _ .urlBase).trans ?_
      simp [rootEntry, hbase, Entry.entries, key_deviceEntry]
    rw [Element.childText?, hnone]
    rfl
  | some url =>
    have hsome : (L.element (rootEntry keep r)).childText? "URLBase" rule = some (trimmed url) :=
      L.childText?_of_find? hrule (j := .urlBase) (by rw [rootEntry, hbase]; rfl)
    have hne : url.isEmpty = false := by
      simpa using hr.urlBase_ne url hbase
    rw [hsome, hr.trimmed_urlBase url hbase, Option.bind_some, nonBlank?,
      hr.trimmed_urlBase url hbase, hne]
    rfl

/-- A root element is read as it was written. -/
lemma ofRoot_rootEntry (hrule : rule ≠ .exact) {r : Description} (hr : r.IsSettled) :
    ofRoot rule (L.element (rootEntry keep r)) = .ok r := by
  have hdevice : (L.element (rootEntry keep r)).child? "device" rule =
      some (L.element (deviceEntry keep [] r.device)) := by
    refine (L.child?_element hrule _ .device).trans ?_
    cases hbase : r.urlBase <;> simp [rootEntry, hbase, Entry.entries, key_deviceEntry]
  rw [ofRoot, hdevice]
  dsimp only
  rw [deviceOfElement?_deviceEntry L keep hrule [] r.device hr.trimmed_text hr.isBare,
    urlBase_rootEntry L keep hrule hr]

end Reading

/-! ## Both readers -/

lemma not_stringPath_nil : ¬ StringPath [] := by
  rintro ⟨⟩

/-- The strict reader reads nothing else in a plain document than what its root element says. -/
lemma eq_of_ofRecords? {document : String} {e : Element} {r r' : Description}
    (hplain : Plain document) (hparse : Xml.parse document = .ok e)
    (hroot : ofRoot .localName e = .ok r) (h : ofRecords? document = some r') : r' = r := by
  simp only [ofRecords?, Option.bind_eq_bind, Option.bind_eq_some_iff, Option.pure_def,
    Option.some.injEq] at h
  obtain ⟨root, hnode, content, hc, urlBase, hurl, field, hfield, device, ⟨n, rfl, hn⟩, rfl⟩ := h
  obtain ⟨e', he', hm⟩ := mirrors_of_parse? hplain.admitted hnode
  obtain rfl : e' = e := Except.ok.inj (he'.symm.trans hparse)
  obtain ⟨tag, rfl⟩ := Node.record?_eq_some hc
  obtain ⟨-, -, -, hall⟩ := hm
  have hrel := hall.child? hfield
  generalize hchild : e'.child? "device" .localName = c at hrel
  cases hrel with
  | some hnc =>
    have hdevice := deviceOfElement?_of_mirrors (.root tag.key) (hasKey_of_field? hfield) hnc hn
    rw [ofRoot, hchild] at hroot
    simp only [hdevice, urlBase_of_textField? hall (.urlBase tag.key) hurl] at hroot
    exact Except.ok.inj hroot

/-- A root document is read as it was written, in any layout and at any depth. -/
theorem parse_rootEntry {rule : TagRule} (hrule : rule ≠ .exact) (L : Layout vocabulary)
    (keep : List ℕ → Word → Bool) {r : Description} (hr : r.IsSettled) :
    parse rule (L.write (rootEntry keep r)) = .ok r := by
  have hroot : ∀ {rule}, rule ≠ .exact → ofRoot rule (L.element (rootEntry keep r)) = .ok r :=
    fun hrule => ofRoot_rootEntry L keep hrule hr
  have hplain : Plain (L.write (rootEntry keep r)) :=
    ⟨L.admitted_write L.oneColon_name not_stringPath_nil _⟩
  -- the strict reader may refuse the document, but it cannot read anything else in it
  rw [parse]
  split
  · rename_i r' hr'
    rw [eq_of_ofRecords? hplain (L.parse_write _) (hroot (by decide)) hr']
  · rw [ofTree_eq, L.parse_write]
    exact hroot hrule

/-! ### A gateway in its own namespace -/

/-- A gateway with one service and one device in it, with markup in its texts. -/
def prefixedGateway : Description where
  urlBase := some "http://gw/?a&b"
  device := ⟨"uuid:1", "urn:<gw>", "", "\"Ä & B\"", "m  1",
    [⟨"urn:s", "id", "/c", "", "s.xml", ⟨[], []⟩⟩],
    [⟨"uuid:2", "t", "", "", "", [], []⟩]⟩

/-- A layout with a namespace for all elements. -/
def prefixedLayout : Layout vocabulary where
  prolog := some (.instruction "xml version='1.0'".toList)
  space _ := some ['n']
  attributes k := if k = .root then [("xmlns:n".toList, "urn:d>".toList)] else []
  gap := .ofText ['\n']

/-- The root document of the gateway, with an empty device list but without an empty service
list. -/
def prefixedDocument : String :=
  prefixedLayout.write (rootEntry (fun _ k => k = .deviceList) prefixedGateway)

/-- The gateway is read as it was written. -/
theorem parse_prefixedDocument :
    prefixedGateway.IsSettled ∧ parse .ignoreCase prefixedDocument = .ok prefixedGateway := by
  have hr : prefixedGateway.IsSettled := by
    refine ⟨by decide +kernel, by decide, by decide +kernel, ?_⟩
    rw [IsBare]
    decide
  exact ⟨hr, parse_rootEntry (by decide) prefixedLayout _ hr⟩

end Description

end UpnpGateway
