/-
# Root documents with a broken text

A gateway may forget to escape one of its texts.  The strict reader then refuses the whole
document, and all of it is read again as a plain tree.  This file shows that nothing else comes of
it: a run of characters that is put in the place of one text, anywhere in the tree of devices, is
read there and changes nothing at any other place.  A text with a broken entity is read as it is
written, without the blanks at its ends.
-/
import UpnpGateway.Proofs.Device.DescriptionRoundTrip
import UpnpGateway.Proofs.Device.Spots
import UpnpGateway.Proofs.Xml.Changes

namespace UpnpGateway

open UpnpGateway.Text UpnpGateway.Xml

/-! ## Writing -/

open Description in
/-- The word that a text of a device is named with. -/
def DeviceText.word : DeviceText → Word
  | .deviceType => .deviceType
  | .friendlyName => .friendlyName
  | .manufacturer => .manufacturer
  | .modelName => .modelName
  | .udn => .udn

lemma DeviceText.word_inj {text text' : DeviceText} : text.word = text'.word ↔ text = text' := by
  cases text <;> cases text' <;> decide

open Description in
/-- The word that a text of a service is named with. -/
def ServiceText.word : ServiceText → Word
  | .serviceType => .serviceType
  | .serviceId => .serviceId
  | .controlUrl => .controlUrl
  | .eventSubUrl => .eventSubUrl
  | .scpdUrl => .scpdUrl

open Description in
/-- Puts a run of characters in the place of a text of a device that is written. -/
def Spot.write (run : Run) : Spot → Entry Word → Entry Word
  | .own text => Entry.putText text.word run
  | .service i text => Entry.changeItem .serviceList i (Entry.putText text.word run)
  | .device i spot => Entry.changeItem .deviceList i (spot.write run)

namespace Description

lemma key_write (run : Run) (spot : Spot) (f : Entry Word) : (spot.write run f).key = f.key := by
  cases spot <;> rfl

/-- The root element that is written for a description with a run of characters in the place of
one text. -/
def rootEntryWith (keep : List ℕ → Word → Bool) (spot : Spot) (run : Run) (r : Description) :
    Entry Word :=
  .record .root ((r.urlBase.map (Entry.ofText .urlBase)).toList ++
    [spot.write run (deviceEntry keep [] r.device)])

/-! ## Reading -/

section Reading

variable (L : Layout vocabulary) {rule : TagRule} (keep : List ℕ → Word → Bool) (run : Run)

lemma serviceOfElement_putText (hrule : rule ≠ .exact) (text : ServiceText) {f : Entry Word}
    (hmem : (f.entries.find? fun g => g.key = text.word).isSome = true) :
    serviceOfElement rule (L.element (f.putText text.word run)) =
      (serviceOfElement rule (L.element f)).put text run.text := by
  have hread (j : Word) :
      (L.element (f.putText text.word run)).childTextD (vocabulary.spelling j) rule =
        if j = text.word then run.text
        else (L.element f).childTextD (vocabulary.spelling j) rule :=
    L.childTextD_putText hrule hmem
  calc serviceOfElement rule (L.element (f.putText text.word run))
      = ⟨(L.element (f.putText text.word run)).childTextD (vocabulary.spelling .serviceType) rule,
          (L.element (f.putText text.word run)).childTextD (vocabulary.spelling .serviceId) rule,
          (L.element (f.putText text.word run)).childTextD (vocabulary.spelling .controlUrl) rule,
          (L.element (f.putText text.word run)).childTextD (vocabulary.spelling .eventSubUrl) rule,
          (L.element (f.putText text.word run)).childTextD (vocabulary.spelling .scpdUrl) rule,
          ⟨[], []⟩⟩ := rfl
    _ = (serviceOfElement rule (L.element f)).put text run.text := by
      rw [hread, hread, hread, hread, hread]
      cases text <;> rfl

/-- The parts of a device that is read in an element. -/
structure Reads (rule : TagRule) (e : Element) (d : Device) : Prop where
  isSome_deviceType : (e.childText? (vocabulary.spelling .deviceType) rule).isSome = true
  text_eq : ∀ text : DeviceText,
    e.childTextD (vocabulary.spelling text.word) rule = d.text text
  services_eq : servicesOfElement rule e = d.services
  devices_eq : devicesOfElement? rule e = some d.devices

lemma reads_iff {e : Element} {d : Device} :
    Reads rule e d ↔ deviceOfElement? rule e = some d := by
  rw [deviceOfElement?_eq]
  constructor
  · intro h
    obtain ⟨deviceType, htype⟩ := Option.isSome_iff_exists.1 h.isSome_deviceType
    have htype' : e.childText? "deviceType" rule = some deviceType := htype
    have htext : deviceType = d.deviceType := by
      have htext := h.text_eq .deviceType
      rwa [DeviceText.word, Element.childTextD, htype, Option.getD_some] at htext
    have hname : e.childTextD "friendlyName" rule = d.friendlyName := h.text_eq .friendlyName
    have hmaker : e.childTextD "manufacturer" rule = d.manufacturer := h.text_eq .manufacturer
    have hmodel : e.childTextD "modelName" rule = d.modelName := h.text_eq .modelName
    have hudn : e.childTextD "UDN" rule = d.udn := h.text_eq .udn
    rw [htype', h.devices_eq, hname, hmaker, hmodel, hudn, h.services_eq, htext]
    cases d
    rfl
  · intro h
    simp only [Option.bind_eq_bind, Option.bind_eq_some_iff, Option.pure_def,
      Option.some.injEq] at h
    obtain ⟨deviceType, htype, devices, hdevices, rfl⟩ := h
    have htype' : e.childText? (vocabulary.spelling .deviceType) rule = some deviceType := htype
    refine ⟨by rw [htype']; rfl, fun text => ?_, rfl, hdevices⟩
    cases text with
    | deviceType => rw [DeviceText.word, Element.childTextD, htype']; rfl
    | friendlyName => rfl
    | manufacturer => rfl
    | modelName => rfl
    | udn => rfl

section Change

variable {k : Word} {change : Entry Word → Entry Word} (hkey : ∀ g, (change g).key = k)
include hkey

lemma servicesOfElement_changeChild_of_ne (hrule : rule ≠ .exact) (hne : .serviceList ≠ k)
    (f : Entry Word) :
    servicesOfElement rule (L.element (f.changeChild k change)) =
      servicesOfElement rule (L.element f) := by
  rw [servicesOfElement_eq, servicesOfElement_eq]
  exact congrArg (fun c => Option.elim c _ _) (L.child?_changeChild_of_ne hrule hkey hne)

lemma devicesOfElement?_changeChild_of_ne (hrule : rule ≠ .exact) (hne : .deviceList ≠ k)
    (f : Entry Word) :
    devicesOfElement? rule (L.element (f.changeChild k change)) =
      devicesOfElement? rule (L.element f) := by
  rw [devicesOfElement?_eq, devicesOfElement?_eq]
  exact congrArg (fun c => Option.elim c _ _) (L.child?_changeChild_of_ne hrule hkey hne)

/-- A change in a list leaves the texts of the device itself as they are. -/
lemma Reads.of_changeChild (hrule : rule ≠ .exact) (hk : ∀ text : DeviceText, text.word ≠ k)
    {f : Entry Word} {d d' : Device} (h : Reads rule (L.element f) d)
    (htext : ∀ text, d'.text text = d.text text)
    (hservices : servicesOfElement rule (L.element (f.changeChild k change)) = d'.services)
    (hdevices : devicesOfElement? rule (L.element (f.changeChild k change)) = some d'.devices) :
    Reads rule (L.element (f.changeChild k change)) d' := by
  have hsame (text : DeviceText) :
      (L.element (f.changeChild k change)).childText? (vocabulary.spelling text.word) rule =
        (L.element f).childText? (vocabulary.spelling text.word) rule :=
    L.childText?_changeChild_of_ne hrule hkey (hk text)
  refine ⟨?_, fun text => ?_, hservices, hdevices⟩
  · rw [← DeviceText.word, hsame]
    exact h.isSome_deviceType
  · rw [Element.childTextD, hsame, ← Element.childTextD, h.text_eq, htext]

end Change

/-- A run in the place of a text of the device itself is read as that text. -/
lemma Reads.putText (hrule : rule ≠ .exact) (text : DeviceText) {place : List ℕ} {d d' : Device}
    (h : Reads rule (L.element (deviceEntry keep place d')) d) :
    Reads rule (L.element ((deviceEntry keep place d').putText text.word run))
      (d.putOwn text run.text) := by
  have hmem : ((deviceEntry keep place d').entries.find? fun g => g.key = text.word).isSome =
      true := by
    rw [entries_deviceEntry]
    cases text <;> rfl
  have hkey : ∀ g : Entry Word, ((fun _ => .text text.word run) g : Entry Word).key = text.word :=
    fun _ => rfl
  refine ⟨?_, fun text' => ?_, ?_, ?_⟩
  · rw [L.childText?_putText hrule hmem]
    split
    · rfl
    · exact h.isSome_deviceType
  · rw [L.childTextD_putText hrule hmem, h.text_eq, Device.text_putOwn]
    simp only [DeviceText.word_inj]
  · rw [Device.services_putOwn, ← h.services_eq]
    exact servicesOfElement_changeChild_of_ne L hkey hrule (by cases text <;> decide) _
  · rw [Device.devices_putOwn, ← h.devices_eq]
    exact devicesOfElement?_changeChild_of_ne L hkey hrule (by cases text <;> decide) _

/-- A run in the place of a text of a service is read as that text. -/
lemma servicesOfElement_changeItem (hrule : rule ≠ .exact) (i : ℕ) (text : ServiceText)
    (place : List ℕ) (d : Device) :
    servicesOfElement rule (L.element ((deviceEntry keep place d).changeItem .serviceList i
      (Entry.putText text.word run))) =
      (servicesOfElement rule (L.element (deviceEntry keep place d))).modify i
        (Service.put text run.text) := by
  have hkey : ∀ g ∈ d.services.map serviceEntry, g.key = .service := by
    intro g hg
    obtain ⟨s, -, rfl⟩ := List.mem_map.1 hg
    rfl
  have hput : ∀ g ∈ d.services.map serviceEntry,
      serviceOfElement rule (L.element (g.putText text.word run)) =
        (serviceOfElement rule (L.element g)).put text run.text := by
    intro g hg
    obtain ⟨s, -, rfl⟩ := List.mem_map.1 hg
    exact serviceOfElement_putText L run hrule text (by cases text <;> rfl)
  have hlist := find?_serviceList keep place d
  have hbefore := L.elim_child?_element hrule (List.map (serviceOfElement rule)) hlist hkey
  have hafter := L.elim_child?_changeItem hrule (List.map (serviceOfElement rule)) i
    (Entry.putText text.word run) hlist hkey fun g hg => hg
  rw [servicesOfElement_eq, servicesOfElement_eq]
  refine hafter.trans ?_
  rw [List.map_map, map_modify (h := Service.put text run.text) hput, ← List.map_map]
  exact congrArg (fun l => l.modify i (Service.put text run.text)) hbefore.symm

/-- What is changed in a device of the device list is changed in what is read. -/
lemma devicesOfElement?_changeItem (hrule : rule ≠ .exact) (i : ℕ)
    {change : Entry Word → Entry Word} {put : Device → Device}
    (hkey : ∀ g, (change g).key = g.key)
    (hread : ∀ place d' d, Reads rule (L.element (deviceEntry keep place d')) d →
      Reads rule (L.element (change (deviceEntry keep place d'))) (put d))
    {place : List ℕ} {d : Device} {ds : List Device}
    (h : devicesOfElement? rule (L.element (deviceEntry keep place d)) = some ds) :
    devicesOfElement? rule (L.element ((deviceEntry keep place d).changeItem .deviceList i change)) =
      some (ds.modify i put) := by
  have hdevice : ∀ g ∈ deviceEntries keep place d.devices, g.key = .device :=
    fun g hg => key_of_mem_deviceEntries hg
  have hlist := find?_deviceList keep place d
  have hbefore := L.elim_child?_element hrule (List.mapM (deviceOfElement? rule)) hlist hdevice
  have hafter := L.elim_child?_changeItem hrule (List.mapM (deviceOfElement? rule)) i change hlist
    hdevice fun g hg => (hkey g).trans hg
  rw [devicesOfElement?_eq] at h ⊢
  refine hafter.trans ?_
  rw [List.mapM_map]
  refine mapM_modify (fun g hg b hb => ?_) ?_ i
  · obtain ⟨place', d', rfl⟩ := exists_of_mem_deviceEntries hg
    exact reads_iff.1 (hread place' d' b (reads_iff.2 hb))
  · rw [← List.mapM_map]
    exact hbefore.symm.trans h

/-- A run in the place of a text, anywhere in a device and the devices in it, is read as that
text, and everything else is read as before. -/
lemma Reads.write (hrule : rule ≠ .exact) (spot : Spot) {place : List ℕ} {d d' : Device}
    (h : Reads rule (L.element (deviceEntry keep place d')) d) :
    Reads rule (L.element (spot.write run (deviceEntry keep place d'))) (d.put run.text spot) := by
  -- by induction on the place, from the device at the root to the one that has the text
  induction spot generalizing place d d' with
  | own text => exact h.putText L keep run hrule text
  | service i text =>
    have hkey : ∀ g : Entry Word, (Entry.record .serviceList
        (g.entries.modify i (Entry.putText text.word run))).key = .serviceList := fun _ => rfl
    have hword : ∀ text : DeviceText, text.word ≠ .serviceList := by
      intro text
      cases text <;> decide
    refine h.of_changeChild L hkey hrule hword (fun text => by cases text <;> rfl) ?_ ?_
    · rw [← Entry.changeItem, servicesOfElement_changeItem L keep run hrule i text place d',
        h.services_eq]
      rfl
    · rw [devicesOfElement?_changeChild_of_ne L hkey hrule (by decide), h.devices_eq]
      rfl
  | device i spot ih =>
    have hkey : ∀ g : Entry Word, (Entry.record .deviceList
        (g.entries.modify i (spot.write run))).key = .deviceList := fun _ => rfl
    have hword : ∀ text : DeviceText, text.word ≠ .deviceList := by
      intro text
      cases text <;> decide
    refine h.of_changeChild L hkey hrule hword (fun text => by cases text <;> rfl) ?_ ?_
    · rw [servicesOfElement_changeChild_of_ne L hkey hrule (by decide), h.services_eq]
      rfl
    · exact devicesOfElement?_changeItem L keep hrule i (key_write run spot)
        (fun _ _ _ hread => ih hread) h.devices_eq

/-- A root element with a run in the place of a text is read as it was written, but for that
text. -/
lemma ofRoot_rootEntryWith (hrule : rule ≠ .exact) {r : Description} (hr : r.IsSettled)
    (spot : Spot) :
    ofRoot rule (L.element (rootEntryWith keep spot run r)) =
      .ok { r with device := r.device.put run.text spot } := by
  have hdevice : (L.element (rootEntryWith keep spot run r)).child? "device" rule =
      some (L.element (spot.write run (deviceEntry keep [] r.device))) := by
    refine (L.child?_element hrule _ .device).trans ?_
    cases hbase : r.urlBase <;>
      simp [rootEntryWith, hbase, Entry.entries, key_write, key_deviceEntry]
  have hbase : ((L.element (rootEntryWith keep spot run r)).childText? "URLBase" rule) =
      (L.element (rootEntry keep r)).childText? "URLBase" rule := by
    rw [Element.childText?, Element.childText?]
    refine congrArg _ ((L.child?_element hrule _ .urlBase).trans
      (Eq.trans ?_ (L.child?_element hrule _ .urlBase).symm))
    cases hbase : r.urlBase <;>
      simp [rootEntryWith, rootEntry, hbase, Entry.entries, key_write, key_deviceEntry]
  have hread : Reads rule (L.element (deviceEntry keep [] r.device)) r.device :=
    reads_iff.2 (deviceOfElement?_deviceEntry L keep hrule [] r.device hr.trimmed_text hr.isBare)
  rw [ofRoot, hdevice]
  dsimp only
  rw [reads_iff.1 (hread.write L keep run hrule spot), hbase, urlBase_rootEntry L keep hrule hr]

end Reading

/-! ## Broken texts -/

/-- A broken entity damages only its own text.  In the root document of any description, laid out
in any way, let the text at any place in the tree of devices be replaced by a run of characters
with a broken entity.  The document is still read, as the description with the characters of the
run at that place, without the blanks at its ends, and with all other texts as they were. -/
theorem parse_rootEntryWith_of_broken {rule : TagRule} (hrule : rule ≠ .exact)
    (L : Layout vocabulary) (keep : List ℕ → Word → Bool) {r : Description} (hr : r.IsSettled)
    (spot : Spot) {run : Run} (hrun : HasBrokenEntity run.raw) :
    parse rule (L.write (rootEntryWith keep spot run r)) =
      .ok { r with device := r.device.put (trimmed (String.ofList run.raw)) spot } ∧
    ∀ spot', (r.device.put (trimmed (String.ofList run.raw)) spot).textAt? spot' =
      if spot' = spot then
        (r.device.textAt? spot).map fun _ => trimmed (String.ofList run.raw)
      else r.device.textAt? spot' := by
  have hroot : ∀ {rule}, rule ≠ .exact →
      ofRoot rule (L.element (rootEntryWith keep spot run r)) =
        .ok { r with device := r.device.put (trimmed (String.ofList run.raw)) spot } := by
    intro rule hrule
    rw [ofRoot_rootEntryWith L keep run hrule hr spot, Run.text_of_broken hrun]
  have hplain : Plain (L.write (rootEntryWith keep spot run r)) :=
    ⟨L.admitted_write L.oneColon_name not_stringPath_nil _⟩
  constructor
  · -- the strict reader cannot read anything else in the document than the tolerant one
    rw [parse]
    split
    · rename_i r' hr'
      rw [eq_of_ofRecords? hplain (L.parse_write _) (hroot (by decide)) hr']
    · rw [ofTree_eq, L.parse_write]
      exact hroot hrule
  · intro spot'
    exact Device.textAt?_put _ spot spot' r.device

/-! ### A gateway that does not escape a URL -/

/-- A gateway with a device in a device, both with a service. -/
def nestedGateway : Description where
  urlBase := none
  device := ⟨"uuid:1", "t:1", "A & B", "", "", [⟨"s:1", "", "/1", "", "", ⟨[], []⟩⟩],
    [⟨"uuid:2", "t:2", "", "", "", [], []⟩,
      ⟨"uuid:3", "t:3", "<C>", "", "", [⟨"s:3", "", "/3", "/e", "", ⟨[], []⟩⟩],
        [⟨"uuid:4", "t:4", "", "", "m", [⟨"s:4", "", "/4", "", "", ⟨[], []⟩⟩,
          ⟨"s:5", "", "/5", "/f", "/d", ⟨[], []⟩⟩], []⟩]⟩]⟩

/-- A layout without namespaces. -/
def bareLayout : Layout vocabulary where
  prolog := prefixedLayout.prolog
  space _ := none
  attributes _ := []
  gap := .ofText ['\n', ' ']

/-- A URL that is written as it is, and an entity behind it. -/
def bareUrl : Run := ⟨" /ctl?a=1&b=2&amp;c ".toList, by decide⟩

/-- The control URL of the last service is read as it is written, and all the rest as it was. -/
theorem parse_bareUrl :
    nestedGateway.IsSettled ∧ HasBrokenEntity bareUrl.raw ∧
    parse .localName (bareLayout.write (rootEntryWith (fun _ _ => false)
      (.device 1 (.device 0 (.service 1 .controlUrl))) bareUrl nestedGateway)) =
      .ok ⟨none, ⟨"uuid:1", "t:1", "A & B", "", "", [⟨"s:1", "", "/1", "", "", ⟨[], []⟩⟩],
        [⟨"uuid:2", "t:2", "", "", "", [], []⟩,
          ⟨"uuid:3", "t:3", "<C>", "", "", [⟨"s:3", "", "/3", "/e", "", ⟨[], []⟩⟩],
            [⟨"uuid:4", "t:4", "", "", "m", [⟨"s:4", "", "/4", "", "", ⟨[], []⟩⟩,
              ⟨"s:5", "", "/ctl?a=1&b=2&amp;c", "/f", "/d", ⟨[], []⟩⟩], []⟩]⟩]⟩⟩ := by
  have hr : nestedGateway.IsSettled := by
    refine ⟨by decide, by decide, by decide +kernel, ?_⟩
    rw [IsBare]
    decide
  have hbroken : HasBrokenEntity bareUrl.raw :=
    (unescape?_eq_none_iff _).1 (by decide +kernel)
  have htext : trimmed (String.ofList bareUrl.raw) = "/ctl?a=1&b=2&amp;c" := by decide +kernel
  refine ⟨hr, hbroken, ?_⟩
  rw [(parse_rootEntryWith_of_broken (by decide) bareLayout _ hr _ hbroken).1, htext]
  rfl

end Description

end UpnpGateway
