/-
# What the completion of links changes

A device in a tree is found at its address, the numbers of the devices on the way down to it.  A
replacement of all services leaves at every address the device that was there, with its services
replaced one by one.  The completion of links is such a replacement: it completes the links that
can be read against the base, and everything else in the tree stays as it is.
-/
import Mathlib.Data.List.Forall2
import UpnpGateway.Device.Links
import UpnpGateway.Proofs.Device.Services

namespace UpnpGateway

open UpnpGateway.Net

/-! ## Addresses -/

namespace Device

/-- The device at an address of a tree. -/
def at? : List Nat → Device → Option Device
  | [], d => some d
  | i :: address, d => d.devices[i]?.bind (at? address)

/-- A device that is another one but for its services, of which each is related to the one in its
place.  Of the devices in it only the number is looked at. -/
structure SameBut (R : Service → Service → Prop) (d e : Device) : Prop where
  udn_eq : e.udn = d.udn
  deviceType_eq : e.deviceType = d.deviceType
  friendlyName_eq : e.friendlyName = d.friendlyName
  manufacturer_eq : e.manufacturer = d.manufacturer
  modelName_eq : e.modelName = d.modelName
  services : List.Forall₂ R d.services e.services
  length_devices : e.devices.length = d.devices.length

/-- A tree that is another one but for its services: at every address there is a device in both
of them or in neither, and the one is the other but for its services. -/
def SameTreeBut (R : Service → Service → Prop) (d e : Device) : Prop :=
  ∀ address, Option.Rel (SameBut R) (d.at? address) (e.at? address)

lemma mapServicesOfAll_eq_map (f : Service → Service) (ds : List Device) :
    mapServicesOfAll f ds = ds.map (mapServices f) := by
  induction ds with
  | nil => rfl
  | cons d ds ih => rw [mapServicesOfAll, ih, List.map_cons]

lemma devices_mapServices (f : Service → Service) (d : Device) :
    (d.mapServices f).devices = d.devices.map (mapServices f) := by
  cases d
  exact mapServicesOfAll_eq_map f _

lemma services_mapServices (f : Service → Service) (d : Device) :
    (d.mapServices f).services = d.services.map f := by
  cases d
  rfl

/-- At every address stands the device that was there, with the services in it replaced. -/
lemma at?_mapServices (f : Service → Service) (address : List Nat) (d : Device) :
    (d.mapServices f).at? address = (d.at? address).map (mapServices f) := by
  induction address generalizing d with
  | nil => rfl
  | cons i address ih =>
    rw [at?, at?, devices_mapServices, List.getElem?_map]
    cases d.devices[i]? with
    | none => rfl
    | some e => exact ih e

lemma sameBut_mapServices {R : Service → Service → Prop} {f : Service → Service}
    (hf : ∀ s, R s (f s)) (d : Device) : SameBut R d (d.mapServices f) where
  udn_eq := by cases d; rfl
  deviceType_eq := by cases d; rfl
  friendlyName_eq := by cases d; rfl
  manufacturer_eq := by cases d; rfl
  modelName_eq := by cases d; rfl
  services := by
    rw [services_mapServices, List.forall₂_map_right_iff, List.forall₂_same]
    exact fun s _ => hf s
  length_devices := by rw [devices_mapServices, List.length_map]

/-- A replacement of all services leaves the tree as it was but for its services. -/
lemma sameTreeBut_mapServices {R : Service → Service → Prop} {f : Service → Service}
    (hf : ∀ s, R s (f s)) (d : Device) : SameTreeBut R d (d.mapServices f) := by
  intro address
  rw [at?_mapServices]
  cases d.at? address with
  | none => exact .none
  | some e => exact .some (sameBut_mapServices hf e)

/-- The services that are listed are related one by one. -/
lemma forall₂_allServices_mapServices {R : Service → Service → Prop} {f : Service → Service}
    (hf : ∀ s, R s (f s)) (d : Device) :
    List.Forall₂ R d.allServices (d.mapServices f).allServices := by
  rw [allServices_mapServices, List.forall₂_map_right_iff, List.forall₂_same]
  exact fun s _ => hf s

end Device

/-! ## Links -/

/-- What becomes of a link. -/
inductive LinkCompletion (base : String) : String → String → Prop
  /-- There is no link. -/
  | empty : LinkCompletion base "" ""
  /-- The base can be read, and the link against it. -/
  | complete {link : String} {b u : Url} (hne : link ≠ "") (hbase : Url.parse? base = some b)
      (hlink : b.join? link = some u) : LinkCompletion base link u.text
  /-- The base cannot be read, or the link cannot be read against it. -/
  | unread {link : String} (h : ∀ b, Url.parse? base = some b → b.join? link = none) :
      LinkCompletion base link link

/-- A service that is another one but for its links, of which the complete ones are written. -/
structure Service.Completed (base : String) (s t : Service) : Prop where
  serviceType_eq : t.serviceType = s.serviceType
  serviceId_eq : t.serviceId = s.serviceId
  table_eq : t.table = s.table
  controlUrl : LinkCompletion base s.controlUrl t.controlUrl
  eventSubUrl : LinkCompletion base s.eventSubUrl t.eventSubUrl
  scpdUrl : LinkCompletion base s.scpdUrl t.scpdUrl

section Completion

variable {base : String}

lemma linkCompletion_resolveLink {b : Url} (hbase : Url.parse? base = some b) (link : String) :
    LinkCompletion base link (resolveLink b link) := by
  rw [resolveLink]
  by_cases hempty : link = ""
  · subst hempty
    exact .empty
  · rw [if_neg (by simpa using hempty)]
    cases hlink : b.join? link with
    | none =>
      refine .unread fun b' hbase' => ?_
      obtain rfl : b = b' := Option.some.inj (hbase.symm.trans hbase')
      exact hlink
    | some u => exact .complete hempty hbase hlink

lemma Service.completed_resolveLinks {b : Url} (hbase : Url.parse? base = some b) (s : Service) :
    Completed base s (s.resolveLinks b) :=
  ⟨rfl, rfl, rfl, linkCompletion_resolveLink hbase _, linkCompletion_resolveLink hbase _,
    linkCompletion_resolveLink hbase _⟩

lemma Service.completed_self (hbase : Url.parse? base = none) (s : Service) :
    Completed base s s := by
  have hlink (link : String) : LinkCompletion base link link := by
    refine .unread fun b hb => ?_
    rw [hbase] at hb
    cases hb
  exact ⟨rfl, rfl, rfl, hlink _, hlink _, hlink _⟩

/-- The completion of links is a replacement of all services by completed ones. -/
lemma exists_resolveLinks_eq_mapServices (base : String) (d : Device) :
    ∃ f : Service → Service, (∀ s, Service.Completed base s (f s)) ∧
      d.resolveLinks base = d.mapServices f := by
  rw [Device.resolveLinks]
  cases hbase : Url.parse? base with
  | none =>
    exact ⟨id, Service.completed_self hbase, (Device.mapServices_eq_self d fun _ _ => rfl).symm⟩
  | some b => exact ⟨Service.resolveLinks b, Service.completed_resolveLinks hbase, rfl⟩

end Completion

/-- **The walks through a tree agree, and the completion of links changes nothing else.**  What is
listed after a replacement of all services is what was listed before, each service replaced, and
the tree is as it was but for its services.  The completion of links against a base replaces every
service by one that has its links completed, as far as they and the base can be read, and leaves
the tree as it is if the base cannot be read. -/
theorem Device.replacesServices :
    (∀ (f : Service → Service) (d : Device),
      (d.mapServices f).allServices = d.allServices.map f ∧
        SameTreeBut (fun s t => t = f s) d (d.mapServices f)) ∧
    ∀ (base : String) (d : Device),
      List.Forall₂ (Service.Completed base) d.allServices (d.resolveLinks base).allServices ∧
        SameTreeBut (Service.Completed base) d (d.resolveLinks base) ∧
        (Url.parse? base = none → d.resolveLinks base = d) := by
  have hreplaced (f : Service → Service) (d : Device) :
      SameTreeBut (fun s t => t = f s) d (d.mapServices f) := by
    refine sameTreeBut_mapServices ?_ d
    exact fun _ => rfl
  refine ⟨fun f d => ⟨allServices_mapServices f d, hreplaced f d⟩, fun base d => ?_⟩
  obtain ⟨f, hf, hd⟩ := exists_resolveLinks_eq_mapServices base d
  rw [hd]
  refine ⟨forall₂_allServices_mapServices hf d, sameTreeBut_mapServices hf d, fun hbase => ?_⟩
  rw [← hd, resolveLinks, hbase]

/-! ### A device with all kinds of links -/

/-- A service with a link that lacks its front, none, and one that cannot be read. -/
def linkedService : Service := ⟨"type", "id", "../control?x#y", "", "http://[", ⟨[], []⟩⟩

/-- A device with services at two depths. -/
def linkedDevice : Device :=
  ⟨"udn", "type", "name", "maker", "model", [linkedService],
    [⟨"", "inner", "", "", "", [{ linkedService with controlUrl := "//[::2]" }], []⟩]⟩

/-- The links are completed at both depths, and stay as they are without a base to complete them
against. -/
theorem Device.replacesServices_linkedDevice :
    Url.parse? "gateway" = none ∧ linkedDevice.resolveLinks "gateway" = linkedDevice ∧
    Device.SameTreeBut (Service.Completed "http://[::1]/a/b/c") linkedDevice
      (linkedDevice.resolveLinks "http://[::1]/a/b/c") ∧
    (linkedDevice.resolveLinks "http://[::1]/a/b/c").allServices =
      [{ linkedService with controlUrl := "http://[::1]/a/control?x#y" },
        { linkedService with controlUrl := "http://[::2]/" }] := by
  obtain ⟨-, hlinks⟩ := Device.replacesServices
  have hbase : Url.parse? "gateway" = none := by decide +kernel
  exact ⟨hbase, (hlinks "gateway" linkedDevice).2.2 hbase, (hlinks _ linkedDevice).2.1,
    by decide +kernel⟩

end UpnpGateway
