/-
# Walks through the services of a device

The services of a device are those of its own and those of all devices in it.  They are listed
and replaced by walks of one shape through the tree, so that what is listed after a replacement is
what was listed before, each service replaced.  Of services that share a description, the first one
in the list stands for all of them.
-/
import Mathlib.Tactic.Lemma
import UpnpGateway.Device.Basic

namespace UpnpGateway.Device

mutual

/-- The services of a device in which every service is replaced are its services replaced. -/
lemma allServices_mapServices (f : Service → Service) :
    ∀ d : Device, (d.mapServices f).allServices = d.allServices.map f
  | ⟨_, _, _, _, _, _, devices⟩ => by
    rw [mapServices, allServices, allServices, List.map_append,
      servicesOfAll_mapServicesOfAll f devices]

lemma servicesOfAll_mapServicesOfAll (f : Service → Service) :
    ∀ ds : List Device, servicesOfAll (mapServicesOfAll f ds) = (servicesOfAll ds).map f
  | [] => rfl
  | d :: ds => by
    rw [mapServicesOfAll, servicesOfAll, servicesOfAll, List.map_append,
      allServices_mapServices f d, servicesOfAll_mapServicesOfAll f ds]

end

mutual

/-- One replacement after another is one replacement. -/
lemma mapServices_mapServices (f g : Service → Service) :
    ∀ d : Device, (d.mapServices f).mapServices g = d.mapServices (g ∘ f)
  | ⟨_, _, _, _, _, _, devices⟩ => by
    rw [mapServices, mapServices, mapServices, List.map_map,
      mapServicesOfAll_mapServicesOfAll f g devices]

lemma mapServicesOfAll_mapServicesOfAll (f g : Service → Service) :
    ∀ ds : List Device,
      mapServicesOfAll g (mapServicesOfAll f ds) = mapServicesOfAll (g ∘ f) ds
  | [] => rfl
  | d :: ds => by
    rw [mapServicesOfAll, mapServicesOfAll, mapServicesOfAll, mapServices_mapServices f g d,
      mapServicesOfAll_mapServicesOfAll f g ds]

end

mutual

/-- A replacement that leaves every service of a device as it is leaves the device as it is. -/
lemma mapServices_eq_self {f : Service → Service} :
    ∀ d : Device, (∀ s ∈ d.allServices, f s = s) → d.mapServices f = d
  | ⟨_, _, _, _, _, services, devices⟩, h => by
    rw [allServices, List.forall_mem_append] at h
    have hown : services.map f = services :=
      (List.map_congr_left h.1).trans (List.map_id' services)
    rw [mapServices, hown, mapServicesOfAll_eq_self devices h.2]

lemma mapServicesOfAll_eq_self {f : Service → Service} :
    ∀ ds : List Device, (∀ s ∈ servicesOfAll ds, f s = s) → mapServicesOfAll f ds = ds
  | [], _ => rfl
  | d :: ds, h => by
    rw [servicesOfAll, List.forall_mem_append] at h
    rw [mapServicesOfAll, mapServices_eq_self d h.1, mapServicesOfAll_eq_self ds h.2]

end

/-! ## Services that stand for a description -/

section FirstOfKey

variable {α κ : Type} [BEq κ] {key : α → κ}

/-- Keeping every key once commutes with taking the keys. -/
lemma map_eraseDupsBy_key (l : List α) :
    (l.eraseDupsBy fun b c => key b == key c).map key = (l.map key).eraseDups := by
  -- the items behind the first one are filtered before the next step
  induction hlength : l.length using Nat.strongRecOn generalizing l with
  | _ n ih =>
    cases l with
    | nil => rfl
    | cons b l =>
      rw [List.eraseDupsBy_cons, List.map_cons, List.map_cons, List.eraseDups_cons,
        ih _ (hlength ▸ Nat.lt_succ_of_le (List.length_filter_le _ l)) _ rfl, List.filter_map]
      simp [Function.comp_def]

variable [LawfulBEq κ]

/-- What is left of a list in which every key is kept once are the first items of their keys. -/
lemma mem_eraseDupsBy_key {l : List α} {a : α} :
    a ∈ l.eraseDupsBy (fun b c => key b == key c) ↔ l.find? (fun b => key b == key a) = some a := by
  induction hlength : l.length using Nat.strongRecOn generalizing l with
  | _ n ih =>
    cases l with
    | nil => simp
    | cons b l =>
      rw [List.eraseDupsBy_cons, List.mem_cons, List.find?_cons,
        ih _ (hlength ▸ Nat.lt_succ_of_le (List.length_filter_le _ l)) rfl, List.find?_filter]
      simp only [Bool.decide_and, Bool.decide_eq_true]
      by_cases hkey : key b = key a
      · have hnone : l.find? (fun c => decide ((key c == key b) = false) && (key c == key a)) =
            none := by
          simp [hkey, List.find?_eq_none]
        rw [hnone, beq_iff_eq.2 hkey]
        simp [eq_comm]
      · have hne : a ≠ b := fun h => hkey (h ▸ rfl)
        have hkept : (fun c => decide ((key c == key b) = false) && (key c == key a)) =
            fun c => key c == key a := by
          funext c
          by_cases hc : key c = key a
          · simp [hc, Ne.symm hkey]
          · simp [hc]
        rw [hkept, beq_eq_false_iff_ne.2 hkey]
        simp [hne]

end FirstOfKey

/-- The services whose descriptions stand for all: of those that have one, the first service of
each place where one is, in the order of the tree. -/
def described (d : Device) : List Service :=
  (d.allServices.filter fun s => !s.scpdUrl.isEmpty).eraseDupsBy fun s t => s.scpdUrl == t.scpdUrl

/-- The descriptions are at the places that the services name, each place once. -/
lemma map_scpdUrl_described (d : Device) :
    d.described.map Service.scpdUrl =
      ((d.allServices.map Service.scpdUrl).filter fun url => !url.isEmpty).eraseDups := by
  rw [described, map_eraseDupsBy_key, List.filter_map]
  rfl

end UpnpGateway.Device
