/-
# The places of texts in a tree of devices

A text belongs to a device or to one of its services, at any depth of the tree.  This file names
the places of texts, and replaces the text at one place: it is then found there, and the texts at
all other places are as they were.
-/
import Mathlib.Tactic.Lemma
import UpnpGateway.Device.Basic

namespace UpnpGateway

/-! ## Texts and their places -/

/-- A text of a device itself. -/
inductive DeviceText where
  | deviceType | friendlyName | manufacturer | modelName | udn
deriving DecidableEq

/-- A text of a service. -/
inductive ServiceText where
  | serviceType | serviceId | controlUrl | eventSubUrl | scpdUrl
deriving DecidableEq

/-- A place of a text in a tree of devices. -/
inductive Spot where
  /-- A text of the device at the root. -/
  | own (text : DeviceText)
  /-- A text of one of its services. -/
  | service (i : Nat) (text : ServiceText)
  /-- A place in one of the devices in it. -/
  | device (i : Nat) (spot : Spot)
deriving DecidableEq

/-- A text of a service. -/
def Service.text (s : Service) : ServiceText → String
  | .serviceType => s.serviceType
  | .serviceId => s.serviceId
  | .controlUrl => s.controlUrl
  | .eventSubUrl => s.eventSubUrl
  | .scpdUrl => s.scpdUrl

/-- The service with one text replaced. -/
def Service.put (text : ServiceText) (v : String) (s : Service) : Service :=
  match text with
  | .serviceType => { s with serviceType := v }
  | .serviceId => { s with serviceId := v }
  | .controlUrl => { s with controlUrl := v }
  | .eventSubUrl => { s with eventSubUrl := v }
  | .scpdUrl => { s with scpdUrl := v }

namespace Device

/-- A text of the device itself. -/
def text (d : Device) : DeviceText → String
  | .deviceType => d.deviceType
  | .friendlyName => d.friendlyName
  | .manufacturer => d.manufacturer
  | .modelName => d.modelName
  | .udn => d.udn

/-- The device with one text of its own replaced. -/
def putOwn (text : DeviceText) (v : String) (d : Device) : Device :=
  match text with
  | .deviceType => { d with deviceType := v }
  | .friendlyName => { d with friendlyName := v }
  | .manufacturer => { d with manufacturer := v }
  | .modelName => { d with modelName := v }
  | .udn => { d with udn := v }

/-- The text at a place, if the tree has that place. -/
def textAt? : Spot → Device → Option String
  | .own text, d => some (d.text text)
  | .service i text, d => d.services[i]?.bind fun s => some (s.text text)
  | .device i spot, d => d.devices[i]?.bind (textAt? spot)

/-- The device with the text at a place replaced. -/
def put (v : String) : Spot → Device → Device
  | .own text, d => d.putOwn text v
  | .service i text, d => { d with services := d.services.modify i (Service.put text v) }
  | .device i spot, d => { d with devices := d.devices.modify i (put v spot) }

end Device

lemma Service.text_put (v : String) (text text' : ServiceText) (s : Service) :
    (s.put text v).text text' = if text' = text then v else s.text text' := by
  cases text <;> cases text' <;> rfl

lemma bind_getElem?_modify (l : List α) (f : α → α) (g : α → Option β) (i j : Nat) :
    (l.modify i f)[j]?.bind g = if j = i then l[j]?.bind fun a => g (f a) else l[j]?.bind g := by
  rw [List.getElem?_modify]
  cases l[j]? with
  | none => simp
  | some a =>
    by_cases hij : j = i
    · simp [hij]
    · simp [hij, Ne.symm hij]

namespace Device

lemma text_putOwn (v : String) (text text' : DeviceText) (d : Device) :
    (d.putOwn text v).text text' = if text' = text then v else d.text text' := by
  cases text <;> cases text' <;> rfl

lemma services_putOwn (v : String) (text : DeviceText) (d : Device) :
    (d.putOwn text v).services = d.services := by
  cases text <;> rfl

lemma devices_putOwn (v : String) (text : DeviceText) (d : Device) :
    (d.putOwn text v).devices = d.devices := by
  cases text <;> rfl

/-- A replaced text is found in its place, and all other texts are as they were. -/
lemma textAt?_put (v : String) (spot spot' : Spot) (d : Device) :
    (d.put v spot).textAt? spot' =
      if spot' = spot then (d.textAt? spot).map fun _ => v else d.textAt? spot' := by
  induction spot generalizing spot' d with
  | own text =>
    cases spot' with
    | own text' =>
      simp only [put, textAt?, text_putOwn, Spot.own.injEq, Option.map_some]
      split <;> rfl
    | service i text' => simp [put, textAt?, services_putOwn]
    | device i spot' => simp [put, textAt?, devices_putOwn]
  | service i text =>
    cases spot' with
    | own text' => cases text' <;> rfl
    | device j spot' => rfl
    | service j text' =>
      rw [put, textAt?, bind_getElem?_modify]
      by_cases hij : j = i
      · subst hij
        cases hs : d.services[j]? with
        | none => simp [textAt?, hs]
        | some s =>
          simp only [textAt?, hs, Option.bind_some, Service.text_put, Spot.service.injEq,
            true_and, Option.map_some, if_true]
          split <;> rfl
      · simp [textAt?, hij]
  | device i spot ih =>
    cases spot' with
    | own text' => cases text' <;> rfl
    | service j text' => rfl
    | device j spot' =>
      rw [put, textAt?, bind_getElem?_modify]
      by_cases hij : j = i
      · subst hij
        cases hd : d.devices[j]? with
        | none => simp [textAt?, hd]
        | some e => simp [textAt?, hd, ih]
      · simp [textAt?, hij]

end Device

end UpnpGateway
