/-
# The links of a description

The URLs in a description may leave out what they have in common with the place that it was
read from.  This file completes them against a base.  A link that is empty or cannot be read
stays as it is, and so do all links if the base cannot be read.
-/
import UpnpGateway.Device.Basic
import UpnpGateway.Net.Url.Parse

namespace UpnpGateway

open UpnpGateway.Net

/-- The complete form of a link. -/
def resolveLink (base : Url) (link : String) : String :=
  if link.isEmpty then link else ((base.join? link).map Url.text).getD link

/-- The service with its links completed. -/
def Service.resolveLinks (base : Url) (s : Service) : Service :=
  { s with
    controlUrl := resolveLink base s.controlUrl
    eventSubUrl := resolveLink base s.eventSubUrl
    scpdUrl := resolveLink base s.scpdUrl }

/-- The device with the links of all services in its tree completed. -/
def Device.resolveLinks (base : String) (d : Device) : Device :=
  match Url.parse? base with
  | some base => d.mapServices (Service.resolveLinks base)
  | none => d

end UpnpGateway
