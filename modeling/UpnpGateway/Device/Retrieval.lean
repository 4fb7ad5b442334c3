/-
# Retrieving descriptions

The description of a gateway is fetched from where it says, and then the description of each
of its services.  Services that share a description share one request.  What the documents
say decides how the gateway is talked to from then on.
-/
import UpnpGateway.Device.Description
import UpnpGateway.Device.Links
import UpnpGateway.Device.ServiceDescription
import UpnpGateway.Http.Client
import UpnpGateway.Vendor

namespace UpnpGateway

open UpnpGateway.Http UpnpGateway.Net UpnpGateway.Xml

/-- What is known about a gateway from its documents. -/
structure Portrait where
  /-- The root device, with the tables of its services. -/
  device : Device
  /-- What the gateway says about itself. -/
  signature : Signature
  /-- How the gateway is talked to. -/
  profile : Profile
deriving Repr

/-- Fetches a document and reads it. -/
def fetchDocument {α : Type} (client : Client) (document : Document) (url : String)
    (reader : String → Except String α) : Exchange Error α := do
  let body ← (client.get url).mapError (.documentUnreachable document url)
  .ofExcept ((reader body).mapError (.documentUnreadable document))

/-- The tables that have been read, by the URL of the description. -/
abbrev ServiceTables := List (String × ServiceTable)

/-- Reads the descriptions of some services, as far as they have one that has not been read. -/
def fetchTables (client : Client) (rule : TagRule) (tables : ServiceTables) :
    List Service → Exchange Error ServiceTables
  | [] => pure tables
  | s :: services =>
    if s.scpdUrl.isEmpty || (tables.lookup s.scpdUrl).isSome then
      fetchTables client rule tables services
    else do
      let table ← fetchDocument client (.service s.serviceId) s.scpdUrl fun body =>
        (ServiceDescription.parse rule body).mapError fun e => e.message
      fetchTables client rule (tables ++ [(s.scpdUrl, table)]) services

/-- The service with the table that was read for it. -/
def Service.fill (tables : ServiceTables) (s : Service) : Service :=
  match tables.lookup s.scpdUrl with
  | some table => { s with table }
  | none => s

/-- What a gateway says about itself in its description. -/
def Device.signature (d : Device) (server : String) : Signature :=
  ⟨server, d.manufacturer, d.modelName, d.deviceType⟩

/-- Fetches and reads all documents of a gateway. -/
def Portrait.fetch (client : Client) (location server : String) : Exchange Error Portrait := do
  let early := Profile.ofSignature (.ofServer server)
  let description ← fetchDocument client .root location fun body =>
    (Description.parse early.tagRule body).mapError fun e => e.message
  let signature := description.device.signature server
  let profile := Profile.ofSignature signature
  let device := description.device.resolveLinks (description.urlBase.getD location)
  let tables ← fetchTables client profile.tagRule [] device.allServices
  return ⟨device.mapServices (Service.fill tables), signature, profile⟩

end UpnpGateway
