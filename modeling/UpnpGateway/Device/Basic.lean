/-
# Devices and services

A gateway describes itself as a tree of devices, each of which offers services; a service
declares the actions that can be invoked on it and the types of their arguments.  This file
sets up the tree, the walks through it, and the choice of the one service that port mappings
are made with.
-/
import UpnpGateway.Device.DataType

namespace UpnpGateway

open UpnpGateway.Text

/-- An argument of an action. -/
structure Argument where
  /-- The name of the argument. -/
  name : String
  /-- The state variable that the argument is related to. -/
  relatedStateVariable : String
  /-- The data type of that state variable. -/
  dataType : DataType
deriving DecidableEq, Repr

/-- An action of a service; its arguments are in declared order. -/
structure Action where
  /-- The name of the action. -/
  name : String
  /-- The arguments that are sent. -/
  inputs : List Argument
  /-- The arguments that come back. -/
  outputs : List Argument
deriving DecidableEq, Repr

/-- The data types of the state variables of a service, each name once. -/
abbrev StateTable := List (String × DataType)

namespace StateTable

/-- The data type of the state variable with the given name. -/
def get? (table : StateTable) (name : String) : Option DataType :=
  (table.find? fun row => row.1 == name).map Prod.snd

/-- The table with a state variable declared, in place of an earlier declaration of it. -/
def put (table : StateTable) (name : String) (type : DataType) : StateTable :=
  match table with
  | [] => [(name, type)]
  | row :: rows => if row.1 == name then (name, type) :: rows else row :: put rows name type

/-- The table of some declarations, of which the last one of a name counts. -/
def ofRows (rows : List (String × DataType)) : StateTable :=
  rows.foldl (fun table row => put table row.1 row.2) []

end StateTable

/-- What a service can do: its actions and the types of its state variables. -/
structure ServiceTable where
  /-- The actions in declared order. -/
  actions : List Action
  /-- The state variables. -/
  stateVariables : StateTable
deriving DecidableEq, Repr, Inhabited

/-- A kind of service that port mappings are made with. -/
inductive ConnectionKind where
  | ip | ppp
deriving DecidableEq, Repr

/-- A service of a device. -/
structure Service where
  /-- What kind of service it is. -/
  serviceType : String
  /-- Which service of its device it is. -/
  serviceId : String
  /-- Where actions are sent to. -/
  controlUrl : String
  /-- Where events are subscribed to. -/
  eventSubUrl : String
  /-- Where the description of the service is. -/
  scpdUrl : String
  /-- What the service can do, as far as its description has been read. -/
  table : ServiceTable
deriving DecidableEq, Repr, Inhabited

namespace Service

/-- The action with the given name. -/
def action? (s : Service) (name : String) : Option Action :=
  s.table.actions.find? fun a => a.name == name

/-- Whether the service makes port mappings, and over which kind of connection. -/
def kind? (s : Service) : Option ConnectionKind :=
  let type := lower s.serviceType.toList
  if hasRun ":service:wanipconnection:".toList type then some .ip
  else if hasRun ":service:wanpppconnection:".toList type then some .ppp
  else none

end Service

/-- A device with its services and the devices that are part of it. -/
structure Device where
  /-- The unique name of the device. -/
  udn : String
  /-- What kind of device it is. -/
  deviceType : String
  /-- The name that users see. -/
  friendlyName : String
  /-- Who made the device. -/
  manufacturer : String
  /-- Which model it is. -/
  modelName : String
  /-- The services of the device itself. -/
  services : List Service
  /-- The devices that are part of the device. -/
  devices : List Device
deriving Repr, Inhabited, BEq

namespace Device

mutual

/-- The services of a device, then those of each device in it. -/
def allServices : Device → List Service
  | ⟨_, _, _, _, _, services, devices⟩ => services ++ servicesOfAll devices

/-- The services of some devices, one after the other. -/
def servicesOfAll : List Device → List Service
  | [] => []
  | d :: ds => allServices d ++ servicesOfAll ds

end

mutual

/-- The device with every service in its tree replaced. -/
def mapServices (f : Service → Service) : Device → Device
  | ⟨udn, deviceType, friendlyName, manufacturer, modelName, services, devices⟩ =>
    ⟨udn, deviceType, friendlyName, manufacturer, modelName, services.map f,
      mapServicesOfAll f devices⟩

/-- Some devices with every service in their trees replaced. -/
def mapServicesOfAll (f : Service → Service) : List Device → List Device
  | [] => []
  | d :: ds => mapServices f d :: mapServicesOfAll f ds

end

/-- What a device is called in messages: the name that users see, or else the unique name, or
else its kind. -/
def label (d : Device) : String :=
  if !d.friendlyName.isEmpty then d.friendlyName
  else if !d.udn.isEmpty then d.udn
  else d.deviceType

/-- The service that port mappings are made with: a service over IP before one over PPP, and
among those of one kind the first. -/
def wanService? (d : Device) : Option Service :=
  (d.allServices.find? fun s => s.kind? == some .ip).or
    (d.allServices.find? fun s => s.kind? == some .ppp)

end Device

end UpnpGateway
