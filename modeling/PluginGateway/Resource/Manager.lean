import PluginGateway.Resource.Device

/-!
# Managers

There are three kinds of manager. The aggregator's own one is known by its identifier and is only
stored. A plugin's manager has a plain identifier, and its record names the plugin, which is asked
for what is not stored. A device's manager is identified by the device's UUID and a local name with
a colon between them, and what is not stored of it is read from the device.
-/

namespace PluginGateway

/-- The UUID of the device and the local name in the identifier of a device's manager. -/
def splitManagerId? (managerId : String) : Option (String × String) :=
  let id := managerId.toList
  if id.contains ':' then
    some (String.ofList (id.takeWhile (· ≠ ':')), String.ofList ((id.dropWhile (· ≠ ':')).drop 1))
  else none

/-- The UUID of the device whose manager it is. -/
def deviceOfManager (managerId : String) : Except FlowError String :=
  match splitManagerId? managerId with
  | some (uuid, _) => .ok uuid
  | none => .error (.notFound "Managers" managerId)

/-- The text without the slashes at its end. -/
def trimSlashes (s : List Char) : List Char := (s.reverse.dropWhile (· = '/')).reverse

/-- The segments of a URL, not counting slashes at its end. -/
def urlSegments (url : String) : List String :=
  (Text.split '/' (trimSlashes url.toList)).map String.ofList

/-- The table that holds a collection under a manager, by the collection's name. -/
def collectionTables : List (String × String) :=
  [("EthernetInterfaces", "EthernetInterfacesCollection"),
   ("HostInterfaces", "HostInterfacesCollection"),
   ("LogServices", "LogServicesCollection"),
   ("NetworkProtocol", "NetworkProtocol"),
   ("SerialInterfaces", "SerialInterfacesCollection"),
   ("VirtualMedia", "VirtualMediaCollection")]

/-- The type stamped on the resources of a table. -/
def odataTypes : List (String × String) :=
  [("EthernetInterfaces", "#EthernetInterface.v1_6_0.EthernetInterface"),
   ("HostInterfaces", "#HostInterface.v1_3_0.HostInterface"),
   ("LogServices", "#LogService.v1_1_3.LogService"),
   ("NetworkProtocol", "#ManagerNetworkProtocol.v1_5_0.ManagerNetworkProtocol"),
   ("SerialInterfaces", "#SerialInterface.v1_1_7.SerialInterface"),
   ("VirtualMedia", "#VirtualMedia.v1_3_0.VirtualMedia")]

/-- The table of a resource under a manager. A collection is named by its last segment; a member is
kept in the table of the collection around it. -/
def resourceTable (url : String) (isMember : Bool) : String :=
  match (urlSegments url).reverse with
  | [] => ""
  | [last] => if isMember then last else (collectionTables.lookup last).getD last
  | last :: parent :: _ => if isMember then parent else (collectionTables.lookup last).getD last

/-- The record with the type of its table, if it is an object and the table has one. -/
def stampType (table : String) (record : Json) : Json :=
  match odataTypes.lookup table, record with
  | some t, .object fields => .object (Keyed.put "@odata.type" (.string t) fields)
  | _, record => record

/-- What a plugin answered for its manager, with the fields that the aggregator owns. -/
def fillManager (record : Json) (now : String) : Json → Except FlowError Json
  | .object fields =>
    let timed := Keyed.put "DateTimeLocalOffset" (.string "+00:00")
      (Keyed.put "DateTime" (.string now) fields)
    let withConsole := match timed.lookup "SerialConsole" with
      | some _ => timed
      | none => Keyed.put "SerialConsole" (.object []) timed
    .ok (.object (Keyed.put "Links" ((record.get? "Links").getD .null) withConsole))
  | _ => .error (.internal "plugin manager response is not a JSON object")

namespace Aggregator

/-- The identifier is that of the aggregator's own manager. -/
def isRootManager (g : Aggregator) (managerId : String) : Bool := g.rootUuid == some managerId

/-- Read a resource of a plugin's manager from the plugin. -/
def pluginManagerResource (g : Aggregator) (managerId url : String) : Flow Json := do
  let record ← Flow.findResource Inventory.managersTable ("/redfish/v1/Managers/" ++ managerId)
  match (record.get? "Name").bind Json.string? with
  | none => throw (.notFound "Plugin" managerId)
  | some pluginId =>
    let plugin ← Flow.findPlugin pluginId
    let request ← g.authorized plugin .get url
    let outcome ← Flow.contact
      (g.client.contactWithRetry ("error while getting the details " ++ url ++ ": ") request)
    match outcome.json with
    | .error e => throw (.internal e.message)
    | .ok body =>
      let now ← Flow.now
      ExceptT.mk (.done (fillManager record now body))

/-- Read a resource under a manager without a device behind it. -/
def plainManagerResource (g : Aggregator) (managerId table url : String) : Flow Json := do
  match ← Flow.attempt (Flow.findResource table url) with
  | .ok record => return record
  | .error e =>
    if g.isRootManager managerId then
      throw (.internal ("unable to get aggregator manager details: " ++ e.message))
    else if e.isNotFound then g.pluginManagerResource managerId url
    else throw e

/-- The resource as read from the device of a manager. -/
def fetchedResource (g : Aggregator) (managerId uuid table url : String) : Flow Json := do
  let text ← (g.deviceText uuid url).orFail fun _ => .notFound table managerId
  match Json.parse text with
  | .ok v => return v
  | .error e =>
    throw (.internal ("device resource " ++ url ++ " is not valid JSON: " ++ e.message))

/-- Read a resource under the manager of a device. -/
def deviceManagerResource (g : Aggregator) (managerId uuid table url : String) : Flow Json := do
  match ← Flow.attempt (Flow.findResource table url) with
  | .ok record => return stampType table record
  | .error e =>
    if e.isNotFound then return stampType table (← g.fetchedResource managerId uuid table url)
    else throw e

/-- Read a resource under a manager; `member` is the identifier of the member if the URL names one.
-/
def managersResource (g : Aggregator) (managerId : String) (member : Option String) (url : String) :
    Flow Json :=
  match splitManagerId? managerId with
  | none => g.plainManagerResource managerId (resourceTable url member.isSome) url
  | some (uuid, _) => g.deviceManagerResource managerId uuid (resourceTable url member.isSome) url

end Aggregator

end PluginGateway
