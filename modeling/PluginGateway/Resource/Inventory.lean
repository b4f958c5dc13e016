import PluginGateway.Contact.Plugin
import PluginGateway.Keyed
import PluginGateway.Resource.Error

/-!
# The inventory

What the aggregator knows: the plugins, the devices behind them, and the resources it has stored,
each in a table under its URL. The records of managers are stored in a table of their own. A store
may refuse to be read or written; the inventory says which errors that gives. The lemmas say what a
stored resource does to later reads.
-/

namespace PluginGateway

/-- A managed device, reached through a plugin. -/
structure Target where
  /-- The device's own identifier. -/
  deviceUuid : String
  /-- The plugin that it is reached through. -/
  pluginId : String
  /-- The address of its management controller. -/
  managerAddress : String
  /-- The user name there. -/
  username : String
  /-- The password there, as stored. -/
  password : ByteArray

/-- What the aggregator knows. -/
structure Inventory where
  /-- The plugins by name. -/
  plugins : List (String × Plugin)
  /-- The devices by identifier. -/
  targets : List (String × Target)
  /-- The stored resources by table and URL. -/
  resources : List ((String × String) × Json)
  /-- The error of reading a resource, if reading it fails. -/
  readFault : String → String → Option FlowError
  /-- The error of storing a resource, if storing it fails. -/
  writeFault : String → String → Option FlowError

namespace Inventory

/-- The table of the managers' records. -/
def managersTable : String := "Managers"

/-- An inventory without any record. -/
def empty : Inventory := ⟨[], [], [], fun _ _ => none, fun _ _ => none⟩

/-- The inventory with a plugin under its name. -/
def insertPlugin (i : Inventory) (p : Plugin) : Inventory :=
  { i with plugins := Keyed.put p.id p i.plugins }

/-- The inventory with a device under its identifier. -/
def insertTarget (i : Inventory) (t : Target) : Inventory :=
  { i with targets := Keyed.put t.deviceUuid t i.targets }

/-- The inventory with a resource in a table. -/
def insertResource (i : Inventory) (table url : String) (record : Json) : Inventory :=
  { i with resources := Keyed.put (table, url) record i.resources }

/-- The names of the plugins in order. -/
def pluginIds (i : Inventory) : List String :=
  (i.plugins.map Prod.fst).mergeSort fun a b => decide (a ≤ b)

/-- The plugin of a name. -/
def findPlugin (i : Inventory) (id : String) : Except FlowError Plugin :=
  match i.plugins.lookup id with
  | some p => .ok p
  | none => .error (.notFound "Plugin" id)

/-- The device of an identifier. -/
def findTarget (i : Inventory) (uuid : String) : Except FlowError Target :=
  match i.targets.lookup uuid with
  | some t => .ok t
  | none => .error (.notFound "Target" uuid)

/-- The resource that a table holds for a URL. -/
def findResource (i : Inventory) (table url : String) : Except FlowError Json :=
  match i.readFault table url with
  | some e => .error e
  | none =>
    match i.resources.lookup (table, url) with
    | some v => .ok v
    | none => .error (.notFound table url)

/-- Store a resource in a table. -/
def storeResource (i : Inventory) (table url : String) (record : Json) :
    Except FlowError Unit × Inventory :=
  match i.writeFault table url with
  | some e => (.error e, i)
  | none => (.ok (), i.insertResource table url record)

/-- What was stored is read back. -/
theorem findResource_insertResource_self (i : Inventory) (table url : String) (record : Json)
    (h : i.readFault table url = none) :
    (i.insertResource table url record).findResource table url = .ok record := by
  simp only [findResource, insertResource, h, Keyed.lookup_put_self]

end Inventory

end PluginGateway
