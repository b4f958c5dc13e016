import PluginGateway.Contact.Session
import PluginGateway.Resource.Inventory

/-!
# What a resource flow asks of its surroundings

A flow over resources is a program over the actions of contacts and those on the inventory, which
may end with an error. `Flow` is the type of such programs; a contact is carried out within a flow
by `Flow.contact`, whose failure becomes the failure of the flow.
-/

namespace PluginGateway

/-- An action that a resource flow asks for. -/
inductive FlowAction where
  /-- An action of a contact. -/
  | contact (action : Action)
  /-- Look up a device. -/
  | findTarget (uuid : String)
  /-- Look up a plugin. -/
  | findPlugin (id : String)
  /-- Look up a stored resource. -/
  | findResource (table url : String)
  /-- Store a resource. -/
  | storeResource (table url : String) (record : Json)
  /-- Ask for the time. -/
  | now

/-- The answer to an action. -/
abbrev FlowAction.Answer : FlowAction → Type
  | contact action => action.Answer
  | findTarget _ => Except FlowError Target
  | findPlugin _ => Except FlowError Plugin
  | findResource _ _ => Except FlowError Json
  | storeResource _ _ _ => Except FlowError Unit
  | now => String

/-- A program over the actions of resource flows. -/
abbrev FlowProgram (α : Type) : Type := Program FlowAction FlowAction.Answer α

/-- A flow over resources, which may end with an error. -/
abbrev Flow (α : Type) : Type := ExceptT FlowError (Program FlowAction FlowAction.Answer) α

namespace Flow

/-- A conversation within a flow. -/
def converse {α : Type} (x : Conversation α) : FlowProgram α :=
  x.embed FlowAction.contact fun _ r => r

/-- A contact within a flow. -/
def contact {α : Type} (x : Conversation (Except ContactError α)) : Flow α :=
  ExceptT.mk ((converse x).bind fun r => .done (r.mapError FlowError.ofContact))

/-- The device of an identifier. -/
def findTarget (uuid : String) : Flow Target :=
  ExceptT.mk (Program.perform (FlowAction.findTarget uuid))

/-- The plugin of a name. -/
def findPlugin (id : String) : Flow Plugin :=
  ExceptT.mk (Program.perform (FlowAction.findPlugin id))

/-- The stored resource of a table and a URL. -/
def findResource (table url : String) : Flow Json :=
  ExceptT.mk (Program.perform (FlowAction.findResource table url))

/-- Store a resource. -/
def storeResource (table url : String) (record : Json) : Flow Unit :=
  ExceptT.mk (Program.perform (FlowAction.storeResource table url record))

/-- The time, in writing. -/
def now : Flow String := ExceptT.lift (Program.perform FlowAction.now)

/-- The result of a flow, or its error, as the result of a flow that does not fail. -/
def attempt {α : Type} (x : Flow α) : Flow (Except FlowError α) := ExceptT.lift x.run

/-- The flow with its error replaced. -/
def orFail {α : Type} (x : Flow α) (f : FlowError → FlowError) : Flow α :=
  ExceptT.mk (x.run.bind fun r => .done (r.mapError f))

end Flow

/-- How plugins are talked to, and how stored passwords become those of the devices. -/
structure Aggregator where
  /-- The client for plugins. -/
  client : Client
  /-- The password behind a stored one. -/
  decrypt : ByteArray → Except FlowError ByteArray
  /-- The identifier of the aggregator's own manager, which has no plugin behind it. -/
  rootUuid : Option String

namespace Aggregator

/-- A request to a plugin with what the plugin authenticates callers by. -/
def authorized (g : Aggregator) (plugin : Plugin) (method : Method) (resource : String) :
    Flow ContactRequest :=
  Flow.contact (g.client.authorize { plugin, method, resource })

end Aggregator

end PluginGateway
