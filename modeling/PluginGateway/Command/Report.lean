import PluginGateway.Command.Basic
import PluginGateway.Config.Load
import PluginGateway.Config.Provision
import PluginGateway.Resource.Device
import PluginGateway.Resource.Rehearsal

/-!
# Carrying out a command

A command is carried out with the equipment that a configuration amounts to: an aggregator, a status
probe and an inventory. `Command.flow` is the command as a program over the actions of resource
flows, with the text to print as its result. A `Report` is what a process shows at its end: what it
printed and its exit code, with the error if it failed.
-/

namespace PluginGateway

/-- What a command is carried out with. -/
structure Equipment where
  /-- How plugins are talked to. -/
  aggregator : Aggregator
  /-- How plugins are asked whether they are alive. -/
  probe : Probe
  /-- The plugins and devices. -/
  inventory : Inventory

/-- The equipment that a configuration amounts to. Connections are made ready first. -/
def Config.equipment (c : Config) (env : Environment)
    (readFile : String → Except String ByteArray) : Except CommandError Equipment := do
  c.transportPolicy.prepare readFile |>.mapError CommandError.ofContact
  let inventory ← (c.inventory env).mapError CommandError.config
  return {
    aggregator := ⟨⟨c.transport.scheme, c.pathConversion⟩, .ok, none⟩
    probe := ⟨c.transport.scheme, c.pollingPolicy⟩
    inventory := inventory }

/-- A part of a command that may end with an error. -/
abbrev CommandFlow (α : Type) : Type :=
  ExceptT CommandError (Program FlowAction FlowAction.Answer) α

namespace CommandFlow

/-- A flow over resources within a command. -/
def ofFlow {α : Type} (x : Flow α) : CommandFlow α :=
  ExceptT.mk (x.run.bind fun r => .done (r.mapError CommandError.ofFlow))

/-- A conversation within a command. -/
def converse {α : Type} (x : Conversation α) : CommandFlow α := ExceptT.lift (Flow.converse x)

end CommandFlow

namespace Command

/-- Create a session with a plugin. -/
def loginFlow (g : Aggregator) (id : String) : CommandFlow String := do
  let plugin ← CommandFlow.ofFlow (Flow.findPlugin id)
  match ← CommandFlow.converse (g.client.login plugin) with
  | some _ => return "Session created with plugin " ++ id ++ " (token cached)\n"
  | none => throw (.sessionUnavailable plugin.id)

/-- Ask a plugin whether it is alive. -/
def statusFlow (id : String) : CommandFlow String := do
  let plugin ← CommandFlow.ofFlow (Flow.findPlugin id)
  if ← CommandFlow.converse (Conversation.checkHealth plugin) then return id ++ ": alive\n"
  else throw (.pluginDown plugin.id)

/-- What was being done when a contact failed. -/
def contactContext (id : String) : String := "error while contacting plugin " ++ id ++ ": "

/-- Send a request to a plugin. -/
def contactFlow (g : Aggregator) (id path : String) (options : RequestOptions) :
    CommandFlow String := do
  let (method, body) ← ExceptT.mk (.done options.read)
  let plugin ← CommandFlow.ofFlow (Flow.findPlugin id)
  let request ← CommandFlow.ofFlow
    (Flow.contact (g.client.authorize { plugin, method, resource := path, body }))
  let outcome ← CommandFlow.ofFlow
    (Flow.contact (g.client.contactWithRetry (contactContext id) request))
  return printed outcome.text

/-- Send a request to a device. -/
def deviceFlow (g : Aggregator) (uuid url : String) (options : RequestOptions) :
    CommandFlow String := do
  let (method, body) ← ExceptT.mk (.done options.read)
  let response ← CommandFlow.ofFlow (g.deviceRequest { uuid, url, method, body })
  return printed response.body

/-- A command with the text to print as its result. Saying where the configuration is takes no
action and is not done here. -/
def flow (g : Aggregator) : Command → CommandFlow String
  | login plugin => loginFlow g plugin
  | status plugin => statusFlow plugin
  | contact plugin path request => contactFlow g plugin path request
  | device uuid url request => deviceFlow g uuid url request
  | configPath => return ""

end Command

/-- What a process shows at its end. -/
structure Report where
  /-- What it printed. -/
  output : String
  /-- Why it failed, if it did. -/
  error? : Option CommandError

namespace Report

/-- The report on a result: a failure prints nothing. -/
def ofResult : Except CommandError String → Report
  | .ok output => ⟨output, none⟩
  | .error e => ⟨"", some e⟩

/-- The exit code of the process. -/
def exitCode (r : Report) : Nat := (r.error?.map CommandError.exitCode).getD 0

end Report

namespace Invocation

/-- The path of the configuration. -/
def location (i : Invocation) (env : Environment) : String := i.config.getD (Config.location env)

/-- The equipment for an invocation, out of its configuration. A configuration that cannot be read
is taken for one that does not exist. -/
def equipment (i : Invocation) (env : Environment) (readFile : String → Except String ByteArray) :
    Except CommandError Equipment := do
  let config ← (Config.load (readFile (i.location env)).toOption env).mapError CommandError.config
  config.equipment env readFile

/-- What is to be done for an invocation: print a text, or carry out a flow in an inventory. -/
def plan (i : Invocation) (env : Environment) (readFile : String → Except String ByteArray) :
    Except CommandError (String ⊕ (Inventory × FlowProgram (Except CommandError String))) :=
  match i.command with
  | .configPath => .ok (.inl (i.location env ++ "\n"))
  | command => do
    let equipment ← i.equipment env readFile
    return .inr (equipment.inventory,
      equipment.probe.answeringFlow (command.flow equipment.aggregator).run)

/-- An invocation carried out against a rehearsed network: the report and the network after it. -/
def rehearse (i : Invocation) (env : Environment) (readFile : String → Except String ByteArray)
    (network : Rehearsal) : Report × Rehearsal :=
  match i.plan env readFile with
  | .error e => (.ofResult (.error e), network)
  | .ok (.inl text) => (.ofResult (.ok text), network)
  | .ok (.inr (inventory, program)) =>
    let (result, world) := World.perform program ⟨network, inventory, ""⟩
    (.ofResult result, world.network)

end Invocation

end PluginGateway
