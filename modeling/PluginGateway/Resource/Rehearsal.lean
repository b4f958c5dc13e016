import PluginGateway.Contact.Probe
import PluginGateway.Contact.Rehearsal
import PluginGateway.Resource.Action

/-!
# Rehearsed resource flows

A `World` stands in for all that a resource flow asks of its surroundings: a rehearsal of the
network, the inventory, and a clock that stands still. `World.handle` is the handler with which a
flow is rehearsed.
-/

namespace PluginGateway

/-- A stand-in for the surroundings of a resource flow. -/
structure World where
  /-- The network. -/
  network : Rehearsal
  /-- The inventory. -/
  inventory : Inventory
  /-- The time, in writing. -/
  clock : String

namespace World

/-- How the world answers an action. -/
def handle : (a : FlowAction) → World → a.Answer × World
  | .contact action, w =>
    ((Rehearsal.handle action w.network).1,
      { w with network := (Rehearsal.handle action w.network).2 })
  | .findTarget uuid, w => (w.inventory.findTarget uuid, w)
  | .findPlugin id, w => (w.inventory.findPlugin id, w)
  | .findResource table url, w => (w.inventory.findResource table url, w)
  | .storeResource table url record, w =>
    ((w.inventory.storeResource table url record).1,
      { w with inventory := (w.inventory.storeResource table url record).2 })
  | .now, w => (w.clock, w)

/-- The result of a flow and the world after it. -/
def perform {α : Type} (x : FlowProgram α) (w : World) : α × World := x.run handle w

end World

/-- How the probe stands in for one action of a flow. -/
def Probe.insteadInFlow (p : Probe) : (a : FlowAction) → FlowProgram a.Answer
  | .contact action => Flow.converse (p.instead action)
  | a => Program.perform a

/-- A flow in which the probe answers the questions about health. -/
def Probe.answeringFlow {α : Type} (p : Probe) (x : FlowProgram α) : FlowProgram α :=
  x.expand p.insteadInFlow

end PluginGateway
