import PluginGateway.Contact.Client

/-!
# The status probe

A plugin counts as alive if it answers its status resource with a status of the two hundreds. The
probe asks for it a few times, each time waiting for an answer only so long, and pauses between two
attempts. `Probe.instead` is what it does where a conversation asks about health.
-/

namespace PluginGateway

/-- How often and how patiently a plugin is asked for its status. All times are in milliseconds. -/
structure PollingPolicy where
  /-- How many attempts are made; one is made in any case. -/
  attempts : Nat
  /-- The pause between two attempts. -/
  interval : Nat
  /-- How long an attempt waits for its answer. -/
  timeout : Nat
  deriving DecidableEq, Repr

/-- The resource at which a plugin answers its status. -/
def statusPath : String := "/ODIM/v1/Status"

/-- A way to find out whether a plugin is alive. -/
structure Probe where
  /-- The scheme of the endpoints. -/
  scheme : String
  /-- How often and how patiently. -/
  policy : PollingPolicy

namespace Probe

/-- The call for a plugin's status, with the plugin's own credentials. -/
def call (p : Probe) (plugin : Plugin) : Except Url.Fault Call :=
  match endpoint p.scheme plugin statusPath with
  | .error fault => .error fault
  | .ok url => .ok
    { method := .get
      url := url
      path := statusPath
      token := none
      basic := some plugin.credentials
      body := none }

/-- An answer in time whose status is in the two hundreds. -/
def showsLife : Option (Except SendFailure Response) → Bool
  | some (.ok response) => 200 ≤ response.status && response.status < 300
  | _ => false

/-- One attempt. -/
def once (p : Probe) (plugin : Plugin) : Conversation Bool :=
  match p.call plugin with
  | .error _ => return false
  | .ok call => do return showsLife (← Conversation.sendWithin p.policy.timeout plugin call)

/-- One attempt, and up to `further` more with a pause before each. -/
def attempts (p : Probe) (plugin : Plugin) : Nat → Conversation Bool
  | 0 => p.once plugin
  | further + 1 => do
    if ← p.once plugin then return true
    else
      Conversation.wait p.policy.interval
      p.attempts plugin further

/-- Find out whether a plugin is alive. -/
def isAlive (p : Probe) (plugin : Plugin) : Conversation Bool :=
  p.attempts plugin (p.policy.attempts - 1)

/-- How the probe stands in for one action: it answers the questions about health. -/
def instead (p : Probe) : (a : Action) → Conversation a.Answer
  | .checkHealth plugin => p.isAlive plugin
  | a => Program.perform a

end Probe

end PluginGateway
