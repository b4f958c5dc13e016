import PluginGateway.Program
import PluginGateway.Contact.Message

/-!
# What a contact asks of its surroundings

A contact with a plugin is a program over a few actions: to send a call, to wait, to ask whether a
plugin is alive, and to look up or keep the session token of a plugin. `Conversation` is the type of
such programs.
-/

namespace PluginGateway

/-- An action that a contact asks for. -/
inductive Action where
  /-- Send a call to a plugin. -/
  | send (plugin : Plugin) (call : Call)
  /-- Send a call to a plugin and wait for the answer for so many milliseconds. -/
  | sendWithin (limit : Nat) (plugin : Plugin) (call : Call)
  /-- Let so many milliseconds pass. -/
  | wait (duration : Nat)
  /-- Ask whether a plugin is alive. -/
  | checkHealth (plugin : Plugin)
  /-- Look up the session token kept for a plugin. -/
  | recallToken (pluginId : String)
  /-- Keep a session token for a plugin in place of the one before. -/
  | storeToken (pluginId token : String)

/-- The answer to an action. -/
abbrev Action.Answer : Action → Type
  | send _ _ => Except SendFailure Response
  | sendWithin _ _ _ => Option (Except SendFailure Response)
  | wait _ => Unit
  | checkHealth _ => Bool
  | recallToken _ => Option String
  | storeToken _ _ => Unit

/-- A program over the actions of a contact. -/
abbrev Conversation (α : Type) : Type := Program Action Action.Answer α

namespace Conversation

/-- Send a call and answer what comes back. -/
def send (plugin : Plugin) (call : Call) : Conversation (Except SendFailure Response) :=
  Program.perform (Action.send plugin call)

/-- Send a call and answer what comes back in time. -/
def sendWithin (limit : Nat) (plugin : Plugin) (call : Call) :
    Conversation (Option (Except SendFailure Response)) :=
  Program.perform (Action.sendWithin limit plugin call)

/-- Let time pass. -/
def wait (duration : Nat) : Conversation Unit := Program.perform (Action.wait duration)

/-- Ask whether a plugin is alive. -/
def checkHealth (plugin : Plugin) : Conversation Bool := Program.perform (Action.checkHealth plugin)

/-- The session token kept for a plugin. -/
def recallToken (pluginId : String) : Conversation (Option String) :=
  Program.perform (Action.recallToken pluginId)

/-- Keep a session token for a plugin. -/
def storeToken (pluginId token : String) : Conversation Unit :=
  Program.perform (Action.storeToken pluginId token)

end Conversation

end PluginGateway
