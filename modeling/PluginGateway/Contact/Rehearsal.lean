import PluginGateway.Contact.Action
import PluginGateway.Keyed

/-!
# Rehearsed conversations

A `Rehearsal` stands in for the network: it answers the actions of a conversation from replies
prepared beforehand, keeps the session tokens, counts the time that passes, and records every call
that was sent. `Rehearsal.handle` is the handler with which a conversation is rehearsed.
-/

namespace PluginGateway

/-- What is prepared to happen to a call. -/
inductive Reaction where
  /-- The plugin answers. -/
  | respond (response : Response)
  /-- Nobody answers. -/
  | unreachable (reason : String)
  /-- The body of the answer breaks off. -/
  | bodyRead (reason : String)
  /-- The call cannot be carried out. -/
  | transport (cause : String)

/-- A reaction and how many milliseconds it takes. -/
structure Reply where
  /-- What happens. -/
  reaction : Reaction
  /-- How long it takes. -/
  delay : Nat

/-- What comes back for a call. -/
def Reaction.result (call : Call) : Reaction → Except SendFailure Response
  | respond response => .ok response
  | unreachable reason => .error (.unreachable (String.ofList call.url.written) reason)
  | bodyRead reason => .error (.bodyRead reason)
  | transport cause => .error (.transport cause)

/-- A stand-in for the network. -/
structure Rehearsal where
  /-- The replies not yet used. -/
  replies : List Reply
  /-- The answers to questions about health; the last one serves for all that follow. -/
  health : List Bool
  /-- The session tokens kept. -/
  tokens : List (String × String)
  /-- The calls sent so far, each with the plugin that it went to. -/
  calls : List (Plugin × Call)
  /-- How many milliseconds have passed. -/
  waited : Nat
  /-- How often a question about health was asked. -/
  checks : Nat

namespace Rehearsal

/-- The reply when none is left. -/
def exhausted : Reply := ⟨.unreachable "script exhausted", 0⟩

/-- The next reply. -/
def nextReply (s : Rehearsal) : Reply := s.replies.headD exhausted

/-- The answers to questions about health after one was given. -/
def laterHealth : List Bool → List Bool
  | _ :: b :: rest => b :: rest
  | health => health

/-- The state after a call was sent and so much time has passed. -/
def sent (s : Rehearsal) (plugin : Plugin) (call : Call) (elapsed : Nat) : Rehearsal :=
  { s with
    replies := s.replies.tail
    calls := s.calls ++ [(plugin, call)]
    waited := s.waited + elapsed }

/-- How a rehearsal answers an action. -/
def handle : (a : Action) → Rehearsal → a.Answer × Rehearsal
  | .send plugin call, s =>
    (s.nextReply.reaction.result call, s.sent plugin call s.nextReply.delay)
  | .sendWithin limit plugin call, s =>
    if s.nextReply.delay ≤ limit then
      (some (s.nextReply.reaction.result call), s.sent plugin call s.nextReply.delay)
    else (none, s.sent plugin call limit)
  | .wait duration, s => ((), { s with waited := s.waited + duration })
  | .checkHealth _, s =>
    (s.health.headD true, { s with health := laterHealth s.health, checks := s.checks + 1 })
  | .recallToken pluginId, s => (s.tokens.lookup pluginId, s)
  | .storeToken pluginId token, s => ((), { s with tokens := Keyed.put pluginId token s.tokens })

end Rehearsal

end PluginGateway
