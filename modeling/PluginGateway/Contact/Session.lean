import PluginGateway.Contact.Client

/-!
# Sessions with plugins

A plugin that expects tokens is logged into once, and the token it issued is kept and used again
until the plugin answers that it no longer holds. `Client.contactWithRetry` then logs in anew and
repeats the request once. `SessionState` is the small machine behind this: a session that was
refused is renewed by a login, and every other event ends it.
-/

namespace PluginGateway

/-- Where a session with a plugin stands. -/
inductive SessionState where
  /-- The plugin takes the token, as far as is known. -/
  | authenticated
  /-- The plugin refused the token, and a login is under way. -/
  | reauthenticating
  /-- The session is lost. -/
  | failed
  deriving DecidableEq, Repr

namespace SessionState

/-- The plugin refused the token. -/
def onUnauthorized : SessionState → SessionState
  | authenticated => reauthenticating
  | _ => failed

/-- A login ended, with or without a token. -/
def onLogin (obtained : Bool) : SessionState → SessionState
  | reauthenticating => if obtained then authenticated else failed
  | _ => failed

end SessionState

/-- The resource at which a plugin takes logins. -/
def loginPath : String := "/ODIM/v1/Sessions"

/-- What a failed login was doing. -/
def loginContext : String := "error while logging in to plugin: "

namespace Client

/-- The request of a login. -/
def loginRequest (plugin : Plugin) : ContactRequest where
  plugin := plugin
  method := .post
  resource := loginPath
  body := some (.object
    [("Username", .string plugin.username), ("Password", .string plugin.password)])

/-- The token that the outcome of a login carries. -/
def issuedToken? : Except ContactError Outcome → Option String
  | .ok outcome => outcome.authToken
  | .error _ => none

/-- Log in to a plugin. The token it issues is kept in place of the one before. -/
def login (c : Client) (plugin : Plugin) : Conversation (Option String) := do
  match issuedToken? (← c.contact loginContext (loginRequest plugin)) with
  | some token =>
    Conversation.storeToken plugin.id token
    return some token
  | none => return none

/-- The token kept for a plugin, or that of a login. -/
def getToken (c : Client) (plugin : Plugin) : Conversation (Option String) := do
  match ← Conversation.recallToken plugin.id with
  | some token => return some token
  | none => c.login plugin

/-- Go on after a failed request: if the plugin refused the token, log in and repeat the request
once with the new token. Every other failure stands. -/
def retryAfterReauth (c : Client) (context : String) (r : ContactRequest)
    (failure : ContactError) : Conversation (Except ContactError Outcome) :=
  if !failure.isUnauthorized || !r.plugin.usesToken then return .error failure
  else do
    let token ← c.login r.plugin
    match SessionState.authenticated.onUnauthorized.onLogin token.isSome, token with
    | .authenticated, some token => c.contact context { r with token := some token }
    | _, _ => return .error (.sessionUnavailable r.plugin.id)

/-- Carry out a request, and once more after a login if the plugin refused the token. -/
def contactWithRetry (c : Client) (context : String) (r : ContactRequest) :
    Conversation (Except ContactError Outcome) := do
  match ← c.contact context r with
  | .ok outcome => return .ok outcome
  | .error failure => c.retryAfterReauth context r failure

/-- The request with what its plugin authenticates callers by. -/
def authorize (c : Client) (r : ContactRequest) :
    Conversation (Except ContactError ContactRequest) := do
  if r.plugin.usesToken then
    match ← c.getToken r.plugin with
    | some token => return .ok { r with token := some token }
    | none => return .error (.sessionUnavailable r.plugin.id)
  else return .ok { r with basic := some r.plugin.credentials }

end Client

end PluginGateway
