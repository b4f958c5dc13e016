import PluginGateway.Text.Basic

/-!
# Plugins

A plugin is a backend that manages devices and answers requests over HTTP. Its record says where it
is reached, with which credentials, and which of two schemes of authentication it expects: a session
token, or the credentials with every call.
-/

namespace PluginGateway

/-- How a plugin authenticates its callers. -/
inductive AuthScheme where
  /-- By a token that a login issues. -/
  | token
  /-- By user name and password with every call. -/
  | basic
  deriving DecidableEq, Repr

namespace AuthScheme

/-- The name of a scheme. -/
def name : AuthScheme → String
  | token => "XAuthToken"
  | basic => "BasicAuth"

/-- The scheme of a name, in letters of any case. -/
def ofName? (text : String) : Option AuthScheme :=
  [token, basic].find? fun s => Text.sameIgnoringCase text.toList s.name.toList

/-- What is said of a text that names no scheme. -/
def unknownMessage (text : String) : String :=
  "unknown auth type '" ++ text ++ "', expected 'XAuthToken' or 'BasicAuth'"

end AuthScheme

/-- A user name with its password. -/
structure Credentials where
  /-- The user name. -/
  username : String
  /-- The password. -/
  password : String
  deriving DecidableEq, Repr

/-- A backend that manages devices. -/
structure Plugin where
  /-- The name that the plugin is known by. -/
  id : String
  /-- The host under which it is reached. -/
  ip : String
  /-- The port at that host. -/
  port : UInt16
  /-- Its own user name. -/
  username : String
  /-- Its own password. -/
  password : String
  /-- The scheme that it expects. -/
  auth : AuthScheme
  deriving DecidableEq, Repr

namespace Plugin

/-- The plugin expects a session token. -/
def usesToken (p : Plugin) : Bool := p.auth == .token

/-- The plugin's own credentials. -/
def credentials (p : Plugin) : Credentials := ⟨p.username, p.password⟩

end Plugin

end PluginGateway
