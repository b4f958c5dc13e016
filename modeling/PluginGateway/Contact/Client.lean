import PluginGateway.Contact.Action
import PluginGateway.Contact.Error
import PluginGateway.Json.Reader
import PluginGateway.Path.Conversion
import PluginGateway.Url.Parser

/-!
# A contact with a plugin

`Client.contact` carries out one request: the path is put into the plugin's form, the credentials
are chosen by the plugin's scheme of authentication, and the call is sent. If no response comes
back, the plugin's health decides whether the same call is sent a second and last time. A body that
the plugin answered with success is put into the aggregator's form.
-/

namespace PluginGateway

/-- A request for a resource of a plugin, in the aggregator's form. -/
structure ContactRequest where
  /-- The plugin. -/
  plugin : Plugin
  /-- The method. -/
  method : Method
  /-- The path of the resource in the aggregator's form. -/
  resource : String
  /-- The document to send along. -/
  body : Option Json := none
  /-- The session token. -/
  token : Option String := none
  /-- User name and password. -/
  basic : Option Credentials := none

/-- What a contact brought. -/
structure Outcome where
  /-- The body in the aggregator's form. -/
  body : ByteArray
  /-- The session token that the plugin handed out. -/
  authToken : Option String
  /-- The plugin's status. -/
  status : Nat

namespace Outcome

/-- The body as a text. -/
def text (o : Outcome) : String := Text.lossy o.body

/-- The body as a document. -/
def json (o : Outcome) : Except ContactError Json :=
  match Json.parseBytes o.body with
  | .ok v => .ok v
  | .error e => .error (.deserialization e.message o.text)

end Outcome

/-- How plugins are talked to. -/
structure Client where
  /-- The scheme of the endpoints. -/
  scheme : String
  /-- The conversion between the namespaces. -/
  conversion : Path.Conversion

/-- The endpoint of a path on a plugin, in writing. -/
def endpointText (scheme : String) (plugin : Plugin) (path : String) : String :=
  scheme ++ "://" ++ plugin.ip ++ ":" ++ toString plugin.port.toNat ++ path

/-- The endpoint of a path on a plugin. -/
def endpoint (scheme : String) (plugin : Plugin) (path : String) : Except Url.Fault Url :=
  Url.parse (endpointText scheme plugin path).toList

namespace Client

/-- The path of a resource in the plugin's form. -/
def southPath (c : Client) (resource : String) : String :=
  String.ofList (c.conversion.southPath resource.toList)

/-- The call of a request: the token for a plugin that expects one, the credentials for any other.
-/
def call (c : Client) (r : ContactRequest) : Except Url.Fault Call :=
  match endpoint c.scheme r.plugin (c.southPath r.resource) with
  | .error fault => .error fault
  | .ok url => .ok
    { method := r.method
      url := url
      path := c.southPath r.resource
      token := if r.plugin.usesToken then r.token else none
      basic := if r.plugin.usesToken then none else r.basic
      body := r.body }

/-- Send a call; if no response comes and the plugin is alive, send it once more. -/
def sendGuarded (plugin : Plugin) (call : Call) : Conversation (Except SendFailure Response) := do
  match ← Conversation.send plugin call with
  | .ok response => return .ok response
  | .error failure =>
    if failure.isSilence then
      if ← Conversation.checkHealth plugin then Conversation.send plugin call
      else return .error failure
    else return .error failure

/-- What an exchange amounts to: an outcome for a response that reports success, a failure that
names what was being done otherwise. -/
def concluded (c : Client) (context : String) :
    Except SendFailure Response → Except ContactError Outcome
  | .error failure => .error (.ofSendFailure context failure)
  | .ok response =>
    if response.isSuccess then
      .ok
        { body := c.conversion.northBody response.body
          authToken := response.authToken?
          status := response.status }
    else .error (.rejected context response.status response.body)

/-- Carry out one request. -/
def contact (c : Client) (context : String) (r : ContactRequest) :
    Conversation (Except ContactError Outcome) :=
  match c.call r with
  | .error fault => return .error (.invalidUrl fault)
  | .ok call => do return c.concluded context (← sendGuarded r.plugin call)

end Client

end PluginGateway
