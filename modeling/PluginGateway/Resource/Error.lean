import PluginGateway.Contact.Error
import PluginGateway.Json.Reader

/-!
# Failures of a resource flow

Why a flow over resources failed, in terms of the aggregator's caller: a wording, a status to answer
with, and what the plugin itself answered where that is what decided. `FlowError.ofContact` says
what a failed contact amounts to.
-/

namespace PluginGateway

/-- A reason why a flow over resources failed. -/
inductive FlowError where
  /-- There is no such thing. -/
  | notFound (kind identifier : String)
  /-- No session could be created with the plugin. -/
  | sessionUnavailable (pluginId : String)
  /-- The plugin answered with a status other than 200 and 201. -/
  | plugin (status : Nat) (message : String) (body : Json)
  /-- The caller's document is not what it should be. -/
  | invalidRequest (reason : String)
  /-- The password of a device cannot be decrypted. -/
  | decryption (reason : String)
  /-- Any other failure. -/
  | internal (reason : String)

namespace FlowError

/-- The wording of a failure. -/
def message : FlowError → String
  | notFound kind identifier => kind ++ " not found: " ++ identifier
  | sessionUnavailable pluginId => "unable to create session with plugin " ++ pluginId
  | plugin _ message _ => message
  | invalidRequest reason => "request payload validation failed: " ++ reason
  | decryption reason => "error while trying to decrypt device password: " ++ reason
  | internal reason => "Internal error: " ++ reason

/-- The status to answer the caller with. -/
def statusCode : FlowError → Nat
  | notFound _ _ => 404
  | sessionUnavailable _ => 401
  | plugin status _ _ => status
  | invalidRequest _ => 400
  | decryption _ => 500
  | internal _ => 500

/-- A body as a document: what it spells, or else its text as a string. -/
def documentOf (body : ByteArray) : Json :=
  match Json.parseBytes body with
  | .ok v => v
  | .error _ => .string (Text.lossy body)

/-- What a failed contact amounts to. -/
def ofContact : ContactError → FlowError
  | .sessionUnavailable pluginId => sessionUnavailable pluginId
  | .rejected context status body =>
    plugin status (ContactError.rejected context status body).message (documentOf body)
  | e => internal e.message

/-- There is no such thing. -/
def isNotFound : FlowError → Bool
  | notFound _ _ => true
  | _ => false

end FlowError

end PluginGateway
