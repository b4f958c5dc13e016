import PluginGateway.Contact.Message
import PluginGateway.Url.Basic

/-!
# Failures of a contact

Why a contact with a plugin failed, with the wording of each reason and the status that stands for
it. A reason that names what was being done carries that as its context, in front of its wording.
-/

namespace PluginGateway

/-- A reason why a contact failed. -/
inductive ContactError where
  /-- No session could be created with the plugin. -/
  | sessionUnavailable (pluginId : String)
  /-- The call could not be carried out. -/
  | transport (context cause : String)
  /-- Nobody answered at the endpoint. -/
  | unreachable (context endpoint reason : String)
  /-- A response came, and its body broke off. -/
  | bodyRead (context reason : String)
  /-- The endpoint is no URL. -/
  | invalidUrl (fault : Url.Fault)
  /-- The connection cannot be secured. -/
  | tls (reason : String)
  /-- The plugin answered with a status other than 200 and 201. -/
  | rejected (context : String) (status : Nat) (body : ByteArray)
  /-- The body of a response is no JSON document. -/
  | deserialization (reason body : String)

/-- A status with the word for it. -/
structure Status where
  /-- The status. -/
  code : Nat
  /-- The word for it. -/
  message : String
  deriving DecidableEq, Repr

namespace ContactError

/-- The failure of an exchange, in the context of what was being done. -/
def ofSendFailure (context : String) : SendFailure → ContactError
  | .transport cause => transport context cause
  | .unreachable endpoint reason => unreachable context endpoint reason
  | .bodyRead reason => bodyRead context reason

/-- The wording of a failure. -/
def message : ContactError → String
  | sessionUnavailable pluginId => "unable to create session with plugin " ++ pluginId
  | transport context cause => context ++ cause
  | unreachable context endpoint reason =>
    context ++ "plugin unreachable at " ++ endpoint ++ ": " ++ reason
  | bodyRead context reason =>
    context ++ "error while trying to read response body: " ++ reason
  | invalidUrl fault => "Invalid URL: " ++ fault.message
  | tls reason => "TLS error: " ++ reason
  | rejected context status _ => context ++ "plugin returned HTTP " ++ toString status
  | deserialization reason _ => "Deserialization error: " ++ reason

/-- The status that stands for a failure: the plugin's own where it answered. -/
def status : ContactError → Status
  | sessionUnavailable _ => ⟨401, "NoValidSession"⟩
  | rejected _ status _ => ⟨status, "GeneralError"⟩
  | _ => ⟨500, "InternalError"⟩

/-- The plugin answered that the caller is not authorised. -/
def isUnauthorized : ContactError → Bool
  | rejected _ status _ => status == 401
  | _ => false

/-- The call never produced a response. -/
def isSilence : ContactError → Bool
  | transport _ _ | unreachable _ _ _ => true
  | _ => false

/-- What the plugin answered, if it did. -/
def body? : ContactError → Option ByteArray
  | rejected _ _ body => some body
  | _ => none

theorem isUnauthorized_ofSendFailure (context : String) (f : SendFailure) :
    (ofSendFailure context f).isUnauthorized = false := by
  cases f <;> rfl

end ContactError

end PluginGateway
