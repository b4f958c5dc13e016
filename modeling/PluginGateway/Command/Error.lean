import PluginGateway.Config.Basic
import PluginGateway.Json.Writer
import PluginGateway.Resource.Error

/-!
# Failures of a command

Why a command failed: a wording, the exit code of the process, a code to search for, and for some
failures a hint. `CommandError.ofFlow` and `CommandError.ofContact` say what a failed flow and a
failed contact amount to.
-/

namespace PluginGateway

/-- A reason why a command failed. -/
inductive CommandError where
  /-- There is no usable configuration. -/
  | config (cause : ConfigError)
  /-- No session could be created with the plugin. -/
  | sessionUnavailable (pluginId : String)
  /-- The plugin did not answer its status. -/
  | pluginDown (pluginId : String)
  /-- The plugin answered with a status other than 200 and 201. -/
  | plugin (status : Nat) (message body : String)
  /-- There is no such thing. -/
  | notFound (kind identifier : String)
  /-- What is given for a field makes no sense. -/
  | invalidValue (field reason : String)
  /-- The document given is no JSON document. -/
  | invalidData (reason : String)
  /-- Any other failure. -/
  | internal (reason : String)

namespace CommandError

/-- The wording of a failure. -/
def message : CommandError → String
  | config cause => cause.message?.getD "the configuration cannot be used"
  | sessionUnavailable pluginId => "unable to create session with plugin " ++ pluginId
  | pluginDown pluginId => "plugin " ++ pluginId ++ " is not responding"
  | plugin _ message _ => message
  | notFound kind identifier => kind ++ " '" ++ identifier ++ "' not found"
  | invalidValue field reason => "Invalid value for " ++ field ++ ": " ++ reason
  | invalidData reason => "Invalid JSON payload: " ++ reason
  | internal reason => reason

/-- The exit code: 2 for the configuration, 3 for a missing session, 4 for a plugin that is down or
refused the request, and 1 for all else. -/
def exitCode : CommandError → Nat
  | config _ => 2
  | sessionUnavailable _ => 3
  | pluginDown _ | plugin _ _ _ => 4
  | notFound _ _ | invalidValue _ _ | invalidData _ | internal _ => 1

/-- The code of a failure. -/
def code : CommandError → String
  | config _ => "redfly::config"
  | sessionUnavailable _ => "redfly::no_session"
  | pluginDown _ => "redfly::plugin_down"
  | plugin _ _ _ => "redfly::plugin_error"
  | notFound _ _ => "redfly::not_found"
  | invalidValue _ _ => "redfly::validation"
  | invalidData _ => "redfly::json"
  | internal _ => "redfly::internal"

/-- A hint at what to do about a failure, or what is known of it. -/
def help? : CommandError → Option String
  | config _ => some
    "Check the configuration file; \x60redfly config-path\x60 shows where it is read from."
  | sessionUnavailable _ => some
    "Verify the plugin's username and password in the configuration."
  | pluginDown _ => some "The status probe got no successful answer from the plugin."
  | plugin status _ body =>
    some ("Plugin answered HTTP " ++ toString status ++ ":\n" ++ body)
  | invalidData _ => some "Check the --data value and try again."
  | notFound _ _ | invalidValue _ _ | internal _ => none

/-- What a failed flow over resources amounts to. -/
def ofFlow : FlowError → CommandError
  | .notFound kind identifier => notFound kind identifier
  | .sessionUnavailable pluginId => sessionUnavailable pluginId
  | .plugin status message body => plugin status message body.pretty
  | .invalidRequest reason => invalidValue "request body" reason
  | e => internal e.message

/-- What a failed contact amounts to. -/
def ofContact (e : ContactError) : CommandError := ofFlow (.ofContact e)

end CommandError

end PluginGateway
