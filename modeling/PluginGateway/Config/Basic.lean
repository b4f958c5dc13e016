import PluginGateway.Contact.Plugin
import PluginGateway.Config.Extract

/-!
# The configuration

What a configuration says: how plugins are connected to, how paths are converted, how the health of
plugins is polled, and which plugins and devices there are. `ConfigError` lists what can go wrong
with a configuration.
-/

namespace PluginGateway

/-- How plugins are connected to. -/
structure TransportSection where
  /-- The scheme of the endpoints. -/
  scheme : String := "https"
  /-- How many seconds a call may take. -/
  timeoutSecs : Nat := 30
  /-- Any certificate is accepted. -/
  insecure : Bool := false
  /-- The file with the certificate of the authority that signed those of the plugins. -/
  caCert : Option String := none
  deriving DecidableEq, Repr

/-- How paths are converted. A table left out keeps its default; one that is there replaces it. -/
structure ConversionSection where
  /-- From the plugin's form to the aggregator's. -/
  northBound : Option (List (String × String)) := none
  /-- From the aggregator's form to the plugin's. -/
  southBound : Option (List (String × String)) := none
  deriving DecidableEq, Repr

/-- How the health of plugins is polled. -/
structure PollingSection where
  /-- How many attempts are made. -/
  maxRetryAttempt : Nat := 3
  /-- The seconds between two attempts. -/
  retryIntervalSecs : Nat := 1
  /-- How many seconds an attempt waits for its answer. -/
  responseTimeoutSecs : Nat := 3
  deriving DecidableEq, Repr

/-- What is said of a plugin. -/
structure PluginEntry where
  /-- The host. -/
  ip : String
  /-- The port. -/
  port : UInt16
  /-- The user name. -/
  username : String
  /-- The password. -/
  password : Option String
  /-- The variable of the environment that holds the password. -/
  passwordEnv : Option String
  /-- The name of the scheme of authentication. -/
  authName : String
  deriving DecidableEq, Repr

/-- What is said of a device. -/
structure TargetEntry where
  /-- The plugin that the device is reached through. -/
  pluginId : String
  /-- The address of its management controller. -/
  managerAddress : String
  /-- The user name there. -/
  username : String
  /-- The password there. -/
  password : Option String
  /-- The variable of the environment that holds the password. -/
  passwordEnv : Option String
  deriving DecidableEq, Repr

/-- A configuration. -/
structure Config where
  /-- How plugins are connected to. -/
  transport : TransportSection := {}
  /-- How paths are converted. -/
  conversion : ConversionSection := {}
  /-- How the health of plugins is polled. -/
  polling : PollingSection := {}
  /-- The plugins by name, in the order of their names. -/
  plugins : List (String × PluginEntry) := []
  /-- The devices by identifier, in the order of the identifiers. -/
  targets : List (String × TargetEntry) := []
  deriving DecidableEq, Repr

/-- What can go wrong with a configuration. -/
inductive ConfigError where
  /-- A setting makes no sense. -/
  | validation (field reason : String)
  /-- There is no password for a plugin or device. -/
  | noCredentials (kind name : String)
  /-- There is no plugin of a name. -/
  | unknownPlugin (id : String)
  /-- The file is no TOML document. -/
  | unreadable
  /-- The settings do not make a configuration. -/
  | unfit (fault : LocatedFault)
  /-- The configuration cannot be written as a TOML document. -/
  | serialization
  /-- A file cannot be written. -/
  | io
  deriving DecidableEq, Repr

/-- The wording of an error of which the program itself says more than its kind. -/
def ConfigError.message? : ConfigError → Option String
  | validation field reason => some ("invalid " ++ field ++ ": " ++ reason)
  | noCredentials kind name =>
    some ("no password configured for " ++ kind ++ " '" ++ name ++ "'")
  | unknownPlugin id => some ("unknown plugin '" ++ id ++ "'")
  | _ => none

end PluginGateway
