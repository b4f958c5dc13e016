import PluginGateway.Config.Basic
import PluginGateway.Config.Environment
import PluginGateway.Toml.Reader

/-!
# Loading a configuration

A configuration is loaded from three layers, each over the one before: the defaults, a file, and the
environment. A file that does not exist is an empty layer. `Config.ofSetting` finds the
configuration in the tree of settings that the layers make together, and `Config.location` is where
the file lies.
-/

namespace PluginGateway

/-! ## Reading the sections -/

namespace TransportSection

/-- The shape of the section. -/
def shape : Extract.RecordShape := ⟨"TransportSection", 4⟩

/-- The section of a setting. -/
def ofSetting : Extract TransportSection := Extract.record shape fun source => do
  let standard : TransportSection := {}
  let scheme := source.field 0 "scheme" Extract.text
  let timeout := source.field 1 "timeout_secs" (Extract.natural 64)
  let insecure := source.field 2 "insecure" Extract.flag
  let caCert := source.field 3 "ca_cert" (Extract.optional Extract.path)
  source.check [Extract.Source.faultOf scheme, Extract.Source.faultOf timeout,
    Extract.Source.faultOf insecure, Extract.Source.faultOf caCert]
  return {
    scheme := (← scheme).getD standard.scheme
    timeoutSecs := (← timeout).getD standard.timeoutSecs
    insecure := (← insecure).getD standard.insecure
    caCert := ← source.spared shape 3 "ca_cert" (← caCert) }

/-- The settings of the section. -/
def toSetting (t : TransportSection) : Setting :=
  .table [("ca_cert", (t.caCert.map Setting.text).getD .absent), ("insecure", .flag t.insecure),
    ("scheme", .text t.scheme), ("timeout_secs", .unsigned t.timeoutSecs)]

end TransportSection

namespace ConversionSection

/-- The shape of the section. -/
def shape : Extract.RecordShape := ⟨"UrlTranslationSection", 2⟩

/-- The section of a setting. -/
def ofSetting : Extract ConversionSection := Extract.record shape fun source => do
  let north := source.field 0 "north_bound" (Extract.optional (Extract.tableOf Extract.text))
  let south := source.field 1 "south_bound" (Extract.optional (Extract.tableOf Extract.text))
  source.check [Extract.Source.faultOf north, Extract.Source.faultOf south]
  return { northBound := (← north).getD none, southBound := (← south).getD none }

end ConversionSection

namespace PollingSection

/-- The shape of the section. -/
def shape : Extract.RecordShape := ⟨"PollingSection", 3⟩

/-- The section of a setting. -/
def ofSetting : Extract PollingSection := Extract.record shape fun source => do
  let standard : PollingSection := {}
  let attempts := source.field 0 "max_retry_attempt" (Extract.natural 32)
  let interval := source.field 1 "retry_interval_secs" (Extract.natural 64)
  let timeout := source.field 2 "response_timeout_secs" (Extract.natural 64)
  source.check [Extract.Source.faultOf attempts, Extract.Source.faultOf interval,
    Extract.Source.faultOf timeout]
  return {
    maxRetryAttempt := (← attempts).getD standard.maxRetryAttempt
    retryIntervalSecs := (← interval).getD standard.retryIntervalSecs
    responseTimeoutSecs := (← timeout).getD standard.responseTimeoutSecs }

/-- The settings of the section. -/
def toSetting (p : PollingSection) : Setting :=
  .table [("max_retry_attempt", .unsigned p.maxRetryAttempt),
    ("response_timeout_secs", .unsigned p.responseTimeoutSecs),
    ("retry_interval_secs", .unsigned p.retryIntervalSecs)]

end PollingSection

namespace PluginEntry

/-- The shape of the entry. -/
def shape : Extract.RecordShape := ⟨"PluginEntry", 6⟩

/-- The entry of a setting. -/
def ofSetting : Extract PluginEntry := Extract.record shape fun source => do
  let ip := source.field 0 "ip" Extract.text
  let port := source.field 1 "port" (Extract.natural 16)
  let username := source.field 2 "username" Extract.text
  let password := source.field 3 "password" (Extract.optional Extract.text)
  let passwordEnv := source.field 4 "password_env" (Extract.optional Extract.text)
  let authName := source.field 5 "preferred_auth_type" Extract.text
  source.check [Extract.Source.faultOf ip, Extract.Source.faultOf port,
    Extract.Source.faultOf username, Extract.Source.faultOf password,
    Extract.Source.faultOf passwordEnv, Extract.Source.faultOf authName]
  return {
    ip := ← source.required shape 0 "ip" (← ip)
    port := (← source.required shape 1 "port" (← port)).toUInt16
    username := ← source.required shape 2 "username" (← username)
    password := ← source.spared shape 3 "password" (← password)
    passwordEnv := ← source.spared shape 4 "password_env" (← passwordEnv)
    authName := (← authName).getD AuthScheme.basic.name }

end PluginEntry

namespace TargetEntry

/-- The shape of the entry. -/
def shape : Extract.RecordShape := ⟨"TargetEntry", 5⟩

/-- The entry of a setting. -/
def ofSetting : Extract TargetEntry := Extract.record shape fun source => do
  let pluginId := source.field 0 "plugin_id" Extract.text
  let managerAddress := source.field 1 "manager_address" Extract.text
  let username := source.field 2 "username" Extract.text
  let password := source.field 3 "password" (Extract.optional Extract.text)
  let passwordEnv := source.field 4 "password_env" (Extract.optional Extract.text)
  source.check [Extract.Source.faultOf pluginId, Extract.Source.faultOf managerAddress,
    Extract.Source.faultOf username, Extract.Source.faultOf password,
    Extract.Source.faultOf passwordEnv]
  return {
    pluginId := ← source.required shape 0 "plugin_id" (← pluginId)
    managerAddress := ← source.required shape 1 "manager_address" (← managerAddress)
    username := ← source.required shape 2 "username" (← username)
    password := ← source.spared shape 3 "password" (← password)
    passwordEnv := ← source.spared shape 4 "password_env" (← passwordEnv) }

end TargetEntry

namespace Config

/-- The shape of the configuration. -/
def shape : Extract.RecordShape := ⟨"Config", 5⟩

/-- The configuration of a setting. -/
def ofSetting : Extract Config := Extract.record shape fun source => do
  let transport := source.field 0 "transport" TransportSection.ofSetting
  let conversion := source.field 1 "url_translation" ConversionSection.ofSetting
  let polling := source.field 2 "plugin_status_polling" PollingSection.ofSetting
  let plugins := source.field 3 "plugins" (Extract.tableOf PluginEntry.ofSetting)
  let targets := source.field 4 "targets" (Extract.tableOf TargetEntry.ofSetting)
  source.check [Extract.Source.faultOf transport, Extract.Source.faultOf conversion,
    Extract.Source.faultOf polling, Extract.Source.faultOf plugins,
    Extract.Source.faultOf targets]
  return {
    transport := (← transport).getD {}
    conversion := (← conversion).getD {}
    polling := (← polling).getD {}
    plugins := (← plugins).getD []
    targets := (← targets).getD [] }

/-- The settings that hold where nothing else is said. -/
def defaults : Setting :=
  .table [("plugin_status_polling", ({} : PollingSection).toSetting), ("plugins", .table []),
    ("targets", .table []), ("transport", ({} : TransportSection).toSetting),
    ("url_translation", .table [])]

/-- The settings of a file; none if the file is no TOML document. -/
def fileSettings? (file : Option ByteArray) : Option Setting :=
  match file with
  | none => some (.table [])
  | some bytes =>
    match String.fromUTF8? bytes with
    | none => none
    | some text => (Toml.parse? text).map fun entries => .ofToml (.table entries)

/-- The settings of all layers. -/
def layered (file : Setting) (env : Environment) : Setting :=
  (defaults.merge file).merge env.settings

/-- Load the configuration of a file, if the file exists, under an environment. -/
def load (file : Option ByteArray) (env : Environment) : Except ConfigError Config :=
  match fileSettings? file with
  | none => .error .unreadable
  | some settings => (ofSetting (layered settings env)).mapError .unfit

end Config

/-! ## Where the configuration is

The configuration lies in the directory that the environment names for configurations, if it names
one by an absolute path, and otherwise in `.config` in the home directory.
-/

/-- A name within a directory. -/
def inDirectory (directory name : String) : String :=
  if directory.toList.getLastD '/' = '/' then directory ++ name else directory ++ "/" ++ name

namespace Config

/-- The directory of configurations. -/
def homeOf (env : Environment) : String :=
  match env.get? "XDG_CONFIG_HOME" with
  | some path => if path.toList.head? = some '/' then path else underHome
  | none => underHome
where
  underHome : String := inDirectory ((env.get? "HOME").getD ".") ".config"

/-- The path of the configuration. -/
def location (env : Environment) : String :=
  inDirectory (inDirectory (homeOf env) "redfly") "config.toml"

end Config

end PluginGateway
