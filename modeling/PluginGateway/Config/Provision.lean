import PluginGateway.Config.Load
import PluginGateway.Contact.Probe
import PluginGateway.Resource.Inventory

/-!
# What a configuration provides

A configuration provides the things a program runs with: how connections are secured, the
conversion between the namespaces, how plugins are polled, and the inventory. Passwords are looked
up on the way, in the environment first.
-/

namespace PluginGateway

/-- How the certificates of plugins are verified. -/
inductive TlsMode where
  /-- By the authorities that the system trusts. -/
  | system
  /-- By the authority whose certificate a file holds. -/
  | customAuthority (file : String)
  /-- Not at all. -/
  | acceptInvalid
  deriving DecidableEq, Repr

/-- How connections are made. -/
structure TransportPolicy where
  /-- How certificates are verified. -/
  tls : TlsMode
  /-- How many seconds a call may take. -/
  timeoutSecs : Nat
  deriving DecidableEq, Repr

/-- Make ready to connect. The reader of files answers the bytes of a file or why it cannot be read.
-/
def TransportPolicy.prepare (p : TransportPolicy) (readFile : String → Except String ByteArray) :
    Except ContactError Unit :=
  match p.tls with
  | .customAuthority file =>
    match readFile file with
    | .ok _ => .ok ()
    | .error reason => .error (.tls ("failed to read CA cert: " ++ reason))
  | _ => .ok ()

namespace Config

/-- How connections are made. -/
def transportPolicy (c : Config) : TransportPolicy where
  tls :=
    if c.transport.insecure then .acceptInvalid
    else
      match c.transport.caCert with
      | some file => .customAuthority file
      | none => .system
  timeoutSecs := c.transport.timeoutSecs

/-- A configured table as pairs of texts. -/
def tablePairs (table : List (String × String)) : List (List Char × List Char) :=
  table.map fun p => (p.1.toList, p.2.toList)

/-- The conversion between the namespaces. -/
def pathConversion (c : Config) : Path.Conversion where
  north := (c.conversion.northBound.map fun t => .ofPairs (tablePairs t)).getD
    Path.Conversion.standard.north
  south := (c.conversion.southBound.map fun t => .ofPairs (tablePairs t)).getD
    Path.Conversion.standard.south

/-- How plugins are polled. -/
def pollingPolicy (c : Config) : PollingPolicy where
  attempts := c.polling.maxRetryAttempt
  interval := 1000 * c.polling.retryIntervalSecs
  timeout := 1000 * c.polling.responseTimeoutSecs

/-- The password of a plugin or device: that of the variable named for it, if the variable is set,
and else the one that is given. -/
def password (env : Environment) (kind name : String) (source given : Option String) :
    Except ConfigError String :=
  match (source.bind env.get?).or given with
  | some p => .ok p
  | none => .error (.noCredentials kind name)

/-- The plugin of a name. -/
def plugin (c : Config) (env : Environment) (id : String) : Except ConfigError Plugin := do
  match c.plugins.lookup id with
  | none => throw (.unknownPlugin id)
  | some entry =>
    match AuthScheme.ofName? entry.authName with
    | none =>
      throw (.validation ("plugins." ++ id ++ ".preferred_auth_type")
        (AuthScheme.unknownMessage entry.authName))
    | some auth =>
      let password ← password env "plugin" id entry.passwordEnv entry.password
      return { id, ip := entry.ip, port := entry.port, username := entry.username, password, auth }

/-- The device of an identifier. -/
def target (c : Config) (env : Environment) (uuid : String) : Except ConfigError Target := do
  match c.targets.lookup uuid with
  | none => throw (.validation "targets" ("no target with uuid '" ++ uuid ++ "'"))
  | some entry =>
    if (c.plugins.lookup entry.pluginId).isNone then throw (.unknownPlugin entry.pluginId)
    let password ← password env "target" uuid entry.passwordEnv entry.password
    return {
      deviceUuid := uuid
      pluginId := entry.pluginId
      managerAddress := entry.managerAddress
      username := entry.username
      password := password.toUTF8 }

/-- The inventory of all configured plugins and devices. -/
def inventory (c : Config) (env : Environment) : Except ConfigError Inventory := do
  let plugins ← c.plugins.mapM fun e => c.plugin env e.1
  let targets ← c.targets.mapM fun e => c.target env e.1
  return targets.foldl Inventory.insertTarget (plugins.foldl Inventory.insertPlugin .empty)

end Config

end PluginGateway
