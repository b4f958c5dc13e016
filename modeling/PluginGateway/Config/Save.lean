import PluginGateway.Config.Basic
import PluginGateway.Keyed
import PluginGateway.Toml.Writer

/-!
# Saving a configuration

`Config.document?` is a configuration as a TOML document: settings that may be left out are left
out, and an integer must not be greater than TOML can hold. A `Disk` is a tree of files and
directories that a configuration is saved on; directories that are missing on the way to the file
are made first.
-/

namespace PluginGateway

/-- A text that may be left out. -/
def optionalEntry (key : String) : Option String → List (String × Toml.Value)
  | some s => [(key, .text s)]
  | none => []

namespace TransportSection

/-- The section as a TOML table. -/
def toToml (t : TransportSection) : List (String × Toml.Value) :=
  [("scheme", .text t.scheme), ("timeout_secs", .integer t.timeoutSecs),
    ("insecure", .flag t.insecure)] ++ optionalEntry "ca_cert" t.caCert

end TransportSection

namespace ConversionSection

/-- A table that may be left out. -/
def tableEntry (key : String) : Option (List (String × String)) → List (String × Toml.Value)
  | some t => [(key, .table (t.map fun p => (p.1, .text p.2)))]
  | none => []

/-- The section as a TOML table. -/
def toToml (t : ConversionSection) : List (String × Toml.Value) :=
  tableEntry "north_bound" t.northBound ++ tableEntry "south_bound" t.southBound

end ConversionSection

namespace PollingSection

/-- The section as a TOML table. -/
def toToml (p : PollingSection) : List (String × Toml.Value) :=
  [("max_retry_attempt", .integer p.maxRetryAttempt),
    ("retry_interval_secs", .integer p.retryIntervalSecs),
    ("response_timeout_secs", .integer p.responseTimeoutSecs)]

end PollingSection

namespace PluginEntry

/-- The entry as a TOML table. -/
def toToml (e : PluginEntry) : List (String × Toml.Value) :=
  [("ip", .text e.ip), ("port", .integer e.port.toNat), ("username", .text e.username)]
    ++ optionalEntry "password" e.password ++ optionalEntry "password_env" e.passwordEnv
    ++ [("preferred_auth_type", .text e.authName)]

end PluginEntry

namespace TargetEntry

/-- The entry as a TOML table. -/
def toToml (e : TargetEntry) : List (String × Toml.Value) :=
  [("plugin_id", .text e.pluginId), ("manager_address", .text e.managerAddress),
    ("username", .text e.username)]
    ++ optionalEntry "password" e.password ++ optionalEntry "password_env" e.passwordEnv

end TargetEntry

namespace Config

/-- The first integer that a TOML document cannot hold. -/
def integerBound : Nat := Nat.pow 2 63

/-- The configuration as a TOML table. -/
def toToml (c : Config) : List (String × Toml.Value) :=
  [("transport", .table c.transport.toToml), ("url_translation", .table c.conversion.toToml),
    ("plugin_status_polling", .table c.polling.toToml),
    ("plugins", .table (c.plugins.map fun e => (e.1, .table e.2.toToml))),
    ("targets", .table (c.targets.map fun e => (e.1, .table e.2.toToml)))]

/-- The configuration as a TOML document, unless an integer is too great for one. -/
def document? (c : Config) : Option (List (String × Toml.Value)) :=
  if c.transport.timeoutSecs < integerBound ∧ c.polling.retryIntervalSecs < integerBound
      ∧ c.polling.responseTimeoutSecs < integerBound then
    some c.toToml
  else none

/-- The configuration in writing, unless an integer is too great. -/
def written? (c : Config) : Option String := c.document?.map Toml.written

end Config

/-- What a path leads to. -/
inductive Node where
  /-- A file with its text. -/
  | file (text : String)
  /-- A directory. -/
  | directory
  deriving DecidableEq, Repr

/-- Files and directories by the names that lead to them. The place where all begin is a directory.
-/
abbrev Disk : Type := List (List String × Node)

namespace Disk

/-- What some names lead to. -/
def find? (d : Disk) (names : List String) : Option Node :=
  if names.isEmpty then some .directory else d.lookup names

/-- The names that a path goes through, upward steps carried out. -/
def resolve (names : List String) : List String :=
  names.foldl (fun reached name => if name = ".." then reached.dropLast else reached ++ [name]) []

/-- The parts of a path, without those that lead nowhere else. -/
def parts (path : String) : List String :=
  ((Text.split '/' path.toList).map String.ofList).filter fun name => name != "" && name != "."

/-- Make the directories on the way that leads through some more names. A file in the way ends the
way: answered are whether the way is there, and the disk. -/
def makeDirectories (d : Disk) (walked : List String) : List String → Bool × Disk
  | [] => (true, d)
  | name :: rest =>
    let here := resolve (walked ++ [name])
    match d.find? here with
    | some (.file _) => (false, d)
    | some .directory => makeDirectories d (walked ++ [name]) rest
    | none => makeDirectories (d ++ [(here, .directory)]) (walked ++ [name]) rest

/-- The path ends in the name of a file. -/
def namesFile (path : String) : Bool :=
  let last := ((Text.split '/' path.toList).map String.ofList).getLastD ""
  last != "" && last != "." && last != ".."

/-- The disk with a text in a file, unless a directory is in its place. -/
def write? (d : Disk) (path text : String) : Option Disk :=
  let names := resolve (parts path)
  if !namesFile path then none
  else
    match d.find? names with
    | some .directory => none
    | _ => some (Keyed.put names (.file text) d)

/-- Save a configuration at a path: the text written and the disk after it, or what went wrong, with
the directories made so far. -/
def save (d : Disk) (c : Config) (path : String) : Except ConfigError String × Disk :=
  match d.makeDirectories [] (parts path).dropLast with
  | (false, made) => (.error .io, made)
  | (true, made) =>
    match c.written? with
    | none => (.error .serialization, made)
    | some text =>
      match made.write? path text with
      | none => (.error .io, made)
      | some after => (.ok text, after)

end Disk

end PluginGateway
