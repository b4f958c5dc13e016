import PluginGateway.Text.Property
import PluginGateway.Toml.Basic

/-!
# Settings

A configuration is first read as a tree of settings, whatever it was written in: the defaults, a
file and the environment each give one. `Setting.merge` lays one tree over another: tables are
joined entry by entry, and anything else is replaced. The entries of a table are kept in the order
of their keys.
-/

namespace PluginGateway

/-- A setting. -/
inductive Setting where
  /-- Nothing, where something may be left out. -/
  | absent
  /-- A text. -/
  | text (s : String)
  /-- A truth value. -/
  | flag (b : Bool)
  /-- An integer that was written as a natural number. -/
  | unsigned (n : Nat)
  /-- An integer that was written as an integer. -/
  | signed (n : Int)
  /-- A number that need not be an integer. -/
  | float (x : Double)
  /-- A list. -/
  | list (items : List Setting)
  /-- A table, with its entries in the order of their keys. -/
  | table (entries : List (String × Setting))

namespace Setting

/-- The entries with a setting under a key, in the order of the keys. -/
def place (key : String) (s : Setting) : List (String × Setting) → List (String × Setting)
  | [] => [(key, s)]
  | (k, t) :: rest =>
    if key < k then (key, s) :: (k, t) :: rest
    else if key = k then (key, s) :: rest
    else (k, t) :: place key s rest

/-- The table of some entries; of two with one key the later one counts. -/
def ofEntries (entries : List (String × Setting)) : Setting :=
  .table (entries.foldl (fun t e => place e.1 e.2 t) [])

mutual

/-- The second tree laid over the first one. -/
def merge : Setting → Setting → Setting
  | .table below, .table above => .table (mergeEntries below above)
  | _, above => above

/-- The entries of the second list laid over those of the first one. -/
def mergeEntries (below : List (String × Setting)) :
    List (String × Setting) → List (String × Setting)
  | [] => below
  | (key, s) :: rest =>
    mergeEntries
      (place key (match below.lookup key with
        | some t => merge t s
        | none => s) below) rest

end

/-- The key under which a moment is found in the table that stands for it. -/
def momentKey : String := "$__toml_private_datetime"

mutual

/-- The setting of a TOML value. -/
def ofToml : Toml.Value → Setting
  | .text s => .text s
  | .integer n => .signed n
  | .float x => .float x
  | .flag b => .flag b
  | .moment m => .table [(momentKey, .text m)]
  | .array items => .list (ofTomlItems items)
  | .table entries => .table (ofTomlEntries entries)

/-- The settings of the items of an array. -/
def ofTomlItems : List Toml.Value → List Setting
  | [] => []
  | v :: rest => ofToml v :: ofTomlItems rest

/-- The settings of the entries of a table, in the order of their keys. -/
def ofTomlEntries : List (String × Toml.Value) → List (String × Setting)
  | [] => []
  | (key, v) :: rest => place key (ofToml v) (ofTomlEntries rest)

end

/-- A setting as a fault describes it. -/
def described : Setting → String
  | absent => "option"
  | text s => "string " ++ Text.quoted s
  | flag b => "bool " ++ toString b
  | unsigned n => "unsigned int \x60" ++ toString n ++ "\x60"
  | signed n => "signed int \x60" ++ toString n ++ "\x60"
  | float x => "float \x60" ++ x.positional ++ "\x60"
  | list _ => "sequence"
  | table _ => "map"

end Setting

end PluginGateway
