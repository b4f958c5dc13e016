import PluginGateway.Config.Setting

/-!
# Values out of settings

An `Extract α` finds a value of type `α` in a setting, or a fault: what is wrong, and the keys that
lead there. A record is found in a table by the names of its fields, or in a list by their places.
Where several fields are at fault, the first one counts, in the order of the keys of a table or the
items of a list; a field that is missing counts only when no other is at fault.
-/

namespace PluginGateway

/-- What is wrong with a setting. -/
inductive SettingFault where
  /-- A field must be there and is not. -/
  | missingField (name : String)
  /-- A setting is not of the kind expected. -/
  | invalidType (found expected : String)
  /-- A setting is of the kind expected and out of range. -/
  | invalidValue (found expected : String)
  /-- A list is too short. -/
  | invalidLength (length : Nat) (expected : String)
  deriving DecidableEq, Repr

/-- The wording of a fault. -/
def SettingFault.message : SettingFault → String
  | missingField name => "missing field \x60" ++ name ++ "\x60"
  | invalidType found expected => "invalid type: found " ++ found ++ ", expected " ++ expected
  | invalidValue found expected => "invalid value " ++ found ++ ", expected " ++ expected
  | invalidLength length expected =>
    "invalid length " ++ toString length ++ ", expected " ++ expected

/-- A fault and the keys that lead to it. -/
structure LocatedFault where
  /-- The keys, outermost first. -/
  path : List String
  /-- What is wrong there. -/
  fault : SettingFault
  deriving DecidableEq, Repr

/-- The fault seen from the setting around it. -/
def LocatedFault.within (key : String) (f : LocatedFault) : LocatedFault :=
  { f with path := key :: f.path }

/-- What finds a value in a setting. -/
abbrev Extract (α : Type) : Type := Setting → Except LocatedFault α

namespace Extract

/-- A setting that is not of the kind expected. -/
def mismatch {α : Type} (expected : String) (s : Setting) : Except LocatedFault α :=
  .error ⟨[], .invalidType s.described expected⟩

/-- A text; the second argument says what is expected. -/
def textAs (expected : String) : Extract String
  | .text s => .ok s
  | s => mismatch expected s

/-- A text. -/
def text : Extract String := textAs "a string"

/-- The path of a file. -/
def path : Extract String := textAs "path string"

/-- A truth value. -/
def flag : Extract Bool
  | .flag b => .ok b
  | s => mismatch "a boolean" s

/-- A natural number of so many bits. -/
def natural (bits : Nat) : Extract Nat := fun s =>
  let expected := "u" ++ toString bits
  match s with
  | .unsigned n =>
    if n < Nat.pow 2 bits then .ok n else .error ⟨[], .invalidValue s.described expected⟩
  | .signed n =>
    if 0 ≤ n ∧ n < (Nat.pow 2 bits : Int) then .ok n.toNat
    else .error ⟨[], .invalidValue s.described expected⟩
  | s => mismatch expected s

/-- A value, or nothing. -/
def optional {α : Type} (x : Extract α) : Extract (Option α)
  | .absent => .ok none
  | s => (x s).map some

/-- The values of the entries of a table. -/
def entries {α : Type} (x : Extract α) :
    List (String × Setting) → Except LocatedFault (List (String × α))
  | [] => .ok []
  | (key, s) :: rest =>
    match x s with
    | .error f => .error (f.within key)
    | .ok a => (entries x rest).map fun as => (key, a) :: as

/-- The values of a table by key. -/
def tableOf {α : Type} (x : Extract α) : Extract (List (String × α))
  | .table es => entries x es
  | s => mismatch "a map" s

/-- Where the fields of a record are found. -/
inductive Source where
  /-- In a table, by name. -/
  | named (entries : List (String × Setting))
  /-- In a list, by place. -/
  | listed (items : List Setting)

/-- A kind of record: its name and the number of its fields. -/
structure RecordShape where
  /-- The name of the kind. -/
  title : String
  /-- How many fields it has. -/
  size : Nat

namespace Source

/-- The value of a field, if the field is there. -/
def field {α : Type} (source : Source) (place : Nat) (name : String) (x : Extract α) :
    Except LocatedFault (Option α) :=
  match source with
  | named entries =>
    match entries.lookup name with
    | some s => ((x s).mapError (LocatedFault.within name)).map some
    | none => .ok none
  | listed items =>
    match items[place]? with
    | some s => ((x s).mapError (LocatedFault.within (toString place))).map some
    | none => .ok none

/-- The fault that a field is not there. -/
def missing (source : Source) (shape : RecordShape) (place : Nat) (name : String) : LocatedFault :=
  match source with
  | named _ => ⟨[], .missingField name⟩
  | listed _ =>
    ⟨[], .invalidLength place
      ("struct " ++ shape.title ++ " with " ++ toString shape.size ++ " elements")⟩

/-- The value of a field that must be there. -/
def required {α : Type} (source : Source) (shape : RecordShape) (place : Nat) (name : String)
    (a : Option α) : Except LocatedFault α :=
  match a with
  | some a => .ok a
  | none => .error (source.missing shape place name)

/-- The value of a field that may be left out of a table but not of a list. -/
def spared {α : Type} (source : Source) (shape : RecordShape) (place : Nat) (name : String)
    (a : Option (Option α)) : Except LocatedFault (Option α) :=
  match a, source with
  | some a, _ => .ok a
  | none, named _ => .ok none
  | none, listed _ => .error (source.missing shape place name)

/-- The fault of a field that was found, if it is at fault. -/
def faultOf {α : Type} : Except LocatedFault α → Option LocatedFault
  | .error f => some f
  | .ok _ => none

/-- The fault that counts among those of the fields, which are given in the order of places. -/
def first (source : Source) (faults : List LocatedFault) : Option LocatedFault :=
  match source with
  | listed _ => faults.head?
  | named _ =>
    faults.foldl (fun best f =>
      match best with
      | none => some f
      | some g => if f.path.headD "" < g.path.headD "" then some f else some g) none

/-- Refuse the record if one of its fields is at fault. -/
def check (source : Source) (faults : List (Option LocatedFault)) : Except LocatedFault Unit :=
  match source.first (faults.filterMap id) with
  | some f => .error f
  | none => .ok ()

end Source

/-- A record. -/
def record {α : Type} (shape : RecordShape) (x : Source → Except LocatedFault α) : Extract α
  | .table entries => x (.named entries)
  | .list items => x (.listed items)
  | s => mismatch ("struct " ++ shape.title) s

end Extract

end PluginGateway
