import PluginGateway.Json.Writer
import PluginGateway.Text.Property

/-!
# Payloads

A payload is a document with a fixed set of properties. `Payload.check` accepts an object that gives
the properties by name, or an array that gives them in order of declaration, and answers the object
of the properties given, in order of declaration and with the defaults filled in. `PayloadFault`
says why a document is refused.
-/

namespace PluginGateway

/-- What a property of a payload holds. -/
inductive PropertyKind where
  /-- A string that must be given. -/
  | requiredText
  /-- A string that may be left out or null. -/
  | optionalText
  /-- A truth value, true if left out. -/
  | flag
  deriving DecidableEq, Repr

/-- A kind of payload. -/
structure PayloadShape where
  /-- The name of the kind. -/
  title : String
  /-- The properties in order of declaration. -/
  properties : List (String × PropertyKind)

/-- Why a document is no payload of a kind. -/
inductive PayloadFault where
  /-- A property must be given and is not. -/
  | missingField (name : String)
  /-- A field is no property of the payload. -/
  | unknownField (name : String) (known : List String)
  /-- A value is not what is expected. -/
  | invalidType (found expected : String)
  /-- An array has too few or too many items. -/
  | invalidLength (length : Nat) (expected : String)
  deriving DecidableEq, Repr

namespace PayloadFault

/-- A name in the marks that faults put around it. -/
def marked (name : String) : String := "\x60" ++ name ++ "\x60"

/-- What may come where one of some names is expected. -/
def oneOf : List String → String
  | [] => "there are no fields"
  | [a] => "expected " ++ marked a
  | [a, b] => "expected " ++ marked a ++ " or " ++ marked b
  | names => "expected one of " ++ ", ".intercalate (names.map marked)

/-- The wording of a fault. -/
def message : PayloadFault → String
  | missingField name => "missing field " ++ marked name
  | unknownField name known => "unknown field " ++ marked name ++ ", " ++ oneOf known
  | invalidType found expected => "invalid type: " ++ found ++ ", expected " ++ expected
  | invalidLength length expected =>
    "invalid length " ++ toString length ++ ", expected " ++ expected

end PayloadFault

namespace Payload

/-- A value as a fault describes it. -/
def described : Json → String
  | .null => "null"
  | .bool b => "boolean " ++ PayloadFault.marked (toString b)
  | .number (.double x) =>
    "floating point " ++ PayloadFault.marked (Json.number (.double x)).compact
  | .number n => "integer " ++ PayloadFault.marked (Json.number n).compact
  | .string s => "string " ++ Text.quoted s
  | .array _ => "sequence"
  | .object _ => "map"

/-- The value of a property: none if it counts as left out. -/
def readProperty (kind : PropertyKind) (v : Json) : Except PayloadFault (Option Json) :=
  match kind, v with
  | .requiredText, .string s => .ok (some (.string s))
  | .optionalText, .string s => .ok (some (.string s))
  | .optionalText, .null => .ok none
  | .flag, .bool b => .ok (some (.bool b))
  | .flag, v => .error (.invalidType (described v) "a boolean")
  | _, v => .error (.invalidType (described v) "a string")

/-- The value of a property that was left out; `fault` is the reason if it must be given. -/
def absentProperty (kind : PropertyKind) (fault : PayloadFault) :
    Except PayloadFault (Option Json) :=
  match kind with
  | .requiredText => .error fault
  | .optionalText => .ok none
  | .flag => .ok (some (.bool true))

/-- The properties given by the fields of an object, read in the order of the object. -/
def readFields (shape : PayloadShape) :
    List (String × Json) → Except PayloadFault (List (String × Option Json))
  | [] => .ok []
  | (name, v) :: rest =>
    match shape.properties.lookup name with
    | none => .error (.unknownField name (shape.properties.map Prod.fst))
    | some kind => do
      let value ← readProperty kind v
      return (name, value) :: (← readFields shape rest)

/-- The properties in order of declaration, each with the value given or the one it has when left
out. -/
def completed (given : List (String × Option Json)) :
    List (String × PropertyKind) → Except PayloadFault (List (String × Option Json))
  | [] => .ok []
  | (name, kind) :: rest => do
    let value ← match given.lookup name with
      | some value => .ok value
      | none => absentProperty kind (.missingField name)
    return (name, value) :: (← completed given rest)

/-- The properties given by the items of an array, from the property at an index on. -/
def readItems (shape : PayloadShape) (length : Nat) : Nat → List (String × PropertyKind) →
    List Json → Except PayloadFault (List (String × Option Json))
  | _, [], [] => .ok []
  | _, [], _ :: _ => .error (.invalidLength length "fewer elements in array")
  | index, (name, kind) :: properties, [] => do
    let value ← absentProperty kind (.invalidLength index
      ("struct " ++ shape.title ++ " with " ++ toString shape.properties.length ++ " elements"))
    return (name, value) :: (← readItems shape length (index + 1) properties [])
  | index, (name, kind) :: properties, v :: items => do
    let value ← readProperty kind v
    return (name, value) :: (← readItems shape length (index + 1) properties items)

/-- The properties that a document gives. -/
def properties (shape : PayloadShape) : Json → Except PayloadFault (List (String × Option Json))
  | .object fields => do completed (← readFields shape fields) shape.properties
  | .array items => readItems shape items.length 0 shape.properties items
  | v => .error (.invalidType (described v) ("struct " ++ shape.title))

/-- The properties that have a value, as an object. -/
def toJson (values : List (String × Option Json)) : Json :=
  .object (values.filterMap fun p => p.2.map fun v => (p.1, v))

/-- The payload that a document gives, or why it is none. -/
def check (shape : PayloadShape) (v : Json) : Except PayloadFault Json :=
  (properties shape v).map toJson

end Payload

end PluginGateway
