import PluginGateway.Keyed
import PluginGateway.Number.Double

/-!
# TOML values and the tables of a document

A value of the configuration language TOML. A table holds its entries in the order in which its keys
first came; a moment is a date, a time, or both, in its written form. While a document is read its
tables are a `Tree`, which remembers what made each of them.
-/

namespace PluginGateway.Toml

/-! ## Values -/

/-- A TOML value. -/
inductive Value where
  /-- A string. -/
  | text (s : String)
  /-- An integer. -/
  | integer (n : Int)
  /-- A number that need not be an integer. -/
  | float (x : Double)
  /-- A truth value. -/
  | flag (b : Bool)
  /-- A date, a time, or both. -/
  | moment (written : String)
  /-- A list of values. -/
  | array (items : List Value)
  /-- Values by key. -/
  | table (entries : List (String × Value))

/-- How deep arrays and inline tables may be nested, and how many parts a key may have. -/
def depthLimit : Nat := 79

/-! ## Tables under construction

A TOML document builds its tables piece by piece: by headers, by headers of arrays, and by dotted
keys. Which pieces may follow which is settled here. A table remembers what made it: its own header,
a longer header or dotted key that runs through it. A header makes a table once; dotted keys extend
only tables that dotted keys made; and what was written as a value stays as it is.
-/

/-- What made a table. -/
inductive Origin where
  /-- A header of its own. -/
  | header
  /-- The header of a table within it. -/
  | implied
  /-- A dotted key. -/
  | dotted
  deriving DecidableEq, Repr

/-- A part of a document under construction. -/
inductive Tree where
  /-- A value. -/
  | leaf (v : Value)
  /-- A table. -/
  | table (origin : Origin) (entries : List (String × Tree))
  /-- An array of tables made by headers, the last one first. -/
  | tables (items : List (List (String × Tree)))

namespace Tree

/-- A table that a header made. -/
def emptyTable : Tree := .table .header []

/-- A table with a header of its own. -/
def hasHeader : Tree → Bool
  | .table .header _ => true
  | _ => false

/-- A change of a table, which may be refused. -/
abbrev Change : Type := Origin → List (String × Tree) → Option Tree

/-- A change of the table found along a path. Tables that are not there yet are made, by dotted keys
or by a header; in an array of tables the last one is meant. Dotted keys do not run through a table
that has a header of its own. -/
def along (byDots : Bool) (change : Change) : List String → Tree → Option Tree
  | _, .leaf _ => none
  | _, .tables _ => none
  | [], .table origin entries => change origin entries
  | key :: path, .table origin entries =>
    match entries.lookup key with
    | none =>
      (along byDots change path (.table (if byDots then .dotted else .implied) [])).map fun t =>
        .table origin (Keyed.put key t entries)
    | some (.tables (last :: earlier)) =>
      match along byDots change path (.table .header last) with
      | some (.table _ last) =>
        some (.table origin (Keyed.put key (.tables (last :: earlier)) entries))
      | _ => none
    | some t =>
      if byDots && t.hasHeader then none
      else (along byDots change path t).map fun t => .table origin (Keyed.put key t entries)

/-- Give a key of a table a value. Behind dots the table has to be one that dotted keys made, and
without dots it must not be. -/
def assign (behindDots : Bool) (key : String) (v : Value) : Change := fun origin entries =>
  if (origin == .dotted) == behindDots && (entries.lookup key).isNone then
    some (.table origin (entries ++ [(key, .leaf v)]))
  else none

/-- Give a dotted key a value. -/
def assignAlong (path : List String) (key : String) (v : Value) (t : Tree) : Option Tree :=
  t.along true (assign (!path.isEmpty) key v) path

/-- Make a table by a header. -/
def openTable (key : String) : Change := fun origin entries =>
  match entries.lookup key with
  | none => some (.table origin (entries ++ [(key, emptyTable)]))
  | some (.table .implied inner) =>
    some (.table origin (Keyed.put key (.table .header inner) entries))
  | some _ => none

/-- Add a table to an array of tables by a header. -/
def openItem (key : String) : Change := fun origin entries =>
  match entries.lookup key with
  | none => some (.table origin (entries ++ [(key, .tables [[]])]))
  | some (.tables items) => some (.table origin (Keyed.put key (.tables ([] :: items)) entries))
  | some _ => none

mutual

/-- The value of a part of a document. -/
def toValue : Tree → Value
  | .leaf v => v
  | .table _ entries => .table (entryValues entries)
  | .tables items => .array (itemValues items).reverse

/-- The values of the entries of a table. -/
def entryValues : List (String × Tree) → List (String × Value)
  | [] => []
  | (key, t) :: rest => (key, t.toValue) :: entryValues rest

/-- The values of the tables of an array. -/
def itemValues : List (List (String × Tree)) → List Value
  | [] => []
  | entries :: rest => .table (entryValues entries) :: itemValues rest

end

end Tree

end PluginGateway.Toml
