import PluginGateway.Text.Basic

/-!
# Sets and tables of code points

What the Unicode standard says about characters is kept in sets of code points and in tables that
take code points to others. Both are written down as texts.
-/

namespace PluginGateway.Text

/-! ## Sets

The properties of characters are sets of code points. A set is written down as words with blanks
between them: a word is a code point in hexadecimal digits, `5BF`, or a stretch of code points by
its first and last member, `300-36F`.
-/

/-- A set of code points, as stretches given by their first and last members. -/
structure CodePoints where
  /-- The stretches. -/
  stretches : List (Nat × Nat)
  deriving DecidableEq, Repr

namespace CodePoints

/-- The stretch that a word spells. -/
def stretchOf (word : List Char) : Nat × Nat :=
  match (Text.split '-' word).map hexNumber with
  | [n] => (n, n)
  | n :: m :: _ => (n, m)
  | [] => (0, 0)

/-- The set that the words of a text spell. -/
def ofText (s : String) : CodePoints := ⟨(words s.toList).map stretchOf⟩

/-- The code point lies in the set. -/
def contains (s : CodePoints) (n : Nat) : Bool :=
  s.stretches.any fun r => decide (r.1 ≤ n) && decide (n ≤ r.2)

end CodePoints

/-! ## Tables

A table says which code points stand for others. It is written down as words with blanks between
them: `DF:73+73` takes a code point to one or more, `391-3A1:3B1` takes each member of a stretch to
the code point as far behind the given one as the member stands behind the first, and `100-12E/101`
does so for every second member only.
-/

/-- A row of a table: a code point between two others, at a multiple of a step behind the first one,
stands for the targets moved on by its distance from the first one. -/
structure CodeRow where
  /-- The first code point. -/
  first : Nat
  /-- The last code point. -/
  last : Nat
  /-- The distance from one code point of the row to the next. -/
  step : Nat
  /-- What the first code point stands for. -/
  targets : List Nat
  deriving DecidableEq, Repr

namespace CodeRow

/-- What a code point stands for by the row. -/
def find? (r : CodeRow) (n : Nat) : Option (List Nat) :=
  if r.first ≤ n && n ≤ r.last && (n - r.first) % r.step == 0 then
    some (r.targets.map (· + (n - r.first)))
  else none

/-- The row with the step given that the texts before and behind its mark spell. -/
def ofParts (step : Nat) (stretch targets : List Char) : CodeRow :=
  let ends := (Text.split '-' stretch).map hexNumber
  ⟨ends.headD 0, ends.getLastD 0, step, (Text.split '+' targets).map hexNumber⟩

/-- The row that a word spells. -/
def ofWord (word : List Char) : CodeRow :=
  match Text.split ':' word, Text.split '/' word with
  | [stretch, targets], _ => ofParts 1 stretch targets
  | _, [stretch, targets] => ofParts 2 stretch targets
  | _, _ => ⟨1, 0, 1, []⟩

end CodeRow

/-- A table of code points; the first row that knows a code point counts. -/
abbrev CodeTable : Type := List CodeRow

namespace CodeTable

/-- The table that the words of a text spell. -/
def ofText (s : String) : CodeTable := (words s.toList).map CodeRow.ofWord

/-- What a code point stands for. -/
def find? (t : CodeTable) (n : Nat) : Option (List Nat) := t.findSome? fun r => r.find? n

/-- The code point that the first row with the targets given begins with. -/
def source? (t : CodeTable) (targets : List Nat) : Option Nat :=
  (List.find? (fun r => r.targets == targets) t).map CodeRow.first

end CodeTable

end PluginGateway.Text
