import PluginGateway.Text.Basic
import PluginGateway.Toml.Moment

/-!
# Words in TOML

A value that is neither a string nor in brackets is a word: a truth value, a number or a moment.
Numbers may group their digits by underscores, each between two digits. `Word.value?` says what a
word stands for.
-/

namespace PluginGateway.Toml.Word

/-- A character of a word. -/
def isWordChar (c : Char) : Bool :=
  c.isAlphanum || c == '_' || c == '+' || c == '-' || c == '.' || c == ':'

/-- The word at the head of a text and what follows it. A blank after a date belongs to the word if
a time follows it. -/
def take (s : List Char) : List Char × List Char :=
  let word := s.takeWhile isWordChar
  let rest := s.dropWhile isWordChar
  match readDate? word, rest with
  | some (_, []), ' ' :: after =>
    let time := after.takeWhile isWordChar
    if (readTime? time).isSome then (word ++ ' ' :: time, after.dropWhile isWordChar)
    else (word, rest)
  | _, _ => (word, rest)

/-- The digits without the underscores that group them, if each stands between two digits. -/
def ungrouped? (isDigit : Char → Bool) (s : List Char) : Option (List Char) :=
  let groups := Text.split '_' s
  if groups.all fun g => !g.isEmpty && g.all isDigit then some groups.flatten else none

/-- The digits begin with a zero that another digit follows. -/
def hasLeadingZero : List Char → Bool
  | '0' :: _ :: _ => true
  | _ => false

/-- The natural number that digits of a base spell. -/
def natural? (base : Nat) (s : List Char) : Option Nat :=
  let isDigit (c : Char) : Bool := ((Text.hexValue? c).map fun d => decide (d < base)).getD false
  (ungrouped? isDigit s).map fun digits =>
    digits.foldl (fun n c => base * n + (Text.hexValue? c).getD 0) 0

/-- The integer that a word spells: decimal with or without a sign, or natural in another base. -/
def integer? (s : List Char) : Option Int :=
  match s with
  | '0' :: 'x' :: rest => (natural? 16 rest).map Int.ofNat
  | '0' :: 'o' :: rest => (natural? 8 rest).map Int.ofNat
  | '0' :: 'b' :: rest => (natural? 2 rest).map Int.ofNat
  | s =>
    let (negative, digits) := DecimalText.splitSign s
    if hasLeadingZero (digits.filter (· != '_')) then none
    else (natural? 10 digits).map fun n => if negative then -(n : Int) else n

/-- The integer that a word spells, if 64 bits hold it. -/
def boundedInteger? (s : List Char) : Option Int :=
  (integer? s).filter fun n =>
    decide (-(Nat.pow 2 63 : Int) ≤ n) && decide (n < (Nat.pow 2 63 : Int))

/-- The digits of a part of a number with a point or an exponent. -/
def part? (s : List Char) : Option (List Char) := ungrouped? Char.isDigit s

/-- The numeral that a word spells, if it has a point or an exponent. -/
def numeral? (s : List Char) : Option DecimalText := do
  let d ← DecimalText.ofChars? (fun c => c.isDigit || c == '_') s
  let whole ← part? d.whole
  let fraction ← match d.fraction with
    | none => some none
    | some digits => (part? digits).map some
  let exponent ← match d.exponent with
    | none => some none
    | some (negative, digits) => (part? digits).map fun digits => some (negative, digits)
  if hasLeadingZero whole || (fraction.isNone && exponent.isNone) then none
  else some ⟨whole, fraction, exponent⟩

/-- The number that a word spells with a point, an exponent or a name; a positive number must not be
too large. -/
def float? (s : List Char) : Option Double :=
  let (negative, magnitude) := DecimalText.splitSign s
  if magnitude == "inf".toList then some (.infinite negative)
  else if magnitude == "nan".toList then some .notANumber
  else
    match numeral? magnitude with
    | none => none
    | some d => if d.value negative = .infinite false then none else some (d.value negative)

/-- What a word stands for. -/
def value? (s : List Char) : Option Value :=
  if s == "true".toList then some (.flag true)
  else if s == "false".toList then some (.flag false)
  else
    match boundedInteger? s with
    | some n => some (.integer n)
    | none =>
      match float? s with
      | some x => some (.float x)
      | none => (readMoment? s).map fun m => .moment (String.ofList m)

end PluginGateway.Toml.Word
