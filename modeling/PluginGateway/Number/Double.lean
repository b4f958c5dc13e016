import PluginGateway.Number.Shortest

/-!
# Doubles with infinities

A `Double` is a finite number of the format binary64, an infinity, or no number. `DecimalText` takes
a decimal numeral apart into the digits before and behind the point and the exponent; its value is
the double nearest to what the numeral says.
-/

namespace PluginGateway

/-- A value of the format binary64. -/
inductive Double where
  /-- A finite number. -/
  | finite (x : Binary64)
  /-- An infinity. -/
  | infinite (negative : Bool)
  /-- No number. -/
  | notANumber
  deriving DecidableEq, Repr

namespace Double

/-- The magnitude, or infinity if there is none, with a sign. -/
def ofMagnitude (negative : Bool) : Option Binary64 → Double
  | some x => finite (x.withSign negative)
  | none => infinite negative

/-- The value without an exponent, with the fewest digits that read back. -/
def positional : Double → String
  | finite x =>
    String.ofList ((if x.negative then ['-'] else []) ++ (shortest .upward x).positional [])
  | infinite negative => if negative then "-inf" else "inf"
  | notANumber => "NaN"

/-- The value in a form that shows that it is no integer. -/
def pointed (x : Double) : String :=
  let s := x.positional
  match x with
  | finite _ => if s.toList.contains '.' then s else s ++ ".0"
  | infinite _ => s
  | notANumber => "nan"

end Double

/-- A decimal numeral without its sign. -/
structure DecimalText where
  /-- The digits before the point. -/
  whole : List Char
  /-- The digits behind the point, if there is one. -/
  fraction : Option (List Char)
  /-- The sign and the digits of the exponent, if there is one. -/
  exponent : Option (Bool × List Char)

namespace DecimalText

/-- The sign of a numeral and what follows it. -/
def splitSign : List Char → Bool × List Char
  | '-' :: rest => (true, rest)
  | '+' :: rest => (false, rest)
  | s => (false, s)

/-- The exponent that makes up a text, if it makes up the text: a mark, a sign, and digits. -/
def exponentOf (isDigit : Char → Bool) : List Char → Option (Option (Bool × List Char))
  | [] => some none
  | c :: rest =>
    let (negative, digits) := splitSign rest
    if (c == 'e' || c == 'E') && !digits.isEmpty && digits.all isDigit then
      some (some (negative, digits))
    else none

/-- The parts of a numeral, if the text is one. Which characters count as digits is up to the
caller. -/
def ofChars? (isDigit : Char → Bool) (s : List Char) : Option DecimalText :=
  let whole := s.takeWhile isDigit
  match s.dropWhile isDigit with
  | '.' :: rest =>
    (exponentOf isDigit (rest.dropWhile isDigit)).map fun e =>
      ⟨whole, some (rest.takeWhile isDigit), e⟩
  | rest => (exponentOf isDigit rest).map fun e => ⟨whole, none, e⟩

/-- The natural number that some decimal digits spell. -/
def digitsValue (digits : List Char) : Nat :=
  digits.foldl (fun n c => 10 * n + (c.toNat - '0'.toNat)) 0

/-- The exponent as a number. -/
def exponentValue (d : DecimalText) : Int :=
  match d.exponent with
  | some (true, digits) => -(digitsValue digits : Int)
  | some (false, digits) => digitsValue digits
  | none => 0

/-- The double nearest to a numeral, infinity if it is too large. -/
def value (d : DecimalText) (negative : Bool) : Double :=
  let fraction := d.fraction.getD []
  .ofMagnitude negative
    (Binary64.ofDecimal? (digitsValue (d.whole ++ fraction)) (d.exponentValue - fraction.length))

end DecimalText

end PluginGateway
