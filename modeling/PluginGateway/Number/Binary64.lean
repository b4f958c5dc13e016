/-!
# Double precision numbers

A finite number of the IEEE format binary64 is `mantissa · 2 ^ exponent` with a sign; the mantissa
is below `2 ^ 53`, and it is at least `2 ^ 52` unless the exponent is the least one, `-1074`, so
each number has one representation for each sign. Arithmetic takes the exact quotient of two
naturals and rounds it once, to the nearest number and to the even one of two equally near
(`roundRatio?`); a result beyond the largest number is none.
-/

namespace PluginGateway

/-- A finite number of the format binary64. -/
structure Binary64 where
  /-- The number is written with a minus sign. -/
  negative : Bool
  /-- The integer that the power of two scales. -/
  mantissa : Nat
  /-- The power of two. -/
  exponent : Int
  deriving DecidableEq, Repr

namespace Binary64

/-- The least exponent. -/
def leastExponent : Int := -1074

/-- The greatest exponent. -/
def greatestExponent : Int := 971

/-- The first mantissa that does not fit. -/
def mantissaBound : Nat := Nat.pow 2 53

/-- Zero with a plus sign. -/
def zero : Binary64 := ⟨false, 0, leastExponent⟩

/-- The number is zero, of either sign. -/
def isZero (x : Binary64) : Bool := x.mantissa == 0

/-- The number with the sign given. -/
def withSign (negative : Bool) (x : Binary64) : Binary64 := { x with negative }

/-- The numerator of the magnitude. -/
def numerator (x : Binary64) : Nat := x.mantissa * Nat.pow 2 x.exponent.toNat

/-- The denominator of the magnitude. -/
def denominator (x : Binary64) : Nat := Nat.pow 2 (-x.exponent).toNat

/-- The natural number nearest to a quotient, the even one of two equally near. -/
def roundDiv (num den : Nat) : Nat :=
  let q := num / den
  let rest := num % den
  if den < 2 * rest || (2 * rest == den && q % 2 == 1) then q + 1 else q

/-- The power of two that brings a positive quotient below `2 ^ 53` and, where the least exponent
allows it, to at least `2 ^ 52`. -/
def scale (num den : Nat) : Int :=
  let e := (Nat.log2 num : Int) - Nat.log2 den - 52
  let enough := decide (Nat.pow 2 52 * den * Nat.pow 2 e.toNat ≤ num * Nat.pow 2 (-e).toNat)
  max leastExponent (if enough then e else e - 1)

/-- The number nearest to a quotient of naturals, with a plus sign; none if it is too large. -/
def roundRatio? (num den : Nat) : Option Binary64 :=
  if num = 0 then some zero
  else
    let e := scale num den
    let m := roundDiv (num * Nat.pow 2 (-e).toNat) (den * Nat.pow 2 e.toNat)
    let x : Binary64 := if m = mantissaBound then ⟨false, Nat.pow 2 52, e + 1⟩ else ⟨false, m, e⟩
    if greatestExponent < x.exponent then none else some x

/-- The number nearest to a natural number. -/
def ofNat? (n : Nat) : Option Binary64 := roundRatio? n 1

/-- The number nearest to `digits · 10 ^ exponent`; none if it is too large. An exponent far outside
the range is not raised to a power. -/
def ofDecimal? (digits : Nat) (exponent : Int) : Option Binary64 :=
  let places := (Nat.toDigits 10 digits).length
  if digits = 0 || decide (exponent + places < -400) then some zero
  else if 400 < exponent then none
  else roundRatio? (digits * Nat.pow 10 exponent.toNat) (Nat.pow 10 (-exponent).toNat)

/-- The product of two magnitudes, rounded. -/
def mul? (x y : Binary64) : Option Binary64 :=
  roundRatio? (x.numerator * y.numerator) (x.denominator * y.denominator)

/-- The quotient of two magnitudes, rounded; the second is not zero. -/
def div? (x y : Binary64) : Option Binary64 :=
  roundRatio? (x.numerator * y.denominator) (x.denominator * y.numerator)

end Binary64

end PluginGateway
