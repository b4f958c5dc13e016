import PluginGateway.Number.Binary64

/-!
# The fewest digits that read back

A number of the format binary64 stands for every real number that rounds to it, an interval around
the number whose ends belong to it if the mantissa is even. `shortest` searches the decimal grids
with one digit, two digits, and so on: the first grid that has a point of that interval next to the
number gives the digits, and of two such points the nearer one is taken. Where both are equally near
a `TieRule` decides. Seventeen digits are always enough.
-/

namespace PluginGateway

/-- A decimal number `digits · 10 ^ exponent`. -/
structure Decimal where
  /-- The digits, read as a natural number. -/
  digits : Nat
  /-- The power of ten. -/
  exponent : Int
  deriving DecidableEq, Repr

/-- Which of two points equally near is taken. -/
inductive TieRule where
  /-- The greater one. -/
  | upward
  /-- The one with an even last digit. -/
  | toEven
  deriving DecidableEq, Repr

/-- The reals that round to a number: the ends as numerators over one denominator, and whether the
ends belong to it. -/
structure RoundingInterval where
  /-- The numerator of the lower end. -/
  lower : Nat
  /-- The numerator of the number itself. -/
  middle : Nat
  /-- The numerator of the upper end. -/
  upper : Nat
  /-- The denominator of all three. -/
  denominator : Nat
  /-- The ends belong to the interval. -/
  closed : Bool

namespace RoundingInterval

/-- The interval of a positive number. Below the least mantissa of an exponent the neighbour is half
as far away. -/
def ofBinary64 (x : Binary64) : RoundingInterval :=
  let near := decide (x.mantissa = Nat.pow 2 52) && decide (Binary64.leastExponent < x.exponent)
  let num := Nat.pow 2 x.exponent.toNat
  { lower := (4 * x.mantissa - if near then 1 else 2) * num
    middle := 4 * x.mantissa * num
    upper := (4 * x.mantissa + 2) * num
    denominator := 4 * x.denominator
    closed := x.mantissa % 2 == 0 }

/-- The decimal number `d · 10 ^ k` lies in the interval. -/
def contains (r : RoundingInterval) (d : Nat) (k : Int) : Bool :=
  let p := d * Nat.pow 10 k.toNat * r.denominator
  let s := Nat.pow 10 (-k).toNat
  if r.closed then decide (r.lower * s ≤ p) && decide (p ≤ r.upper * s)
  else decide (r.lower * s < p) && decide (p < r.upper * s)

/-- The point below the middle on the grid of multiples of `10 ^ k`. -/
def floorOn (r : RoundingInterval) (k : Int) : Nat :=
  r.middle * Nat.pow 10 (-k).toNat / (r.denominator * Nat.pow 10 k.toNat)

/-- Of the two points around the middle on the grid of multiples of `10 ^ k`, the upper one is to be
taken. Twice the middle on the grid, rounded down, is odd from halfway between the points on. -/
def takesUpper (r : RoundingInterval) (ties : TieRule) (k : Int) : Bool :=
  let p := 2 * r.middle * Nat.pow 10 (-k).toNat
  let q := r.denominator * Nat.pow 10 k.toNat
  if p % q = 0 && ties = .toEven then p / q % 4 == 3 else p / q % 2 == 1

/-- The point of the grid of multiples of `10 ^ k` to write for the middle, if one of the two
points around it lies in the interval. -/
def pointOn? (r : RoundingInterval) (ties : TieRule) (k : Int) : Option Decimal :=
  let d := r.floorOn k
  match r.contains d k && decide (0 < d), r.contains (d + 1) k with
  | true, true => some ⟨if r.takesUpper ties k then d + 1 else d, k⟩
  | true, false => some ⟨d, k⟩
  | false, true => some ⟨d + 1, k⟩
  | false, false => none

/-- The exponent of the first digit of the middle, searched downwards from `start`. -/
def leadingExponent (r : RoundingInterval) : Nat → Int → Int
  | 0, start => start
  | steps + 1, start => if 0 < r.floorOn start then start else r.leadingExponent steps (start - 1)

/-- The first grid, from the exponent given on downwards, that has a point to write. -/
def firstPoint (r : RoundingInterval) (ties : TieRule) : Nat → Int → Decimal
  | 0, k => ⟨r.floorOn k, k⟩
  | steps + 1, k => (r.pointOn? ties k).getD (r.firstPoint ties steps (k - 1))

end RoundingInterval

/-- The decimal number without trailing zeros. -/
def Decimal.trimZeros (steps : Nat) (d : Decimal) : Decimal :=
  match steps with
  | 0 => d
  | steps + 1 =>
    if d.digits % 10 = 0 && d.digits ≠ 0 then
      Decimal.trimZeros steps ⟨d.digits / 10, d.exponent + 1⟩
    else d

/-- The shortest decimal number that rounds to the magnitude of `x`. -/
def shortest (ties : TieRule) (x : Binary64) : Decimal :=
  if x.isZero then ⟨0, 0⟩
  else
    let r := RoundingInterval.ofBinary64 x
    (r.firstPoint ties 17 (r.leadingExponent 640 310)).trimZeros 20

/-- The digits of a decimal number as characters. -/
def Decimal.digitChars (d : Decimal) : List Char := Nat.toDigits 10 d.digits

/-- The exponent of the first digit. -/
def Decimal.scientificExponent (d : Decimal) : Int := d.exponent + d.digitChars.length - 1

/-- How a decimal number is laid out. -/
structure DecimalLayout where
  /-- Which of two texts equally near is written. -/
  ties : TieRule
  /-- Numbers whose first digit has at least this exponent are written positionally. -/
  lowestPositional : Int
  /-- Numbers whose first digit has this exponent or a greater one are written with an exponent. -/
  firstScientific : Int
  /-- What follows an integer written positionally. -/
  integerEnd : List Char

/-- The number with digits before and after the point, as many zeros as its exponent asks for. -/
def Decimal.positional (d : Decimal) (integerEnd : List Char) : List Char :=
  if 0 ≤ d.exponent then d.digitChars ++ List.replicate d.exponent.toNat '0' ++ integerEnd
  else
    let places := (-d.exponent).toNat
    let cs := List.replicate (places + 1 - d.digitChars.length) '0' ++ d.digitChars
    cs.take (cs.length - places) ++ '.' :: cs.drop (cs.length - places)

/-- The number with one digit before the point and its exponent with a sign. -/
def Decimal.scientific (d : Decimal) : List Char :=
  let e := d.scientificExponent
  let fraction := if d.digitChars.length = 1 then [] else '.' :: d.digitChars.drop 1
  d.digitChars.take 1 ++ fraction ++ ['e', if e < 0 then '-' else '+'] ++ Nat.toDigits 10 e.natAbs

/-- The number written in the layout given. -/
def Decimal.written (layout : DecimalLayout) (d : Decimal) : List Char :=
  if layout.lowestPositional ≤ d.scientificExponent
      ∧ d.scientificExponent < layout.firstScientific then
    d.positional layout.integerEnd
  else d.scientific

/-- The shortest text of a number in the layout given. -/
def Binary64.written (layout : DecimalLayout) (x : Binary64) : List Char :=
  (if x.negative then ['-'] else []) ++ (shortest layout.ties x).written layout

end PluginGateway
