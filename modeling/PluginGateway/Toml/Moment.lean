import PluginGateway.Toml.Text

/-!
# Dates and times in TOML

A moment is a date, a time of day, or a date and a time with or without an offset. `readMoment?`
checks that a word is one, by the calendar, and answers its normal form: a `T` between date and
time, a `Z` for the zero meridian, and no zeros at the end of a fraction.
-/

namespace PluginGateway.Toml

/-- The number that a fixed count of decimal digits spells, and what follows them. -/
def readDigits (count : Nat) (s : List Char) : Option (Nat × List Char) :=
  let digits := s.take count
  if digits.length = count ∧ digits.all Char.isDigit then
    some (DecimalText.digitsValue digits, s.drop count)
  else none

/-- The number of days of a month. -/
def daysOfMonth (year month : Nat) : Nat :=
  if month = 2 then
    if year % 4 = 0 ∧ (year % 100 ≠ 0 ∨ year % 400 = 0) then 29 else 28
  else if [4, 6, 9, 11].contains month then 30
  else 31

/-- A date, in writing, and what follows it. -/
def readDate? (s : List Char) : Option (List Char × List Char) := do
  let (year, rest) ← readDigits 4 s
  let (month, rest) ← match rest with
    | '-' :: rest => readDigits 2 rest
    | _ => none
  let (day, rest) ← match rest with
    | '-' :: rest => readDigits 2 rest
    | _ => none
  if 1 ≤ month ∧ month ≤ 12 ∧ 1 ≤ day ∧ day ≤ daysOfMonth year month then
    some (s.take 10, rest)
  else none

/-- The fraction of a second, in writing and with at most nine digits, and what follows it. -/
def readFraction : List Char → Option (List Char × List Char)
  | '.' :: rest =>
    let digits := rest.takeWhile Char.isDigit
    let kept := ((digits.take 9).reverse.dropWhile (· == '0')).reverse
    if digits.isEmpty then none
    else some (if kept.isEmpty then [] else '.' :: kept, rest.dropWhile Char.isDigit)
  | rest => some ([], rest)

/-- A time of day, in writing, and what follows it. -/
def readTime? (s : List Char) : Option (List Char × List Char) := do
  let (hour, rest) ← readDigits 2 s
  let (minute, rest) ← match rest with
    | ':' :: rest => readDigits 2 rest
    | _ => none
  let (second, rest) ← match rest with
    | ':' :: rest => readDigits 2 rest
    | _ => none
  let (fraction, rest) ← readFraction rest
  if hour ≤ 23 ∧ minute ≤ 59 ∧ second ≤ 60 then some (s.take 8 ++ fraction, rest) else none

/-- An offset that makes up a text, in writing; nothing is no offset. -/
def readOffset? (s : List Char) : Option (List Char) :=
  match s with
  | [] => some []
  | ['Z'] => some ['Z']
  | ['z'] => some ['Z']
  | sign :: rest =>
    if sign == '+' || sign == '-' then do
      let (hour, after) ← readDigits 2 rest
      let (minute, after) ← match after with
        | ':' :: after => readDigits 2 after
        | _ => none
      if hour ≤ 23 ∧ minute ≤ 59 ∧ after.isEmpty then
        some ((if hour = 0 ∧ minute = 0 then '+' else sign) :: rest)
      else none
    else none

/-- The sign between a date and a time. -/
def isTimeMark (c : Char) : Bool := c == 'T' || c == 't' || c == ' '

/-- The moment that a text spells, in its normal form. -/
def readMoment? (s : List Char) : Option (List Char) :=
  match readDate? s with
  | some (date, []) => some date
  | some (date, mark :: rest) =>
    if isTimeMark mark then do
      let (time, rest) ← readTime? rest
      let offset ← readOffset? rest
      return date ++ 'T' :: time ++ offset
    else none
  | none =>
    match readTime? s with
    | some (time, []) => some time
    | _ => none

end PluginGateway.Toml
