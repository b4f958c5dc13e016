/-!
# Punycode

A label with characters beyond ASCII is written with the characters of ASCII first, a hyphen, and a
row of numbers that place the others. Each number is written in a base of 36 with thresholds that
adapt to the numbers before it. `encode` writes a label and `decode?` reads one.
-/

namespace PluginGateway.Url.Punycode

/-- The digit for a value below 36: letters, then figures. -/
def digit (d : Nat) : Char := if d < 26 then Char.ofNat (97 + d) else Char.ofNat (22 + d)

/-- The value of a digit. -/
def value? (c : Char) : Option Nat :=
  if 'a' ≤ c ∧ c ≤ 'z' then some (c.toNat - 97)
  else if 'A' ≤ c ∧ c ≤ 'Z' then some (c.toNat - 65)
  else if c.isDigit then some (c.toNat - 22)
  else none

/-- The threshold at a position, from one to 26. -/
def threshold (position bias : Nat) : Nat := max 1 (min 26 (position - bias))

/-- How often a number has to be divided by 35 to fall to 455, and what is left of it. -/
def settle (delta position : Nat) : Nat × Nat :=
  if 455 < delta then settle (delta / 35) (position + 36) else (delta, position)
termination_by delta
decreasing_by exact Nat.div_lt_self (by omega) (by omega)

/-- The bias after a number was written, as the `count`-th one. -/
def adapt (delta count : Nat) (first : Bool) : Nat :=
  let d := if first then delta / 700 else delta / 2
  let r := settle (d + d / count) 0
  r.2 + 36 * r.1 / (r.1 + 38)

/-- The digits of a number, from a position on. -/
def digitsFrom (bias position q : Nat) : List Char :=
  let t := threshold position bias
  if q < t then [digit q]
  else digit (t + (q - t) % (36 - t)) :: digitsFrom bias (position + 36) ((q - t) / (36 - t))
termination_by q
decreasing_by
  have h : 1 ≤ threshold position bias := by unfold threshold; omega
  exact Nat.lt_of_le_of_lt (Nat.div_le_self _ _) (by omega)

/-- Where the writer stands: the number to write next, the bias, and how many characters are
placed. -/
structure Progress where
  delta : Nat
  bias : Nat
  placed : Nat

/-- One character of the label in the round that places the code point `n`: a smaller one is
counted, the code point itself is written. -/
def visit (basic n : Nat) (p : Progress) (c : Nat) : Progress × List Char :=
  if c < n then ({ p with delta := p.delta + 1 }, [])
  else if c = n then
    (⟨0, adapt p.delta (p.placed + 1) (p.placed == basic), p.placed + 1⟩,
      digitsFrom p.bias 36 p.delta)
  else (p, [])

/-- A whole round. -/
def round (basic n : Nat) : Progress → List Nat → Progress × List Char
  | p, [] => (p, [])
  | p, c :: rest =>
    let (p', out) := visit basic n p c
    let (p'', more) := round basic n p' rest
    (p'', out ++ more)

/-- The rounds for the code points given, which ascend; `n` is the first code point not yet
considered. -/
def rounds (basic : Nat) (label : List Nat) : List Nat → Nat → Progress → List Char
  | [], _, _ => []
  | m :: rest, n, p =>
    let (p', out) := round basic m { p with delta := p.delta + (m - n) * (p.placed + 1) } label
    out ++ rounds basic label rest (m + 1) { p' with delta := p'.delta + 1 }

/-- A code point put into an ascending list without repetition. -/
def insertOnce (n : Nat) : List Nat → List Nat
  | [] => [n]
  | m :: rest =>
    if n < m then n :: m :: rest else if n = m then m :: rest else m :: insertOnce n rest

/-- A label in writing. -/
def encode (label : List Char) : List Char :=
  let basic := label.filter fun c => decide (c.toNat < 128)
  let others := (label.map Char.toNat).filter fun n => decide (128 ≤ n)
  let start : Progress := ⟨0, 72, basic.length⟩
  basic ++ (if basic.isEmpty then [] else ['-'])
    ++ rounds basic.length (label.map Char.toNat) (others.foldr insertOnce []) 128 start

/-- The bound of the numbers that a label is read with. -/
def bound : Nat := Nat.pow 2 32

/-- A number read from its digits, with the digits behind it. Neither the number nor the weight of
its last digit reaches the bound. -/
def readNumber (bias : Nat) : Nat → Nat → Nat → List Char → Option (Nat × List Char)
  | _, _, _, [] => none
  | position, weight, acc, c :: rest =>
    (value? c).bind fun d =>
      let t := threshold position bias
      if bound ≤ weight ∨ bound ≤ acc + d * weight then none
      else if d < t then some (acc + d * weight, rest)
      else readNumber bias (position + 36) (weight * (36 - t)) (acc + d * weight) rest

theorem readNumber_length {bias position weight acc n : Nat} {s rest : List Char}
    (h : readNumber bias position weight acc s = some (n, rest)) : rest.length < s.length := by
  induction s generalizing position weight acc with
  | nil => simp [readNumber] at h
  | cons c more ih =>
    simp only [readNumber, Option.bind_eq_some_iff] at h
    obtain ⟨d, -, h⟩ := h
    split at h
    · simp at h
    · split at h
      · simp only [Option.some.injEq, Prod.mk.injEq] at h
        simp [h.2]
      · exact Nat.lt_succ_of_lt (ih h)

/-- The characters placed among those there already, by the numbers that are left. -/
def place? (s : List Char) (n i bias : Nat) (label : List Char) : Option (List Char) :=
  match s with
  | [] => some label
  | c :: rest =>
    match _h : readNumber bias 36 1 i (c :: rest) with
    | none => none
    | some (i', left) =>
      let count := label.length + 1
      let n' := n + i' / count
      if 0x10FFFF < n' ∨ (0xD800 ≤ n' ∧ n' ≤ 0xDFFF) then none
      else
        place? left n' (i' % count + 1) (adapt (i' - i) count (i == 0))
          (label.take (i' % count) ++ Char.ofNat n' :: label.drop (i' % count))
termination_by s.length
decreasing_by exact readNumber_length _h

/-- The label that a text spells. A hyphen at its head parts nothing, and it is no digit. -/
def decode? (s : List Char) : Option (List Char) :=
  let back := s.reverse.takeWhile (· ≠ '-')
  if back.length = s.length then place? s 128 0 72 []
  else if back.length + 1 = s.length then none
  else place? back.reverse 128 0 72 (s.take (s.length - back.length - 1))

end PluginGateway.Url.Punycode
