import PluginGateway.Json.Basic
import PluginGateway.Text.Basic

/-!
# Strings and numbers of a JSON text

The two kinds of token that need more than a look at their first characters. Both readers take the
characters that are left and answer what they read together with the characters that follow; a
reader that fails answers the fault and the characters that were still unread. The length statements
(`readString_length`, `readNumber_length`) say that a successful reader makes progress.

A number is an integer if 64 bits hold it. Any other number is a double: its leading digits, as many
as 64 bits hold, are scaled by a power of ten with one rounding for each factor.
-/

namespace PluginGateway.Json

/-- What a reader answers: what it read and the characters behind, or a fault and the characters
unread at that point. -/
abbrev Reading (α : Type) := Except (Fault × List Char) (α × List Char)

/-! ## Strings -/

/-- Four hexadecimal digits. -/
def readHex : List Char → Reading Nat
  | a :: b :: c :: d :: rest =>
    match Text.hexValue? a, Text.hexValue? b, Text.hexValue? c, Text.hexValue? d with
    | some a, some b, some c, some d => .ok (((a * 16 + b) * 16 + c) * 16 + d, rest)
    | _, _, _, _ => .error (.invalidEscape, rest)
  | _ => .error (.endInString, [])

/-- The second half of a surrogate pair, from its backslash on. -/
def readTrailing (high : Nat) : List Char → Reading Char
  | [] => .error (.endInString, [])
  | '\\' :: [] => .error (.endInString, [])
  | '\\' :: 'u' :: rest =>
    match readHex rest with
    | .error e => .error e
    | .ok (low, rest) =>
      if 0xDC00 ≤ low ∧ low ≤ 0xDFFF then
        .ok (Char.ofNat ((high - 0xD800) * 0x400 + (low - 0xDC00) + 0x10000), rest)
      else .error (.loneSurrogate, rest)
  | '\\' :: _ :: rest => .error (.endOfHexEscape, rest)
  | _ :: rest => .error (.endOfHexEscape, rest)

/-- The character that an escape stands for, from behind its backslash on. -/
def readEscape : List Char → Reading Char
  | [] => .error (.endInString, [])
  | c :: rest =>
    match c with
    | '"' => .ok ('"', rest)
    | '\\' => .ok ('\\', rest)
    | '/' => .ok ('/', rest)
    | 'b' => .ok ('\x08', rest)
    | 'f' => .ok ('\x0c', rest)
    | 'n' => .ok ('\n', rest)
    | 'r' => .ok ('\r', rest)
    | 't' => .ok ('\t', rest)
    | 'u' =>
      match readHex rest with
      | .error e => .error e
      | .ok (n, rest) =>
        if 0xDC00 ≤ n ∧ n ≤ 0xDFFF then .error (.loneSurrogate, rest)
        else if 0xD800 ≤ n ∧ n ≤ 0xDBFF then readTrailing n rest
        else .ok (Char.ofNat n, rest)
    | _ => .error (.invalidEscape, rest)

theorem readHex_length {s : List Char} {n : Nat} {rest : List Char}
    (h : readHex s = .ok (n, rest)) : rest.length < s.length := by
  unfold readHex at h
  split at h
  · split at h
    · simp only [Except.ok.injEq, Prod.mk.injEq] at h
      obtain ⟨-, rfl⟩ := h
      simp only [List.length_cons]
      omega
    · simp at h
  · simp at h

theorem readTrailing_length {high : Nat} {s : List Char} {c : Char} {rest : List Char}
    (h : readTrailing high s = .ok (c, rest)) : rest.length < s.length := by
  unfold readTrailing at h
  split at h
  · simp at h
  · simp at h
  · split at h
    · simp at h
    · next hx =>
      have := readHex_length hx
      split at h
      · simp only [Except.ok.injEq, Prod.mk.injEq] at h
        obtain ⟨-, rfl⟩ := h
        simp only [List.length_cons]
        omega
      · simp at h
  · simp at h
  · simp at h

theorem readEscape_length {s : List Char} {c : Char} {rest : List Char}
    (h : readEscape s = .ok (c, rest)) : rest.length < s.length := by
  cases s with
  | nil => simp [readEscape] at h
  | cons x more =>
    simp only [readEscape] at h
    split at h
    case h_9 =>
      split at h
      · simp at h
      · next hx =>
        have := readHex_length hx
        split at h
        · simp at h
        · split at h
          · have := readTrailing_length h
            simp only [List.length_cons]
            omega
          · simp only [Except.ok.injEq, Prod.mk.injEq] at h
            obtain ⟨-, rfl⟩ := h
            simp only [List.length_cons]
            omega
    case h_10 => simp at h
    all_goals
      simp only [Except.ok.injEq, Prod.mk.injEq] at h
      obtain ⟨-, rfl⟩ := h
      simp

/-- The contents of a string, from behind its opening quotation mark on. -/
def readString (s : List Char) : Reading (List Char) :=
  match s with
  | [] => .error (.endInString, [])
  | '"' :: rest => .ok ([], rest)
  | '\\' :: rest =>
    match _h : readEscape rest with
    | .error e => .error e
    | .ok (c, rest') => (readString rest').map fun r => (c :: r.1, r.2)
  | c :: rest =>
    if c.toNat < 0x20 then .error (.controlCharacter, rest)
    else (readString rest).map fun r => (c :: r.1, r.2)
termination_by s.length
decreasing_by
  · have := readEscape_length _h
    simp only [List.length_cons]
    omega
  · simp

theorem readString_length {s contents rest : List Char}
    (h : readString s = .ok (contents, rest)) : rest.length < s.length := by
  fun_induction readString s generalizing contents rest with
  | case1 => simp at h
  | case2 rest' => simp_all
  | case3 more e he => simp at h
  | case4 more c rest' he ih =>
    have := readEscape_length he
    cases hr : readString rest' with
    | error e => simp [hr, Except.map] at h
    | ok r =>
      obtain ⟨cs, left⟩ := r
      have hl := ih hr
      simp only [hr, Except.map, Except.ok.injEq, Prod.mk.injEq] at h
      obtain ⟨-, rfl⟩ := h
      simp only [List.length_cons]
      omega
  | case5 c more _ _ hc => simp at h
  | case6 c more _ _ hc ih =>
    cases hr : readString more with
    | error e => simp [hr, Except.map] at h
    | ok r =>
      obtain ⟨cs, left⟩ := r
      have hl := ih hr
      simp only [hr, Except.map, Except.ok.injEq, Prod.mk.injEq] at h
      obtain ⟨-, rfl⟩ := h
      simp only [List.length_cons]
      omega

/-! ## Numbers -/

/-- The greatest natural number of 64 bits. -/
def greatestNatural : Nat := Nat.pow 2 64 - 1

/-- The greatest exponent that is read in full. -/
def greatestExponent : Nat := Nat.pow 2 31 - 1

/-- Digits appended to a number for as long as it stays within a bound. -/
def readDigits (bound : Nat) (n : Nat) : List Char → Nat × List Char
  | [] => (n, [])
  | c :: rest =>
    if c.isDigit then
      if bound < n * 10 + (c.toNat - '0'.toNat) then (n, c :: rest)
      else readDigits bound (n * 10 + (c.toNat - '0'.toNat)) rest
    else (n, c :: rest)

theorem readDigits_length (bound n : Nat) (s : List Char) :
    (readDigits bound n s).2.length ≤ s.length := by
  induction s generalizing n with
  | nil => simp [readDigits]
  | cons c rest ih =>
    rw [readDigits]
    split
    · split
      · simp
      · exact Nat.le_succ_of_le (ih _)
    · simp

theorem length_dropWhile_le (p : Char → Bool) (s : List Char) :
    (s.dropWhile p).length ≤ s.length := by
  induction s with
  | nil => simp
  | cons c rest ih =>
    rw [List.dropWhile_cons]
    split
    · exact Nat.le_succ_of_le ih
    · simp

/-- The exponent of a number, from behind the letter `e` on. An exponent too large to be read in
full is a fault unless the number is zero or the exponent negative; then the number is zero. -/
def readExponent (significand : Nat) (s : List Char) : Reading Int :=
  let negative := s.head? == some '-'
  let s := if s.head? == some '-' || s.head? == some '+' then s.drop 1 else s
  match s with
  | [] => .error (.endInValue, [])
  | c :: rest =>
    if c.isDigit then
      let r := readDigits greatestExponent 0 (c :: rest)
      let after := r.2.dropWhile Char.isDigit
      if after.length = r.2.length then .ok (if negative then -(r.1 : Int) else r.1, after)
      else if significand ≠ 0 ∧ !negative then .error (.numberOutOfRange, r.2.drop 1)
      else .ok (-(greatestExponent : Int), after)
    else .error (.invalidNumber, rest)

/-- Powers of ten as doubles. -/
def powerOfTen (e : Nat) : Binary64 := (Binary64.ofDecimal? 1 e).getD .zero

/-- A significand scaled by a power of ten. Powers beyond `10 ^ 308` are divided out first, one at a
time; after three of them nothing is left of any significand. -/
def scaleDouble? (steps : Nat) (x : Binary64) (e : Int) : Option Binary64 :=
  if e.natAbs ≤ 308 then
    if 0 ≤ e then x.mul? (powerOfTen e.natAbs) else x.div? (powerOfTen e.natAbs)
  else if x.isZero then some x
  else if 0 ≤ e then none
  else
    match steps with
    | 0 => some .zero
    | steps + 1 => (x.div? (powerOfTen 308)).bind fun y => scaleDouble? steps y (e + 308)

/-- The double `significand · 10 ^ e`, none if it is too large. -/
def toDouble? (significand : Nat) (e : Int) : Option Binary64 :=
  (Binary64.ofNat? significand).bind fun x => scaleDouble? 4 x e

/-- The double with the sign given, or the fault that it is out of range. -/
def doubleOf (negative : Bool) (significand : Nat) (e : Int) (rest : List Char) :
    Reading Json.Number :=
  match toDouble? significand e with
  | some x => .ok (.double (x.withSign negative), rest)
  | none => .error (.numberOutOfRange, rest)

/-- What may follow the digits of a double: an exponent, which is added to the one given. -/
def readScale (negative : Bool) (significand : Nat) (e : Int) (s : List Char) :
    Reading Json.Number :=
  match s with
  | c :: rest =>
    if c == 'e' || c == 'E' then
      match readExponent significand rest with
      | .error f => .error f
      | .ok (e', rest') => doubleOf negative significand (e + e') rest'
    else doubleOf negative significand e (c :: rest)
  | [] => doubleOf negative significand e []

/-- The digits behind a decimal point, and what may follow them. -/
def readFraction (negative : Bool) (significand : Nat) (e : Int) (s : List Char) :
    Reading Json.Number :=
  match s with
  | [] => .error (.endInValue, [])
  | c :: rest =>
    if c.isDigit then
      let r := readDigits greatestNatural significand (c :: rest)
      readScale negative r.1 (e - ((c :: rest).length - r.2.length : Nat))
        (r.2.dropWhile Char.isDigit)
    else .error (.invalidNumber, rest)

/-- The integer with the sign given; zero with a minus sign is a double. -/
def integerOf (negative : Bool) (n : Nat) : Json.Number :=
  if !negative then .natural n
  else if n = 0 || decide (Nat.pow 2 63 < n) then
    .double (((Binary64.ofNat? n).getD .zero).withSign true)
  else .negative n

/-- What may follow the leading digits of a number: the rest of an integer too long for 64 bits, a
fraction, an exponent. -/
def readAfterDigits (negative : Bool) (n : Nat) (s : List Char) : Reading Json.Number :=
  let rest := s.dropWhile Char.isDigit
  let e : Int := (s.length - rest.length : Nat)
  match rest with
  | '.' :: more => readFraction negative n e more
  | _ =>
    if rest.length = s.length ∧ rest.head? ≠ some 'e' ∧ rest.head? ≠ some 'E' then
      .ok (integerOf negative n, rest)
    else readScale negative n e rest

/-- A number, from behind its minus sign on if it has one. -/
def readNumber (negative : Bool) (s : List Char) : Reading Json.Number :=
  match s with
  | [] => .error (.endInValue, [])
  | c :: rest =>
    if c == '0' then
      if rest.head?.any Char.isDigit then .error (.invalidNumber, rest.drop 1)
      else readAfterDigits negative 0 rest
    else if c.isDigit then
      let r := readDigits greatestNatural (c.toNat - '0'.toNat) rest
      readAfterDigits negative r.1 r.2
    else .error (.invalidNumber, rest)

theorem readExponent_length {n : Nat} {s : List Char} {e : Int} {rest : List Char}
    (h : readExponent n s = .ok (e, rest)) : rest.length ≤ s.length := by
  have hd : ∀ t : List Char, (if (t.head? == some '-' || t.head? == some '+') = true then t.drop 1
      else t).length ≤ t.length := by
    intro t
    split
    · simp
    · simp
  have hs := hd s
  simp only [readExponent] at h
  split at h
  · simp at h
  · next c more hm =>
    rw [hm] at hs
    have h1 := readDigits_length greatestExponent 0 (c :: more)
    have h2 := length_dropWhile_le Char.isDigit (readDigits greatestExponent 0 (c :: more)).2
    split at h
    · split at h
      · simp only [Except.ok.injEq, Prod.mk.injEq] at h
        obtain ⟨-, rfl⟩ := h
        omega
      · split at h
        · simp at h
        · simp only [Except.ok.injEq, Prod.mk.injEq] at h
          obtain ⟨-, rfl⟩ := h
          omega
    · simp at h

theorem doubleOf_rest {negative : Bool} {n : Nat} {e : Int} {s : List Char} {x : Json.Number}
    {rest : List Char} (h : doubleOf negative n e s = .ok (x, rest)) : rest = s := by
  unfold doubleOf at h
  split at h
  · simp only [Except.ok.injEq, Prod.mk.injEq] at h
    exact h.2.symm
  · simp at h

theorem readScale_length {negative : Bool} {n : Nat} {e : Int} {s : List Char} {x : Json.Number}
    {rest : List Char} (h : readScale negative n e s = .ok (x, rest)) :
    rest.length ≤ s.length := by
  unfold readScale at h
  split at h
  · split at h
    · split at h
      · simp at h
      · next hx =>
        have := readExponent_length hx
        rw [doubleOf_rest h]
        simp only [List.length_cons]
        omega
    · exact Nat.le_of_eq (congrArg List.length (doubleOf_rest h))
  · exact Nat.le_of_eq (congrArg List.length (doubleOf_rest h))

theorem readFraction_length {negative : Bool} {n : Nat} {e : Int} {s : List Char}
    {x : Json.Number} {rest : List Char} (h : readFraction negative n e s = .ok (x, rest)) :
    rest.length ≤ s.length := by
  unfold readFraction at h
  split at h
  · simp at h
  · next c more =>
    split at h
    · have h1 := readScale_length h
      have h2 := length_dropWhile_le Char.isDigit (readDigits greatestNatural n (c :: more)).2
      have h3 := readDigits_length greatestNatural n (c :: more)
      omega
    · simp at h

theorem readAfterDigits_length {negative : Bool} {n : Nat} {s : List Char} {x : Json.Number}
    {rest : List Char} (h : readAfterDigits negative n s = .ok (x, rest)) :
    rest.length ≤ s.length := by
  have hd := length_dropWhile_le Char.isDigit s
  simp only [readAfterDigits] at h
  split at h
  · next more hm =>
    have := readFraction_length h
    rw [hm] at hd
    simp only [List.length_cons] at hd
    omega
  · split at h
    · simp only [Except.ok.injEq, Prod.mk.injEq] at h
      obtain ⟨-, rfl⟩ := h
      exact hd
    · have := readScale_length h
      omega

theorem readNumber_length {negative : Bool} {s : List Char} {x : Json.Number} {rest : List Char}
    (h : readNumber negative s = .ok (x, rest)) : rest.length < s.length := by
  unfold readNumber at h
  split at h
  · simp at h
  · next c more =>
    split at h
    · split at h
      · simp at h
      · have := readAfterDigits_length h
        simp only [List.length_cons]
        omega
    · split at h
      · have h1 := readAfterDigits_length h
        have h2 := readDigits_length greatestNatural (c.toNat - '0'.toNat) more
        simp only [List.length_cons]
        omega
      · simp at h

end PluginGateway.Json
