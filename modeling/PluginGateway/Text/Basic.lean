/-!
# Plain text

Texts are lists of characters. Here is what every reader of them needs: which characters are blank,
letters of either case, digits in base sixteen, and the pieces of a text between separators.

`split` cuts a text at every occurrence of a character and `join` puts the pieces back together. The
two statements `join_split` and `split_join` say that nothing is lost, and that pieces without the
separator are found again. `words` cuts a text at its spaces and line feeds.
-/

namespace PluginGateway.Text

/-! ## Blank characters

`isBlank` is the Unicode property `White_Space`. It has twenty-five members, in ten stretches.
-/

/-- The stretches of code points with the property `White_Space`, each by its first and last
member. -/
def blankRanges : List (Nat × Nat) :=
  [(0x09, 0x0D), (0x20, 0x20), (0x85, 0x85), (0xA0, 0xA0), (0x1680, 0x1680), (0x2000, 0x200A),
    (0x2028, 0x2029), (0x202F, 0x202F), (0x205F, 0x205F), (0x3000, 0x3000)]

/-- A character is blank if its code point lies in one of the stretches. -/
def isBlank (c : Char) : Bool :=
  blankRanges.any fun r => decide (r.1 ≤ c.toNat) && decide (c.toNat ≤ r.2)

/-- The text without the blanks at either end. -/
def trim (s : List Char) : List Char :=
  ((s.dropWhile isBlank).reverse.dropWhile isBlank).reverse

/-! ## Letter case within ASCII

Names that come from the network or from a configuration are compared without regard to the case of
the letters `a` to `z`; every other character stands for itself.
-/

/-- The text with the letters `A` to `Z` replaced by `a` to `z`. -/
def lowerAscii (s : List Char) : List Char := s.map Char.toLower

/-- The text with the letters `a` to `z` replaced by `A` to `Z`. -/
def upperAscii (s : List Char) : List Char := s.map Char.toUpper

/-- Two texts agree up to the case of ASCII letters. -/
def sameIgnoringCase (s t : List Char) : Bool := lowerAscii s == lowerAscii t

@[simp] theorem length_lowerAscii (s : List Char) : (lowerAscii s).length = s.length := by
  simp [lowerAscii]

/-! ## Hexadecimal digits

The value of a digit in base sixteen, in either case of its letters, and the number that a row of
digits spells.
-/

/-- The value of a hexadecimal digit. -/
def hexValue? (c : Char) : Option Nat :=
  if c.isDigit then some (c.toNat - '0'.toNat)
  else if 'a' ≤ c ∧ c ≤ 'f' then some (c.toNat - 'a'.toNat + 10)
  else if 'A' ≤ c ∧ c ≤ 'F' then some (c.toNat - 'A'.toNat + 10)
  else none

/-- The number that hexadecimal digits spell; any other character counts as a zero. -/
def hexNumber (s : List Char) : Nat := s.foldl (fun n c => 16 * n + (hexValue? c).getD 0) 0

/-! ## Cutting a text at a separator -/

/-- The pieces of a text between the occurrences of `sep`; a text without one is a single piece. -/
def split (sep : Char) : List Char → List (List Char)
  | [] => [[]]
  | c :: rest =>
    match split sep rest with
    | [] => [[c]]
    | s :: more => if c = sep then [] :: s :: more else (c :: s) :: more

/-- The words of a text: what stands between spaces and line feeds. -/
def words (text : List Char) : List (List Char) :=
  (split ' ' (text.map fun c => if c = '\n' then ' ' else c)).filter fun w => !w.isEmpty

/-- The pieces written one after another with `sep` between neighbours. -/
def join (sep : Char) : List (List Char) → List Char
  | [] => []
  | [s] => s
  | s :: t :: more => s ++ sep :: join sep (t :: more)

theorem split_ne_nil (sep : Char) (text : List Char) : split sep text ≠ [] := by
  cases text with
  | nil => simp [split]
  | cons c rest =>
    rw [split]
    split
    · simp
    · split <;> simp

@[simp] theorem join_nil_cons (sep : Char) (s : List Char) (more : List (List Char)) :
    join sep ([] :: s :: more) = sep :: join sep (s :: more) := by
  simp [join]

theorem join_cons_cons (sep c : Char) (s : List Char) (more : List (List Char)) :
    join sep ((c :: s) :: more) = c :: join sep (s :: more) := by
  cases more <;> simp [join]

/-- Cutting a text and joining the pieces gives the text back. -/
theorem join_split (sep : Char) (text : List Char) : join sep (split sep text) = text := by
  induction text with
  | nil => rfl
  | cons c rest ih =>
    rw [split]
    cases h : split sep rest with
    | nil => exact absurd h (split_ne_nil sep rest)
    | cons s more =>
      rw [h] at ih
      by_cases hc : c = sep
      · simp [hc, ih]
      · simp [hc, join_cons_cons, ih]

/-- A text without the separator is its own only piece. -/
theorem split_of_not_mem {sep : Char} {s : List Char} (h : sep ∉ s) : split sep s = [s] := by
  induction s with
  | nil => rfl
  | cons c rest ih =>
    have hc : c ≠ sep := fun e => h (e ▸ List.mem_cons_self)
    have hr : sep ∉ rest := fun m => h (List.mem_cons_of_mem _ m)
    simp [split, ih hr, hc]

/-- The pieces of a text without the separator, the separator and another text are the first text
and the pieces of the other. -/
theorem split_append_cons {sep : Char} {s : List Char} (h : sep ∉ s) (rest : List Char) :
    split sep (s ++ sep :: rest) = s :: split sep rest := by
  induction s with
  | nil =>
    cases hr : split sep rest with
    | nil => exact absurd hr (split_ne_nil sep rest)
    | cons t more => simp [split, hr]
  | cons c s ih =>
    have hc : c ≠ sep := fun e => h (e ▸ List.mem_cons_self)
    have hs : sep ∉ s := fun m => h (List.mem_cons_of_mem _ m)
    simp [split, ih hs, hc]

/-- Joining pieces without the separator and cutting the text finds the same pieces again. -/
theorem split_join {sep : Char} {pieces : List (List Char)} (hne : pieces ≠ [])
    (h : ∀ s ∈ pieces, sep ∉ s) : split sep (join sep pieces) = pieces := by
  induction pieces with
  | nil => exact absurd rfl hne
  | cons s more ih =>
    have hs := h s List.mem_cons_self
    cases more with
    | nil => simpa [join] using split_of_not_mem hs
    | cons t more =>
      rw [join, split_append_cons hs,
        ih (by simp) fun u hu => h u (List.mem_cons_of_mem _ hu)]

/-- No piece of a text holds the separator. -/
theorem not_mem_of_mem_split {sep : Char} {text s : List Char} (h : s ∈ split sep text) :
    sep ∉ s := by
  induction text generalizing s with
  | nil => simp_all [split]
  | cons c rest ih =>
    rw [split] at h
    cases hr : split sep rest with
    | nil => exact absurd hr (split_ne_nil sep rest)
    | cons t more =>
      rw [hr] at h ih
      by_cases hc : c = sep
      · simp only [hc, if_true] at h
        rcases List.mem_cons.1 h with rfl | h
        · simp
        · exact ih h
      · simp only [hc, if_false] at h
        rcases List.mem_cons.1 h with rfl | h
        · have := ih (s := t) List.mem_cons_self
          simp [Ne.symm hc, this]
        · exact ih (List.mem_cons_of_mem _ h)

end PluginGateway.Text
