import Mathlib.Data.List.Basic
import PluginGateway.Proofs.TomlStrings

/-!
# TOML lines read back

A simple value is a text, a natural number that 64 bits hold, or a truth value. A line `Spells` a
statement if the statement is read from the line in front of any further lines. The line written for
a key with a simple value spells the assignment, and the one written for a header spells the header.

The main statement is `statements?_blocks`: a text made of blocks of lines, with an empty line
between two of them, is cut into the statements that the lines spell.
-/

namespace PluginGateway.Toml

/-! ## Natural numbers -/

/-- Only the numeral of zero begins with a zero. -/
lemma eq_zero_of_head?_toDigits {n : Nat} (h : (Nat.toDigits 10 n).head? = some '0') : n = 0 := by
  induction n using Nat.strongRecOn with
  | ind n ih =>
    by_cases hn : n < 10
    · rw [Nat.toDigits_of_lt_base hn] at h
      have hdigit : ∀ m < 10, Nat.digitChar m = '0' → m = 0 := by decide
      exact hdigit n hn (Option.some.inj h)
    · obtain ⟨c, w, hw⟩ := List.exists_cons_of_ne_nil (Nat.toDigits_ne_nil (n := n / 10) (b := 10))
      rw [Nat.toDigits_of_base_le (by decide) (by omega), hw] at h
      have hzero := ih (n / 10) (by omega) (hw ▸ h)
      omega

/-- A numeral has no zero in front of other digits. -/
lemma hasLeadingZero_toDigits (n : Nat) : Word.hasLeadingZero (Nat.toDigits 10 n) = false := by
  rw [Word.hasLeadingZero.eq_def]
  split
  · next h =>
    have hzero := eq_zero_of_head?_toDigits (congrArg List.head? h)
    subst hzero
    rw [Nat.toDigits_zero] at h
    exact absurd (List.cons.inj h).2 (List.cons_ne_nil _ _).symm
  · rfl

/-- The characters of a numeral are digits. -/
lemma isDigit_of_mem {n : Nat} {c : Char} (h : c ∈ Nat.toDigits 10 n) : c.isDigit = true :=
  Nat.isDigit_of_mem_toDigits (by decide) (by decide) h

/-- A character that is no digit does not stand in a numeral. -/
lemma not_mem_toDigits {c : Char} (hc : c.isDigit = false) (n : Nat) :
    c ∉ Nat.toDigits 10 n := fun h => by simp [isDigit_of_mem h] at hc

/-- The value of a decimal digit. -/
lemma hexValue?_of_isDigit {c : Char} (h : c.isDigit = true) :
    Text.hexValue? c = some (c.toNat - '0'.toNat) := by
  simp [Text.hexValue?, h]

/-- A numeral spells its number. -/
lemma natural?_toDigits (n : Nat) : Word.natural? 10 (Nat.toDigits 10 n) = some n := by
  have hdigit : ∀ c ∈ Nat.toDigits 10 n,
      ((Text.hexValue? c).map fun d => decide (d < 10)).getD false = true := by
    intro c hc
    have hrange := isDigit_of_mem hc
    rw [hexValue?_of_isDigit hrange]
    have hnine : c.toNat ≤ 57 := by
      simp only [Char.isDigit, Bool.and_eq_true, decide_eq_true_eq] at hrange
      exact hrange.2
    have hzero : '0'.toNat = 48 := rfl
    simp only [Option.map_some, Option.getD_some, decide_eq_true_eq]
    omega
  have hvalue : (Nat.toDigits 10 n).foldl (fun m c => 10 * m + (Text.hexValue? c).getD 0) 0 = n :=
    calc (Nat.toDigits 10 n).foldl (fun m c => 10 * m + (Text.hexValue? c).getD 0) 0
      _ = Nat.ofDigitChars 10 (Nat.toDigits 10 n) 0 :=
        List.foldl_ext _ _ _ fun m c hc => by simp [hexValue?_of_isDigit (isDigit_of_mem hc)]
      _ = n := Nat.ofDigitChars_ten_toDigits
  have hnonempty : (Nat.toDigits 10 n).isEmpty = false := by simp [Nat.toDigits_ne_nil]
  have hgroups : Text.split '_' (Nat.toDigits 10 n) = [Nat.toDigits 10 n] :=
    Text.split_of_not_mem (not_mem_toDigits (by decide) n)
  simp [Word.natural?, Word.ungrouped?, hgroups, hnonempty, List.all_eq_true.mpr hdigit, hvalue]

/-- A numeral spells its number as an integer. -/
lemma integer?_toDigits (n : Nat) : Word.integer? (Nat.toDigits 10 n) = some n := by
  have hmem : ∀ {c d : Char} {w : List Char}, Nat.toDigits 10 n = c :: d :: w → d.isDigit = true :=
    fun h => isDigit_of_mem (h ▸ List.mem_cons_of_mem _ List.mem_cons_self)
  have hsign : DecimalText.splitSign (Nat.toDigits 10 n) = (false, Nat.toDigits 10 n) := by
    rw [DecimalText.splitSign.eq_def]
    split
    · next h => exact absurd (h ▸ List.mem_cons_self) (not_mem_toDigits (by decide) n)
    · next h => exact absurd (h ▸ List.mem_cons_self) (not_mem_toDigits (by decide) n)
    · rfl
  have hungrouped : (Nat.toDigits 10 n).filter (· != '_') = Nat.toDigits 10 n := by
    refine List.filter_eq_self.mpr fun c hc => ?_
    simp only [bne_iff_ne, ne_eq]
    rintro rfl
    exact not_mem_toDigits (by decide) n hc
  rw [Word.integer?.eq_def]
  split
  · next h => exact absurd (hmem h) (by decide)
  · next h => exact absurd (hmem h) (by decide)
  · next h => exact absurd (hmem h) (by decide)
  · simp [hsign, hungrouped, hasLeadingZero_toDigits, natural?_toDigits]

/-- A numeral of a number that 64 bits hold stands for the number. -/
lemma value?_toDigits {n : Nat} (h : n < Nat.pow 2 63) :
    Word.value? (Nat.toDigits 10 n) = some (.integer n) := by
  have hne : ∀ {c : Char} {w : List Char}, c.isDigit = false → Nat.toDigits 10 n ≠ c :: w :=
    fun hc h => not_mem_toDigits hc n (h ▸ List.mem_cons_self)
  have htrue : Nat.toDigits 10 n ≠ "true".toList := hne (by decide)
  have hfalse : Nat.toDigits 10 n ≠ "false".toList := hne (by decide)
  have hbounded : Word.boundedInteger? (Nat.toDigits 10 n) = some (n : Int) := by
    rw [Word.boundedInteger?, integer?_toDigits]
    refine Option.filter_some_pos ?_
    simp only [Bool.and_eq_true, decide_eq_true_eq]
    omega
  rw [Word.value?, if_neg (by simpa using htrue), if_neg (by simpa using hfalse), hbounded]

/-! ## Values -/

/-- A text, a natural number that 64 bits hold, or a truth value. -/
inductive Value.Simple : Value → Prop
  /-- A text. -/
  | text (s : String) : Value.Simple (.text s)
  /-- A natural number. -/
  | natural (n : Nat) (h : n < Nat.pow 2 63) : Value.Simple (.integer n)
  /-- A truth value. -/
  | flag (b : Bool) : Value.Simple (.flag b)

/-- A word ends in front of a line break. -/
lemma take_append {w : List Char} (hw : ∀ c ∈ w, Word.isWordChar c = true) (rest : List Char) :
    Word.take (w ++ '\n' :: rest) = (w, '\n' :: rest) := by
  have htake : (w ++ '\n' :: rest).takeWhile Word.isWordChar = w := by
    rw [List.takeWhile_append_of_pos hw, List.takeWhile_cons_of_neg (by decide), List.append_nil]
  have hdrop : (w ++ '\n' :: rest).dropWhile Word.isWordChar = '\n' :: rest := by
    rw [List.dropWhile_append_of_pos hw, List.dropWhile_cons_of_neg (by decide)]
  rw [Word.take, htake, hdrop]
  split
  · next h => exact absurd (List.cons.inj h).1 (by decide)
  · rfl

/-- A value that is a word is read back. -/
lemma readValue_word {w : List Char} {v : Value} (limit : Nat)
    (hw : ∀ c ∈ w, Word.isWordChar c = true) (hv : Word.value? w = some v) (rest : List Char) :
    readValue limit (w ++ '\n' :: rest) = some (v, '\n' :: rest) := by
  have hhead : ∀ c s, w ++ '\n' :: rest = c :: s → Word.isWordChar c = true ∨ c = '\n' := by
    intro c s h
    cases w with
    | nil => exact .inr (List.cons.inj h).1.symm
    | cons d w => exact .inl ((List.cons.inj h).1 ▸ hw d List.mem_cons_self)
  have hplain : readText? (w ++ '\n' :: rest) = none := by
    rw [readText?.eq_def]
    split
    · next h => exact absurd (hhead _ _ h) (by decide)
    · next h => exact absurd (hhead _ _ h) (by decide)
    · rw [readLineText?.eq_def]
      split
      · next h => exact absurd (hhead _ _ h) (by decide)
      · next h => exact absurd (hhead _ _ h) (by decide)
      · rfl
  rw [readValue.eq_def]
  split
  · next h => exact absurd (hhead _ _ h) (by decide)
  · next h => exact absurd (hhead _ _ h) (by decide)
  · simp [hplain, take_append hw, hv]

/-- A text in its written form begins with a mark. -/
lemma exists_writtenText_eq_cons (s : List Char) :
    ∃ c w, writtenText s = c :: w ∧ (c = '"' ∨ c = '\'') := by
  unfold writtenText
  dsimp only
  split_ifs
  · exact ⟨_, _, rfl, .inl rfl⟩
  · exact ⟨_, _, rfl, .inr rfl⟩
  · exact ⟨_, _, rfl, .inl rfl⟩
  · exact ⟨_, _, rfl, .inr rfl⟩
  · exact ⟨_, _, rfl, .inl rfl⟩
  · exact ⟨_, _, rfl, .inl rfl⟩

/-- The numeral of a natural number as an integer. -/
lemma writtenValue_natural (n : Nat) : writtenValue (.integer n) = Nat.toDigits 10 n := by
  show (toString (n : Int)).toList = Nat.toDigits 10 n
  rw [show toString (n : Int) = toString n from rfl, Nat.toString_eq_ofList_toDigits,
    String.toList_ofList]

/-- A simple value is read back at the end of a line. -/
theorem readValue_writtenValue {v : Value} (hv : v.Simple) (limit : Nat) (rest : List Char) :
    readValue limit (writtenValue v ++ '\n' :: rest) = some (v, '\n' :: rest) := by
  cases hv with
  | text s =>
    have hread : readText? (writtenText s.toList ++ '\n' :: rest) = some (s.toList, '\n' :: rest) :=
      readText?_writtenText s.toList (by simp) (by simp)
    obtain ⟨c, w, hw, hc⟩ := exists_writtenText_eq_cons s.toList
    rw [writtenValue, readValue.eq_def]
    split
    · next h =>
      rw [hw] at h
      obtain rfl := (List.cons.inj h).1
      exact absurd hc (by decide)
    · next h =>
      rw [hw] at h
      obtain rfl := (List.cons.inj h).1
      exact absurd hc (by decide)
    · simp [hread]
  | natural n h =>
    rw [writtenValue_natural]
    refine readValue_word limit (fun c hc => ?_) (value?_toDigits h) rest
    simp [Word.isWordChar, Char.isAlphanum, isDigit_of_mem hc]
  | flag b =>
    have hword : ∀ c ∈ writtenValue (.flag b), Word.isWordChar c = true :=
      List.all_eq_true.mp (by cases b <;> rfl)
    have hvalue : Word.value? (writtenValue (.flag b)) = some (.flag b) := by
      cases b <;> rfl
    exact readValue_word limit hword hvalue rest

/-- A simple value in its written form does not begin with a blank. -/
lemma skipBlanks_writtenValue {v : Value} (hv : v.Simple) (rest : List Char) :
    skipBlanks (writtenValue v ++ rest) = writtenValue v ++ rest := by
  have hhead : ∃ c w, writtenValue v = c :: w ∧ isLineBlank c = false := by
    cases hv with
    | text s =>
      obtain ⟨c, w, hw, rfl | rfl⟩ := exists_writtenText_eq_cons s.toList
      · exact ⟨_, w, hw, by decide⟩
      · exact ⟨_, w, hw, by decide⟩
    | natural n h =>
      rw [writtenValue_natural]
      obtain ⟨c, w, hw⟩ := List.exists_cons_of_ne_nil (Nat.toDigits_ne_nil (n := n) (b := 10))
      refine ⟨c, w, hw, ?_⟩
      have hdigit : c.isDigit = true := isDigit_of_mem (hw ▸ List.mem_cons_self)
      rw [isLineBlank, Bool.or_eq_false_iff, beq_eq_false_iff_ne, beq_eq_false_iff_ne]
      constructor <;>
      · rintro rfl
        exact absurd hdigit (by decide)
    | flag b => cases b <;> exact ⟨_, _, rfl, by decide⟩
  obtain ⟨c, w, hw, hc⟩ := hhead
  rw [hw, List.cons_append, skipBlanks, List.dropWhile_cons_of_neg (by simp [hc])]

/-! ## Lines -/

/-- A character that begins no filler and is no byte order mark. -/
def opensStatement (c : Char) : Bool :=
  c != '\r' && c != '\n' && c != '#' && !isLineBlank c && c != '\ufeff'

/-- The line is read as the statement, whatever lines follow. -/
structure Spells (line : List Char) (st : Statement) : Prop where
  /-- The line begins with the statement. -/
  head : ∃ c w, line = c :: w ∧ opensStatement c = true
  /-- The statement ends with the line. -/
  read : ∀ rest, readStatement (line ++ '\n' :: rest) = some (st, '\n' :: rest)

/-- A key in its written form opens a statement and is no header. -/
lemma exists_writtenKey_eq_cons (key : String) :
    ∃ c w, writtenKey key = c :: w ∧ opensStatement c = true ∧ c ≠ '[' := by
  obtain ⟨c, w, hw, hc⟩ := head?_writtenKey key
  refine ⟨c, w, hw, ?_⟩
  rcases hc with hbare | rfl | rfl
  · have hother : ∀ d ∈ ['\r', '\n', '#', ' ', '\t', '\ufeff', '['], c ≠ d := by
      rintro d hd rfl
      simp only [List.mem_cons, List.not_mem_nil, or_false] at hd
      rcases hd with rfl | rfl | rfl | rfl | rfl | rfl | rfl <;> exact absurd hbare (by decide)
    simp only [List.mem_cons, List.not_mem_nil, or_false, forall_eq_or_imp, forall_eq] at hother
    simpa [opensStatement, isLineBlank, and_assoc] using hother
  · decide
  · decide

/-- There is nothing to skip where a statement begins. -/
lemma skipBlanks_of_opensStatement {c : Char} (h : opensStatement c = true) (rest : List Char) :
    skipBlanks (c :: rest) = c :: rest := by
  have hblank : isLineBlank c = false := by simp_all [opensStatement]
  rw [skipBlanks, List.dropWhile_cons_of_neg (by simp [hblank])]

/-- There is nothing to skip in front of a key. -/
lemma skipBlanks_writtenKey (key : String) (rest : List Char) :
    skipBlanks (writtenKey key ++ rest) = writtenKey key ++ rest := by
  obtain ⟨c, w, hw, hc, -⟩ := exists_writtenKey_eq_cons key
  rw [hw, List.cons_append, skipBlanks_of_opensStatement hc]

/-- Keys joined by dots are read back in front of a character that ends a key. -/
lemma readKeyParts_join {path : List String} (hne : path ≠ []) {limit : Nat}
    (hlimit : path.length ≤ limit) (rest : List Char) :
    readKeyParts limit (Text.join '.' (path.map writtenKey) ++ ']' :: rest)
      = some (path, ']' :: rest) := by
  induction path generalizing limit with
  | nil => exact absurd rfl hne
  | cons key path ih =>
    obtain ⟨limit, rfl⟩ : ∃ l, limit = l + 1 := ⟨limit - 1, by simp at hlimit; omega⟩
    cases path with
    | nil =>
      have hpart := readKeyPart_writtenKey key (c := ']') (by decide) rest
      have hblanks : skipBlanks (']' :: rest) = ']' :: rest :=
        skipBlanks_of_opensStatement (by decide) rest
      simp [readKeyParts, Text.join, skipBlanks_writtenKey, hpart, hblanks]
    | cons next path =>
      have hmore := ih (List.cons_ne_nil _ _) (Nat.le_of_succ_le_succ hlimit)
      simp only [List.map_cons] at hmore
      have hpart := readKeyPart_writtenKey key (c := '.') (by decide)
        (Text.join '.' (writtenKey next :: path.map writtenKey) ++ ']' :: rest)
      have hblanks := skipBlanks_of_opensStatement (c := '.') (by decide)
        (Text.join '.' (writtenKey next :: path.map writtenKey) ++ ']' :: rest)
      simp [readKeyParts, Text.join, skipBlanks_writtenKey, hpart, hblanks, hmore]

/-- The line written for a header spells the header. -/
lemma spells_writtenHeader {path : List String} (hne : path ≠ [])
    (hlimit : path.length ≤ depthLimit) : Spells (writtenHeader path) (.header path) := by
  refine ⟨⟨'[', _, rfl, by decide⟩, fun rest => ?_⟩
  have hkey := readKeyParts_join hne hlimit ('\n' :: rest)
  obtain ⟨key, more, rfl⟩ := List.exists_cons_of_ne_nil hne
  have hform : writtenHeader (key :: more) ++ '\n' :: rest
      = '[' :: (Text.join '.' ((key :: more).map writtenKey) ++ ']' :: '\n' :: rest) := by
    simp [writtenHeader]
  have hother : ∀ s, Text.join '.' ((key :: more).map writtenKey) ++ ']' :: '\n' :: rest
      ≠ '[' :: s := by
    intro s h
    obtain ⟨c, w, hw, -, hc⟩ := exists_writtenKey_eq_cons key
    rw [List.map_cons, hw] at h
    cases more <;> exact hc (List.cons.inj h).1
  rw [hform, readStatement.eq_def]
  split
  · next h => exact absurd (List.cons.inj h).2 (hother _)
  · next h =>
    obtain rfl := (List.cons.inj h).2
    rw [readKey, hkey]
    rfl
  · next h => exact absurd rfl (h _)

/-- The line written for a key with a simple value spells the assignment. -/
lemma spells_assignment (key : String) {v : Value} (hv : v.Simple) :
    Spells (writtenKey key ++ " = ".toList ++ writtenValue v) (.assignment [key] v) := by
  obtain ⟨c, w, hw, hc, hother⟩ := exists_writtenKey_eq_cons key
  refine ⟨⟨c, w ++ (" = ".toList ++ writtenValue v), by simp [hw], hc⟩, fun rest => ?_⟩
  have hform : writtenKey key ++ " = ".toList ++ writtenValue v ++ '\n' :: rest
      = writtenKey key ++ ' ' :: '=' :: ' ' :: (writtenValue v ++ '\n' :: rest) := by simp
  have hpart := readKeyPart_writtenKey key (c := ' ') (by decide)
    ('=' :: ' ' :: (writtenValue v ++ '\n' :: rest))
  have hequals : skipBlanks (' ' :: '=' :: ' ' :: (writtenValue v ++ '\n' :: rest))
      = '=' :: ' ' :: (writtenValue v ++ '\n' :: rest) := rfl
  have hkey : readKey (writtenKey key ++ ' ' :: '=' :: ' ' :: (writtenValue v ++ '\n' :: rest))
      = some ([key], '=' :: ' ' :: (writtenValue v ++ '\n' :: rest)) := by
    show readKeyParts (78 + 1) _ = _
    rw [readKeyParts, skipBlanks_writtenKey, hpart]
    simp only [Option.bind_eq_bind, Option.bind_some, hequals]
    rfl
  have hblank : skipBlanks (' ' :: (writtenValue v ++ '\n' :: rest))
      = writtenValue v ++ '\n' :: rest :=
    skipBlanks_writtenValue hv _
  rw [hform, readStatement.eq_def]
  split
  · next h =>
    rw [hw] at h
    exact absurd (List.cons.inj h).1 hother
  · next h =>
    rw [hw] at h
    exact absurd (List.cons.inj h).1 hother
  · simp [readAssignment, hkey, hblank, readValue_writtenValue hv]

/-! ## Statements -/

/-- There is no filler where a statement begins. -/
lemma skipFiller_of_opensStatement {c : Char} (h : opensStatement c = true) (rest : List Char) :
    skipFiller (c :: rest) = c :: rest := by
  simp only [opensStatement, Bool.and_eq_true, bne_iff_ne, Bool.not_eq_true'] at h
  obtain ⟨⟨⟨⟨hreturn, hfeed⟩, hmark⟩, hblank⟩, -⟩ := h
  rw [skipFiller.eq_def]
  split
  · next h => cases h
  · next h => exact absurd (List.cons.inj h).1 hreturn
  · next h => exact absurd (List.cons.inj h).1 hmark
  · next h =>
    obtain ⟨rfl, rfl⟩ := List.cons.inj h
    simp [hblank, hfeed]

/-- A line that spells a statement is read in front of the statements behind it. -/
lemma statements?_line {line : List Char} {st : Statement} (h : Spells line st)
    {rest : List Char} {more : List Statement} (hrest : statements? rest = some more) :
    statements? (line ++ '\n' :: rest) = some (st :: more) := by
  obtain ⟨⟨c, w, rfl, hc⟩, hread⟩ := h
  have hafter : afterLine? ('\n' :: rest) = some rest := rfl
  have hline := hread rest
  rw [List.cons_append] at hline ⊢
  rw [statements?, skipFiller_of_opensStatement hc]
  simp only [hline, hafter]
  rw [if_pos (by simp; omega), hrest]
  rfl

/-- An empty line holds no statement. -/
lemma statements?_empty_line {rest : List Char} {more : List Statement}
    (h : statements? rest = some more) : statements? ('\n' :: rest) = some more := by
  have hskip : skipFiller ('\n' :: rest) = skipFiller rest := by simp [skipFiller, isLineBlank]
  rw [statements?] at h ⊢
  rw [hskip]
  split at h
  · next hend => simpa [hend] using h
  · cases hstatement : readStatement (skipFiller rest) with
    | none => simp [hstatement] at h
    | some r =>
      cases hafter : afterLine? r.2 with
      | none => simp [hstatement, hafter] at h
      | some behind =>
        simp only [hstatement, hafter] at h ⊢
        split at h
        · next hlt =>
          rw [if_pos (by simp only [List.length_cons]; omega)]
          exact h
        · exact absurd h (by simp)

/-- The lines of a block, each ended by a line break. -/
def blockText (block : List (List Char)) : List Char := block.flatMap fun line => line ++ ['\n']

/-- A block of lines is read in front of the statements behind it. -/
lemma statements?_block {block : List (List Char)} {sts : List Statement}
    (h : List.Forall₂ Spells block sts) {rest : List Char} {more : List Statement}
    (hrest : statements? rest = some more) :
    statements? (blockText block ++ rest) = some (sts ++ more) := by
  induction h with
  | nil => simpa [blockText] using hrest
  | @cons line st block sts hline _ ih =>
    have htext : blockText (line :: block) ++ rest = line ++ '\n' :: (blockText block ++ rest) := by
      simp [blockText]
    rw [htext, List.cons_append]
    exact statements?_line hline ih

/-- The lines of a document are read, block by block. -/
theorem statements?_blocks {blocks : List (List (List Char))} {sts : List (List Statement)}
    (h : List.Forall₂ (List.Forall₂ Spells) blocks sts) :
    statements? (Text.join '\n' ((blocks.filter fun b => !b.isEmpty).map blockText))
      = some sts.flatten := by
  induction h with
  | nil => simp [Text.join, statements?, skipFiller]
  | @cons block own blocks sts hblock _ ih =>
    cases hempty : block.isEmpty with
    | true =>
      obtain rfl := List.isEmpty_iff.mp hempty
      cases hblock
      simpa [hempty] using ih
    | false =>
      rw [List.filter_cons_of_pos (by simp [hempty]), List.map_cons, List.flatten_cons]
      generalize (blocks.filter fun b => !b.isEmpty).map blockText = texts at ih
      cases texts with
      | nil => simpa [Text.join] using statements?_block hblock ih
      | cons text texts => exact statements?_block hblock (statements?_empty_line ih)

/-- A document that has lines does not begin with a byte order mark. -/
lemma head?_blocks {blocks : List (List (List Char))} {sts : List (List Statement)}
    (h : List.Forall₂ (List.Forall₂ Spells) blocks sts) :
    (Text.join '\n' ((blocks.filter fun b => !b.isEmpty).map blockText)).head? ≠ some '\ufeff' := by
  induction h with
  | nil => simp [Text.join]
  | @cons block own blocks sts hblock _ ih =>
    cases hblock with
    | nil => exact ih
    | @cons line st block own hline _ =>
      obtain ⟨c, w, rfl, hc⟩ := hline.head
      have hne : c ≠ '\ufeff' := by
        rintro rfl
        exact absurd hc (by decide)
      rw [List.filter_cons_of_pos rfl, List.map_cons]
      generalize (blocks.filter fun b => !b.isEmpty).map blockText = texts
      cases texts <;> simpa [blockText, Text.join] using hne

end PluginGateway.Toml
