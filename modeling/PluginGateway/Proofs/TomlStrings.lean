import Mathlib.Tactic.Common
import PluginGateway.Toml.Reader
import PluginGateway.Toml.Writer

/-!
# TOML strings read back

A string is written in the plainest of four forms that can hold it, and a key in the plainest of
three. `Spelling` says how a character can stand between quotation marks: as itself, or as an escape
that is read as the character. With it each reader finds a string again in the form that is written
for it, for any string at all.

The main statements are `readText?_writtenText` for strings and `readKeyPart_writtenKey` for keys.
-/

namespace PluginGateway.Toml

/-- A way for a character to stand between quotation marks. -/
inductive Spelling (c : Char) : List Char → Prop
  /-- The character itself. -/
  | plain (htext : isTextChar c = true) (hquote : c ≠ '"') (hslash : c ≠ '\\') : Spelling c [c]
  /-- An escape that is read as the character; its backslash hides no line break. -/
  | escape (x : Char) (e : List Char) (hx : isLineBlank x = false ∧ x ≠ '\n' ∧ x ≠ '\r')
      (hread : ∀ rest, readEscape (x :: (e ++ rest)) = some (c, rest)) : Spelling c ('\\' :: x :: e)

/-- The digit for a value below sixteen has that value. -/
lemma hexValue?_upper {n : Nat} (h : n < 16) :
    Text.hexValue? (Nat.digitChar n).toUpper = some n := by
  have hall : ∀ k : Fin 16, Text.hexValue? (Nat.digitChar k).toUpper = some k.val := by decide
  exact hall ⟨n, h⟩

/-- The escape by a code point is read as the character. -/
lemma readEscape_code {c : Char} (hc : c.toNat < 128) (rest : List Char) :
    readEscape ('u' :: ('0' :: '0' :: (Nat.digitChar (c.toNat / 16)).toUpper ::
      (Nat.digitChar (c.toNat % 16)).toUpper :: rest)) = some (c, rest) := by
  have hzero : Text.hexValue? '0' = some 0 := by decide
  have hhigh : c.toNat / 16 < 16 := by omega
  have hvalue : 16 * (c.toNat / 16) + c.toNat % 16 = c.toNat := by omega
  have hvalid : c.toNat.isValidChar := c.valid
  simp only [readEscape, readCodePoint, readHex, hzero, hexValue?_upper hhigh,
    hexValue?_upper (Nat.mod_lt c.toNat (by decide)), Option.bind_some, Nat.mul_zero, Nat.add_zero,
    Nat.zero_add, hvalue, hvalid, if_true, Char.ofNat_toNat]

/-- A character that needs no escape is one of a text, or a line feed. -/
lemma isTextChar_of_not_needsEscape {c : Char} (h : needsEscape c = false) (hc : c ≠ '\n') :
    isTextChar c = true := by
  by_cases htab : c = '\t'
  · subst htab
    decide
  · simp only [needsEscape, Bool.or_eq_false_iff, Bool.and_eq_false_iff, decide_eq_false_iff_not,
      bne_eq_false_iff_eq, beq_eq_false_iff_ne, htab, hc, or_false] at h
    simp [isTextChar, Nat.le_of_not_lt h.1, h.2]

/-- Every character is written in a way in which it can stand between quotation marks. -/
lemma spelling_escaped (c : Char) : Spelling c (escaped c) := by
  unfold escaped
  split
  · exact .escape '"' [] (by decide) fun _ => rfl
  · exact .escape '\\' [] (by decide) fun _ => rfl
  · exact .escape 'b' [] (by decide) fun _ => rfl
  · exact .escape 't' [] (by decide) fun _ => rfl
  · exact .escape 'n' [] (by decide) fun _ => rfl
  · exact .escape 'f' [] (by decide) fun _ => rfl
  · exact .escape 'r' [] (by decide) fun _ => rfl
  · next hquote hslash _ _ hfeed _ _ =>
    split
    · next hescape =>
      have hc : c.toNat < 128 := by
        simp only [needsEscape, Bool.or_eq_true, Bool.and_eq_true, decide_eq_true_eq,
          beq_iff_eq] at hescape
        omega
      exact .escape 'u' _ (by decide) (readEscape_code hc)
    · next hescape =>
      exact .plain (isTextChar_of_not_needsEscape (by simpa using hescape) hfeed) hquote hslash

/-! ## Strings on one line -/

/-- A character between quotation marks is read. -/
lemma readBasic_spelling {c : Char} {w : List Char} (h : Spelling c w) (rest : List Char) :
    readBasic (w ++ rest) = (readBasic rest).map fun r => (c :: r.1, r.2) := by
  cases h with
  | plain htext hquote hslash =>
    rw [List.singleton_append, readBasic.eq_def]
    split
    · next h => cases h
    · next h => cases h; exact absurd rfl hquote
    · next h => cases h; exact absurd rfl hslash
    · next h => cases h; rw [if_pos htext]
  | escape x e hx hread =>
    have hlength : rest.length ≤ (x :: (e ++ rest)).length := by simp; omega
    rw [List.cons_append, List.cons_append, readBasic, hread]
    dsimp only
    rw [if_pos hlength]

/-- A string between quotation marks is read back. -/
lemma readBasic_escaped (s rest : List Char) :
    readBasic (s.flatMap escaped ++ '"' :: rest) = some (s, rest) := by
  induction s with
  | nil => rw [List.flatMap_nil, List.nil_append, readBasic]
  | cons c s ih =>
    rw [List.flatMap_cons, List.append_assoc, readBasic_spelling (spelling_escaped c), ih]
    rfl

/-- A string between apostrophes is read back. -/
lemma readLiteral_append {s : List Char} (htext : ∀ c ∈ s, isTextChar c = true)
    (hmark : '\'' ∉ s) (rest : List Char) : readLiteral (s ++ '\'' :: rest) = some (s, rest) := by
  induction s with
  | nil => rfl
  | cons c s ih =>
    obtain ⟨hc, hs⟩ := List.forall_mem_cons.mp htext
    obtain ⟨hne, hmark⟩ := List.ne_and_not_mem_of_not_mem_cons hmark
    rw [List.cons_append, readLiteral.eq_def]
    split
    · next h => cases h
    · next h => cases h; exact absurd rfl hne
    · next h => cases h; rw [if_pos hc, ih hs hmark]; rfl

/-! ## Strings of several lines -/

/-- A character of a string of several lines between quotation marks is read, unless it is the first
of three marks. -/
lemma readMultiBasic_char {c : Char} (hc : isTextChar c = true ∨ c = '\n') (hslash : c ≠ '\\')
    {rest : List Char} (hmarks : c = '"' → ¬['"', '"'] <+: rest) :
    readMultiBasic (c :: rest) = (readMultiBasic rest).map fun r => (c :: r.1, r.2) := by
  rw [readMultiBasic.eq_def]
  split
  · next h => cases h
  · next h => cases h; exact absurd ⟨_, rfl⟩ (hmarks rfl)
  · next h => cases h; exact absurd rfl hslash
  · next h => cases h; exact absurd hc (by decide)
  · next h => cases h; rw [if_pos (by simpa using hc)]

/-- A text whose first character breaks no line begins with no line break. -/
lemma afterBreak?_eq_none {c : Char} (hc : c ≠ '\n' ∧ c ≠ '\r') (rest : List Char) :
    afterBreak? (c :: rest) = none := by
  rw [afterBreak?.eq_def]
  split
  · next h => exact absurd (List.cons.inj h).1 hc.1
  · next h => exact absurd (List.cons.inj h).1 hc.2
  · rfl

/-- An escape in a string of several lines is read. -/
lemma readMultiBasic_escape {c x : Char} {e : List Char}
    (hx : isLineBlank x = false ∧ x ≠ '\n' ∧ x ≠ '\r')
    (hread : ∀ rest, readEscape (x :: (e ++ rest)) = some (c, rest)) (rest : List Char) :
    readMultiBasic ('\\' :: x :: (e ++ rest)) =
      (readMultiBasic rest).map fun r => (c :: r.1, r.2) := by
  have hbreak : hiddenBreak? (x :: (e ++ rest)) = none := by
    rw [hiddenBreak?, List.dropWhile_cons_of_neg (by simp [hx.1]), afterBreak?_eq_none hx.2]
    rfl
  have hlength : rest.length ≤ (x :: (e ++ rest)).length := by simp; omega
  rw [readMultiBasic, hbreak]
  dsimp only
  rw [hread]
  dsimp only
  rw [if_pos hlength]

/-- Up to two marks in front of something else are read as themselves, by a reader that takes a mark
for itself unless two others follow. -/
lemma read_marks {mark : Char} {read : List Char → Option (List Char × List Char)}
    (hread : ∀ rest, ¬[mark, mark] <+: rest →
      read (mark :: rest) = (read rest).map fun r => (mark :: r.1, r.2))
    {marks : Nat} (hmarks : marks ≤ 2) {rest : List Char} (hrest : rest.head? ≠ some mark) :
    read (List.replicate marks mark ++ rest) =
      (read rest).map fun r => (List.replicate marks mark ++ r.1, r.2) := by
  have hnone : ∀ m ≤ 1, ¬[mark, mark] <+: List.replicate m mark ++ rest := by
    rintro m hm ⟨more, hmore⟩
    obtain rfl | rfl : m = 0 ∨ m = 1 := by omega
    · exact hrest (congrArg List.head? hmore.symm)
    · exact hrest (congrArg List.head? (List.cons.inj hmore).2.symm)
  induction marks with
  | zero => simp
  | succ m ih =>
    rw [List.replicate_succ, List.cons_append, hread _ (hnone m (by omega)), ih (by omega),
      Option.map_map]
    rfl

/-- Up to two marks behind the end of a string belong to it. -/
lemma closingMarks_replicate {mark : Char} {marks : Nat} (hmarks : marks ≤ 2) {rest : List Char}
    (hrest : rest.head? ≠ some mark) :
    closingMarks mark (List.replicate marks mark ++ rest) = (List.replicate marks mark, rest) := by
  have hall : ∀ c ∈ List.replicate marks mark, (c == mark) = true := by
    intro c hc
    simp [List.eq_of_mem_replicate hc]
  have hnone : rest.takeWhile (· == mark) = [] := by
    cases rest with
    | nil => rfl
    | cons c rest => exact List.takeWhile_cons_of_neg (by simpa using hrest)
  have hlength : min 2 ((List.replicate marks mark ++ rest).takeWhile (· == mark)).length =
      (List.replicate marks mark).length := by
    rw [List.takeWhile_append_of_pos hall, hnone, List.append_nil, List.length_replicate]
    omega
  rw [closingMarks, hlength, List.take_left, List.drop_left]

/-- Marks in front of three others of their kind may as well stand behind these. -/
lemma replicate_append_marks (mark : Char) (marks : Nat) (rest : List Char) :
    List.replicate marks mark ++ mark :: mark :: mark :: rest =
      mark :: mark :: mark :: (List.replicate marks mark ++ rest) := by
  have hthree : mark :: mark :: mark :: rest = List.replicate 3 mark ++ rest := rfl
  rw [hthree, ← List.append_assoc, List.replicate_append_replicate, Nat.add_comm,
    ← List.replicate_append_replicate]
  rfl

/-- A string of several lines between quotation marks is read back, with the marks that stand in
front of it. -/
lemma readMultiBasic_escapedLines (s : List Char) (marks : Nat) (hmarks : marks ≤ 2)
    {rest : List Char} (hrest : rest.head? ≠ some '"') :
    readMultiBasic (List.replicate marks '"' ++
      (escapedLines marks s ++ '"' :: '"' :: '"' :: rest)) =
        some (List.replicate marks '"' ++ s, rest) := by
  induction s generalizing marks with
  | nil =>
    rw [escapedLines, List.nil_append, replicate_append_marks, readMultiBasic,
      closingMarks_replicate hmarks hrest, List.append_nil]
  | cons c s ih =>
    -- what is read behind the marks, if the character has its own way to be read
    have hbehind {w : List Char} (hw : w.head? ≠ some '"' ∧ w ≠ [])
        (hread : ∀ more, readMultiBasic (w ++ more) =
          (readMultiBasic more).map fun r => (c :: r.1, r.2)) :
        readMultiBasic (List.replicate marks '"' ++
          (w ++ escapedLines 0 s ++ '"' :: '"' :: '"' :: rest)) =
            some (List.replicate marks '"' ++ c :: s, rest) := by
      have hhead : (w ++ (escapedLines 0 s ++ '"' :: '"' :: '"' :: rest)).head? ≠ some '"' := by
        obtain ⟨d, w, rfl⟩ := List.exists_cons_of_ne_nil hw.2
        exact hw.1
      rw [List.append_assoc, read_marks (fun more hmore =>
        readMultiBasic_char (.inl (by decide)) (by decide) fun _ => hmore) hmarks hhead, hread]
      have hrest' := ih 0 (by decide)
      simp only [List.replicate_zero, List.nil_append] at hrest'
      rw [hrest']
      rfl
    by_cases hquote : c = '"'
    · subst hquote
      rw [escapedLines]
      split
      · have hmore := ih (marks + 1) (by omega)
        simpa [List.replicate_succ'] using hmore
      · exact hbehind (w := ['\\', '"']) (by decide)
          fun more => readMultiBasic_escape (e := []) (by decide) (fun _ => rfl) more
    · by_cases hfeed : c = '\n'
      · subst hfeed
        rw [escapedLines]
        exact hbehind (w := ['\n']) (by decide)
          fun more => readMultiBasic_char (.inr rfl) (by decide)
            fun h => absurd h (by decide)
      · rw [escapedLines.eq_4 _ _ _ hquote hfeed]
        have hspelling := spelling_escaped c
        generalize escaped c = w at hspelling ⊢
        cases hspelling with
        | plain htext hmark hslash =>
          exact hbehind ⟨by simpa using hmark, List.cons_ne_nil _ _⟩
            fun more => readMultiBasic_char (.inl htext) hslash fun h => absurd h hmark
        | escape x e hx hread =>
          exact hbehind ⟨by simp, List.cons_ne_nil _ _⟩ fun more => by
            simpa using readMultiBasic_escape hx hread more

/-- A character of a string of several lines between apostrophes is read, unless it is the first of
three marks. -/
lemma readMultiLiteral_char {c : Char} (hc : isTextChar c = true ∨ c = '\n') {rest : List Char}
    (hmarks : c = '\'' → ¬['\'', '\''] <+: rest) :
    readMultiLiteral (c :: rest) = (readMultiLiteral rest).map fun r => (c :: r.1, r.2) := by
  rw [readMultiLiteral.eq_def]
  split
  · next h => cases h
  · next h => cases h; exact absurd ⟨_, rfl⟩ (hmarks rfl)
  · next h => cases h; exact absurd hc (by decide)
  · next h => cases h; rw [if_pos (by simpa using hc)]

/-- The longest stretch is at least as long as the one at the head. -/
lemma le_longestRun (mark : Char) (s : List Char) (current : Nat) :
    current ≤ longestRun mark s current := by
  induction s generalizing current with
  | nil => exact Nat.le_refl current
  | cons c s ih =>
    rw [longestRun]
    split
    · exact Nat.le_of_succ_le (ih (current + 1))
    · exact Nat.le_max_left _ _

/-- A string of several lines between apostrophes is read back, with the marks that stand in front
of it. -/
lemma readMultiLiteral_append {s : List Char} (htext : ∀ c ∈ s, isTextChar c = true ∨ c = '\n')
    (marks : Nat) (hmarks : longestRun '\'' s marks ≤ 2) {rest : List Char}
    (hrest : rest.head? ≠ some '\'') :
    readMultiLiteral (List.replicate marks '\'' ++ (s ++ '\'' :: '\'' :: '\'' :: rest)) =
      some (List.replicate marks '\'' ++ s, rest) := by
  induction s generalizing marks with
  | nil =>
    have hmarks' : marks ≤ 2 := hmarks
    rw [List.nil_append, replicate_append_marks, readMultiLiteral,
      closingMarks_replicate hmarks' hrest, List.append_nil]
  | cons c s ih =>
    obtain ⟨hc, hs⟩ := List.forall_mem_cons.mp htext
    rw [longestRun] at hmarks
    by_cases hmark : c = '\''
    · subst hmark
      have hmore := ih hs (marks + 1) (by simpa using hmarks)
      simpa [List.replicate_succ'] using hmore
    · rw [if_neg (by simpa using hmark), Nat.max_le] at hmarks
      have hhead : (c :: (s ++ '\'' :: '\'' :: '\'' :: rest)).head? ≠ some '\'' := by
        simpa using hmark
      have hmore := ih hs 0 hmarks.2
      simp only [List.replicate_zero, List.nil_append] at hmore
      rw [List.cons_append, read_marks (fun more hmore =>
        readMultiLiteral_char (.inl (by decide)) fun _ => hmore) hmarks.1 hhead,
        readMultiLiteral_char hc fun h => absurd h hmark, hmore]
      rfl

/-! ## Strings in any form -/

/-- What is known of the characters of a string without control characters. -/
lemma isTextChar_of_control {s : List Char} (h : (traitsOf s).control = false) :
    ∀ c ∈ s, isTextChar c = true ∨ c = '\n' := by
  intro c hc
  by_cases hfeed : c = '\n'
  · exact .inr hfeed
  · have hescape : needsEscape c = false := by
      simpa using List.any_eq_false.mp h c hc
    exact .inl (isTextChar_of_not_needsEscape hescape hfeed)

/-- What is known of the characters of a string without control characters and line feeds. -/
lemma isTextChar_of_lineFeed {s : List Char} (h : (traitsOf s).control = false)
    (hfeed : (traitsOf s).lineFeed = false) : ∀ c ∈ s, isTextChar c = true := by
  intro c hc
  refine (isTextChar_of_control h c hc).resolve_right ?_
  rintro rfl
  simp [traitsOf, hc] at hfeed

/-- A string without a stretch of a mark does not hold the mark. -/
lemma not_mem_of_longestRun {mark : Char} {s : List Char} {current : Nat}
    (h : longestRun mark s current = 0) : mark ∉ s := by
  induction s generalizing current with
  | nil => exact List.not_mem_nil
  | cons c s ih =>
    rw [longestRun] at h
    split at h
    · have := le_longestRun mark s (current + 1)
      omega
    · next hc =>
      rw [List.mem_cons, not_or]
      exact ⟨fun he => hc (by simp [he]), @ih 0 (by omega)⟩

/-- The line break in front of a string of several lines is dropped again. -/
lemma dropBreak_leadBreak (s : List Char) {text : List Char}
    (h : (traitsOf s).lineFeed = false → ∀ c, text.head? = some c → c ≠ '\n' ∧ c ≠ '\r') :
    dropBreak (leadBreak (traitsOf s) ++ text) = text := by
  unfold leadBreak dropBreak
  cases hfeed : (traitsOf s).lineFeed with
  | true => rfl
  | false =>
    simp only [Bool.false_eq_true, if_false, List.nil_append]
    cases text with
    | nil => rfl
    | cons c rest => rw [afterBreak?_eq_none (h hfeed c rfl)]; rfl

/-- The written form of a character begins with no mark and no line break, but for the character
itself. -/
lemma head?_escaped {c d : Char} (h : (escaped c).head? = some d) :
    d ≠ '"' ∧ d ≠ '\n' ∧ d ≠ '\r' := by
  have hspelling := spelling_escaped c
  generalize escaped c = w at h hspelling
  cases hspelling with
  | plain htext hquote hslash =>
    obtain rfl := Option.some.inj h
    refine ⟨hquote, ?_, ?_⟩ <;>
    · rintro rfl
      exact absurd htext (by decide)
  | escape x e hx hread =>
    obtain rfl := Option.some.inj h
    decide

/-- The written form of a character is not empty. -/
lemma exists_escaped_eq_cons (c : Char) : ∃ d w, escaped c = d :: w := by
  have hspelling := spelling_escaped c
  generalize escaped c = w at hspelling
  cases hspelling <;> exact ⟨_, _, rfl⟩

section Forms

variable {s rest : List Char}

/-- A string written between quotation marks is read back. -/
lemma readText?_basicText (s : List Char) (hrest : rest.head? ≠ some '"') :
    readText? (basicText s ++ rest) = some (s, rest) := by
  have htext : basicText s ++ rest = '"' :: (s.flatMap escaped ++ '"' :: rest) := by
    simp [basicText]
  rw [htext, readText?.eq_def]
  split
  · next h =>
    -- three marks would begin a string of several lines
    have hmarks := (List.cons.inj h).2
    cases s with
    | nil => exact absurd (congrArg List.head? (List.cons.inj hmarks).2) hrest
    | cons c s =>
      obtain ⟨d, w, hw⟩ := exists_escaped_eq_cons c
      rw [List.flatMap_cons, hw] at hmarks
      exact absurd (List.cons.inj hmarks).1 (head?_escaped (congrArg List.head? hw)).1
  · next h => exact absurd (List.cons.inj h).1 (by decide)
  · exact readBasic_escaped s rest

/-- A string written between apostrophes is read back. -/
lemma readText?_literalText (htext : ∀ c ∈ s, isTextChar c = true) (hmark : '\'' ∉ s)
    (hrest : rest.head? ≠ some '\'') : readText? (literalText s ++ rest) = some (s, rest) := by
  have hform : literalText s ++ rest = '\'' :: (s ++ '\'' :: rest) := by simp [literalText]
  rw [hform, readText?.eq_def]
  split
  · next h => exact absurd (List.cons.inj h).1 (by decide)
  · next h =>
    have hmarks := (List.cons.inj h).2
    cases s with
    | nil => exact absurd (congrArg List.head? (List.cons.inj hmarks).2) hrest
    | cons c s =>
      obtain rfl := (List.cons.inj hmarks).1
      exact absurd List.mem_cons_self hmark
  · exact readLiteral_append htext hmark rest

/-- A string written between three quotation marks is read back. -/
lemma readText?_multiBasicText (s : List Char) (hrest : rest.head? ≠ some '"') :
    readText? (multiBasicText s ++ rest) = some (s, rest) := by
  have hform : multiBasicText s ++ rest = '"' :: '"' :: '"' :: (leadBreak (traitsOf s) ++
      (escapedLines 0 s ++ '"' :: '"' :: '"' :: rest)) := by
    simp [multiBasicText]
  have hread := readMultiBasic_escapedLines s 0 (by decide) hrest
  simp only [List.replicate_zero, List.nil_append] at hread
  rw [hform, readText?, dropBreak_leadBreak, hread]
  intro hfeed d hd
  cases s with
  | nil =>
    obtain rfl := Option.some.inj hd
    decide
  | cons c s =>
    by_cases hquote : c = '"'
    · subst hquote
      rw [escapedLines, if_pos (by decide)] at hd
      obtain rfl := Option.some.inj hd
      decide
    · have hline : c ≠ '\n' := by
        rintro rfl
        simp [traitsOf] at hfeed
      obtain ⟨e, w, hw⟩ := exists_escaped_eq_cons c
      rw [escapedLines.eq_4 _ _ _ hquote hline, hw] at hd
      obtain rfl := Option.some.inj hd
      exact (head?_escaped (congrArg List.head? hw)).2

/-- A string written between three apostrophes is read back. -/
lemma readText?_multiLiteralText (hcontrol : (traitsOf s).control = false)
    (hmarks : (traitsOf s).apostrophes ≤ 2) (hrest : rest.head? ≠ some '\'') :
    readText? (multiLiteralText s ++ rest) = some (s, rest) := by
  have hform : multiLiteralText s ++ rest = '\'' :: '\'' :: '\'' :: (leadBreak (traitsOf s) ++
      (s ++ '\'' :: '\'' :: '\'' :: rest)) := by
    simp [multiLiteralText]
  have hread := readMultiLiteral_append (isTextChar_of_control hcontrol) 0 hmarks hrest
  simp only [List.replicate_zero, List.nil_append] at hread
  rw [hform, readText?, dropBreak_leadBreak, hread]
  intro hfeed d hd
  cases s with
  | nil =>
    obtain rfl := Option.some.inj hd
    decide
  | cons c s =>
    obtain rfl := Option.some.inj hd
    have htext := isTextChar_of_lineFeed hcontrol hfeed c List.mem_cons_self
    constructor <;>
    · rintro rfl
      exact absurd htext (by decide)

end Forms

/-- A string is read back in front of a text that begins with no mark. -/
theorem readText?_writtenText (s : List Char) {rest : List Char}
    (hquote : rest.head? ≠ some '"') (hmark : rest.head? ≠ some '\'') :
    readText? (writtenText s ++ rest) = some (s, rest) := by
  unfold writtenText
  dsimp only
  split
  · exact readText?_basicText s hquote
  · split
    · next h =>
      simp only [Bool.and_eq_true, Bool.not_eq_true', beq_iff_eq] at h
      obtain ⟨⟨hcontrol, hmarks⟩, hfeed⟩ := h
      exact readText?_literalText (isTextChar_of_lineFeed hcontrol hfeed)
        (not_mem_of_longestRun hmarks) hmark
    · split
      · exact readText?_multiBasicText s hquote
      · split
        · next h =>
          simp only [Bool.and_eq_true, Bool.not_eq_true', decide_eq_true_eq] at h
          exact readText?_multiLiteralText h.1 h.2 hmark
        · split
          · exact readText?_multiBasicText s hquote
          · exact readText?_basicText s hquote

/-! ## Keys -/

/-- A part of a key between marks is read back. -/
lemma readKeyPart_of_readLineText? {s : List Char} {key : String} {rest : List Char}
    (h : readLineText? s = some (key.toList, rest)) : readKeyPart s = some (key, rest) := by
  rw [readKeyPart, h]
  simp

/-- A part of a key that needs no marks is read back. -/
lemma readKeyPart_bare {key : String} (hne : key.toList ≠ [])
    (hbare : ∀ c ∈ key.toList, isBareKeyChar c = true) {c : Char} (hc : isBareKeyChar c = false)
    (rest : List Char) : readKeyPart (key.toList ++ c :: rest) = some (key, c :: rest) := by
  have hnone : readLineText? (key.toList ++ c :: rest) = none := by
    obtain ⟨d, s, hs⟩ := List.exists_cons_of_ne_nil hne
    have hd : isBareKeyChar d = true := hbare d (hs ▸ List.mem_cons_self)
    rw [hs, List.cons_append, readLineText?.eq_def]
    split
    · next h => exact absurd ((List.cons.inj h).1 ▸ hd) (by decide)
    · next h => exact absurd ((List.cons.inj h).1 ▸ hd) (by decide)
    · rfl
  have htake : (key.toList ++ c :: rest).takeWhile isBareKeyChar = key.toList := by
    rw [List.takeWhile_append_of_pos hbare, List.takeWhile_cons_of_neg (by simp [hc]),
      List.append_nil]
  have hdrop : (key.toList ++ c :: rest).dropWhile isBareKeyChar = c :: rest := by
    rw [List.dropWhile_append_of_pos hbare, List.dropWhile_cons_of_neg (by simp [hc])]
  rw [readKeyPart, hnone]
  simp [htake, hdrop, hne]

/-- A part of a key is read back in front of a text that does not go on with it. -/
theorem readKeyPart_writtenKey (key : String) {c : Char} (hc : isBareKeyChar c = false)
    (rest : List Char) :
    readKeyPart (writtenKey key ++ c :: rest) = some (key, c :: rest) := by
  have hbasic : readKeyPart (basicText key.toList ++ c :: rest) = some (key, c :: rest) := by
    refine readKeyPart_of_readLineText? ?_
    have hread := readBasic_escaped key.toList (c :: rest)
    simpa [basicText, readLineText?] using hread
  unfold writtenKey
  dsimp only
  split
  · next h =>
    simp only [Bool.and_eq_true, Bool.not_eq_true', List.all_eq_true] at h
    exact readKeyPart_bare (by simpa using h.1) h.2 hc rest
  · split
    · exact hbasic
    · split
      · next h =>
        simp only [Bool.and_eq_true, Bool.not_eq_true', beq_iff_eq] at h
        obtain ⟨⟨hcontrol, hfeed⟩, hmarks⟩ := h
        refine readKeyPart_of_readLineText? ?_
        have hread := readLiteral_append (isTextChar_of_lineFeed hcontrol hfeed)
          (not_mem_of_longestRun hmarks) (c :: rest)
        simpa [literalText, readLineText?] using hread
      · exact hbasic

/-- The written form of a key begins with none of the characters that lead elsewhere. -/
lemma head?_writtenKey (key : String) :
    ∃ d w, writtenKey key = d :: w ∧ (isBareKeyChar d = true ∨ d = '"' ∨ d = '\'') := by
  unfold writtenKey
  dsimp only
  split
  · next h =>
    simp only [Bool.and_eq_true, Bool.not_eq_true', List.all_eq_true] at h
    obtain ⟨d, w, hw⟩ := List.exists_cons_of_ne_nil (l := key.toList) (by simpa using h.1)
    exact ⟨d, w, hw, .inl (h.2 d (hw ▸ List.mem_cons_self))⟩
  · split
    · exact ⟨_, _, rfl, .inr (.inl rfl)⟩
    · split
      · exact ⟨_, _, rfl, .inr (.inr rfl)⟩
      · exact ⟨_, _, rfl, .inr (.inl rfl)⟩

end PluginGateway.Toml
