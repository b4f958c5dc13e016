import Mathlib.Tactic.Common
import PluginGateway.Json.Token

/-!
# What may stand between the marks of a string

`Content` says of characters that they may stand between the quotation marks of a JSON string:
unescaped characters and whole escapes. The reader of strings accepts these, up to the closing mark
(`readString_of_content`), and nothing else (`content_of_readString`).
-/

namespace PluginGateway.Json

/-- A character that may stand in a string without an escape. -/
def Unescaped (c : Char) : Prop := c ≠ '"' ∧ c ≠ '\\' ∧ 0x20 ≤ c.toNat

instance : DecidablePred Unescaped := fun c =>
  inferInstanceAs (Decidable (c ≠ '"' ∧ c ≠ '\\' ∧ 0x20 ≤ c.toNat))

/-- A text no character of which has to be escaped in a string. -/
def IsPlain (text : List Char) : Prop := ∀ c ∈ text, Unescaped c

instance (text : List Char) : Decidable (IsPlain text) := List.decidableBAll Unescaped text

/-- The characters that are an escape behind a backslash. -/
def escapeLetters : List Char := ['"', '\\', '/', 'b', 'f', 'n', 'r', 't']

/-- Hexadecimal digits that are read as a number. -/
def Hex (digits : List Char) (n : Nat) : Prop :=
  (∀ c ∈ digits, (Text.hexValue? c).isSome) ∧ ∀ rest, readHex (digits ++ rest) = .ok (n, rest)

/-- The characters may stand between the quotation marks of a string. -/
inductive Content : List Char → Prop
  /-- Nothing. -/
  | nil : Content []
  /-- An unescaped character comes first. -/
  | unescaped (c : Char) (hc : Unescaped c) {s : List Char} (h : Content s) : Content (c :: s)
  /-- An escape of one letter comes first. -/
  | letter (c : Char) (hc : c ∈ escapeLetters) {s : List Char} (h : Content s) :
    Content ('\\' :: c :: s)
  /-- An escape with a code point comes first. -/
  | codePoint (digits : List Char) (n : Nat) (hhex : Hex digits n)
      (hn : ¬(0xD800 ≤ n ∧ n ≤ 0xDFFF)) {s : List Char} (h : Content s) :
    Content ('\\' :: 'u' :: (digits ++ s))
  /-- An escape with the halves of a surrogate pair comes first. -/
  | pair (high low : List Char) (n m : Nat) (hhigh : Hex high n) (hlow : Hex low m)
      (hn : 0xD800 ≤ n ∧ n ≤ 0xDBFF) (hm : 0xDC00 ≤ m ∧ m ≤ 0xDFFF) {s : List Char}
      (h : Content s) :
    Content ('\\' :: 'u' :: (high ++ '\\' :: 'u' :: (low ++ s)))

/-! ## The reader of strings -/

/-- A number is read from hexadecimal digits. -/
lemma exists_hex_of_readHex {s rest : List Char} {n : Nat} (h : readHex s = .ok (n, rest)) :
    ∃ digits, s = digits ++ rest ∧ Hex digits n := by
  unfold readHex at h
  split at h
  · next a b c d more =>
    split at h
    · next a' b' c' d' ha hb hc hd =>
      cases h
      refine ⟨[a, b, c, d], rfl, ?_, fun rest' => ?_⟩
      · simp [ha, hb, hc, hd]
      · simp [readHex, ha, hb, hc, hd]
    · cases h
  · cases h

/-- A surrogate that does not begin a pair is a fault. -/
lemma readEscape_codePoint {digits : List Char} {n : Nat} (hhex : Hex digits n)
    (hn : ¬(0xD800 ≤ n ∧ n ≤ 0xDFFF)) (rest : List Char) :
    readEscape ('u' :: (digits ++ rest)) = .ok (Char.ofNat n, rest) := by
  have hlow : ¬(0xDC00 ≤ n ∧ n ≤ 0xDFFF) := by omega
  have hhigh : ¬(0xD800 ≤ n ∧ n ≤ 0xDBFF) := by omega
  simp only [readEscape, hhex.2, if_neg hlow, if_neg hhigh]

/-- The halves of a surrogate pair are one character. -/
lemma readEscape_pair {high low : List Char} {n m : Nat} (hhigh : Hex high n) (hlow : Hex low m)
    (hn : 0xD800 ≤ n ∧ n ≤ 0xDBFF) (hm : 0xDC00 ≤ m ∧ m ≤ 0xDFFF) (rest : List Char) :
    ∃ c, readEscape ('u' :: (high ++ '\\' :: 'u' :: (low ++ rest))) = .ok (c, rest) := by
  have hnot : ¬(0xDC00 ≤ n ∧ n ≤ 0xDFFF) := by omega
  refine ⟨Char.ofNat ((n - 0xD800) * 0x400 + (m - 0xDC00) + 0x10000), ?_⟩
  simp only [readEscape, hhigh.2, if_neg hnot, if_pos hn, readTrailing, hlow.2, if_pos hm]

/-- A letter behind a backslash is a character. -/
lemma readEscape_letter {c : Char} (hc : c ∈ escapeLetters) (rest : List Char) :
    ∃ d, readEscape (c :: rest) = .ok (d, rest) := by
  simp only [escapeLetters, List.mem_cons, List.not_mem_nil, or_false] at hc
  rcases hc with rfl | rfl | rfl | rfl | rfl | rfl | rfl | rfl <;> exact ⟨_, rfl⟩

/-- Behind an escape the string goes on. -/
lemma readString_backslash {s rest rest' contents : List Char} {c : Char}
    (hescape : readEscape s = .ok (c, rest)) (hrest : readString rest = .ok (contents, rest')) :
    readString ('\\' :: s) = .ok (c :: contents, rest') := by
  rw [readString]
  split
  · next h => rw [hescape] at h; cases h
  · next h =>
    rw [hescape] at h
    cases h
    rw [hrest]
    rfl

/-- Behind an unescaped character the string goes on. -/
lemma readString_unescaped {s rest' contents : List Char} {c : Char} (hc : Unescaped c)
    (hrest : readString s = .ok (contents, rest')) :
    readString (c :: s) = .ok (c :: contents, rest') := by
  have hcontrol : ¬c.toNat < 0x20 := Nat.not_lt.mpr hc.2.2
  rw [readString.eq_4 _ _ hc.1 hc.2.1, if_neg hcontrol, hrest]
  rfl

/-- What may stand between quotation marks is read up to the closing one. -/
theorem readString_of_content {raw : List Char} (h : Content raw) (rest : List Char) :
    ∃ contents, readString (raw ++ '"' :: rest) = .ok (contents, rest) := by
  induction h with
  | nil => exact ⟨[], by rw [List.nil_append, readString]⟩
  | unescaped c hc _ ih =>
    obtain ⟨contents, hrest⟩ := ih
    exact ⟨c :: contents, readString_unescaped hc hrest⟩
  | letter c hc _ ih =>
    obtain ⟨contents, hrest⟩ := ih
    obtain ⟨d, hescape⟩ := readEscape_letter hc _
    exact ⟨d :: contents, readString_backslash hescape hrest⟩
  | codePoint digits n hhex hn _ ih =>
    obtain ⟨contents, hrest⟩ := ih
    refine ⟨Char.ofNat n :: contents, ?_⟩
    simp only [List.cons_append, List.append_assoc]
    exact readString_backslash (readEscape_codePoint hhex hn _) hrest
  | pair high low n m hhigh hlow hn hm _ ih =>
    obtain ⟨contents, hrest⟩ := ih
    obtain ⟨c, hescape⟩ := readEscape_pair hhigh hlow hn hm _
    refine ⟨c :: contents, ?_⟩
    simp only [List.cons_append, List.append_assoc]
    exact readString_backslash hescape hrest

/-- What is read as the second half of a pair. -/
lemma exists_hex_of_readTrailing {n : Nat} {s rest : List Char} {c : Char}
    (h : readTrailing n s = .ok (c, rest)) :
    ∃ low m, s = '\\' :: 'u' :: (low ++ rest) ∧ Hex low m ∧ 0xDC00 ≤ m ∧ m ≤ 0xDFFF := by
  unfold readTrailing at h
  split at h
  case h_3 more =>
    split at h
    · cases h
    · next m rest' hread =>
      split at h
      · next hm =>
        obtain ⟨low, rfl, hlow⟩ := exists_hex_of_readHex hread
        have hrest : rest' = rest := congrArg Prod.snd (Except.ok.inj h)
        exact ⟨low, m, by rw [hrest], hlow, hm⟩
      · cases h
  all_goals cases h

/-- What is read as an escape may stand in a string. -/
lemma exists_content_of_readEscape {s rest : List Char} {c : Char}
    (h : readEscape s = .ok (c, rest)) :
    ∃ escape, s = escape ++ rest ∧
      ∀ {s' : List Char}, Content s' → Content ('\\' :: (escape ++ s')) := by
  cases s with
  | nil => cases h
  | cons d more =>
    simp only [readEscape] at h
    split at h
    case h_9 =>
      split at h
      · cases h
      · next n rest' hread =>
        obtain ⟨digits, rfl, hhex⟩ := exists_hex_of_readHex hread
        split at h
        · cases h
        · next hlow =>
          split at h
          · next hhigh =>
            obtain ⟨low, m, rfl, hlow, hm⟩ := exists_hex_of_readTrailing h
            refine ⟨'u' :: (digits ++ '\\' :: 'u' :: low), by simp, fun {s'} hs' => ?_⟩
            simpa using Content.pair digits low n m hhex hlow hhigh hm hs'
          · next hhigh =>
            have hrest : rest' = rest := congrArg Prod.snd (Except.ok.inj h)
            refine ⟨'u' :: digits, by rw [hrest]; rfl, fun hs' => ?_⟩
            exact .codePoint digits n hhex (by omega) hs'
    case h_10 => cases h
    all_goals
      cases h
      exact ⟨[_], rfl, fun hs' => .letter _ (by decide) hs'⟩

/-- A string that is read is made of what may stand between quotation marks. -/
theorem content_of_readString {s contents rest : List Char}
    (h : readString s = .ok (contents, rest)) :
    ∃ raw, s = raw ++ '"' :: rest ∧ Content raw := by
  fun_induction readString s generalizing contents with
  | case1 => cases h
  | case2 more =>
    cases h
    exact ⟨[], rfl, .nil⟩
  | case3 more fault hescape => cases h
  | case4 more c rest' hescape ih =>
    cases hread : readString rest' with
    | error fault => simp [hread, Except.map] at h
    | ok r =>
      obtain ⟨contents', left⟩ := r
      simp only [hread, Except.map, Except.ok.injEq, Prod.mk.injEq] at h
      obtain ⟨-, rfl⟩ := h
      obtain ⟨raw, rfl, hraw⟩ := ih hread
      obtain ⟨escape, rfl, hcontent⟩ := exists_content_of_readEscape hescape
      exact ⟨'\\' :: (escape ++ raw), by simp, hcontent hraw⟩
  | case5 c more _ _ hcontrol => cases h
  | case6 c more hquote hbackslash hcontrol ih =>
    cases hread : readString more with
    | error fault => simp [hread, Except.map] at h
    | ok r =>
      obtain ⟨contents', left⟩ := r
      simp only [hread, Except.map, Except.ok.injEq, Prod.mk.injEq] at h
      obtain ⟨-, rfl⟩ := h
      obtain ⟨raw, rfl, hraw⟩ := ih hread
      exact ⟨c :: raw, rfl, .unescaped c ⟨hquote, hbackslash, Nat.not_lt.mp hcontrol⟩ hraw⟩

end PluginGateway.Json
