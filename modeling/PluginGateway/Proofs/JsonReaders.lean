import Mathlib.Data.List.TakeWhile
import Mathlib.Tactic.Common
import PluginGateway.Json.Token

/-!
# What the readers of a JSON text look at

A reader of a number or of a literal looks at the characters that it takes and at no more than the
one behind them. So it takes the same characters, with the same answer, in front of any other text
that begins with the same character (`Takes`). This is shown for each part of a number and then for
every token but a string (`readToken_takes`).
-/

namespace PluginGateway.Json

/-- A character that neither begins a string nor a path: no quotation mark and no slash. -/
def Outside (c : Char) : Prop := c ≠ '"' ∧ c ≠ '/'

instance : DecidablePred Outside := fun c => inferInstanceAs (Decidable (c ≠ '"' ∧ c ≠ '/'))

/-- Digits are no marks. -/
lemma outside_of_isDigit {c : Char} (h : c.isDigit = true) : Outside c := by
  constructor
  · rintro rfl
    exact absurd h (by decide)
  · rintro rfl
    exact absurd h (by decide)

/-- From a text the reader takes characters outside of strings and leaves the others; it takes the
same characters, with the same answer, in front of any text that begins like those left. -/
def Takes {α : Type} (reader : List Char → Reading α) (s : List Char) (a : α) (left : List Char) :
    Prop :=
  ∃ taken, s = taken ++ left ∧ (∀ c ∈ taken, Outside c) ∧
    ∀ left', left'.head? = left.head? → reader (taken ++ left') = .ok (a, left')

/-- A text that begins like the empty one is empty. -/
lemma eq_nil_of_head? {left : List Char} (h : left.head? = [].head?) : left = [] := by
  cases left with
  | nil => rfl
  | cons c rest => cases h

/-- A text that begins like another one begins with the same character. -/
lemma exists_of_head? {left rest : List Char} {c : Char} (h : left.head? = (c :: rest).head?) :
    ∃ rest', left = c :: rest' := by
  cases left with
  | nil => cases h
  | cons d rest' =>
    cases h
    exact ⟨rest', rfl⟩

/-! ## Digits -/

/-- Digits are appended to a number by looking at the digits and the character behind them. -/
lemma readDigits_takes (bound n : Nat) (s : List Char) :
    ∃ taken, s = taken ++ (readDigits bound n s).2 ∧ (∀ c ∈ taken, Outside c) ∧
      ∀ left', left'.head? = (readDigits bound n s).2.head? →
        readDigits bound n (taken ++ left') = ((readDigits bound n s).1, left') := by
  induction s generalizing n with
  | nil =>
    refine ⟨[], rfl, nofun, fun left' hleft => ?_⟩
    rw [eq_nil_of_head? hleft]
    rfl
  | cons c rest ih =>
    by_cases hgoes : c.isDigit = true ∧ ¬bound < n * 10 + (c.toNat - '0'.toNat)
    · have hstep (more : List Char) : readDigits bound n (c :: more) =
          readDigits bound (n * 10 + (c.toNat - '0'.toNat)) more := by
        rw [readDigits, if_pos hgoes.1, if_neg hgoes.2]
      obtain ⟨taken, hsplit, houtside, hsame⟩ := ih (n * 10 + (c.toNat - '0'.toNat))
      rw [hstep]
      refine ⟨c :: taken, congrArg (c :: ·) hsplit, ?_, fun left' hleft => ?_⟩
      · exact List.forall_mem_cons.mpr ⟨outside_of_isDigit hgoes.1, houtside⟩
      · rw [List.cons_append, hstep]
        exact hsame left' hleft
    · have hstop (more : List Char) : readDigits bound n (c :: more) = (n, c :: more) := by
        rw [readDigits]
        split
        · next hdigit => exact if_pos (not_not.mp fun h => hgoes ⟨hdigit, h⟩)
        · rfl
      rw [hstop]
      refine ⟨[], rfl, nofun, fun left' hleft => ?_⟩
      obtain ⟨rest', rfl⟩ := exists_of_head? hleft
      exact hstop rest'

/-- Digits are skipped by looking at the digits and the character behind them. -/
lemma dropDigits_takes (s : List Char) :
    ∃ taken, s = taken ++ s.dropWhile Char.isDigit ∧ (∀ c ∈ taken, Outside c) ∧
      ∀ left', left'.head? = (s.dropWhile Char.isDigit).head? →
        (taken ++ left').dropWhile Char.isDigit = left' := by
  refine ⟨s.takeWhile Char.isDigit, List.takeWhile_append_dropWhile.symm,
    fun c hc => outside_of_isDigit (List.mem_takeWhile_imp hc), fun left' hleft => ?_⟩
  rw [List.dropWhile_append_of_pos fun c hc => List.mem_takeWhile_imp hc]
  cases left' with
  | nil => rfl
  | cons c rest =>
    have hnot := List.head?_dropWhile_not Char.isDigit s
    rw [← hleft] at hnot
    exact List.dropWhile_cons_of_neg (by simpa using hnot)

/-- A text that is continued by others that begin alike begins like itself. -/
lemma head?_append_congr {left left' : List Char} (h : left'.head? = left.head?)
    (taken : List Char) : (taken ++ left').head? = (taken ++ left).head? := by
  cases taken with
  | nil => exact h
  | cons c rest => rfl

/-- Digits that are appended to a number, and those that are skipped behind them. -/
lemma readDigits_dropDigits (bound n : Nat) (s : List Char) :
    ∃ counted skipped,
      s = counted ++ (readDigits bound n s).2 ∧
      (readDigits bound n s).2 = skipped ++ (readDigits bound n s).2.dropWhile Char.isDigit ∧
      (∀ c ∈ counted ++ skipped, Outside c) ∧
      ∀ left', left'.head? = ((readDigits bound n s).2.dropWhile Char.isDigit).head? →
        readDigits bound n (counted ++ skipped ++ left') =
          ((readDigits bound n s).1, skipped ++ left') ∧
        (skipped ++ left').dropWhile Char.isDigit = left' := by
  obtain ⟨counted, hcounted, hout, hread⟩ := readDigits_takes bound n s
  obtain ⟨skipped, hskipped, hout', hdrop⟩ := dropDigits_takes (readDigits bound n s).2
  refine ⟨counted, skipped, hcounted, hskipped, ?_, fun left' hleft => ⟨?_, hdrop left' hleft⟩⟩
  · exact List.forall_mem_append.mpr ⟨hout, hout'⟩
  · rw [List.append_assoc]
    refine hread _ ?_
    rw [head?_append_congr hleft, ← hskipped]

/-! ## Numbers -/

/-- The exponent behind its sign. -/
def readUnsigned (negative : Bool) (significand : Nat) : List Char → Reading Int
  | [] => .error (.endInValue, [])
  | c :: rest =>
    if c.isDigit then
      let r := readDigits greatestExponent 0 (c :: rest)
      let after := r.2.dropWhile Char.isDigit
      if after.length = r.2.length then .ok (if negative then -(r.1 : Int) else r.1, after)
      else if significand ≠ 0 ∧ !negative then .error (.numberOutOfRange, r.2.drop 1)
      else .ok (-(greatestExponent : Int), after)
    else .error (.invalidNumber, rest)

/-- An exponent may have a sign. -/
lemma readExponent_eq (significand : Nat) (s : List Char) :
    readExponent significand s = readUnsigned (s.head? == some '-') significand
      (if s.head? == some '-' || s.head? == some '+' then s.drop 1 else s) := by
  rfl

/-- What is read of an exponent behind its sign. -/
lemma readUnsigned_takes {negative : Bool} {significand : Nat} {s : List Char} {e : Int}
    {left : List Char} (h : readUnsigned negative significand s = .ok (e, left)) :
    Takes (readUnsigned negative significand) s e left := by
  cases s with
  | nil => cases h
  | cons c rest =>
    obtain ⟨counted, skipped, hcounted, hskipped, hout, hsame⟩ :=
      readDigits_dropDigits greatestExponent 0 (c :: rest)
    by_cases hdigit : c.isDigit = true
    · simp only [readUnsigned, hdigit, if_true] at h
      have hleft : (readDigits greatestExponent 0 (c :: rest)).2.dropWhile Char.isDigit = left := by
        split at h
        · exact congrArg Prod.snd (Except.ok.inj h)
        · split at h
          · cases h
          · exact congrArg Prod.snd (Except.ok.inj h)
      have hsplit : c :: rest = counted ++ skipped ++ left := by
        rw [List.append_assoc, ← hleft, ← hskipped]
        exact hcounted
      refine ⟨counted ++ skipped, hsplit, hout, fun left' hhead => ?_⟩
      obtain ⟨hread, hdrop⟩ := hsame left' (hleft ▸ hhead)
      obtain ⟨rest', hrest'⟩ : ∃ rest', counted ++ skipped ++ left' = c :: rest' :=
        exists_of_head? (by rw [hsplit, head?_append_congr hhead])
      rw [hrest'] at hread ⊢
      simp only [readUnsigned, hdigit, if_true, hread, hdrop]
      rw [hleft, hskipped, hleft] at h
      simp only [List.length_append, Nat.right_eq_add] at h ⊢
      split at h
      · next hnone => rw [if_pos hnone, (Prod.mk.inj (Except.ok.inj h)).1]
      · next hsome =>
        rw [if_neg hsome]
        split at h
        · cases h
        · next hsmall => rw [if_neg hsmall, (Prod.mk.inj (Except.ok.inj h)).1]
    · simp [readUnsigned, hdigit] at h

/-- What is read of an exponent. -/
lemma readExponent_takes {significand : Nat} {s : List Char} {e : Int} {left : List Char}
    (h : readExponent significand s = .ok (e, left)) :
    Takes (readExponent significand) s e left := by
  rw [readExponent_eq] at h
  by_cases hsign : s.head? = some '-' ∨ s.head? = some '+'
  · obtain ⟨sign, rest, rfl⟩ : ∃ sign rest, s = sign :: rest := by
      cases s with
      | nil => simp at hsign
      | cons sign rest => exact ⟨sign, rest, rfl⟩
    have hsign' : sign = '-' ∨ sign = '+' := by simpa using hsign
    have hunsigned (more : List Char) : readExponent significand (sign :: more) =
        readUnsigned (sign == '-') significand more := by
      rw [readExponent_eq]
      rcases hsign' with rfl | rfl <;> rfl
    rw [← readExponent_eq, hunsigned] at h
    obtain ⟨taken, rfl, hout, hsame⟩ := readUnsigned_takes h
    refine ⟨sign :: taken, rfl, ?_, fun left' hhead => ?_⟩
    · refine List.forall_mem_cons.mpr ⟨?_, hout⟩
      rcases hsign' with rfl | rfl <;> decide
    · rw [List.cons_append, hunsigned]
      exact hsame left' hhead
  · have hunsigned {more : List Char} (hmore : more.head? = s.head?) :
        readExponent significand more = readUnsigned false significand more := by
      have hminus : (more.head? == some '-') = false := by simp_all
      have hplus : (more.head? == some '+') = false := by simp_all
      rw [readExponent_eq, hminus, hplus]
      rfl
    rw [← readExponent_eq, hunsigned rfl] at h
    obtain ⟨taken, hsplit, hout, hsame⟩ := readUnsigned_takes h
    refine ⟨taken, hsplit, hout, fun left' hhead => ?_⟩
    rw [hunsigned (by rw [hsplit, head?_append_congr hhead])]
    exact hsame left' hhead

/-- Whether a double is in range does not depend on what follows. -/
lemma doubleOf_eq_ok {negative : Bool} {significand : Nat} {e : Int} {s left : List Char}
    {x : Json.Number} (h : doubleOf negative significand e s = .ok (x, left)) (s' : List Char) :
    doubleOf negative significand e s' = .ok (x, s') := by
  unfold doubleOf at h ⊢
  cases hx : toDouble? significand e with
  | none =>
    rw [hx] at h
    cases h
  | some y =>
    rw [hx] at h
    rw [← (Prod.mk.inj (Except.ok.inj h)).1]

/-- What is read of a double behind its digits. -/
lemma readScale_takes {negative : Bool} {significand : Nat} {e : Int} {s : List Char}
    {x : Json.Number} {left : List Char} (h : readScale negative significand e s = .ok (x, left)) :
    Takes (readScale negative significand e) s x left := by
  cases s with
  | nil =>
    cases doubleOf_rest h
    refine ⟨[], rfl, nofun, fun left' hhead => ?_⟩
    rw [eq_nil_of_head? hhead]
    exact doubleOf_eq_ok h []
  | cons c rest =>
    by_cases he : (c == 'e' || c == 'E') = true
    · simp only [readScale, he, if_true] at h
      cases hread : readExponent significand rest with
      | error fault => simp [hread] at h
      | ok r =>
        obtain ⟨e', rest'⟩ := r
        simp only [hread] at h
        cases doubleOf_rest h
        obtain ⟨taken, rfl, hout, hsame⟩ := readExponent_takes hread
        refine ⟨c :: taken, rfl, ?_, fun left' hhead => ?_⟩
        · refine List.forall_mem_cons.mpr ⟨?_, hout⟩
          simp only [Bool.or_eq_true, beq_iff_eq] at he
          rcases he with rfl | rfl <;> decide
        · simp only [List.cons_append, readScale, he, if_true, hsame left' hhead]
          exact doubleOf_eq_ok h left'
    · simp only [readScale, he] at h
      cases doubleOf_rest h
      refine ⟨[], rfl, nofun, fun left' hhead => ?_⟩
      obtain ⟨rest', rfl⟩ := exists_of_head? hhead
      simp only [List.nil_append, readScale, he]
      exact doubleOf_eq_ok h (c :: rest')

/-- What is read of a double behind its decimal point. -/
lemma readFraction_takes {negative : Bool} {significand : Nat} {e : Int} {s : List Char}
    {x : Json.Number} {left : List Char}
    (h : readFraction negative significand e s = .ok (x, left)) :
    Takes (readFraction negative significand e) s x left := by
  cases s with
  | nil => cases h
  | cons c rest =>
    obtain ⟨counted, skipped, hcounted, hskipped, hout, hsame⟩ :=
      readDigits_dropDigits greatestNatural significand (c :: rest)
    by_cases hdigit : c.isDigit = true
    · simp only [readFraction, hdigit, if_true] at h
      have hlength : (c :: rest).length -
          (readDigits greatestNatural significand (c :: rest)).2.length = counted.length := by
        have hsum := congrArg List.length hcounted
        rw [List.length_append] at hsum
        omega
      rw [hlength] at h
      obtain ⟨taken, hscale, hout', hsame'⟩ := readScale_takes h
      have hsplit : c :: rest = counted ++ skipped ++ taken ++ left := by
        rw [List.append_assoc, ← hscale, List.append_assoc, ← hskipped]
        exact hcounted
      refine ⟨counted ++ skipped ++ taken, hsplit, List.forall_mem_append.mpr ⟨hout, hout'⟩,
        fun left' hhead => ?_⟩
      obtain ⟨hread, hdrop⟩ := hsame (taken ++ left') (by rw [head?_append_congr hhead, ← hscale])
      obtain ⟨rest', hrest'⟩ : ∃ rest', counted ++ skipped ++ taken ++ left' = c :: rest' :=
        exists_of_head? (by rw [hsplit, head?_append_congr hhead])
      rw [← List.append_assoc] at hread
      have hlength' : (c :: rest').length - (skipped ++ (taken ++ left')).length =
          counted.length := by
        rw [← hrest']
        simp only [List.length_append]
        omega
      rw [hrest'] at hread ⊢
      simp only [readFraction, hdigit, if_true, hread, hdrop, hlength']
      exact hsame' left' hhead
    · simp [readFraction, hdigit] at h

/-- A decimal point behind the leading digits. -/
lemma readAfterDigits_of_point {negative : Bool} {n : Nat} {skipped more : List Char}
    (h : (skipped ++ '.' :: more).dropWhile Char.isDigit = '.' :: more) :
    readAfterDigits negative n (skipped ++ '.' :: more) =
      readFraction negative n skipped.length more := by
  have hlength : (skipped ++ '.' :: more).length - ('.' :: more).length = skipped.length := by
    rw [List.length_append, Nat.add_sub_cancel]
  simp only [readAfterDigits, h, hlength]

/-- No decimal point behind the leading digits. -/
lemma readAfterDigits_of_no_point {negative : Bool} {n : Nat} {skipped rest : List Char}
    (h : (skipped ++ rest).dropWhile Char.isDigit = rest) (hpoint : rest.head? ≠ some '.') :
    readAfterDigits negative n (skipped ++ rest) =
      if skipped = [] ∧ rest.head? ≠ some 'e' ∧ rest.head? ≠ some 'E' then
        .ok (integerOf negative n, rest)
      else readScale negative n skipped.length rest := by
  have hlength : (skipped ++ rest).length - rest.length = skipped.length := by
    rw [List.length_append, Nat.add_sub_cancel]
  have hnone : rest.length = (skipped ++ rest).length ↔ skipped = [] := by
    rw [List.length_append, Nat.right_eq_add, List.length_eq_zero_iff]
  simp only [readAfterDigits, h, hlength, hnone]
  split
  · next hrest => exact absurd rfl hpoint
  · rfl

/-- What is read of a number behind its leading digits. -/
lemma readAfterDigits_takes {negative : Bool} {n : Nat} {s : List Char} {x : Json.Number}
    {left : List Char} (h : readAfterDigits negative n s = .ok (x, left)) :
    Takes (readAfterDigits negative n) s x left := by
  obtain ⟨skipped, hskipped, hout, hdrop⟩ := dropDigits_takes s
  generalize hrest : s.dropWhile Char.isDigit = rest at hskipped hdrop
  subst hskipped
  by_cases hpoint : rest.head? = some '.'
  · obtain ⟨more, rfl⟩ : ∃ more, rest = '.' :: more := List.head?_eq_some_iff.mp hpoint
    rw [readAfterDigits_of_point hrest] at h
    obtain ⟨taken, rfl, hout', hsame⟩ := readFraction_takes h
    refine ⟨skipped ++ '.' :: taken, by simp, ?_, fun left' hhead => ?_⟩
    · exact List.forall_mem_append.mpr ⟨hout, List.forall_mem_cons.mpr ⟨by decide, hout'⟩⟩
    · rw [List.append_assoc, List.cons_append,
        readAfterDigits_of_point (hdrop ('.' :: (taken ++ left')) rfl)]
      exact hsame left' hhead
  · rw [readAfterDigits_of_no_point hrest hpoint] at h
    split at h
    · next hinteger =>
      cases h
      refine ⟨skipped, rfl, hout, fun left' hhead => ?_⟩
      rw [readAfterDigits_of_no_point (hdrop left' hhead) (hhead ▸ hpoint), hhead,
        if_pos hinteger]
    · next hdouble =>
      obtain ⟨taken, rfl, hout', hsame⟩ := readScale_takes h
      refine ⟨skipped ++ taken, by simp, List.forall_mem_append.mpr ⟨hout, hout'⟩,
        fun left' hhead => ?_⟩
      have hhead' := head?_append_congr hhead taken
      rw [List.append_assoc, readAfterDigits_of_no_point (hdrop _ hhead') (hhead' ▸ hpoint),
        hhead', if_neg hdouble]
      exact hsame left' hhead

/-- What is read of a number behind its minus sign. -/
lemma readNumber_takes {negative : Bool} {s : List Char} {x : Json.Number} {left : List Char}
    (h : readNumber negative s = .ok (x, left)) : Takes (readNumber negative) s x left := by
  cases s with
  | nil => cases h
  | cons c rest =>
    by_cases hzero : (c == '0') = true
    · simp only [readNumber, hzero, if_true] at h
      by_cases hdigit : rest.head?.any Char.isDigit = true
      · simp [hdigit] at h
      · simp only [hdigit] at h
        obtain ⟨taken, rfl, hout, hsame⟩ := readAfterDigits_takes h
        refine ⟨c :: taken, rfl, ?_, fun left' hhead => ?_⟩
        · rw [beq_iff_eq] at hzero
          exact List.forall_mem_cons.mpr ⟨hzero ▸ by decide, hout⟩
        · simp only [List.cons_append, readNumber, hzero, if_true, head?_append_congr hhead,
            hdigit]
          exact hsame left' hhead
    · by_cases hdigit : c.isDigit = true
      · simp only [readNumber, hzero, hdigit, if_true] at h
        obtain ⟨counted, hcounted, hout, hsame⟩ :=
          readDigits_takes greatestNatural (c.toNat - '0'.toNat) rest
        obtain ⟨taken, hafter, hout', hsame'⟩ := readAfterDigits_takes h
        refine ⟨c :: (counted ++ taken), ?_, ?_, fun left' hhead => ?_⟩
        · rw [List.cons_append, List.append_assoc, ← hafter, ← hcounted]
        · exact List.forall_mem_cons.mpr
            ⟨outside_of_isDigit hdigit, List.forall_mem_append.mpr ⟨hout, hout'⟩⟩
        · have hread := hsame (taken ++ left') (by rw [head?_append_congr hhead, ← hafter])
          simp only [List.cons_append, List.append_assoc, readNumber, hzero, hdigit, if_true,
            hread]
          exact hsame' left' hhead
      · simp [readNumber, hzero, hdigit] at h

/-! ## Tokens -/

/-- What is read of a literal behind its first letter. -/
lemma readLiteral_takes {t u : Token} {word s left : List Char} (hword : ∀ c ∈ word, Outside c)
    (h : readLiteral t word s = .ok (u, left)) : Takes (readLiteral t word) s u left := by
  induction word generalizing s with
  | nil =>
    cases h
    exact ⟨[], rfl, nofun, fun left' _ => rfl⟩
  | cons c more ih =>
    cases s with
    | nil => cases h
    | cons d rest =>
      by_cases hd : c = d
      · subst hd
        simp only [readLiteral, if_true] at h
        obtain ⟨hc, hmore⟩ := List.forall_mem_cons.mp hword
        obtain ⟨taken, rfl, hout, hsame⟩ := ih hmore h
        refine ⟨c :: taken, rfl, List.forall_mem_cons.mpr ⟨hc, hout⟩, fun left' hhead => ?_⟩
        simp only [List.cons_append, readLiteral, if_true]
        exact hsame left' hhead
      · simp [readLiteral, hd] at h

/-- The answer of a reader of numbers, as a token. -/
lemma takes_number {reader : List Char → Reading Json.Number} {s left : List Char} {t : Token}
    (hreader : ∀ x rest, reader s = .ok (x, rest) → Takes reader s x rest)
    (h : (reader s).map (fun r => (Token.number r.1, r.2)) = .ok (t, left)) :
    Takes (fun s => (reader s).map fun r => (Token.number r.1, r.2)) s t left := by
  cases hread : reader s with
  | error fault => simp [hread, Except.map] at h
  | ok r =>
    obtain ⟨x, rest⟩ := r
    simp only [hread, Except.map, Except.ok.injEq, Prod.mk.injEq] at h
    obtain ⟨rfl, rfl⟩ := h
    obtain ⟨taken, hsplit, hout, hsame⟩ := hreader x rest hread
    refine ⟨taken, hsplit, hout, fun left' hhead => ?_⟩
    simp only [hsame left' hhead, Except.map]

/-- A token that begins with a digit is a number. -/
lemma readToken_of_isDigit (sound : List Char → Bool) {c : Char} (hc : c.isDigit = true)
    (rest : List Char) :
    readToken sound c rest =
      (readNumber false (c :: rest)).map fun r => (Token.number r.1, r.2) := by
  unfold readToken
  split
  case h_12 => exact if_pos hc
  all_goals exact absurd hc (by decide)

/-- What is read of a token that is no string, behind its first character. -/
theorem readToken_takes {sound : List Char → Bool} {c : Char} (hc : c ≠ '"') {rest : List Char}
    {t : Token} {left : List Char} (h : readToken sound c rest = .ok (t, left)) :
    Outside c ∧ Takes (readToken sound c) rest t left := by
  by_cases hdigit : c.isDigit = true
  · refine ⟨outside_of_isDigit hdigit, ?_⟩
    rw [readToken_of_isDigit sound hdigit] at h
    obtain ⟨taken, hsplit, hout, hsame⟩ := takes_number (fun _ _ => readNumber_takes) h
    cases taken with
    | nil =>
      -- A number has at least one digit.
      have hlength : left.length ≤ rest.length :=
        readToken_length ((readToken_of_isDigit sound hdigit rest).trans h)
      rw [← List.nil_append left, ← hsplit, List.length_cons] at hlength
      omega
    | cons d taken =>
      cases hsplit
      refine ⟨taken, rfl, (List.forall_mem_cons.mp hout).2, fun left' hhead => ?_⟩
      rw [readToken_of_isDigit sound hdigit]
      exact hsame left' hhead
  · unfold readToken at h
    split at h
    case h_7 => exact ⟨by decide, readLiteral_takes (by simp [Outside]) h⟩
    case h_8 => exact ⟨by decide, readLiteral_takes (by simp [Outside]) h⟩
    case h_9 => exact ⟨by decide, readLiteral_takes (by simp [Outside]) h⟩
    case h_10 => exact absurd rfl hc
    case h_11 => exact ⟨by decide, takes_number (fun _ _ => readNumber_takes) h⟩
    case h_12 => simp [hdigit] at h
    all_goals
      cases h
      exact ⟨by decide, [], rfl, nofun, fun left' _ => rfl⟩

end PluginGateway.Json
