import Mathlib.Data.List.Infix
import PluginGateway.Config.Environment

/-!
# Where the names of variables lead

The name of a variable leads to the setting behind some keys if it spells them: the marker, then the
keys with two underscores between neighbours. `path?_spelled` says that a name that spells the keys
in letters of any case leads behind the keys, if each of these can be spelled (`Spellable`). A key
with a capital letter cannot: the letters of a name count as small ones.
-/

namespace PluginGateway

namespace Text

/-- A character is small, or a capital letter of ASCII. -/
lemma toLower_cases (c : Char) : c.toLower = c ∨
    65 ≤ c.toNat ∧ c.toNat ≤ 90 ∧ c.toLower.toNat = c.toNat + 32 := by
  unfold Char.toLower
  split
  · next h =>
    right
    have h1 : 65 ≤ c.toNat := h.1
    have h2 : c.toNat ≤ 90 := h.2
    refine ⟨h1, h2, ?_⟩
    show (c.val + 32).toNat = c.val.toNat + 32
    rw [UInt32.toNat_add]
    have h3 : c.val.toNat ≤ 90 := h2
    have : (32 : UInt32).toNat = 32 := rfl
    omega
  · exact .inl rfl

/-- A character between the blanks of ASCII and the next one is not blank. -/
lemma isBlank_eq_false {c : Char} (h : 0x20 < c.toNat) (h' : c.toNat < 0x85) :
    isBlank c = false := by
  simp only [isBlank, blankRanges, List.any_cons, List.any_nil, Bool.or_false, Bool.or_eq_false_iff,
    Bool.and_eq_false_iff, decide_eq_false_iff_not]
  omega

/-- A letter is blank in neither case. -/
lemma isBlank_toLower (c : Char) : isBlank c.toLower = isBlank c := by
  rcases toLower_cases c with h | ⟨hfirst, hlast, h⟩
  · rw [h]
  · rw [isBlank_eq_false (by omega) (by omega), isBlank_eq_false (by omega) (by omega)]

/-- What is no letter is the small form of nothing else. -/
lemma toLower_eq_iff {c d : Char} (hd : d.toNat < 65 ∨ 90 < d.toNat ∧ d.toNat < 97) :
    c.toLower = d ↔ c = d := by
  rcases toLower_cases c with h | ⟨hfirst, hlast, h⟩
  · rw [h]
  · constructor <;>
    · rintro rfl
      omega

/-- A small text stays as it is when it is made small. -/
lemma lowerAscii_lowerAscii (s : List Char) : lowerAscii (lowerAscii s) = lowerAscii s := by
  have htwice (c : Char) : c.toLower.toLower = c.toLower := by
    rcases toLower_cases c with h | ⟨hfirst, hlast, h⟩
    · rw [h, h]
    · rcases toLower_cases c.toLower with h' | ⟨hfirst', hlast', -⟩
      · exact h'
      · omega
  simp [lowerAscii, htwice]

/-- A text without blanks is not trimmed. -/
lemma trim_of_forall_not_blank {s : List Char} (h : ∀ c ∈ s, isBlank c = false) : trim s = s := by
  have hdrop {s : List Char} (h : ∀ c ∈ s, isBlank c = false) : s.dropWhile isBlank = s := by
    cases s with
    | nil => rfl
    | cons c s => rw [List.dropWhile_cons_of_neg (by simp [h c List.mem_cons_self])]
  rw [trim, hdrop h, hdrop (fun c hc => h c (List.mem_reverse.mp hc)), List.reverse_reverse]

/-- A text is trimmed in small letters as it is otherwise. -/
lemma lowerAscii_trim (s : List Char) : lowerAscii (trim s) = trim (lowerAscii s) := by
  have hdrop (s : List Char) :
      (s.dropWhile isBlank).map Char.toLower = (s.map Char.toLower).dropWhile isBlank := by
    induction s with
    | nil => rfl
    | cons c s ih =>
      rw [List.map_cons, List.dropWhile_cons, List.dropWhile_cons, isBlank_toLower]
      split
      · exact ih
      · rfl
  simp only [trim, lowerAscii, List.map_reverse, hdrop]

end Text

namespace Environment

/-- The keys with two underscores between neighbours. -/
def joined : List String → List Char
  | [] => []
  | [key] => key.toList
  | key :: key' :: path => key.toList ++ '_' :: '_' :: joined (key' :: path)

/-- The name of a variable spells some keys, in letters of any case. -/
def Spells (name : String) (path : List String) : Prop :=
  Text.sameIgnoringCase name.toList (marker ++ joined path) = true

instance (name : String) (path : List String) : Decidable (Spells name path) :=
  inferInstanceAs (Decidable (Text.sameIgnoringCase name.toList (marker ++ joined path) = true))

/-- The name of a variable can spell the key. -/
structure Spellable (key : String) : Prop where
  /-- There is something to spell. -/
  nonempty : key.toList ≠ []
  /-- There are no capital letters, points and blanks. -/
  chars : ∀ c ∈ key.toList, c.toLower = c ∧ c ≠ '.' ∧ Text.isBlank c = false
  /-- No two underscores stand side by side, also not where others follow the key. -/
  joints : ¬['_', '_'] <:+: key.toList ++ ['_']

instance (key : String) : Decidable (Spellable key) :=
  -- the characters of the key are gone through, not all there are
  letI : Decidable (∀ c ∈ key.toList, c.toLower = c ∧ c ≠ '.' ∧ Text.isBlank c = false) :=
    List.decidableBAll _ _
  decidable_of_iff (key.toList ≠ [] ∧
      (∀ c ∈ key.toList, c.toLower = c ∧ c ≠ '.' ∧ Text.isBlank c = false) ∧
      ¬['_', '_'] <:+: key.toList ++ ['_'])
    ⟨fun h => ⟨h.1, h.2.1, h.2.2⟩, fun h => ⟨h.nonempty, h.chars, h.joints⟩⟩

/-- A key of letters, figures and hyphens without a capital letter can be spelled. -/
lemma spellable_of_plain {key : String} (hne : key ≠ "")
    (h : ∀ c ∈ key.toList, (c.isAlphanum ∨ c = '-') ∧ c.toLower = c) : Spellable key := by
  have hcode {c : Char} (hc : c.isAlphanum ∨ c = '-') :
      (0x20 < c.toNat ∧ c.toNat < 0x85) ∧ c ≠ '.' ∧ c ≠ '_' := by
    rcases hc with hc | rfl
    · refine ⟨?_, ?_, ?_⟩
      · have hranges : (decide (c.val ≥ 'A'.val ∧ c.val ≤ 'Z'.val) ||
            c.val ≥ 'a'.val && c.val ≤ 'z'.val || c.val ≥ '0'.val && c.val ≤ '9'.val) = true := hc
        simp only [Bool.or_eq_true, Bool.and_eq_true, decide_eq_true_eq, ge_iff_le,
          UInt32.le_iff_toNat_le, Char.toNat_val, Char.reduceToNat] at hranges
        omega
      · rintro rfl
        cases hc
      · rintro rfl
        cases hc
    · decide
  refine ⟨fun hnil => hne (String.toList_eq_nil_iff.mp hnil), fun c hc => ?_, fun hpair => ?_⟩
  · obtain ⟨hplain, hlower⟩ := h c hc
    obtain ⟨⟨hfirst, hlast⟩, hpoint, -⟩ := hcode hplain
    exact ⟨hlower, hpoint, Text.isBlank_eq_false hfirst hlast⟩
  · have hnone : key.toList.count '_' = 0 :=
      List.count_eq_zero.mpr fun hmem => (hcode (h '_' hmem).1).2.2 rfl
    have hcount := hpair.sublist.count_le '_'
    rw [List.count_append, hnone] at hcount
    exact absurd hcount (by decide)

/-- What does not begin with two underscores does not begin with a point. -/
lemma dotted_cons {c : Char} {s : List Char} (h : ¬['_', '_'] <+: c :: s) :
    dotted (c :: s) = c :: dotted s := by
  rw [dotted]
  rintro rest rfl rfl
  exact h ⟨rest, rfl⟩

/-- Behind a key that can be spelled, two underscores are a point. -/
lemma dotted_append {key : List Char} (h : ¬['_', '_'] <:+: key ++ ['_']) (rest : List Char) :
    dotted (key ++ '_' :: '_' :: rest) = key ++ '.' :: dotted rest := by
  induction key with
  | nil => rfl
  | cons c key ih =>
    have hbegin : ¬['_', '_'] <+: c :: (key ++ '_' :: '_' :: rest) := by
      intro hopens
      refine h (List.IsPrefix.isInfix ?_)
      cases key with
      | nil => simpa using hopens
      | cons c' key => simpa using hopens
    have hrest : ¬['_', '_'] <:+: key ++ ['_'] := fun hpair =>
      h (hpair.trans (List.suffix_cons c _).isInfix)
    rw [List.cons_append, dotted_cons hbegin, ih hrest]
    rfl

/-- In a key that can be spelled there are no points. -/
lemma dotted_of_joints {key : List Char} (h : ¬['_', '_'] <:+: key ++ ['_']) :
    dotted key = key := by
  induction key with
  | nil => rfl
  | cons c key ih =>
    have hbegin : ¬['_', '_'] <+: c :: key := fun hopens =>
      h (hopens.isInfix.trans (List.prefix_append _ _).isInfix)
    have hrest : ¬['_', '_'] <:+: key ++ ['_'] := fun hpair =>
      h (hpair.trans (List.suffix_cons c _).isInfix)
    rw [dotted_cons hbegin, ih hrest]

/-- With points for underscores, the characters are some of those before, and points. -/
lemma mem_of_mem_dotted {c : Char} {s : List Char} (h : c ∈ dotted s) : c = '.' ∨ c ∈ s := by
  fun_induction dotted s with
  | case1 rest ih =>
    rcases List.mem_cons.mp h with rfl | h
    · exact .inl rfl
    · exact (ih h).imp_right fun h => List.mem_cons_of_mem _ (List.mem_cons_of_mem _ h)
  | case2 d rest hne ih =>
    rcases List.mem_cons.mp h with rfl | h
    · exact .inr List.mem_cons_self
    · exact (ih h).imp_right (List.mem_cons_of_mem _)
  | case3 => exact .inr h

/-- A small text has points where the text has them. -/
lemma lowerAscii_dotted (s : List Char) :
    Text.lowerAscii (dotted s) = dotted (Text.lowerAscii s) := by
  fun_induction dotted s with
  | case1 rest ih =>
    have hpoint : Text.lowerAscii ('.' :: dotted rest) = '.' :: Text.lowerAscii (dotted rest) := rfl
    rw [hpoint, ih]
    rfl
  | case2 c rest hne ih =>
    have hbegin : ¬['_', '_'] <+: c.toLower :: rest.map Char.toLower := by
      rintro ⟨tail, htail⟩
      cases rest with
      | nil => simp at htail
      | cons d rest =>
        simp only [List.cons_append, List.nil_append, List.map_cons, List.cons.injEq] at htail
        have hc := (Text.toLower_eq_iff (by decide)).mp htail.1.symm
        have hd := (Text.toLower_eq_iff (by decide)).mp htail.2.1.symm
        exact hne rest hc (by rw [hd])
    have hhead : Text.lowerAscii (c :: dotted rest) =
        c.toLower :: Text.lowerAscii (dotted rest) := rfl
    rw [hhead, ih]
    exact (dotted_cons hbegin).symm
  | case3 => rfl

/-- A name leads where it leads in small letters. -/
lemma path?_lowerAscii (name : String) :
    path? name = path? (String.ofList (Text.lowerAscii name.toList)) := by
  have hsame (s : List Char) :
      Text.sameIgnoringCase (Text.lowerAscii s) marker = Text.sameIgnoringCase s marker := by
    rw [Text.sameIgnoringCase, Text.lowerAscii_lowerAscii, Text.sameIgnoringCase]
  have htake (n : Nat) (s : List Char) : (Text.lowerAscii s).take n = Text.lowerAscii (s.take n) :=
    List.map_take.symm
  have hdrop (n : Nat) (s : List Char) : (Text.lowerAscii s).drop n = Text.lowerAscii (s.drop n) :=
    List.map_drop.symm
  unfold path?
  simp only [String.toList_ofList, ← Text.lowerAscii_trim, htake, hdrop, hsame,
    ← lowerAscii_dotted, Text.lowerAscii_lowerAscii]

/-- Keys that can be spelled are the pieces between the points. -/
lemma dotted_joined {path : List String} (h : ∀ key ∈ path, Spellable key) :
    dotted (joined path) = Text.join '.' (path.map String.toList) := by
  induction path with
  | nil => rfl
  | cons key path ih =>
    obtain ⟨hkey, hrest⟩ := List.forall_mem_cons.mp h
    cases path with
    | nil => exact dotted_of_joints hkey.joints
    | cons key' path =>
      rw [joined, dotted_append hkey.joints, ih hrest]
      rfl

/-- There are no capital letters and no blanks in keys that can be spelled. -/
lemma forall_mem_joined {path : List String} (h : ∀ key ∈ path, Spellable key) :
    ∀ c ∈ joined path, c.toLower = c ∧ Text.isBlank c = false := by
  induction path with
  | nil => exact List.forall_mem_nil _
  | cons key path ih =>
    obtain ⟨hkey, hrest⟩ := List.forall_mem_cons.mp h
    have hchars : ∀ c ∈ key.toList, c.toLower = c ∧ Text.isBlank c = false := fun c hc =>
      ⟨(hkey.chars c hc).1, (hkey.chars c hc).2.2⟩
    cases path with
    | nil => exact hchars
    | cons key' path =>
      rw [joined, List.forall_mem_append, List.forall_mem_cons, List.forall_mem_cons]
      exact ⟨hchars, by decide, by decide, ih hrest⟩

/-- A name that spells some keys leads behind them. -/
theorem path?_spelled {name : String} {path : List String} (hpath : path ≠ [])
    (h : ∀ key ∈ path, Spellable key) (hname : Spells name path) : path? name = some path := by
  have hjoined := forall_mem_joined h
  have hsmall {s : List Char} (hs : ∀ c ∈ s, c.toLower = c) : Text.lowerAscii s = s :=
    (List.map_congr_left hs).trans (List.map_id' s)
  have hlower : Text.lowerAscii name.toList = Text.lowerAscii marker ++ joined path := by
    have hspelled := eq_of_beq hname
    rw [hspelled, Text.lowerAscii, List.map_append]
    exact congrArg _ (hsmall fun c hc => (hjoined c hc).1)
  have hblank : ∀ c ∈ Text.lowerAscii marker ++ joined path, Text.isBlank c = false := by
    have hclear : ¬(Text.lowerAscii marker).any Text.isBlank = true := by decide
    rw [List.forall_mem_append]
    exact ⟨fun c hc => Bool.eq_false_iff.mpr fun h => hclear (List.any_eq_true.mpr ⟨c, hc, h⟩),
      fun c hc => (hjoined c hc).2⟩
  have hpieces : Text.split '.' (dotted (joined path)) = path.map String.toList := by
    rw [dotted_joined h]
    refine Text.split_join (by simpa using hpath) fun s hs => ?_
    obtain ⟨key, hkey, rfl⟩ := List.mem_map.mp hs
    exact fun hpoint => ((h key hkey).chars _ hpoint).2.1 rfl
  have hfull : ¬(path.map String.toList).any List.isEmpty = true := by
    rw [List.any_map, List.any_eq_true]
    rintro ⟨key, hkey, hempty⟩
    exact (h key hkey).nonempty (List.isEmpty_iff.mp hempty)
  have hpoints : Text.trim (dotted (joined path)) = dotted (joined path) := by
    refine Text.trim_of_forall_not_blank fun c hc => ?_
    rcases mem_of_mem_dotted hc with rfl | hc
    · decide
    · exact (hjoined c hc).2
  have hdots : Text.lowerAscii (dotted (joined path)) = dotted (joined path) := by
    rw [lowerAscii_dotted, hsmall fun c hc => (hjoined c hc).1]
  have htake : (Text.lowerAscii marker ++ joined path).take marker.length =
      Text.lowerAscii marker := List.take_left' (Text.length_lowerAscii marker)
  have hdrop : (Text.lowerAscii marker ++ joined path).drop marker.length = joined path :=
    List.drop_left' (Text.length_lowerAscii marker)
  have hmarker : Text.sameIgnoringCase (Text.lowerAscii marker) marker = true := by decide
  rw [path?_lowerAscii, path?, hlower, String.toList_ofList, Text.trim_of_forall_not_blank hblank,
    htake, hdrop, if_pos hmarker, hpoints, hdots, hpieces, if_neg hfull, List.map_map]
  simp

end Environment

end PluginGateway
