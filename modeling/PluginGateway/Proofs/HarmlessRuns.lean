import PluginGateway.Proofs.Qualifiers
import PluginGateway.Proofs.SegmentScan
import PluginGateway.Proofs.StringContents

/-!
# Replacements that do no harm to strings

A replacement of path runs sees a string without understanding it. A backslash ends a run, so the
letter behind it is glued to the run that follows. A replacement is `Harmless` if it brings no
character into a run that would have to be escaped there, and keeps a first segment that may be the
rest of an escape; then the contents of a string stay contents of a string
(`Harmless.content_replaceRuns`). Tables are harmless if their rules are, and qualifying is harmless
if the identifier is.
-/

namespace PluginGateway.Path

open PluginGateway.Json

/-- The segment may be what is glued to a run by a backslash in front: it is empty or begins with
the letter of an escape. -/
def BeginsEscape (s : Segment) : Prop := ∀ c ∈ s.head?, c ∈ ['b', 'f', 'n', 'r', 't', 'u']

/-- A replacement that does no harm to strings. -/
structure Harmless (f : List Char → Option (List Char)) : Prop where
  /-- Characters that are brought in need no escape. -/
  chars : ∀ {r r' : List Char} {c : Char}, IsRun r → f r = some r' → c ∈ r' → c ∈ r ∨ Unescaped c
  /-- A first segment that may be the rest of an escape is kept. -/
  first : ∀ {r r' : List Char} {s : Segment} {path : List Segment}, IsRun r → f r = some r' →
    segments r = s :: path → BeginsEscape s → ∃ path', path' ≠ [] ∧ r' = joined (s :: path')

/-- The rest of an escape that is glued to the run behind it: a slash, or letters and digits. -/
structure EscapeTail (e : List Char) : Prop where
  /-- It ends no run. -/
  run : IsRun e
  /-- It needs no further escape. -/
  plain : IsPlain e
  /-- It is a slash or begins a segment. -/
  shape : e = ['/'] ∨ ('/' ∉ e ∧ e ≠ [] ∧ BeginsEscape e)

/-! ## Runs and what follows them -/

/-- A text begins with a run, which a mark or the end of the text follows. -/
lemma exists_run_append (s : List Char) :
    ∃ w rest, s = w ++ rest ∧ IsRun w ∧
      (rest = [] ∨ ∃ m more, rest = m :: more ∧ endsRun m = true) := by
  induction s with
  | nil => exact ⟨[], [], rfl, nofun, .inl rfl⟩
  | cons c s ih =>
    cases hc : endsRun c with
    | true => exact ⟨[], c :: s, rfl, nofun, .inr ⟨c, s, rfl, hc⟩⟩
    | false =>
      obtain ⟨w, rest, rfl, hw, hrest⟩ := ih
      exact ⟨c :: w, rest, rfl, List.forall_mem_cons.mpr ⟨hc, hw⟩, hrest⟩

/-- A run is replaced on its own. -/
lemma replaceRuns_run_append {f : List Char → Option (List Char)} {rest : List Char}
    (hrest : rest = [] ∨ ∃ m more, rest = m :: more ∧ endsRun m = true) (w : List Char) :
    replaceRuns f (w ++ rest) = replaceRuns f w ++ replaceRuns f rest := by
  rcases hrest with rfl | ⟨m, more, rfl, hm⟩
  · rw [List.append_nil, replaceRuns_nil, List.append_nil]
  · rw [replaceRuns_append_mark hm, replaceRuns_cons_mark hm]

/-- A slash in front of a path is an empty segment. -/
lemma segments_cons_slash (w : List Char) : segments ('/' :: w) = [] :: segments w :=
  Text.split_append_cons (s := []) (by simp) w

/-- A text without slashes in front of a path belongs to its first segment. -/
lemma segments_append {e w : List Char} {s : Segment} {path : List Segment} (he : '/' ∉ e)
    (hw : segments w = s :: path) : segments (e ++ w) = (e ++ s) :: path := by
  induction e with
  | nil => exact hw
  | cons c e ih =>
    rw [List.mem_cons, not_or] at he
    have hrest := ih he.2
    unfold segments at hrest ⊢
    rw [List.cons_append, Text.split, hrest]
    simp [Ne.symm he.1]

/-- What a first segment begins with, the path begins with. -/
lemma joined_append (e : List Char) (s : Segment) (path : List Segment) :
    joined ((e ++ s) :: path) = e ++ joined (s :: path) := by
  cases path with
  | nil => rfl
  | cons t path => exact List.append_assoc e s _

variable {f : List Char → Option (List Char)}

/-- Characters that come into a run need no escape. -/
lemma Harmless.mem_replaceRuns (hf : Harmless f) {w : List Char} (hw : IsRun w) {c : Char}
    (hc : c ∈ replaceRuns f w) : c ∈ w ∨ Unescaped c := by
  rw [replaceRuns_of_isRun hw] at hc
  split at hc
  · cases hfw : f w with
    | none => exact .inl (by simpa [hfw] using hc)
    | some w' => exact hf.chars hw hfw (by simpa [hfw] using hc)
  · exact .inl hc

/-- The rest of an escape stays in front of the run that it is glued to. -/
lemma Harmless.replaceRuns_tail (hf : Harmless f) {e w : List Char} (he : EscapeTail e)
    (hw : IsRun w) : ∃ w', replaceRuns f (e ++ w) = e ++ w' := by
  have hrun : IsRun (e ++ w) := List.forall_mem_append.mpr ⟨he.run, hw⟩
  rw [replaceRuns_of_isRun hrun]
  split
  · cases hfw : f (e ++ w) with
    | none => exact ⟨w, rfl⟩
    | some r =>
      rw [Option.getD_some]
      rcases he.shape with rfl | ⟨hslash, hne, hbegins⟩
      · obtain ⟨path, hpath, rfl⟩ := hf.first hrun hfw (segments_cons_slash w) nofun
        cases path with
        | nil => exact absurd rfl hpath
        | cons t path => exact ⟨joined (t :: path), Text.join_nil_cons '/' t path⟩
      · obtain ⟨s, path, hsegments⟩ := List.exists_cons_of_ne_nil (segments_ne_nil w)
        have hbegins' : BeginsEscape (e ++ s) := by
          rw [BeginsEscape, List.head?_append_of_ne_nil _ hne]
          exact hbegins
        obtain ⟨path', -, rfl⟩ :=
          hf.first hrun hfw (segments_append hslash hsegments) hbegins'
        exact ⟨joined (s :: path'), joined_append e s path'⟩
  · exact ⟨w, rfl⟩

/-! ## The contents of strings -/

/-- Unescaped characters may stand in front. -/
lemma content_append {w s : List Char} (hw : IsPlain w) (h : Content s) :
    Content (w ++ s) := by
  induction w with
  | nil => exact h
  | cons c w ih =>
    obtain ⟨hc, hw⟩ := List.forall_mem_cons.mp hw
    exact .unescaped c hc (ih hw)

/-- Quotation marks and backslashes end runs, so that only control characters have to be escaped
within a run. -/
lemma unescaped_of_endsRun {c : Char} (hc : endsRun c = false) (hcontrol : 0x20 ≤ c.toNat) :
    Unescaped c := by
  refine ⟨?_, ?_, hcontrol⟩
  · rintro rfl
    exact absurd hc (by decide)
  · rintro rfl
    exact absurd hc (by decide)

/-- A run within a string is made of unescaped characters, and what follows it may stand in a
string. -/
lemma content_of_run_append {w s : List Char} (hw : IsRun w) (h : Content (w ++ s)) :
    IsPlain w ∧ Content s := by
  induction w with
  | nil => exact ⟨nofun, h⟩
  | cons c w ih =>
    obtain ⟨hc, hw⟩ := List.forall_mem_cons.mp hw
    have hne : c ≠ '\\' := by
      rintro rfl
      exact absurd hc (by decide)
    generalize htext : c :: w ++ s = text at h
    cases h with
    | nil => cases htext
    | unescaped d hd hrest =>
      cases htext
      exact ⟨List.forall_mem_cons.mpr ⟨hd, (ih hw hrest).1⟩, (ih hw hrest).2⟩
    | letter d hd hrest => exact absurd (List.cons.inj htext).1 hne
    | codePoint digits n hhex hn hrest => exact absurd (List.cons.inj htext).1 hne
    | pair high low n m hhigh hlow hn hm hrest => exact absurd (List.cons.inj htext).1 hne

/-- The hexadecimal digits stand in three stretches. -/
lemma toNat_of_hexValue? {c : Char} (h : (Text.hexValue? c).isSome) :
    (48 ≤ c.toNat ∧ c.toNat ≤ 57) ∨ (97 ≤ c.toNat ∧ c.toNat ≤ 102) ∨
      (65 ≤ c.toNat ∧ c.toNat ≤ 70) := by
  unfold Text.hexValue? at h
  split at h
  · next hdigit => exact .inl (Char.isDigit_iff_toNat.mp hdigit)
  · split at h
    · next hlower => exact .inr (.inl hlower)
    · split at h
      · next hupper => exact .inr (.inr hupper)
      · cases h

/-- A hexadecimal digit ends no run, and it is neither a slash nor to be escaped. -/
lemma hex_digit {c : Char} (h : (Text.hexValue? c).isSome) :
    endsRun c = false ∧ c ≠ '/' ∧ Unescaped c := by
  have hrange := toNat_of_hexValue? h
  have hblank : Text.isBlank c = false := by
    simp [Text.isBlank, Text.blankRanges]
    omega
  have hmark : c ∉ runMarks := by
    intro hmem
    have hmarks : (runMarks.all fun m => (Text.hexValue? m).isNone) = true := by decide
    have hnone := List.all_eq_true.mp hmarks c hmem
    rw [Option.isNone_iff_eq_none] at hnone
    rw [hnone] at h
    cases h
  have hrun : endsRun c = false := by simp [endsRun, hblank, hmark]
  have hslash : c ≠ '/' := by
    rintro rfl
    exact absurd h (by decide)
  exact ⟨hrun, hslash, unescaped_of_endsRun hrun (by omega)⟩

/-- An escape that begins with a letter is glued to the run behind it. -/
lemma escapeTail_letter {c : Char} (hc : c ∈ escapeLetters) (hrun : endsRun c = false) :
    EscapeTail [c] := by
  simp only [escapeLetters, List.mem_cons, List.not_mem_nil, or_false] at hc
  rcases hc with rfl | rfl | rfl | rfl | rfl | rfl | rfl | rfl
  · exact absurd hrun (by decide)
  · exact absurd hrun (by decide)
  · exact ⟨by decide, by decide, .inl rfl⟩
  all_goals exact ⟨by decide, by decide, .inr ⟨by decide, by decide, by simp [BeginsEscape]⟩⟩

/-- An escape with a code point is glued to the run behind it. -/
lemma escapeTail_hex {digits : List Char} {n : Nat} (h : Hex digits n) :
    EscapeTail ('u' :: digits) where
  run := List.forall_mem_cons.mpr ⟨by decide, fun c hc => (hex_digit (h.1 c hc)).1⟩
  plain := List.forall_mem_cons.mpr ⟨by decide, fun c hc => (hex_digit (h.1 c hc)).2.2⟩
  shape := by
    refine .inr ⟨?_, by simp, by simp [BeginsEscape]⟩
    rw [List.mem_cons, not_or]
    exact ⟨by decide, fun hslash => (hex_digit (h.1 '/' hslash)).2.1 rfl⟩

/-- What is glued to an escape may still stand behind it after a replacement, if this is so of
shorter texts. -/
lemma Harmless.exists_content_tail (hf : Harmless f) {e s : List Char} (he : EscapeTail e)
    (h : Content s)
    (hshorter : ∀ s', s'.length ≤ s.length → Content s' → Content (replaceRuns f s')) :
    ∃ s', replaceRuns f (e ++ s) = e ++ s' ∧ Content s' := by
  obtain ⟨w, rest, rfl, hw, hrest⟩ := exists_run_append s
  obtain ⟨hplain, hcontent⟩ := content_of_run_append hw h
  obtain ⟨w', hw'⟩ := hf.replaceRuns_tail he hw
  refine ⟨w' ++ replaceRuns f rest, ?_, ?_⟩
  · rw [← List.append_assoc, replaceRuns_run_append hrest, hw', List.append_assoc]
  · refine content_append (fun c hc => ?_) (hshorter rest (by simp) hcontent)
    have hmem : c ∈ replaceRuns f (e ++ w) := hw' ▸ List.mem_append_right e hc
    rcases hf.mem_replaceRuns (List.forall_mem_append.mpr ⟨he.run, hw⟩) hmem with hmem | hc
    · exact List.forall_mem_append.mpr ⟨he.plain, hplain⟩ c hmem
    · exact hc

/-- What follows a mark may still stand behind it after a replacement, if this is so of shorter
texts. -/
lemma Harmless.content_cons_mark (hf : Harmless f) {m : Char} {s : List Char}
    (h : Content (m :: s))
    (hshorter : ∀ s', s'.length ≤ s.length → Content s' → Content (replaceRuns f s')) :
    Content (m :: replaceRuns f s) := by
  cases h with
  | unescaped _ hc hrest => exact .unescaped m hc (hshorter _ (Nat.le_refl _) hrest)
  | @letter c hc s' hrest =>
    cases hrun : endsRun c with
    | true =>
      rw [replaceRuns_cons_mark hrun]
      exact .letter c hc (hshorter s' (by simp) hrest)
    | false =>
      obtain ⟨s'', hs'', hcontent⟩ := hf.exists_content_tail (escapeTail_letter hc hrun) hrest
        fun s' hle => hshorter s' (hle.trans (by simp))
      rw [List.singleton_append] at hs''
      rw [hs'']
      exact .letter c hc hcontent
  | @codePoint digits n hhex hn s' hrest =>
    obtain ⟨s'', hs'', hcontent⟩ := hf.exists_content_tail (escapeTail_hex hhex) hrest
      fun s' hle => hshorter s' (hle.trans (by simp; omega))
    rw [← List.cons_append, hs'']
    exact .codePoint digits n hhex hn hcontent
  | @pair high low n m hhigh hlow hn hm s' hrest =>
    obtain ⟨s'', hs'', hcontent⟩ := hf.exists_content_tail (escapeTail_hex hlow) hrest
      fun s' hle => hshorter s' (hle.trans (by simp; omega))
    have hbackslash : endsRun '\\' = true := by decide
    -- The first half is a run of its own, without a slash.
    have hfirst : replaceRuns f ('u' :: high) = 'u' :: high := by
      have hslash : '/' ∉ 'u' :: high := by
        rw [List.mem_cons, not_or]
        exact ⟨by decide, fun h => (hex_digit (hhigh.1 '/' h)).2.1 rfl⟩
      rw [replaceRuns_of_isRun (escapeTail_hex hhigh).run, if_neg hslash]
    rw [List.cons_append] at hs''
    rw [← List.cons_append, replaceRuns_append_mark hbackslash, hfirst, hs'']
    exact .pair high low n m hhigh hlow hn hm hcontent

/-- A harmless replacement leaves the contents of a string contents of a string. -/
theorem Harmless.content_replaceRuns (hf : Harmless f) {s : List Char} (h : Content s) :
    Content (replaceRuns f s) := by
  -- The induction is on the length, as each step goes on behind a run and the mark that ends it.
  induction hlength : s.length using Nat.strong_induction_on generalizing s with
  | _ n ih =>
    subst hlength
    obtain ⟨w, rest, rfl, hw, hrest⟩ := exists_run_append s
    obtain ⟨hplain, hcontent⟩ := content_of_run_append hw h
    rw [replaceRuns_run_append hrest]
    refine content_append (fun c hc => ?_) ?_
    · rcases hf.mem_replaceRuns hw hc with hmem | hc
      · exact hplain c hmem
      · exact hc
    · rcases hrest with rfl | ⟨m, more, rfl, hm⟩
      · exact .nil
      · rw [replaceRuns_cons_mark hm]
        refine hf.content_cons_mark hcontent fun s' hle hs' => ih s'.length ?_ hs' rfl
        simp only [List.length_append, List.length_cons]
        omega

/-! ## Harmless replacements -/

/-- Rules that bring in no character to be escaped, do not begin like the rest of an escape, and do
not make a path vanish. -/
structure HarmlessRule (r : Rule) : Prop where
  /-- The rule does not apply to a segment that may be the rest of an escape. -/
  first : ¬BeginsEscape r.first
  /-- Something is written. -/
  target : r.target ≠ []
  /-- What is written needs no escape. -/
  chars : ∀ s ∈ r.target, IsPlain s

/-- No harmless rule applies at a segment that may be the rest of an escape. -/
lemma ruleAt?_of_beginsEscape {t : Table} (ht : ∀ r ∈ t.rules, HarmlessRule r) {s : Segment}
    (hs : BeginsEscape s) (path : List Segment) : t.ruleAt? (s :: path) = none := by
  refine List.find?_eq_none.mpr fun r hr hmatches => ?_
  rw [Rule.Matches, Rule.source, List.isPrefixOf_iff_prefix, List.cons_prefix_cons] at hmatches
  exact (ht r hr).first (hmatches.1 ▸ hs)

/-- Harmless rules do not make a path vanish. -/
lemma replaceFrom?_ne_nil {t : Table} (ht : ∀ r ∈ t.rules, HarmlessRule r)
    {path path' : List Segment} (h : t.replaceFrom? 0 path = some path') : path' ≠ [] := by
  cases path with
  | nil => cases h
  | cons s rest =>
    rw [Table.replaceFrom?] at h
    cases hrule : t.ruleAt? (s :: rest) with
    | none =>
      rw [hrule] at h
      obtain ⟨more, -, rfl⟩ := Option.map_eq_some_iff.mp h
      exact List.cons_ne_nil s more
    | some r =>
      rw [hrule] at h
      cases h
      exact List.append_ne_nil_of_left_ne_nil
        (ht r (List.mem_of_find?_eq_some hrule)).target _

/-- What a table makes of a run. -/
lemma exists_of_replace? {t : Table} {r r' : List Char} (hr : IsRun r)
    (h : t.replace? r = some r') :
    ∃ path, t.replaceFrom? 0 (segments r) = some path ∧ r' = joined path := by
  rw [Table.replace?, beforeTail_of_isRun hr, tail_of_isRun hr] at h
  obtain ⟨path, hpath, rfl⟩ := Option.map_eq_some_iff.mp h
  exact ⟨path, hpath, List.append_nil _⟩

/-- A table of harmless rules is harmless. -/
theorem harmless_table {t : Table} (ht : ∀ r ∈ t.rules, HarmlessRule r) : Harmless t.replace? where
  chars := by
    intro r r' c hr h hc
    obtain ⟨path, hpath, rfl⟩ := exists_of_replace? hr h
    rcases mem_joined hc with rfl | ⟨s, hs, hcs⟩
    · exact .inr (by decide)
    · rcases Table.mem_replaceFrom? hpath hs with hs | ⟨rule, hrule, hs⟩
      · exact .inl (mem_of_mem_segments hs hcs)
      · exact .inr ((ht rule hrule).chars s hs c hcs)
  first := by
    intro r r' s path hr h hsegments hs
    obtain ⟨path', hpath', rfl⟩ := exists_of_replace? hr h
    rw [hsegments, Table.replaceFrom?, ruleAt?_of_beginsEscape ht hs] at hpath'
    obtain ⟨more, hmore, rfl⟩ := Option.map_eq_some_iff.mp hpath'
    exact ⟨more, replaceFrom?_ne_nil ht hmore, rfl⟩

/-- What qualifying makes of a run. -/
lemma exists_of_qualifyPath? {uuid r r' : List Char} (hr : IsRun r)
    (h : qualifyPath? uuid r = some r') :
    r' = joined (qualifySegments (qualifier uuid) (segments r)) ∧
      qualifySegments (qualifier uuid) (segments r) ≠ segments r := by
  have hr' : (qualifyPath? uuid r).getD r = _ := qualifyPath?_getD hr
  rw [h, Option.getD_some] at hr'
  refine ⟨hr', fun hsame => ?_⟩
  simp [qualifyPath?, beforeTail_of_isRun hr, hsame] at h

/-- Qualifying by an identifier that needs no escape is harmless. -/
theorem harmless_qualifyPath? {uuid : List Char} (huuid : IsPlain uuid) :
    Harmless (qualifyPath? uuid) where
  chars := by
    intro r r' c hr h hc
    obtain ⟨rfl, -⟩ := exists_of_qualifyPath? hr h
    rcases mem_joined hc with rfl | ⟨s, hs, hcs⟩
    · exact .inr (by decide)
    · rcases mem_qualifySegments hs with hs | ⟨s', hs', rfl⟩
      · exact .inl (mem_of_mem_segments hs hcs)
      · rcases List.mem_append.mp hcs with hq | hcs
        · rcases List.mem_append.mp hq with hq | hq
          · exact .inr (huuid c hq)
          · rw [List.mem_singleton.mp hq]
            exact .inr (by decide)
        · exact .inl (mem_of_mem_segments hs' hcs)
  first := by
    intro r r' s path hr h hsegments _
    obtain ⟨rfl, hchanged⟩ := exists_of_qualifyPath? hr h
    -- A path of fewer than three segments is not changed, and the first three are kept.
    match path, hsegments with
    | [], hsegments => exact absurd (by rw [hsegments]; rfl) hchanged
    | [_], hsegments => exact absurd (by rw [hsegments]; rfl) hchanged
    | b :: c :: rest, hsegments =>
      rw [hsegments]
      exact ⟨_, List.cons_ne_nil _ _, rfl⟩

end PluginGateway.Path
