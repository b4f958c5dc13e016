import PluginGateway.Proofs.PathRuns
import PluginGateway.Proofs.TableOrder

/-!
# Segments replaced from left to right

`Scan` says what a scan of a path from the left does, without the order in which a table keeps its
rules and without a search for the rule to apply: where pairs fit, the longest of them is applied,
and of several longest ones the first; where none fits, the segment is copied. What a pair writes is
not read again, as the scan goes on behind the segments that it read.

The main statement, `replace?_scan`, says that every path has exactly one scan, whatever the pairs,
and that a table writes what this scan writes, or has no answer if no source stands anywhere in the
path.
-/

namespace PluginGateway.Path

namespace Table

/-! ## Tables on segments -/

/-- The segments of a path after the replacements of a table. -/
def rewritten (t : Table) (path : List Segment) : List Segment :=
  (t.replaceSegments? path).getD path

/-- Segments that belong to a run already replaced are passed over. -/
lemma replaceFrom?_eq_drop (t : Table) (skip : Nat) (path : List Segment) :
    t.replaceFrom? skip path = t.replaceFrom? 0 (path.drop skip) := by
  induction path generalizing skip with
  | nil => simp [replaceFrom?]
  | cons s rest ih =>
    cases skip with
    | zero => rfl
    | succ skip => exact ih skip

section Rewritten

variable {t : Table} {s : Segment} {rest : List Segment}

/-- A segment at which no rule matches stays. -/
lemma rewritten_of_none (h : t.ruleAt? (s :: rest) = none) :
    t.rewritten (s :: rest) = s :: t.rewritten rest := by
  simp only [rewritten, replaceSegments?, replaceFrom?, h]
  cases t.replaceFrom? 0 rest <;> rfl

/-- The run that a rule matches becomes its target. -/
lemma rewritten_of_rule {r : Rule} (h : t.ruleAt? (s :: rest) = some r) :
    t.rewritten (s :: rest) = r.target ++ t.rewritten (rest.drop r.more.length) := by
  simp only [rewritten, replaceSegments?, replaceFrom?, h, Option.getD_some]
  rw [replaceFrom?_eq_drop]

end Rewritten

/-- The segments that a table writes are segments of the path or of a target. -/
lemma mem_replaceFrom? {t : Table} {skip : Nat} {path path' : List Segment}
    (h : t.replaceFrom? skip path = some path') {s : Segment} (hs : s ∈ path') :
    s ∈ path ∨ ∃ r ∈ t.rules, s ∈ r.target := by
  induction path generalizing skip path' with
  | nil => cases skip <;> cases h
  | cons s' rest ih =>
    cases skip with
    | succ skip =>
      rcases ih h hs with hmem | hmem
      · exact .inl (List.mem_cons_of_mem _ hmem)
      · exact .inr hmem
    | zero =>
      rw [replaceFrom?] at h
      cases hrule : t.ruleAt? (s' :: rest) with
      | none =>
        rw [hrule] at h
        obtain ⟨more, hmore, rfl⟩ := Option.map_eq_some_iff.mp h
        rcases List.mem_cons.mp hs with rfl | hs
        · exact .inl List.mem_cons_self
        · rcases ih hmore hs with hmem | hmem
          · exact .inl (List.mem_cons_of_mem _ hmem)
          · exact .inr hmem
      | some r =>
        rw [hrule] at h
        cases h
        rcases List.mem_append.mp hs with hs | hs
        · exact .inr ⟨r, List.mem_of_find?_eq_some hrule, hs⟩
        · cases hmore : t.replaceFrom? r.more.length rest with
          | none =>
            rw [hmore] at hs
            exact .inl (List.mem_cons_of_mem _ (List.mem_of_mem_drop hs))
          | some more =>
            rw [hmore] at hs
            rcases ih hmore hs with hmem | hmem
            · exact .inl (List.mem_cons_of_mem _ hmem)
            · exact .inr hmem

/-- The segments of a path after the replacements are segments of the path or of a target. -/
lemma mem_rewritten {t : Table} {path : List Segment} {s : Segment} (hs : s ∈ t.rewritten path) :
    s ∈ path ∨ ∃ r ∈ t.rules, s ∈ r.target := by
  unfold rewritten at hs
  cases h : t.replaceSegments? path with
  | none =>
    rw [h] at hs
    exact .inl hs
  | some path' =>
    rw [h] at hs
    exact mem_replaceFrom? h hs

/-- A text without marks becomes the path of its segments after the replacements. -/
lemma replace?_getD (t : Table) {text : List Char} (h : IsRun text) :
    (t.replace? text).getD text = joined (t.rewritten (segments text)) := by
  rw [replace?, beforeTail_of_isRun h, tail_of_isRun h, rewritten]
  cases t.replaceSegments? (segments text) with
  | none => exact (joined_segments text).symm
  | some path => exact List.append_nil _

/-! ## Where nothing is replaced -/

/-- No rule is applied at the head of a path exactly if no source stands there. -/
lemma ruleAt?_eq_none_iff {t : Table} {path : List Segment} :
    t.ruleAt? path = none ↔ ∀ r ∈ t.rules, ¬r.source <+: path := by
  simp [ruleAt?, Rule.Matches]

/-- Nothing is replaced in a path exactly if no source stands anywhere in it. -/
lemma replaceSegments?_eq_none_iff {t : Table} {path : List Segment} :
    t.replaceSegments? path = none ↔ ∀ r ∈ t.rules, ¬r.source <:+: path := by
  unfold replaceSegments?
  induction path with
  | nil => simp [replaceFrom?, Rule.source_ne_nil]
  | cons s rest ih =>
    rw [replaceFrom?]
    cases hrule : t.ruleAt? (s :: rest) with
    | none =>
      have hhead := ruleAt?_eq_none_iff.mp hrule
      simp only [Option.map_eq_none_iff, ih, List.infix_cons_iff, not_or]
      constructor
      · intro h r hr
        exact ⟨hhead r hr, h r hr⟩
      · intro h r hr
        exact (h r hr).2
    | some r =>
      have hmatches := List.find?_some hrule
      have hmatch : r.source <+: s :: rest := List.isPrefixOf_iff_prefix.mp hmatches
      have hmem : r ∈ t.rules := List.mem_of_find?_eq_some hrule
      simp only [reduceCtorEq, false_iff, not_forall, not_not]
      exact ⟨r, hmem, hmatch.isInfix⟩

/-- A table has no answer to a URI exactly if no source stands anywhere in its path. -/
lemma replace?_eq_none_iff {t : Table} {uri : List Char} :
    t.replace? uri = none ↔ ∀ r ∈ t.rules, ¬r.source <:+: segments (beforeTail uri) := by
  rw [replace?, Option.map_eq_none_iff, replaceSegments?_eq_none_iff]

/-- A table of pairs has no answer to a URI exactly if no source stands anywhere in its path. -/
lemma replace?_ofPairs_eq_none_iff {pairs : List (List Char × List Char)} {uri : List Char} :
    (ofPairs pairs).replace? uri = none ↔
      ∀ pair ∈ active pairs, ¬properSegments pair.1 <:+: segments (beforeTail uri) := by
  rw [replace?_eq_none_iff]
  exact forall_rules_iff (P := fun source _ => ¬source <:+: segments (beforeTail uri))

/-- A table that has an answer to a URI answers the path after the replacements and the same
tail. -/
lemma eq_of_replace? {t : Table} {uri out : List Char} (h : t.replace? uri = some out) :
    out = joined (t.rewritten (segments (beforeTail uri))) ++ tail uri := by
  obtain ⟨path, hpath, rfl⟩ := Option.map_eq_some_iff.mp h
  rw [rewritten, hpath, Option.getD_some]

end Table

/-! ## The pair that is applied -/

/-- The pair fits at the head of a path: it has a source, which stands there. -/
structure Fits (pair : List Char × List Char) (path : List Segment) : Prop where
  /-- The pair has a source. -/
  source_ne_nil : properSegments pair.1 ≠ []
  /-- The source stands at the head of the path. -/
  source_prefix : properSegments pair.1 <+: path

/-- Of the pairs that fit at the head of a path this one is among the longest, and it is the first
of those. -/
structure FirstLongest (pairs : List (List Char × List Char)) (path : List Segment)
    (pair : List Char × List Char) : Prop where
  /-- The pair fits. -/
  fits : Fits pair path
  /-- The pairs that fit are shorter in front of it and no longer behind it. -/
  order : ∃ earlier later, pairs = earlier ++ pair :: later ∧
    (∀ p ∈ earlier, Fits p path →
      (properSegments p.1).length < (properSegments pair.1).length) ∧
    ∀ p ∈ later, Fits p path → (properSegments p.1).length ≤ (properSegments pair.1).length

namespace FirstLongest

variable {pairs : List (List Char × List Char)} {path : List Segment}
  {pair pair' : List Char × List Char}

/-- It is one of the pairs. -/
lemma mem (h : FirstLongest pairs path pair) : pair ∈ pairs := by
  obtain ⟨earlier, later, rfl, -⟩ := h.order
  simp

/-- It is one of the pairs that have a source. -/
lemma mem_active (h : FirstLongest pairs path pair) : pair ∈ Table.active pairs :=
  Table.mem_active_iff.mpr ⟨h.mem, h.fits.source_ne_nil⟩

/-- No pair that fits is longer. -/
lemma length_le (h : FirstLongest pairs path pair) {p : List Char × List Char} (hp : p ∈ pairs)
    (hfits : Fits p path) : (properSegments p.1).length ≤ (properSegments pair.1).length := by
  obtain ⟨earlier, later, rfl, hearlier, hlater⟩ := h.order
  rcases List.mem_append.mp hp with hp | hp
  · exact Nat.le_of_lt (hearlier p hp hfits)
  · rcases List.mem_cons.mp hp with rfl | hp
    · exact Nat.le_refl _
    · exact hlater p hp hfits

/-- A pair in front that is shorter or does not fit changes nothing. -/
lemma cons (h : FirstLongest pairs path pair) {p : List Char × List Char}
    (hp : Fits p path → (properSegments p.1).length < (properSegments pair.1).length) :
    FirstLongest (p :: pairs) path pair := by
  obtain ⟨earlier, later, hpairs, hearlier, hlater⟩ := h.order
  refine ⟨h.fits, p :: earlier, later, by rw [hpairs, List.cons_append], ?_, hlater⟩
  exact List.forall_mem_cons.mpr ⟨hp, hearlier⟩

/-- A pair that fits is the first of the longest if no pair behind it is longer. -/
lemma head (hfits : Fits pair path) (hle : ∀ p ∈ pairs, Fits p path →
    (properSegments p.1).length ≤ (properSegments pair.1).length) :
    FirstLongest (pair :: pairs) path pair :=
  ⟨hfits, [], pairs, rfl, nofun, hle⟩

/-- One of two first longest pairs cannot stand in front of the other. -/
lemma eq_of_append {earlier middle later later' : List (List Char × List Char)}
    (h : FirstLongest pairs path pair) (hfits' : Fits pair' path)
    (hlater : ∀ p ∈ later, Fits p path →
      (properSegments p.1).length ≤ (properSegments pair.1).length)
    (hearlier' : ∀ p ∈ earlier ++ middle, Fits p path →
      (properSegments p.1).length < (properSegments pair'.1).length)
    (hpairs : pair :: later = middle ++ pair' :: later') : pair = pair' := by
  cases middle with
  | nil => exact (List.cons.inj hpairs).1
  | cons p middle =>
    obtain ⟨rfl, rfl⟩ := List.cons.inj hpairs
    have hshorter := hearlier' pair (by simp) h.fits
    have hlonger := hlater pair' (by simp) hfits'
    omega

/-- Only one pair is the first of the longest that fit. -/
lemma unique (h : FirstLongest pairs path pair) (h' : FirstLongest pairs path pair') :
    pair = pair' := by
  obtain ⟨earlier, later, hpairs, hearlier, hlater⟩ := h.order
  obtain ⟨earlier', later', hpairs', hearlier', hlater'⟩ := h'.order
  have hsame := hpairs.symm.trans hpairs'
  rcases List.append_eq_append_iff.mp hsame with ⟨middle, rfl, hmiddle⟩ | ⟨middle, rfl, hmiddle⟩
  · exact h.eq_of_append h'.fits hlater hearlier' hmiddle
  · exact (h'.eq_of_append h.fits hlater' hearlier hmiddle).symm

end FirstLongest

/-! ## The rule that a table applies -/

namespace Table

section Place

variable {rules : List Rule} {p : Rule → Bool} {q r : Rule}

/-- A rule that is not looked for is not found. -/
lemma find?_place_of_not (hr : p r = false) : (place r rules).find? p = rules.find? p := by
  induction rules with
  | nil => simp [place, hr]
  | cons q rules ih =>
    rw [place]
    split
    · rw [List.find?_cons_of_neg (by simp [hr])]
    · rw [List.find?_cons, List.find?_cons, ih]

/-- A longer rule that is found without the new one is found before it. -/
lemma find?_place_of_lt (hsorted : rules.Pairwise Precedes) (hq : rules.find? p = some q)
    (hlt : r.source.length < q.source.length) : (place r rules).find? p = some q := by
  induction rules with
  | nil => cases hq
  | cons first rules ih =>
    obtain ⟨hfirst, hrest⟩ := List.pairwise_cons.mp hsorted
    have hle : q.source.length ≤ first.source.length := by
      rcases List.mem_cons.mp (List.mem_of_find?_eq_some hq) with rfl | hmem
      · exact Nat.le_refl _
      · exact hfirst q hmem
    rw [place, if_neg (by omega)]
    rw [List.find?_cons] at hq ⊢
    cases hp : p first with
    | true => rwa [hp] at hq
    | false =>
      rw [hp] at hq
      exact ih hrest hq

/-- The new rule is found before all others that are not longer. -/
lemma find?_place_self (hr : p r = true)
    (hle : ∀ q, rules.find? p = some q → q.source.length ≤ r.source.length) :
    (place r rules).find? p = some r := by
  induction rules with
  | nil => simp [place, hr]
  | cons first rules ih =>
    rw [place]
    split
    · exact List.find?_cons_of_pos hr
    · next hlonger =>
      cases hp : p first with
      | true => exact absurd (hle first (List.find?_cons_of_pos hp)) hlonger
      | false =>
        have hneg : ¬p first = true := by simp [hp]
        rw [List.find?_cons_of_neg hneg]
        refine ih fun q hq => hle q ?_
        rw [List.find?_cons_of_neg hneg, hq]

end Place

/-- The rules of a table with one pair more in front. -/
lemma rules_cons (pair : List Char × List Char) (pairs : List (List Char × List Char)) :
    (ofPairs (pair :: pairs)).rules =
      (Rule.ofPair? pair).elim (ofPairs pairs).rules fun r => place r (ofPairs pairs).rules := by
  unfold ofPairs
  rw [List.filterMap_cons]
  cases Rule.ofPair? pair with
  | none => rfl
  | some r => rfl

/-- A rule matches where its pair fits. -/
lemma matches_iff_fits {pair : List Char × List Char} {r : Rule} (h : Rule.ofPair? pair = some r)
    {path : List Segment} : r.Matches path = true ↔ Fits pair path := by
  have hsource := source_of_ofPair? h
  rw [Rule.Matches, List.isPrefixOf_iff_prefix, hsource]
  constructor
  · intro hbegins
    exact ⟨hsource ▸ r.source_ne_nil, hbegins⟩
  · intro hfits
    exact hfits.source_prefix

section Cons

variable {pair : List Char × List Char} {pairs : List (List Char × List Char)}
  {path : List Segment} {q r : Rule}

/-- A pair in front that does not fit has no part in the choice of the rule. -/
lemma ruleAt?_cons_of_not_fits (h : ¬Fits pair path) :
    (ofPairs (pair :: pairs)).ruleAt? path = (ofPairs pairs).ruleAt? path := by
  rw [ruleAt?, ruleAt?, rules_cons]
  cases hr : Rule.ofPair? pair with
  | none => rfl
  | some r =>
    have hmatches : r.Matches path = false := by
      rw [Bool.eq_false_iff]
      exact mt (matches_iff_fits hr).mp h
    exact find?_place_of_not hmatches

/-- A pair in front that is shorter than the rule applied without it has no part in the choice. -/
lemma ruleAt?_cons_of_lt (hr : Rule.ofPair? pair = some r)
    (hq : (ofPairs pairs).ruleAt? path = some q) (hlt : r.source.length < q.source.length) :
    (ofPairs (pair :: pairs)).ruleAt? path = some q := by
  rw [ruleAt?, rules_cons, hr, Option.elim_some]
  exact find?_place_of_lt (pairwise_rules pairs) hq hlt

/-- The rule of a pair in front that fits is applied, unless a longer one is applied without it. -/
lemma ruleAt?_cons_of_fits (hr : Rule.ofPair? pair = some r) (h : Fits pair path)
    (hle : ∀ q, (ofPairs pairs).ruleAt? path = some q → q.source.length ≤ r.source.length) :
    (ofPairs (pair :: pairs)).ruleAt? path = some r := by
  have hmatches : r.Matches path = true := (matches_iff_fits hr).mpr h
  rw [ruleAt?, rules_cons, hr, Option.elim_some]
  exact find?_place_self hmatches hle

end Cons

/-- A table applies no rule where no pair fits, and otherwise the rule of the first longest pair
that fits. -/
lemma ruleAt?_firstLongest (pairs : List (List Char × List Char)) (path : List Segment) :
    ((ofPairs pairs).ruleAt? path = none ∧ ∀ pair ∈ pairs, ¬Fits pair path) ∨
      ∃ pair r, FirstLongest pairs path pair ∧ Rule.ofPair? pair = some r ∧
        (ofPairs pairs).ruleAt? path = some r := by
  induction pairs with
  | nil => exact .inl ⟨rfl, nofun⟩
  | cons p pairs ih =>
    by_cases hp : Fits p path
    · obtain ⟨r, hr⟩ := Option.ne_none_iff_exists'.mp (mt ofPair?_eq_none_iff.mp hp.source_ne_nil)
      right
      rcases ih with ⟨hnone, hothers⟩ | ⟨pair, q, hfirst, hq, hrule⟩
      · have hfirst : FirstLongest (p :: pairs) path p :=
          .head hp fun q hq hfits => absurd hfits (hothers q hq)
        refine ⟨p, r, hfirst, hr, ruleAt?_cons_of_fits hr hp fun q hq => ?_⟩
        exact absurd (hnone.symm.trans hq) (by simp)
      · by_cases hlonger : r.source.length < q.source.length
        · have hrule' := ruleAt?_cons_of_lt hr hrule hlonger
          rw [source_of_ofPair? hr, source_of_ofPair? hq] at hlonger
          exact ⟨pair, q, hfirst.cons fun _ => hlonger, hq, hrule'⟩
        · have hle : q.source.length ≤ r.source.length := Nat.not_lt.mp hlonger
          have hpairs : (properSegments pair.1).length ≤ (properSegments p.1).length := by
            rwa [source_of_ofPair? hr, source_of_ofPair? hq] at hle
          have hfirst' : FirstLongest (p :: pairs) path p :=
            .head hp fun p' hp' hfits => (hfirst.length_le hp' hfits).trans hpairs
          refine ⟨p, r, hfirst', hr, ruleAt?_cons_of_fits hr hp fun q' hq' => ?_⟩
          obtain rfl : q = q' := Option.some.inj (hrule.symm.trans hq')
          exact hle
    · have hsame : (ofPairs (p :: pairs)).ruleAt? path = (ofPairs pairs).ruleAt? path :=
        ruleAt?_cons_of_not_fits hp
      rcases ih with ⟨hnone, hothers⟩ | ⟨pair, r, hfirst, hr, hrule⟩
      · left
        exact ⟨hsame.trans hnone, List.forall_mem_cons.mpr ⟨hp, hothers⟩⟩
      · right
        exact ⟨pair, r, hfirst.cons fun hfits => absurd hfits hp, hr, hsame.trans hrule⟩

end Table

/-! ## The scan -/

/-- What a scan does at one place of a path. -/
inductive Move where
  /-- A segment is copied. -/
  | copied (s : Segment)
  /-- The source of a pair is replaced by its target. -/
  | replaced (pair : List Char × List Char)

namespace Move

/-- The segments that are read. -/
def read : Move → List Segment
  | copied s => [s]
  | replaced pair => properSegments pair.1

/-- The segments that are written. -/
def written : Move → List Segment
  | copied s => [s]
  | replaced pair => properSegments pair.2

end Move

/-- The scan of a path from the left makes these moves. -/
inductive Scan (pairs : List (List Char × List Char)) : List Segment → List Move → Prop
  /-- At the end of the path the scan is over. -/
  | done : Scan pairs [] []
  /-- Where no pair fits, the segment is copied, and the scan goes on behind it. -/
  | copied {s : Segment} {rest : List Segment} {moves : List Move}
    (hnone : ∀ pair ∈ pairs, ¬Fits pair (s :: rest)) (h : Scan pairs rest moves) :
    Scan pairs (s :: rest) (.copied s :: moves)
  /-- Where pairs fit, the first of the longest is applied, and the scan goes on behind its
  source. -/
  | replaced {pair : List Char × List Char} {path : List Segment} {moves : List Move}
    (hfirst : FirstLongest pairs path pair)
    (h : Scan pairs (path.drop (properSegments pair.1).length) moves) :
    Scan pairs path (.replaced pair :: moves)

/-- At the end of a path no pair fits. -/
lemma not_fits_nil (pair : List Char × List Char) : ¬Fits pair [] := by
  intro h
  exact h.source_ne_nil (List.prefix_nil.mp h.source_prefix)

/-- A pair that fits takes at least one segment of the path. -/
lemma Fits.length_drop_lt {pair : List Char × List Char} {path : List Segment}
    (h : Fits pair path) : (path.drop (properSegments pair.1).length).length < path.length := by
  have hsource : 0 < (properSegments pair.1).length := List.length_pos_of_ne_nil h.source_ne_nil
  have hpath : (properSegments pair.1).length ≤ path.length := h.source_prefix.length_le
  rw [List.length_drop]
  omega

/-- Every path has a scan. -/
lemma exists_scan (pairs : List (List Char × List Char)) (path : List Segment) :
    ∃ moves, Scan pairs path moves := by
  -- The induction is on the length, since a pair may take several segments at once.
  induction hlength : path.length using Nat.strong_induction_on generalizing path with
  | _ n ih =>
    subst hlength
    rcases Table.ruleAt?_firstLongest pairs path with ⟨-, hnone⟩ | ⟨pair, -, hfirst, -⟩
    · cases path with
      | nil => exact ⟨[], .done⟩
      | cons s rest =>
        obtain ⟨moves, hmoves⟩ := ih rest.length (by simp) rest rfl
        exact ⟨.copied s :: moves, .copied hnone hmoves⟩
    · obtain ⟨moves, hmoves⟩ := ih _ hfirst.fits.length_drop_lt _ rfl
      exact ⟨.replaced pair :: moves, .replaced hfirst hmoves⟩

namespace Scan

variable {pairs : List (List Char × List Char)} {path : List Segment} {moves moves' : List Move}

/-- A path has no two scans. -/
lemma unique (h : Scan pairs path moves) (h' : Scan pairs path moves') : moves = moves' := by
  induction h generalizing moves' with
  | done =>
    cases h' with
    | done => rfl
    | replaced hfirst _ => exact absurd hfirst.fits (not_fits_nil _)
  | copied hnone _ ih =>
    cases h' with
    | copied _ h' => rw [ih h']
    | replaced hfirst _ => exact absurd hfirst.fits (hnone _ hfirst.mem)
  | replaced hfirst _ ih =>
    cases h' with
    | done => exact absurd hfirst.fits (not_fits_nil _)
    | copied hnone _ => exact absurd hfirst.fits (hnone _ hfirst.mem)
    | replaced hfirst' h' =>
      obtain rfl := hfirst.unique hfirst'
      rw [ih h']

/-- The scan reads the path segment by segment, from the left to the end. -/
lemma flatMap_read (h : Scan pairs path moves) : moves.flatMap Move.read = path := by
  induction h with
  | done => rfl
  | copied _ _ ih => rw [List.flatMap_cons, ih]; rfl
  | replaced hfirst _ ih =>
    rw [List.flatMap_cons, ih]
    exact (List.prefix_iff_eq_append.mp hfirst.fits.source_prefix)

/-- The scan makes at most as many moves as the path has segments. -/
lemma length_le (h : Scan pairs path moves) : moves.length ≤ path.length := by
  induction h with
  | done => exact Nat.le_refl 0
  | copied _ _ ih => simpa using ih
  | replaced hfirst _ ih =>
    have hshorter := hfirst.fits.length_drop_lt
    rw [List.length_cons]
    omega

/-- A table writes what the scan of its pairs writes. -/
lemma rewritten_eq (h : Scan pairs path moves) :
    (Table.ofPairs pairs).rewritten path = moves.flatMap Move.written := by
  induction h with
  | done => rfl
  | @copied s rest moves hnone _ ih =>
    rcases Table.ruleAt?_firstLongest pairs (s :: rest) with ⟨hrule, -⟩ | ⟨pair, -, hfirst, -⟩
    · rw [Table.rewritten_of_none hrule, ih]
      rfl
    · exact absurd hfirst.fits (hnone pair hfirst.mem)
  | @replaced pair path moves hfirst _ ih =>
    rcases Table.ruleAt?_firstLongest pairs path with ⟨-, hnone⟩ | ⟨pair', r, hfirst', hr, hrule⟩
    · exact absurd hfirst.fits (hnone pair hfirst.mem)
    · obtain rfl := hfirst.unique hfirst'
      obtain ⟨hsource, htarget⟩ := Table.runs_of_ofPair? hr
      cases path with
      | nil => exact absurd hfirst.fits (not_fits_nil pair)
      | cons s rest =>
        rw [← hsource, Rule.source, List.length_cons, List.drop_succ_cons] at ih
        rw [Table.rewritten_of_rule hrule, ih, List.flatMap_cons, Move.written, htarget]

end Scan

/-! ## Replacements in a URI -/

/-- The URI is cut into its path and its tail: the tail begins with the first `?` or `#`. -/
structure CutAtTail (uri path rest : List Char) : Prop where
  /-- Path and tail make up the URI. -/
  parts : uri = path ++ rest
  /-- There is neither a `?` nor a `#` in the path. -/
  path : ∀ c ∈ path, c ≠ '?' ∧ c ≠ '#'
  /-- A tail begins with one of them. -/
  rest : ∀ c ∈ rest.head?, c = '?' ∨ c = '#'

/-- A URI is cut between what stands before its tail and the tail. -/
lemma cutAtTail (uri : List Char) : CutAtTail uri (beforeTail uri) (tail uri) where
  parts := (beforeTail_append_tail uri).symm
  path := by
    intro c hc
    have hplain := List.mem_takeWhile_imp hc
    simpa [opensTail] using hplain
  rest := by
    intro c hc
    have hopens := List.head?_dropWhile_not (fun c => !opensTail c) uri
    have htail : (uri.dropWhile fun c => !opensTail c).head? = some c := hc
    rw [htail] at hopens
    have hopens' : opensTail c = true := by simpa using hopens
    simpa [opensTail] using hopens'

/-- The path of every URI has exactly one scan, which reads the path to its end in at most as many
moves as there are segments, whatever the pairs of the table. The table has no answer to the URI
exactly if no source stands anywhere in the path; otherwise the answer is what the scan writes, with
the tail of the URI as it is. -/
theorem replace?_scan (pairs : List (List Char × List Char)) (uri : List Char) :
    ∃ path rest moves, CutAtTail uri path rest ∧
      Scan pairs (segments path) moves ∧
      (∀ moves', Scan pairs (segments path) moves' → moves' = moves) ∧
      moves.flatMap Move.read = segments path ∧ moves.length ≤ (segments path).length ∧
      ((Table.ofPairs pairs).replace? uri = none ↔ ∀ pair ∈ pairs, properSegments pair.1 ≠ [] →
        ¬properSegments pair.1 <:+: segments path) ∧
      ∀ out, (Table.ofPairs pairs).replace? uri = some out →
        out = joined (moves.flatMap Move.written) ++ rest := by
  obtain ⟨moves, hmoves⟩ := exists_scan pairs (segments (beforeTail uri))
  refine ⟨beforeTail uri, tail uri, moves, cutAtTail uri, hmoves, fun moves' h' => h'.unique hmoves,
    hmoves.flatMap_read, hmoves.length_le, ?_, ?_⟩
  · rw [Table.replace?_ofPairs_eq_none_iff]
    simp only [Table.mem_active_iff, and_imp]
  · intro out hout
    rw [Table.eq_of_replace? hout, hmoves.rewritten_eq]

/-- The longer source is applied although it comes later, the first of two equal ones, and what was
written is not read again. -/
example :
    (Table.ofPairs [("a".toList, "b".toList), ("//".toList, "x".toList),
        ("/b/c".toList, "a".toList), ("b/c/".toList, "y".toList)]).replace? "/a//b/c/b?a".toList =
      some "/b//a/b?a".toList := by
  decide

end PluginGateway.Path
