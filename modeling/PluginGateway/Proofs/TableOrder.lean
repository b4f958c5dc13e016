import Mathlib.Data.List.Nodup
import PluginGateway.Path.Conversion

/-!
# The order of the pairs of a table

A table keeps its rules with the longer sources first. Of the rules that match at the head of a path
the longest one is applied, and if no two rules have one source there is only one longest. So a
table does not depend on the order of its pairs, as long as no two of them have the same source.

A pair without a source has no part in this, as it gives no rule. `replace?_eq_of_perm` says that
tables of the same pairs in another order replace the same runs in every path, and the main
statement, `convert_eq_of_perm`, that they convert every path and every body in the same way.
-/

namespace PluginGateway.Path.Table

/-! ## The rules of a table -/

/-- The rule is put among the others. -/
lemma place_perm (r : Rule) (rules : List Rule) : (place r rules).Perm (r :: rules) := by
  induction rules with
  | nil => exact .refl _
  | cons q rules ih =>
    rw [place]
    split
    · exact .refl _
    · exact (ih.cons q).trans (.swap r q rules)

/-- The rules of a table are those of its pairs, in some order. -/
lemma rules_perm (pairs : List (List Char × List Char)) :
    (ofPairs pairs).rules.Perm (pairs.filterMap Rule.ofPair?) := by
  show ((pairs.filterMap Rule.ofPair?).foldr place []).Perm _
  induction pairs.filterMap Rule.ofPair? with
  | nil => exact .refl _
  | cons r rules ih => exact (place_perm r _).trans (ih.cons r)

/-- The first rule's source is no shorter than the second one's. -/
def Precedes (q r : Rule) : Prop := r.source.length ≤ q.source.length

/-- A rule put among rules of which the longer ones come first leaves them so. -/
lemma pairwise_place {rules : List Rule} (h : rules.Pairwise Precedes) (r : Rule) :
    (place r rules).Pairwise Precedes := by
  induction rules with
  | nil => simp [place]
  | cons q rules ih =>
    obtain ⟨hfirst, hrest⟩ := List.pairwise_cons.mp h
    rw [place]
    split
    · next hle =>
      refine List.pairwise_cons.mpr ⟨fun p hp => ?_, h⟩
      rcases List.mem_cons.mp hp with rfl | hp
      · exact hle
      · exact Nat.le_trans (hfirst p hp) hle
    · next hlt =>
      refine List.pairwise_cons.mpr ⟨fun p hp => ?_, ih hrest⟩
      rcases List.mem_cons.mp ((place_perm r rules).mem_iff.mp hp) with rfl | hp
      · exact Nat.le_of_lt (Nat.not_le.mp hlt)
      · exact hfirst p hp

/-- The longer rules of a table come first. -/
lemma pairwise_rules (pairs : List (List Char × List Char)) :
    (ofPairs pairs).rules.Pairwise Precedes := by
  show ((pairs.filterMap Rule.ofPair?).foldr place []).Pairwise _
  induction pairs.filterMap Rule.ofPair? with
  | nil => exact .nil
  | cons r rules ih => exact pairwise_place ih r

/-! ## The rule that is applied -/

/-- The source and the target of a rule are the runs of its pair. -/
lemma runs_of_ofPair? {pair : List Char × List Char} {r : Rule} (h : Rule.ofPair? pair = some r) :
    r.source = properSegments pair.1 ∧ r.target = properSegments pair.2 := by
  unfold Rule.ofPair? at h
  split at h
  · cases h
  · next first more hsegments =>
    obtain rfl := Option.some.inj h
    exact ⟨hsegments.symm, rfl⟩

/-- The source of a rule is the run of its pair. -/
lemma source_of_ofPair? {pair : List Char × List Char} {r : Rule}
    (h : Rule.ofPair? pair = some r) : r.source = properSegments pair.1 :=
  (runs_of_ofPair? h).1

/-- A pair gives no rule exactly if its first text has no segment. -/
lemma ofPair?_eq_none_iff {pair : List Char × List Char} :
    Rule.ofPair? pair = none ↔ properSegments pair.1 = [] := by
  unfold Rule.ofPair?
  split
  · next hsegments => simp [hsegments]
  · next first more hsegments => simp [hsegments]

/-- The pairs that give a rule: those whose first text has a segment. -/
def active (pairs : List (List Char × List Char)) : List (List Char × List Char) :=
  pairs.filter fun pair => !(properSegments pair.1).isEmpty

/-- A pair gives a rule exactly if it has a source. -/
lemma mem_active_iff {pairs : List (List Char × List Char)} {pair : List Char × List Char} :
    pair ∈ active pairs ↔ pair ∈ pairs ∧ properSegments pair.1 ≠ [] := by
  simp [active]

/-- The other pairs have no part in the table. -/
lemma ofPairs_active (pairs : List (List Char × List Char)) :
    ofPairs (active pairs) = ofPairs pairs := by
  have hrules : (active pairs).filterMap Rule.ofPair? = pairs.filterMap Rule.ofPair? := by
    induction pairs with
    | nil => rfl
    | cons pair pairs ih =>
      by_cases hsource : properSegments pair.1 = []
      · have hnone : Rule.ofPair? pair = none := ofPair?_eq_none_iff.mpr hsource
        have hactive : active (pair :: pairs) = active pairs := by simp [active, hsource]
        rw [hactive, ih, List.filterMap_cons_none hnone]
      · have hactive : active (pair :: pairs) = pair :: active pairs := by
          simp [active, hsource]
        rw [hactive, List.filterMap_cons, List.filterMap_cons, ih]
  rw [ofPairs, hrules, ofPairs]

/-- The rules of a table have the runs of the pairs that give them. -/
lemma forall_rules_iff {pairs : List (List Char × List Char)}
    {P : List Segment → List Segment → Prop} :
    (∀ r ∈ (ofPairs pairs).rules, P r.source r.target) ↔
      ∀ pair ∈ active pairs, P (properSegments pair.1) (properSegments pair.2) := by
  constructor
  · intro h pair hpair
    obtain ⟨hmem, hsource⟩ := mem_active_iff.mp hpair
    obtain ⟨r, hr⟩ := Option.ne_none_iff_exists'.mp (mt ofPair?_eq_none_iff.mp hsource)
    have hrule : r ∈ (ofPairs pairs).rules :=
      (rules_perm pairs).mem_iff.mpr (List.mem_filterMap.mpr ⟨pair, hmem, hr⟩)
    obtain ⟨hsources, htargets⟩ := runs_of_ofPair? hr
    rw [← hsources, ← htargets]
    exact h r hrule
  · intro h r hrule
    obtain ⟨pair, hmem, hr⟩ := List.mem_filterMap.mp ((rules_perm pairs).mem_iff.mp hrule)
    obtain ⟨hsources, htargets⟩ := runs_of_ofPair? hr
    have hsource : properSegments pair.1 ≠ [] := hsources ▸ r.source_ne_nil
    rw [hsources, htargets]
    exact h pair (mem_active_iff.mpr ⟨hmem, hsource⟩)

/-- The source runs of the pairs are apart. -/
def Apart (pairs : List (List Char × List Char)) : Prop :=
  (pairs.map fun p => properSegments p.1).Nodup

/-- Rules of pairs that are apart are the same if their sources are. -/
lemma eq_of_source_eq {pairs : List (List Char × List Char)} (h : Apart pairs) {q r : Rule}
    (hq : q ∈ (ofPairs pairs).rules) (hr : r ∈ (ofPairs pairs).rules)
    (hsource : q.source = r.source) : q = r := by
  obtain ⟨pq, hpq, hofq⟩ := List.mem_filterMap.mp ((rules_perm pairs).mem_iff.mp hq)
  obtain ⟨pr, hpr, hofr⟩ := List.mem_filterMap.mp ((rules_perm pairs).mem_iff.mp hr)
  have hpair : pq = pr := List.inj_on_of_nodup_map h hpq hpr (by
    rw [← source_of_ofPair? hofq, ← source_of_ofPair? hofr, hsource])
  subst hpair
  exact Option.some.inj (hofq.symm.trans hofr)

/-- The rule is the longest of those that match at the head of the path. -/
structure Longest (rules : List Rule) (path : List Segment) (r : Rule) : Prop where
  /-- It is one of the rules. -/
  mem : r ∈ rules
  /-- It matches. -/
  isMatch : r.Matches path = true
  /-- No rule that matches is longer. -/
  longest : ∀ q ∈ rules, q.Matches path = true → Precedes r q

/-- The first rule that matches is the longest one, as the longer rules come first. -/
lemma longest_of_ruleAt? {pairs : List (List Char × List Char)} {path : List Segment} {r : Rule}
    (h : (ofPairs pairs).ruleAt? path = some r) : Longest (ofPairs pairs).rules path r := by
  obtain ⟨hmatch, before, behind, hrules, hbefore⟩ := List.find?_eq_some_iff_append.mp h
  have hsorted := pairwise_rules pairs
  rw [hrules] at hsorted ⊢
  refine ⟨by simp, hmatch, fun q hq hqmatch => ?_⟩
  rcases List.mem_append.mp hq with hq | hq
  · have hnone := hbefore q hq
    simp [hqmatch] at hnone
  · rcases List.mem_cons.mp hq with rfl | hq
    · exact Nat.le_refl _
    · exact (List.pairwise_cons.mp (List.pairwise_append.mp hsorted).2.1).1 q hq

/-- Of rules that are apart only one is the longest that matches. -/
lemma eq_of_longest {pairs : List (List Char × List Char)} (h : Apart pairs) {path : List Segment}
    {q r : Rule} (hq : Longest (ofPairs pairs).rules path q)
    (hr : Longest (ofPairs pairs).rules path r) : q = r := by
  have hlength : q.source.length = r.source.length :=
    Nat.le_antisymm (hr.longest q hq.mem hq.isMatch) (hq.longest r hr.mem hr.isMatch)
  have hbegins : q.source <+: r.source := List.prefix_of_prefix_length_le
    (List.isPrefixOf_iff_prefix.mp hq.isMatch) (List.isPrefixOf_iff_prefix.mp hr.isMatch)
    (Nat.le_of_eq hlength)
  exact eq_of_source_eq h hq.mem hr.mem (hbegins.eq_of_length hlength)

/-- The rule that is applied at the head of a path is the longest one that matches there. -/
lemma ruleAt?_eq_some_iff {pairs : List (List Char × List Char)} (h : Apart pairs)
    {path : List Segment} {r : Rule} :
    (ofPairs pairs).ruleAt? path = some r ↔ Longest (ofPairs pairs).rules path r := by
  refine ⟨longest_of_ruleAt?, fun hr => ?_⟩
  have hsome : ((ofPairs pairs).ruleAt? path).isSome = true := by
    rw [ruleAt?, List.find?_isSome]
    exact ⟨r, hr.mem, hr.isMatch⟩
  obtain ⟨q, hq⟩ := Option.isSome_iff_exists.mp hsome
  rw [← eq_of_longest h (longest_of_ruleAt? hq) hr]
  exact hq

/-! ## Another order -/

section Order

variable {pairs pairs' : List (List Char × List Char)}

/-- Rules of the same pairs are the same. -/
lemma mem_rules_of_perm (hperm : pairs.Perm pairs') (r : Rule) :
    r ∈ (ofPairs pairs).rules ↔ r ∈ (ofPairs pairs').rules := by
  rw [(rules_perm pairs).mem_iff, (rules_perm pairs').mem_iff,
    (hperm.filterMap Rule.ofPair?).mem_iff]

/-- The same rule is applied at the head of each path. -/
lemma ruleAt?_eq_of_perm (hperm : pairs.Perm pairs') (h : Apart pairs) (path : List Segment) :
    (ofPairs pairs).ruleAt? path = (ofPairs pairs').ruleAt? path := by
  have h' : Apart pairs' := ((hperm.map _).nodup_iff).mp h
  ext r
  rw [ruleAt?_eq_some_iff h, ruleAt?_eq_some_iff h']
  have hmem := mem_rules_of_perm hperm
  exact ⟨fun hr => ⟨(hmem r).mp hr.mem, hr.isMatch, fun q hq => hr.longest q ((hmem q).mpr hq)⟩,
    fun hr => ⟨(hmem r).mpr hr.mem, hr.isMatch, fun q hq => hr.longest q ((hmem q).mp hq)⟩⟩

/-- Tables that apply the same rules replace the same segments. -/
lemma replaceFrom?_congr {t t' : Table} (h : ∀ path, t.ruleAt? path = t'.ruleAt? path)
    (skip : Nat) (path : List Segment) : t.replaceFrom? skip path = t'.replaceFrom? skip path := by
  induction path generalizing skip with
  | nil => cases skip <;> rfl
  | cons s path ih =>
    cases skip with
    | zero => simp only [replaceFrom?, h, ih]
    | succ skip => simp only [replaceFrom?, ih]

/-- Tables of the same pairs replace the same runs in every path, if the pairs are apart. -/
theorem replace?_eq_of_perm (hperm : pairs.Perm pairs') (h : Apart pairs) :
    (ofPairs pairs).replace? = (ofPairs pairs').replace? := by
  funext uri
  simp only [replace?, replaceSegments?, replaceFrom?_congr (ruleAt?_eq_of_perm hperm h)]

/-- Tables of the same pairs are both empty or both not. -/
lemma isEmpty_eq_of_perm (hperm : pairs.Perm pairs') :
    (ofPairs pairs).isEmpty = (ofPairs pairs').isEmpty := by
  have hrules := (rules_perm pairs).trans ((hperm.filterMap _).trans (rules_perm pairs').symm)
  simp only [isEmpty, hrules.isEmpty_eq]

/-- The order of the pairs of a table does not matter, as long as no two of them have the same
source: whatever order they are given in, every path is replaced in the same way, or by both tables
not at all, and every body is converted in the same way. Pairs without a source may be among them,
in any number. -/
theorem convert_eq_of_perm (hperm : pairs.Perm pairs') (h : Apart (active pairs)) :
    (∀ uri, (ofPairs pairs).replace? uri = (ofPairs pairs').replace? uri) ∧
      (∀ uri, (ofPairs pairs).apply uri = (ofPairs pairs').apply uri) ∧
      ∀ (south south' : Table) (body : ByteArray),
        (Conversion.mk (ofPairs pairs) south).northBody body =
          (Conversion.mk (ofPairs pairs') south').northBody body := by
  have hactive : (active pairs).Perm (active pairs') := hperm.filter _
  have hreplace : (ofPairs pairs).replace? = (ofPairs pairs').replace? := by
    have hsame := replace?_eq_of_perm hactive h
    rwa [ofPairs_active, ofPairs_active] at hsame
  have hempty : (ofPairs pairs).isEmpty = (ofPairs pairs').isEmpty := isEmpty_eq_of_perm hperm
  refine ⟨fun uri => by rw [hreplace], fun uri => by rw [apply, apply, hreplace], ?_⟩
  intro south south' body
  simp only [Conversion.northBody, Conversion.northText?, hreplace, hempty]

end Order

/-- Pairs whose sources overlap or begin alike, and two without a source. -/
def overlapping : List (List Char × List Char) :=
  [("a/b".toList, "x".toList), ([], "y".toList), ("b/c/".toList, "x/y".toList),
    ("a".toList, "z".toList), ("//".toList, "w".toList)]

/-- The pairs with overlapping sources and the same pairs backwards give tables that differ and
convert alike. -/
theorem convert_eq_of_perm_of_overlapping :
    overlapping.Perm overlapping.reverse ∧ Apart (active overlapping) ∧
      ofPairs overlapping ≠ ofPairs overlapping.reverse ∧
      (∀ uri, (ofPairs overlapping).replace? uri = (ofPairs overlapping.reverse).replace? uri) ∧
      (∀ uri, (ofPairs overlapping).apply uri = (ofPairs overlapping.reverse).apply uri) ∧
      ∀ (south south' : Table) (body : ByteArray),
        (Conversion.mk (ofPairs overlapping) south).northBody body =
          (Conversion.mk (ofPairs overlapping.reverse) south').northBody body := by
  have hperm : overlapping.Perm overlapping.reverse := (List.reverse_perm overlapping).symm
  have hapart : Apart (active overlapping) := by
    unfold Apart
    decide
  exact ⟨hperm, hapart, by decide, convert_eq_of_perm hperm hapart⟩

end PluginGateway.Path.Table
