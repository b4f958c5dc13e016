import PluginGateway.Proofs.ReplacedRuns
import PluginGateway.Proofs.SegmentScan

/-!
# Bodies that are already converted

A table may bring in what it replaces itself: a target may hold a source, a source may come to stand
across the ends of a target, and where a target is empty its neighbours come together. None of this
happens if every target has a segment and none of its segments is in any source (`Lasting`): a
source that stands in a path after the replacements stood there before (`Scan.prefix_of_written`),
and then it would have been replaced.

The main statement, `northBody_northBody`, says that a body is converted once and for all by such a
table, and that no path in a converted body holds a source.
-/

namespace PluginGateway.Path

open Table

/-- What the pairs write is not replaced in its turn: of the pairs that have a source, each has a
target, which has no marks and shares no segment with any source. -/
structure Lasting (pairs : List (List Char × List Char)) : Prop where
  /-- Every target has a segment. -/
  target_ne_nil : ∀ pair ∈ active pairs, properSegments pair.2 ≠ []
  /-- No target has marks. -/
  isRun : ∀ pair ∈ active pairs, IsRun pair.2
  /-- No segment of a target is in a source. -/
  apart : ∀ pair ∈ active pairs, ∀ pair' ∈ active pairs,
    ∀ s ∈ properSegments pair.2, s ∉ properSegments pair'.1

instance (pairs : List (List Char × List Char)) : Decidable (Lasting pairs) :=
  decidable_of_iff ((∀ pair ∈ active pairs, properSegments pair.2 ≠ []) ∧
      (∀ pair ∈ active pairs, IsRun pair.2) ∧ ∀ pair ∈ active pairs, ∀ pair' ∈ active pairs,
        ∀ s ∈ properSegments pair.2, s ∉ properSegments pair'.1)
    ⟨fun h => ⟨h.1, h.2.1, h.2.2⟩, fun h => ⟨h.target_ne_nil, h.isRun, h.apart⟩⟩

/-! ## Sources in a path after the replacements -/

/-- A run of segments none of which is in the front part of a path stands behind it. -/
lemma infix_of_infix_append {run front rest : List Segment} (hne : run ≠ [])
    (hapart : ∀ s ∈ front, s ∉ run) (h : run <:+: front ++ rest) : run <:+: rest := by
  induction front with
  | nil => exact h
  | cons s front ih =>
    obtain ⟨hs, hfront⟩ := List.forall_mem_cons.mp hapart
    rw [List.cons_append] at h
    rcases List.infix_cons_iff.mp h with hbegins | hlater
    · obtain ⟨first, more, rfl⟩ := List.exists_cons_of_ne_nil hne
      have hfirst : first = s := (List.cons_prefix_cons.mp hbegins).1
      exact absurd (hfirst ▸ List.mem_cons_self) hs
    · exact ih hfront hlater

namespace Scan

variable {pairs : List (List Char × List Char)} {path : List Segment} {moves : List Move}

/-- A scan writes the path itself, or at least one segment that is not empty. -/
lemma written_eq_or_exists (hpairs : Lasting pairs) (h : Scan pairs path moves) :
    moves.flatMap Move.written = path ∨ ∃ s ∈ moves.flatMap Move.written, s ≠ [] := by
  induction h with
  | done => exact .inl rfl
  | @copied s rest moves _ _ ih =>
    rcases ih with hsame | ⟨s', hs', hne⟩
    · exact .inl (by rw [List.flatMap_cons, hsame]; rfl)
    · exact .inr ⟨s', by rw [List.flatMap_cons]; exact List.mem_append_right _ hs', hne⟩
  | @replaced pair path moves hfirst _ _ =>
    have hactive : pair ∈ active pairs := hfirst.mem_active
    obtain ⟨s, hs⟩ := List.exists_mem_of_ne_nil _ (hpairs.target_ne_nil pair hactive)
    have hne : s ≠ [] := by
      have hproper := (List.mem_filter.mp hs).2
      simpa using hproper
    exact .inr ⟨s, by rw [List.flatMap_cons]; exact List.mem_append_left _ hs, hne⟩

/-- A source that stands at the head of a path after the replacements stood there before. -/
lemma prefix_of_written (hpairs : Lasting pairs) (h : Scan pairs path moves) {run : List Segment}
    (hapart : ∀ pair ∈ active pairs, ∀ s ∈ properSegments pair.2, s ∉ run)
    (hrun : run <+: moves.flatMap Move.written) : run <+: path := by
  induction h generalizing run with
  | done => exact hrun
  | copied _ _ ih =>
    cases run with
    | nil => exact List.nil_prefix
    | cons first more =>
      obtain ⟨hfirst, hmore⟩ := List.cons_prefix_cons.mp hrun
      have hapart' : ∀ pair ∈ active pairs, ∀ s ∈ properSegments pair.2, s ∉ more :=
        fun pair hpair s hs hmem => hapart pair hpair s hs (List.mem_cons_of_mem _ hmem)
      exact List.cons_prefix_cons.mpr ⟨hfirst, ih hapart' hmore⟩
  | @replaced pair _ _ hfirst _ _ =>
    cases run with
    | nil => exact List.nil_prefix
    | cons first more =>
      -- the run would begin with a segment of a target
      have hactive : pair ∈ active pairs := hfirst.mem_active
      obtain ⟨s, target, htarget⟩ :=
        List.exists_cons_of_ne_nil (hpairs.target_ne_nil pair hactive)
      rw [List.flatMap_cons, Move.written, htarget, List.cons_append] at hrun
      obtain rfl : first = s := (List.cons_prefix_cons.mp hrun).1
      exact absurd List.mem_cons_self (hapart pair hactive first (by simp [htarget]))

/-- No source stands anywhere in a path after the replacements. -/
lemma not_infix_written (hpairs : Lasting pairs) (h : Scan pairs path moves)
    {pair : List Char × List Char} (hpair : pair ∈ active pairs) :
    ¬properSegments pair.1 <:+: moves.flatMap Move.written := by
  have hne : properSegments pair.1 ≠ [] := (mem_active_iff.mp hpair).2
  have hapart : ∀ pair' ∈ active pairs, ∀ s ∈ properSegments pair'.2, s ∉ properSegments pair.1 :=
    fun pair' hpair' => hpairs.apart pair' hpair' pair hpair
  induction h with
  | done =>
    intro hstands
    exact hne (List.infix_nil.mp hstands)
  | copied hnone hrest ih =>
    intro hstands
    rcases List.infix_cons_iff.mp hstands with hbegins | hlater
    · have hstood := (Scan.copied hnone hrest).prefix_of_written hpairs hapart hbegins
      exact hnone pair (mem_active_iff.mp hpair).1 ⟨hne, hstood⟩
    · exact ih hlater
  | @replaced pair' _ _ hfirst _ ih =>
    intro hstands
    have hactive : pair' ∈ active pairs := hfirst.mem_active
    rw [List.flatMap_cons] at hstands
    exact ih (infix_of_infix_append hne (hapart pair' hactive) hstands)

end Scan

/-! ## Path runs in a converted body -/

section Lasting

variable {pairs : List (List Char × List Char)} (hpairs : Lasting pairs)

include hpairs

/-- The segments that a scan of a path run writes have no marks and no slashes. -/
lemma Lasting.isRun_of_mem_written {r : List Char} (hr : IsRun r) {moves : List Move}
    (hmoves : Scan pairs (segments r) moves) {s : Segment} (hs : s ∈ moves.flatMap Move.written) :
    IsRun s ∧ '/' ∉ s := by
  have htargets : ∀ rule ∈ (ofPairs pairs).rules, ∀ s ∈ rule.target, IsRun s ∧ '/' ∉ s := by
    refine forall_rules_iff (P := fun _ target => ∀ s ∈ target, IsRun s ∧ '/' ∉ s) |>.mpr ?_
    intro pair hpair s hs
    have hs' : s ∈ segments pair.2 := List.mem_of_mem_filter hs
    exact ⟨isRun_of_mem_segments (hpairs.isRun pair hpair) hs', slash_not_mem_of_mem_segments hs'⟩
  rw [← hmoves.rewritten_eq] at hs
  rcases mem_rewritten hs with hs | ⟨rule, hrule, hs⟩
  · exact ⟨isRun_of_mem_segments hr hs, slash_not_mem_of_mem_segments hs⟩
  · exact htargets rule hrule s hs

/-- The answer of a table to a path run is a run, whose segments are those that the scan writes. -/
lemma Lasting.segments_of_replace? {r r' : List Char} (hr : IsRun r)
    (h : (ofPairs pairs).replace? r = some r') :
    IsRun r' ∧ ∃ moves, Scan pairs (segments r) moves ∧
      segments r' = moves.flatMap Move.written := by
  obtain ⟨moves, hmoves⟩ := exists_scan pairs (segments r)
  obtain rfl : r' = joined (moves.flatMap Move.written) := by
    rw [eq_of_replace? h, beforeTail_of_isRun hr, tail_of_isRun hr, List.append_nil,
      hmoves.rewritten_eq]
  have hsegment : ∀ s ∈ moves.flatMap Move.written, IsRun s ∧ '/' ∉ s :=
    fun s hs => hpairs.isRun_of_mem_written hr hmoves hs
  have hpath : moves.flatMap Move.written ≠ [] := by
    rcases hmoves.written_eq_or_exists hpairs with hsame | ⟨s, hs, -⟩
    · rw [hsame]
      exact segments_ne_nil r
    · exact List.ne_nil_of_mem hs
  have hsegments : segments (joined (moves.flatMap Move.written)) = moves.flatMap Move.written :=
    segments_joined hpath fun s hs => (hsegment s hs).2
  exact ⟨isRun_joined fun s hs => (hsegment s hs).1, moves, hmoves, hsegments⟩

/-- The answer of a table to a path run is not empty. -/
lemma Lasting.ne_nil_of_replace? {r r' : List Char} (hr : IsRun r) (hslash : '/' ∈ r)
    (h : (ofPairs pairs).replace? r = some r') : r' ≠ [] := by
  obtain ⟨-, moves, hmoves, hsegments⟩ := hpairs.segments_of_replace? hr h
  rintro rfl
  rcases hmoves.written_eq_or_exists hpairs with hsame | ⟨s, hs, hne⟩
  · have hempty : r = [] := by
      rw [← joined_segments r, ← hsame, ← hsegments, joined_segments]
    rw [hempty] at hslash
    cases hslash
  · rw [← hsegments] at hs
    exact hne (List.mem_singleton.mp hs)

/-- A table whose targets last declines its own answers. -/
theorem Lasting.settles : Settles (ofPairs pairs).replace? where
  isRun hr _ h := (hpairs.segments_of_replace? hr h).1
  ne_nil hr hslash h := hpairs.ne_nil_of_replace? hr hslash h
  declined := by
    intro r r' hr _ h _
    obtain ⟨hrun, moves, hmoves, hsegments⟩ := hpairs.segments_of_replace? hr h
    rw [replace?_ofPairs_eq_none_iff, beforeTail_of_isRun hrun, hsegments]
    exact fun pair hpair => hmoves.not_infix_written hpairs hpair

end Lasting

/-- A body is converted once and for all by a table whose targets last: whatever the bytes of a
body, a second conversion gives the same bytes as the first one, and no path run of a converted text
holds a source. -/
theorem northBody_northBody {t : Conversion} {pairs : List (List Char × List Char)}
    (ht : t.north = ofPairs pairs) (hpairs : Lasting pairs) :
    (∀ body, t.northBody (t.northBody body) = t.northBody body) ∧
      ∀ body text, String.fromUTF8? body = some text →
        ∃ out, String.fromUTF8? (t.northBody body) = some out ∧
          ∀ before run after, RunAt out.toList before run after →
            ∀ pair ∈ pairs, properSegments pair.1 ≠ [] →
              ¬properSegments pair.1 <:+: segments run := by
  have hsettles : Settles t.north.replace? := ht ▸ hpairs.settles
  constructor
  · intro body
    cases hbody : String.fromUTF8? body with
    | none =>
      have hkept : t.northBody body = body := northBody_of_fromUTF8?_eq_none hbody
      rw [hkept, hkept]
    | some text =>
      have honce := fromUTF8?_northBody t hbody
      have htwice := fromUTF8?_northBody t honce
      rw [String.toList_ofList, hsettles.replaceRuns_replaceRuns] at htwice
      rw [Text.toUTF8_of_fromUTF8? htwice, Text.toUTF8_of_fromUTF8? honce]
  · intro body text hbody
    refine ⟨_, fromUTF8?_northBody t hbody, ?_⟩
    intro before run after hrun pair hpair hsource
    rw [String.toList_ofList] at hrun
    have hnone : t.north.replace? run = none := hsettles.eq_none_of_runAt hrun
    rw [ht, replace?_ofPairs_eq_none_iff, beforeTail_of_isRun hrun.isRun] at hnone
    exact hnone pair (mem_active_iff.mpr ⟨hpair, hsource⟩)

/-- Pairs whose sources and targets have one segment or two; the last pair has no source. -/
def mergingPairs : List (List Char × List Char) :=
  [("ODIM/v1".toList, "redfish/v2".toList), ("a/b".toList, "/c/".toList),
    ("/".toList, "ODIM".toList)]

/-- The merging pairs convert bodies once and for all, and so does the standard table. -/
theorem northBody_northBody_of_mergingPairs :
    (Conversion.ofPairs mergingPairs []).north = ofPairs mergingPairs ∧ Lasting mergingPairs ∧
      Conversion.standard.north = ofPairs [("ODIM".toList, "redfish".toList)] ∧
      Lasting [("ODIM".toList, "redfish".toList)] ∧
      (∀ body, (Conversion.ofPairs mergingPairs []).northBody
        ((Conversion.ofPairs mergingPairs []).northBody body) =
          (Conversion.ofPairs mergingPairs []).northBody body) ∧
      ∃ out, String.fromUTF8? ((Conversion.ofPairs mergingPairs []).northBody
          "a/b, /ODIM/ODIM/v1/a/b".toUTF8) = some out ∧
        out = "c, /ODIM/redfish/v2/c" ∧
        ∀ before run after, RunAt out.toList before run after →
          ¬["a".toList, "b".toList] <:+: segments run := by
  have hlasting : Lasting mergingPairs := by decide
  have hbody : String.fromUTF8? "a/b, /ODIM/ODIM/v1/a/b".toUTF8 = some "a/b, /ODIM/ODIM/v1/a/b" :=
    Text.fromUTF8?_toUTF8 _
  have htext : replaceRuns (ofPairs mergingPairs).replace? "a/b, /ODIM/ODIM/v1/a/b".toList =
      "c, /ODIM/redfish/v2/c".toList := by
    decide
  obtain ⟨hagain, hpaths⟩ := northBody_northBody
    (rfl : (Conversion.ofPairs mergingPairs []).north = ofPairs mergingPairs) hlasting
  obtain ⟨out, hout, hruns⟩ := hpaths _ _ hbody
  refine ⟨rfl, hlasting, rfl, by decide, hagain, out, hout, ?_, fun before run after hrun => ?_⟩
  · have hconverted := fromUTF8?_northBody (Conversion.ofPairs mergingPairs []) hbody
    rw [hout, Conversion.ofPairs, htext, String.ofList_toList] at hconverted
    exact Option.some.inj hconverted
  · exact hruns before run after hrun ("a/b".toList, "/c/".toList) (by decide) (by decide)

end PluginGateway.Path
