import PluginGateway.Proofs.PathRuns

/-!
# Qualified segments

What qualifying does to the segments of a path, and that stripping takes it back: a segment stays or
gets the qualifier in front, there are as many segments as before, and stripped they are what they
would have been without (`map_stripSegment_qualifySegments`).
-/

namespace PluginGateway.Path

/-- The qualifier in front of a segment is taken away. -/
@[simp] lemma stripSegment_append (q s : List Char) : stripSegment q (q ++ s) = s := by
  simp [stripSegment]

/-- A segment that does not begin with the qualifier is left alone. -/
lemma stripSegment_of_not_prefix {q : List Char} {s : Segment} (h : ¬q <+: s) :
    stripSegment q s = s := by
  simp [stripSegment, h]

/-- A segment stays, or gets the qualifier that it does not begin with yet. -/
lemma qualifySegment_eq (q : List Char) (a b c s : Segment) :
    qualifySegment q a b c s = s ∨ (qualifySegment q a b c s = q ++ s ∧ ¬q <+: s) := by
  unfold qualifySegment
  split
  · next h =>
    simp only [Bool.and_eq_true, Bool.not_eq_true', ← Bool.not_eq_true,
      List.isPrefixOf_iff_prefix] at h
    exact .inr ⟨rfl, h.2⟩
  · exact .inl rfl

/-- A qualified segment is stripped like the segment itself. -/
lemma stripSegment_qualifySegment (q : List Char) (a b c s : Segment) :
    stripSegment q (qualifySegment q a b c s) = stripSegment q s := by
  rcases qualifySegment_eq q a b c s with h | ⟨h, hq⟩
  · rw [h]
  · rw [h, stripSegment_append, stripSegment_of_not_prefix hq]

/-- Stripping the segments behind three others takes back their qualification. -/
lemma map_stripSegment_qualifyAfter (q : List Char) (a b c : Segment) (path : List Segment) :
    (qualifyAfter q a b c path).map (stripSegment q) = path.map (stripSegment q) := by
  induction path generalizing a b c with
  | nil => rfl
  | cons s rest ih =>
    rw [qualifyAfter, List.map_cons, List.map_cons, stripSegment_qualifySegment, ih]

/-- Stripping the segments of a path takes back their qualification. -/
theorem map_stripSegment_qualifySegments (q : List Char) (path : List Segment) :
    (qualifySegments q path).map (stripSegment q) = path.map (stripSegment q) := by
  match path with
  | [] => rfl
  | [_] => rfl
  | [_, _] => rfl
  | a :: b :: c :: rest =>
    simp only [qualifySegments, List.map_cons, map_stripSegment_qualifyAfter]

/-- The segments behind three others are as before or qualified. -/
lemma mem_qualifyAfter {q : List Char} {a b c s : Segment} {path : List Segment}
    (h : s ∈ qualifyAfter q a b c path) : s ∈ path ∨ ∃ s' ∈ path, s = q ++ s' := by
  induction path generalizing a b c with
  | nil => cases h
  | cons t rest ih =>
    rw [qualifyAfter, List.mem_cons] at h
    rcases h with rfl | h
    · rcases qualifySegment_eq q a b c t with ht | ⟨ht, -⟩
      · exact .inl (List.mem_cons.mpr (.inl ht))
      · exact .inr ⟨t, List.mem_cons_self, ht⟩
    · rcases ih h with h | ⟨s', hs', hs⟩
      · exact .inl (List.mem_cons_of_mem _ h)
      · exact .inr ⟨s', List.mem_cons_of_mem _ hs', hs⟩

/-- The segments of a qualified path are those of the path, as before or qualified. -/
lemma mem_qualifySegments {q : List Char} {s : Segment} {path : List Segment}
    (h : s ∈ qualifySegments q path) : s ∈ path ∨ ∃ s' ∈ path, s = q ++ s' := by
  match path, h with
  | a :: b :: c :: rest, h =>
    simp only [qualifySegments, List.mem_cons] at h
    rcases h with h | h | h | h
    · exact .inl (by simp [h])
    · exact .inl (by simp [h])
    · exact .inl (by simp [h])
    · rcases mem_qualifyAfter h with h | ⟨s', hs', hs⟩
      · exact .inl (by simp [h])
      · exact .inr ⟨s', by simp [hs'], hs⟩
  | [], h => exact .inl h
  | [_], h => exact .inl h
  | [_, _], h => exact .inl h

/-- A qualified path has segments, if the path has. -/
lemma qualifySegments_ne_nil {q : List Char} {path : List Segment} (h : path ≠ []) :
    qualifySegments q path ≠ [] := by
  match path with
  | [] => exact h
  | [_] => exact h
  | [_, _] => exact h
  | _ :: _ :: _ :: _ => simp [qualifySegments]

/-- A qualifier has no marks, if the identifier has none. -/
lemma isRun_qualifier {uuid : List Char} (h : IsRun uuid) : IsRun (qualifier uuid) := by
  intro c hc
  rcases List.mem_append.mp hc with hc | hc
  · exact h c hc
  · rw [List.mem_singleton.mp hc]
    decide

/-- Segments without marks and slashes are so when they are qualified, if the identifier is. -/
lemma isRun_of_mem_qualifySegments {uuid : List Char} (huuid : IsRun uuid) (hslashless : '/' ∉ uuid)
    {path : List Segment} (hpath : ∀ s ∈ path, IsRun s ∧ '/' ∉ s) {s : Segment}
    (hs : s ∈ qualifySegments (qualifier uuid) path) : IsRun s ∧ '/' ∉ s := by
  rcases mem_qualifySegments hs with hs | ⟨s', hs', rfl⟩
  · exact hpath s hs
  · obtain ⟨hrun, hslash⟩ := hpath s' hs'
    refine ⟨List.forall_mem_append.mpr ⟨isRun_qualifier huuid, hrun⟩, ?_⟩
    simp [qualifier, hslashless, hslash]

/-- The qualified form of a text without marks is that of its segments. -/
lemma qualifyPath?_getD {uuid r : List Char} (hr : IsRun r) :
    (qualifyPath? uuid r).getD r = joined (qualifySegments (qualifier uuid) (segments r)) := by
  simp only [qualifyPath?, beforeTail_of_isRun hr, tail_of_isRun hr]
  split
  · next h => rw [h, joined_segments, Option.getD_none]
  · rw [Option.getD_some, List.append_nil]

/-- The stripped form of a text without marks is that of its segments. -/
lemma strip_of_isRun {uuid r : List Char} (hr : IsRun r) :
    strip uuid r = joined ((segments r).map (stripSegment (qualifier uuid))) := by
  rw [strip, beforeTail_of_isRun hr, tail_of_isRun hr, List.append_nil]

end PluginGateway.Path
