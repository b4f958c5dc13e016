import PluginGateway.Proofs.Qualifiers
import PluginGateway.Proofs.SegmentScan

/-!
# Stripping what was qualified

Qualifying goes through a path from the left and looks only at members that it recognises, while
stripping looks at every segment once; both leave the tail of a URI alone. A changed path is put
together from segments without slashes and without the marks that open a tail, so it is cut again
where it was put together (`cutAtTail_joined`), and stripping it is stripping its segments
(`strip_joined`).

The main statement, `strip_qualified`, says that stripping takes qualifying back, whatever the path
and its tail, and that URIs without a qualifier are told apart by their qualified forms.
-/

namespace PluginGateway.Path

/-- The URI with its members qualified, as it is if there is nothing to qualify. -/
def qualified (uuid uri : List Char) : List Char := (qualifyPath? uuid uri).getD uri

/-- No segment of the path begins with the qualifier of the device. -/
def IsUnqualified (uuid uri : List Char) : Prop :=
  ∀ s ∈ segments (beforeTail uri), ¬qualifier uuid <+: s

instance (uuid uri : List Char) : Decidable (IsUnqualified uuid uri) :=
  List.decidableBAll (fun s => ¬qualifier uuid <+: s) (segments (beforeTail uri))

/-! ## Paths in front of a tail -/

/-- The path of a URI is what stands before its tail. -/
lemma CutAtTail.beforeTail_eq {uri path rest : List Char} (h : CutAtTail uri path rest) :
    beforeTail uri = path := by
  have hpath : ∀ c ∈ path, (!opensTail c) = true := by
    intro c hc
    simpa [opensTail] using h.path c hc
  have hrest : rest.takeWhile (fun c => !opensTail c) = [] := by
    cases hopens : rest with
    | nil => rfl
    | cons c more =>
      have hc : opensTail c = true := by simpa [opensTail] using h.rest c (by simp [hopens])
      simp [hc]
  rw [beforeTail, h.parts, List.takeWhile_append_of_pos hpath, hrest, List.append_nil]

/-- The tail of a URI is what is left behind its path. -/
lemma CutAtTail.tail_eq {uri path rest : List Char} (h : CutAtTail uri path rest) :
    tail uri = rest := by
  have hparts : path ++ tail uri = path ++ rest := by
    rw [← h.parts, ← h.beforeTail_eq, beforeTail_append_tail]
  exact List.append_cancel_left hparts

/-- A segment that may stand in the path of a URI: it has no slash and does not open a tail. -/
def IsPathSegment (s : Segment) : Prop := '/' ∉ s ∧ ∀ c ∈ s, c ≠ '?' ∧ c ≠ '#'

/-- The segments of the path of a URI may stand there. -/
lemma isPathSegment_of_mem {uri : List Char} {s : Segment} (hs : s ∈ segments (beforeTail uri)) :
    IsPathSegment s :=
  ⟨slash_not_mem_of_mem_segments hs, fun c hc => (cutAtTail uri).path c (mem_of_mem_segments hs hc)⟩

/-- A path put together from such segments is cut from a tail where it was put in front of it. -/
lemma cutAtTail_joined {path : List Segment} (h : ∀ s ∈ path, IsPathSegment s) (uri : List Char) :
    CutAtTail (joined path ++ tail uri) (joined path) (tail uri) where
  parts := rfl
  path := by
    intro c hc
    rcases mem_joined hc with rfl | ⟨s, hs, hcs⟩
    · decide
    · exact (h s hs).2 c hcs
  rest := (cutAtTail uri).rest

/-- A path put together from such segments is stripped segment by segment. -/
lemma strip_joined {path : List Segment} (hne : path ≠ []) (h : ∀ s ∈ path, IsPathSegment s)
    (uuid uri : List Char) :
    strip uuid (joined path ++ tail uri) =
      joined (path.map (stripSegment (qualifier uuid))) ++ tail uri := by
  have hcut := cutAtTail_joined h uri
  rw [strip, hcut.beforeTail_eq, hcut.tail_eq, segments_joined hne fun s hs => (h s hs).1]

/-- A stripped segment is the end of the segment. -/
lemma isPathSegment_stripSegment {q : List Char} {s : Segment} (h : IsPathSegment s) :
    IsPathSegment (stripSegment q s) := by
  unfold stripSegment
  split
  · exact ⟨fun hslash => h.1 (List.mem_of_mem_drop hslash),
      fun c hc => h.2 c (List.mem_of_mem_drop hc)⟩
  · exact h

/-- Stripping leaves the tail of a URI as it is. -/
lemma tail_strip (uuid uri : List Char) : tail (strip uuid uri) = tail uri := by
  have hpath : ∀ s ∈ (segments (beforeTail uri)).map (stripSegment (qualifier uuid)),
      IsPathSegment s := by
    intro s hs
    obtain ⟨s', hs', rfl⟩ := List.mem_map.mp hs
    exact isPathSegment_stripSegment (isPathSegment_of_mem hs')
  exact (cutAtTail_joined hpath uri).tail_eq

/-- A URI without a qualifier is left as it is by stripping. -/
lemma strip_of_isUnqualified {uuid uri : List Char} (h : IsUnqualified uuid uri) :
    strip uuid uri = uri := by
  have hsame : (segments (beforeTail uri)).map (stripSegment (qualifier uuid)) =
      (segments (beforeTail uri)).map id :=
    List.map_congr_left fun s hs => stripSegment_of_not_prefix (h s hs)
  rw [strip, hsame, List.map_id, joined_segments, beforeTail_append_tail]

/-! ## Qualified paths -/

/-- The qualified form of a URI has its members qualified, and the tail of the URI. -/
lemma qualified_eq (uuid uri : List Char) :
    qualified uuid uri =
      joined (qualifySegments (qualifier uuid) (segments (beforeTail uri))) ++ tail uri := by
  unfold qualified qualifyPath?
  dsimp only
  split
  · next h => rw [h, joined_segments, beforeTail_append_tail, Option.getD_none]
  · rw [Option.getD_some]

section Qualified

variable {uuid : List Char} (hslash : '/' ∉ uuid) (hquery : '?' ∉ uuid) (hfragment : '#' ∉ uuid)

include hslash hquery hfragment

/-- The segments of a qualified path may stand in a path, if the characters of the identifier
may. -/
lemma isPathSegment_of_mem_qualifySegments {uri : List Char} {s : Segment}
    (hs : s ∈ qualifySegments (qualifier uuid) (segments (beforeTail uri))) : IsPathSegment s := by
  rcases mem_qualifySegments hs with hs | ⟨s', hs', rfl⟩
  · exact isPathSegment_of_mem hs
  · obtain ⟨hslash', hmarks⟩ := isPathSegment_of_mem hs'
    refine ⟨by simp [qualifier, hslash, hslash'], fun c hc => ?_⟩
    simp only [qualifier, List.append_assoc, List.mem_append, List.mem_singleton] at hc
    rcases hc with hc | rfl | hc
    · exact ⟨fun h => hquery (h ▸ hc), fun h => hfragment (h ▸ hc)⟩
    · decide
    · exact hmarks c hc

/-- Stripping takes qualifying back, and neither changes the tail. -/
lemma strip_qualified_eq (uri : List Char) :
    strip uuid (qualified uuid uri) = strip uuid uri ∧ tail (qualified uuid uri) = tail uri := by
  have hsegments : ∀ s ∈ qualifySegments (qualifier uuid) (segments (beforeTail uri)),
      IsPathSegment s := fun s hs =>
    isPathSegment_of_mem_qualifySegments hslash hquery hfragment hs
  rw [qualified_eq]
  refine ⟨?_, (cutAtTail_joined hsegments uri).tail_eq⟩
  rw [strip_joined (qualifySegments_ne_nil (segments_ne_nil _)) hsegments,
    map_stripSegment_qualifySegments, strip]

/-- Stripping after qualifying is stripping alone, for every URI, qualified already or not, and the
query and the fragment stay as they are. A URI without a qualifier in its path is what is left, so
two different such URIs have different qualified forms. -/
theorem strip_qualified :
    (∀ uri, strip uuid (qualified uuid uri) = strip uuid uri ∧
      tail (qualified uuid uri) = tail uri ∧ tail (strip uuid uri) = tail uri) ∧
    (∀ uri, IsUnqualified uuid uri → strip uuid (qualified uuid uri) = uri) ∧
    ∀ uri uri', IsUnqualified uuid uri → IsUnqualified uuid uri' → uri ≠ uri' →
      qualified uuid uri ≠ qualified uuid uri' := by
  have hback : ∀ uri, IsUnqualified uuid uri → strip uuid (qualified uuid uri) = uri := by
    intro uri huri
    rw [(strip_qualified_eq hslash hquery hfragment uri).1, strip_of_isUnqualified huri]
  refine ⟨fun uri => ?_, hback, fun uri uri' huri huri' hne hsame => hne ?_⟩
  · obtain ⟨hstrip, htail⟩ := strip_qualified_eq hslash hquery hfragment uri
    exact ⟨hstrip, htail, tail_strip uuid uri⟩
  · calc uri = strip uuid (qualified uuid uri) := (hback uri huri).symm
      _ = strip uuid (qualified uuid uri') := by rw [hsame]
      _ = uri' := hback uri' huri'

end Qualified

/-- A path with members that are qualified, unqualified, and nested in one another loses every
qualifier, and a URI without a qualifier comes back, with its query in both cases. -/
theorem strip_qualified_of_mixed :
    ('/' ∉ "6d4a".toList ∧ '?' ∉ "6d4a".toList ∧ '#' ∉ "6d4a".toList) ∧
      qualified "6d4a".toList
          "/redfish/v1/Systems/redfish/v1/chassis/6d4a:6d4a:2/6d4a:x?a=/6d4a:y".toList =
        "/redfish/v1/Systems/6d4a:redfish/v1/chassis/6d4a:6d4a:2/6d4a:x?a=/6d4a:y".toList ∧
      strip "6d4a".toList (qualified "6d4a".toList
          "/redfish/v1/Systems/redfish/v1/chassis/6d4a:6d4a:2/6d4a:x?a=/6d4a:y".toList) =
        strip "6d4a".toList
          "/redfish/v1/Systems/redfish/v1/chassis/6d4a:6d4a:2/6d4a:x?a=/6d4a:y".toList ∧
      IsUnqualified "6d4a".toList "/redfish/v1/Systems/1?a=/6d4a:y".toList ∧
      strip "6d4a".toList (qualified "6d4a".toList "/redfish/v1/Systems/1?a=/6d4a:y".toList) =
        "/redfish/v1/Systems/1?a=/6d4a:y".toList ∧
      IsUnqualified "6d4a".toList "/redfish/v1/Systems/2?a=/6d4a:y".toList ∧
      qualified "6d4a".toList "/redfish/v1/Systems/1?a=/6d4a:y".toList ≠
        qualified "6d4a".toList "/redfish/v1/Systems/2?a=/6d4a:y".toList := by
  obtain ⟨hstrip, hback, happart⟩ := @strip_qualified "6d4a".toList (by decide) (by decide)
    (by decide)
  have hfirst : IsUnqualified "6d4a".toList "/redfish/v1/Systems/1?a=/6d4a:y".toList := by decide
  have hsecond : IsUnqualified "6d4a".toList "/redfish/v1/Systems/2?a=/6d4a:y".toList := by decide
  exact ⟨by decide, by decide, (hstrip _).1, hfirst, hback _ hfirst, hsecond,
    happart _ _ hfirst hsecond (by decide)⟩

end PluginGateway.Path
