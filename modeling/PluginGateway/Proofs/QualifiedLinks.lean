import PluginGateway.Proofs.HarmlessRuns
import PluginGateway.Proofs.ReplacedRuns

/-!
# Texts in which every member is qualified

Qualifying goes through a path from the left, and what it looks at are the segments as they are
written by then: a qualified segment no longer opens a member. So it has to be seen that all members
are qualified in the end and none is qualified twice.

A path in which nothing is left to qualify has no unqualified member
(`prefix_of_qualifyAfter_eq_self`), and a qualified path is such a path
(`qualifySegments_qualifySegments`). What qualifying does to the segments of a path is said by
`QualifiesMembers`, without the order in which it goes through them. The main statement,
`qualifyLinks_complete`, puts this together for all paths in a text.
-/

namespace PluginGateway.Path

/-! ## Nothing left to qualify -/

/-- A segment is qualified once. -/
lemma qualifySegment_qualifySegment (q : List Char) (a b c s : Segment) :
    qualifySegment q a b c (qualifySegment q a b c s) = qualifySegment q a b c s := by
  rcases qualifySegment_eq q a b c s with hsame | ⟨hqualified, -⟩
  · rw [hsame, hsame]
  · have hbegins : q.isPrefixOf (q ++ s) = true :=
      List.isPrefixOf_iff_prefix.mpr (List.prefix_append q s)
    rw [hqualified, qualifySegment, hbegins]
    simp

/-- The segments behind three others are qualified once. -/
lemma qualifyAfter_qualifyAfter (q : List Char) (a b c : Segment) (path : List Segment) :
    qualifyAfter q a b c (qualifyAfter q a b c path) = qualifyAfter q a b c path := by
  induction path generalizing a b c with
  | nil => rfl
  | cons s rest ih =>
    rw [qualifyAfter, qualifyAfter, qualifySegment_qualifySegment, ih]

/-- The segments of a path are qualified once. -/
lemma qualifySegments_qualifySegments (q : List Char) (path : List Segment) :
    qualifySegments q (qualifySegments q path) = qualifySegments q path := by
  match path with
  | [] => rfl
  | [_] => rfl
  | [_, _] => rfl
  | a :: b :: c :: rest =>
    simp only [qualifySegments, qualifyAfter_qualifyAfter]

/-- A member that is left as it is has the qualifier already. -/
lemma prefix_of_qualifySegment_eq_self {q : List Char} (hq : q ≠ []) {a b c s : Segment}
    (hopens : opensMember a b c = true) (hs : s ≠ []) (h : qualifySegment q a b c s = s) :
    q <+: s := by
  by_contra hprefix
  have hplain : q.isPrefixOf s = false := by
    rw [Bool.eq_false_iff]
    exact mt List.isPrefixOf_iff_prefix.mp hprefix
  have hqualified : qualifySegment q a b c s = q ++ s := by
    simp [qualifySegment, hopens, hs, hplain]
  have hsame : q ++ s = s := hqualified.symm.trans h
  exact hq (List.append_left_eq_self.mp hsame)

/-- Where nothing is left to qualify, every member has the qualifier. -/
lemma prefix_of_qualifyAfter_eq_self {q : List Char} (hq : q ≠ []) {a b c : Segment}
    {path : List Segment} (h : qualifyAfter q a b c path = path)
    {root version collection s : Segment}
    (hstands : [root, version, collection, s] <:+: a :: b :: c :: path)
    (hopens : opensMember root version collection = true) (hs : s ≠ []) : q <+: s := by
  induction path generalizing a b c with
  | nil =>
    have hlength := hstands.length_le
    simp at hlength
  | cons t rest ih =>
    rw [qualifyAfter] at h
    obtain ⟨hfirst, hrest⟩ := List.cons.inj h
    rw [hfirst] at hrest
    rcases List.infix_cons_iff.mp hstands with hhead | hlater
    · simp only [List.cons_prefix_cons, List.nil_prefix, and_true] at hhead
      obtain ⟨rfl, rfl, rfl, rfl⟩ := hhead
      exact prefix_of_qualifySegment_eq_self hq hopens hs hfirst
    · exact ih hrest hlater

/-- In a path in which nothing is left to qualify, every member has the qualifier. -/
lemma prefix_of_qualifySegments_eq_self {q : List Char} (hq : q ≠ []) {path : List Segment}
    (h : qualifySegments q path = path) {root version collection s : Segment}
    (hstands : [root, version, collection, s] <:+: path)
    (hopens : opensMember root version collection = true) (hs : s ≠ []) : q <+: s := by
  have hlength : 4 ≤ path.length := hstands.length_le
  match path, hlength with
  | a :: b :: c :: d :: rest, _ =>
    have hrest : qualifyAfter q a b c (d :: rest) = d :: rest := by
      simpa only [qualifySegments, List.cons.injEq, true_and] using h
    exact prefix_of_qualifyAfter_eq_self hq hrest hstands hopens hs

/-! ## What becomes of the segments of a path -/

/-- The segment is a member that gets the qualifier. What stands in front of it is given segment by
segment, each with what becomes of it. -/
structure MemberQualified (q : List Char) (front : List (Segment × Segment))
    (s s' : Segment) : Prop where
  /-- The root, its version, and a collection of devices stand directly in front, and stay. -/
  opened : ∃ collection, isDeviceCollection collection = true ∧
    [("redfish".toList, "redfish".toList), ("v1".toList, "v1".toList), (collection, collection)]
      <:+ front
  /-- The qualifier is put in front of the segment. -/
  eq_append : s' = q ++ s
  /-- The segment is not empty. -/
  ne_nil : s ≠ []
  /-- The segment does not have the qualifier yet. -/
  not_prefix : ¬q <+: s

/-- Of some segments, each given with what becomes of it, every one stays or is a member that gets
the qualifier. The segments in front of them are given in the same way. -/
def QualifiesMembers (q : List Char) :
    List (Segment × Segment) → List (Segment × Segment) → Prop
  | _, [] => True
  | front, (s, s') :: more =>
    (s' = s ∨ MemberQualified q front s s') ∧ QualifiesMembers q (front ++ [(s, s')]) more

/-- The segments of the one path become those of the other: each of them stays or is a member that
gets the qualifier. -/
def Becomes (q : List Char) (path path' : List Segment) : Prop :=
  ∃ changes, QualifiesMembers q [] changes ∧
    path = changes.map Prod.fst ∧ path' = changes.map Prod.snd

/-- Segments may stay, whatever stands in front of them. -/
lemma qualifiesMembers_self (q : List Char) (front : List (Segment × Segment))
    (path : List Segment) : QualifiesMembers q front (path.map fun s => (s, s)) := by
  induction path generalizing front with
  | nil => trivial
  | cons s rest ih => exact ⟨.inl rfl, ih _⟩

/-- A member is opened by the root, its version, and a collection, which holds no colon. -/
lemma opensMember_parts {root version collection : Segment}
    (h : opensMember root version collection = true) :
    root = "redfish".toList ∧ version = "v1".toList ∧ isDeviceCollection collection = true ∧
      ':' ∉ collection := by
  simp only [opensMember, Bool.and_eq_true, beq_iff_eq] at h
  obtain ⟨⟨hroot, hversion⟩, hcollection⟩ := h
  refine ⟨hroot, hversion, hcollection, fun hcolon => ?_⟩
  obtain ⟨name, hname, hsame⟩ := List.any_eq_true.mp hcollection
  have hlower : ':' ∈ Text.lowerAscii name := by
    have hsame' : Text.lowerAscii name = Text.lowerAscii collection := by
      simpa [Text.sameIgnoringCase] using hsame
    rw [hsame']
    exact List.mem_map.mpr ⟨':', hcolon, rfl⟩
  have hnames : ∀ name ∈ deviceCollections, ':' ∉ Text.lowerAscii name := by decide
  exact hnames name hname hlower

/-- A segment that does not stay is a member that gets the qualifier. -/
lemma qualifySegment_of_ne {q : List Char} {a b c s : Segment} (h : qualifySegment q a b c s ≠ s) :
    qualifySegment q a b c s = q ++ s ∧ opensMember a b c = true ∧ s ≠ [] ∧ ¬q <+: s := by
  unfold qualifySegment at h ⊢
  split at h
  · next hmember =>
    simp only [Bool.and_eq_true, Bool.not_eq_true', ← Bool.not_eq_true,
      List.isPrefixOf_iff_prefix] at hmember
    obtain ⟨⟨hopens, hne⟩, hprefix⟩ := hmember
    refine ⟨if_pos ?_, hopens, by simpa using hne, hprefix⟩
    simp only [Bool.and_eq_true, Bool.not_eq_true', ← Bool.not_eq_true,
      List.isPrefixOf_iff_prefix]
    exact ⟨⟨hopens, hne⟩, hprefix⟩
  · exact absurd rfl h

/-- What becomes of the segments behind three others, each of which stayed or holds a colon. -/
lemma exists_changes_qualifyAfter {q : List Char} (hq : ':' ∈ q)
    (front : List (Segment × Segment)) {a a' b b' c c' : Segment} (ha : a' = a ∨ ':' ∈ a')
    (hb : b' = b ∨ ':' ∈ b') (hc : c' = c ∨ ':' ∈ c') (path : List Segment) :
    ∃ changes, QualifiesMembers q (front ++ [(a, a'), (b, b'), (c, c')]) changes ∧
      path = changes.map Prod.fst ∧ qualifyAfter q a' b' c' path = changes.map Prod.snd := by
  induction path generalizing front a a' b b' c c' with
  | nil => exact ⟨[], trivial, rfl, rfl⟩
  | cons s rest ih =>
    have hs : qualifySegment q a' b' c' s = s ∨ ':' ∈ qualifySegment q a' b' c' s := by
      rcases qualifySegment_eq q a' b' c' s with hsame | ⟨hqualified, -⟩
      · exact .inl hsame
      · exact .inr (hqualified ▸ List.mem_append_left s hq)
    obtain ⟨changes, hchanges, hpath, hpath'⟩ := ih (front ++ [(a, a')]) hb hc hs
    refine ⟨(s, qualifySegment q a' b' c' s) :: changes, ⟨?_, ?_⟩, ?_, ?_⟩
    · by_cases hstays : qualifySegment q a' b' c' s = s
      · exact .inl hstays
      · right
        obtain ⟨hqualified, hopens, hne, hprefix⟩ := qualifySegment_of_ne hstays
        obtain ⟨rfl, rfl, hcollection, hcolon⟩ := opensMember_parts hopens
        -- a segment that opens a member holds no colon, so it is one that stayed
        obtain rfl : "redfish".toList = a := ha.resolve_right (by decide)
        obtain rfl : "v1".toList = b := hb.resolve_right (by decide)
        obtain rfl : c' = c := hc.resolve_right hcolon
        exact ⟨⟨c', hcollection, List.suffix_append front _⟩, hqualified, hne, hprefix⟩
    · rw [List.append_assoc] at hchanges ⊢
      exact hchanges
    · rw [List.map_cons, ← hpath]
    · rw [qualifyAfter, List.map_cons, ← hpath']

/-- A path in which something is qualified has at least two segments. -/
lemma exists_of_qualifySegments_ne {q : List Char} {path : List Segment}
    (h : qualifySegments q path ≠ path) : ∃ a b more, qualifySegments q path = a :: b :: more := by
  unfold qualifySegments at h ⊢
  split at h
  · next a b c rest => exact ⟨a, b, c :: qualifyAfter q a b c rest, rfl⟩
  · exact absurd rfl h

/-- The segments of a path become those of the qualified path. -/
lemma becomes_qualifySegments {q : List Char} (hq : ':' ∈ q) (path : List Segment) :
    Becomes q path (qualifySegments q path) := by
  have hsame : Becomes q path path :=
    ⟨path.map fun s => (s, s), qualifiesMembers_self q [] path, by simp [Function.comp_def],
      by simp [Function.comp_def]⟩
  match path, hsame with
  | [], hsame => exact hsame
  | [_], hsame => exact hsame
  | [_, _], hsame => exact hsame
  | a :: b :: c :: rest, _ =>
    obtain ⟨changes, hchanges, hrest, hrest'⟩ :=
      exists_changes_qualifyAfter hq [] (.inl (Eq.refl a)) (.inl (Eq.refl b))
        (.inl (Eq.refl c)) rest
    refine ⟨(a, a) :: (b, b) :: (c, c) :: changes, ?_, ?_, ?_⟩
    · exact ⟨.inl rfl, .inl rfl, .inl rfl, hchanges⟩
    · simp only [List.map_cons, ← hrest]
    · simp only [qualifySegments, hrest', List.map_cons]

/-! ## Path runs -/

section Runs

variable {uuid : List Char}

/-- A path without marks is left alone exactly if there is nothing to qualify in it. -/
lemma qualifyPath?_eq_none_iff {r : List Char} (hr : IsRun r) :
    qualifyPath? uuid r = none ↔
      qualifySegments (qualifier uuid) (segments r) = segments r := by
  simp [qualifyPath?, beforeTail_of_isRun hr]

/-- A path in which something was qualified holds a slash. -/
lemma slash_mem_of_qualifyPath? {r r' : List Char} (h : qualifyPath? uuid r = some r') :
    '/' ∈ r' := by
  simp only [qualifyPath?, Option.ite_none_left_eq_some, Option.some.injEq] at h
  obtain ⟨hchanged, rfl⟩ := h
  obtain ⟨a, b, more, hqualified⟩ := exists_of_qualifySegments_ne hchanged
  rw [hqualified]
  exact List.mem_append_left _ (slash_mem_joined a b more)

variable (huuid : IsRun uuid) (hslashless : '/' ∉ uuid)

include huuid hslashless

/-- The qualified form of a path without marks has no marks, and its segments are those of the path,
qualified. -/
lemma segments_of_qualifyPath? {r r' : List Char} (hr : IsRun r)
    (h : qualifyPath? uuid r = some r') :
    IsRun r' ∧ segments r' = qualifySegments (qualifier uuid) (segments r) := by
  obtain ⟨rfl, -⟩ := exists_of_qualifyPath? hr h
  have hpath : ∀ s ∈ segments r, IsRun s ∧ '/' ∉ s := fun s hs =>
    ⟨isRun_of_mem_segments hr hs, slash_not_mem_of_mem_segments hs⟩
  have hsegment : ∀ s ∈ qualifySegments (qualifier uuid) (segments r), IsRun s ∧ '/' ∉ s :=
    fun s hs => isRun_of_mem_qualifySegments huuid hslashless hpath hs
  exact ⟨isRun_joined fun s hs => (hsegment s hs).1,
    segments_joined (qualifySegments_ne_nil (segments_ne_nil r)) fun s hs => (hsegment s hs).2⟩

/-- Qualified paths are not qualified again. -/
theorem settles_qualifyPath? : Settles (qualifyPath? uuid) where
  isRun hr _ h := (segments_of_qualifyPath? huuid hslashless hr h).1
  ne_nil _ _ h := List.ne_nil_of_mem (slash_mem_of_qualifyPath? h)
  declined := by
    intro r r' hr _ h _
    obtain ⟨hrun, hsegments⟩ := segments_of_qualifyPath? huuid hslashless hr h
    rw [qualifyPath?_eq_none_iff hrun, hsegments, qualifySegments_qualifySegments]

/-- The segments of a path run become those of what stands in its place. -/
lemma becomes_getD {r : List Char} (hr : IsRun r) :
    Becomes (qualifier uuid) (segments r) (segments ((qualifyPath? uuid r).getD r)) := by
  have hcolon : ':' ∈ qualifier uuid := by simp [qualifier]
  have hbecomes := becomes_qualifySegments hcolon (segments r)
  cases h : qualifyPath? uuid r with
  | none =>
    rw [(qualifyPath?_eq_none_iff hr).mp h] at hbecomes
    exact hbecomes
  | some r' =>
    rw [← (segments_of_qualifyPath? huuid hslashless hr h).2] at hbecomes
    exact hbecomes

end Runs

/-! ## Texts -/

/-- The runs of a layout are path runs. -/
lemma Layout.isRun_of_mem {text last : List Char} {parts : List (List Char × List Char)}
    (h : Layout text parts last) {part : List Char × List Char} (hpart : part ∈ parts) :
    IsRun part.2 := by
  obtain ⟨earlier, later, hparts⟩ := List.append_of_mem hpart
  have hrun : RunAt text (laid earlier ++ part.1) part.2 (laid later ++ last) :=
    (h.runAt_iff _ _ _).mpr ⟨earlier, part.1, later, hparts, rfl, rfl⟩
  exact hrun.isRun

/-- A path run at its place, and what stands there after a replacement. -/
structure Place where
  /-- The text in front of the run, behind the run before it. -/
  gap : List Char
  /-- The run. -/
  run : List Char
  /-- What stands in its place. -/
  result : List Char

/-- In a text whose members are qualified, every member of a device has its qualifier. The text has
its path runs where they stood before, between the same gaps, and each segment of a run is as it was
before or has got the qualifier, which happens to members without one that stand directly behind the
root, its version and a collection. Qualifying the text again changes nothing. -/
theorem qualifyLinks_complete {uuid : List Char} (huuid : IsRun uuid) (hslashless : '/' ∉ uuid)
    (body : List Char) :
    (∀ before run after, RunAt (qualifyLinks uuid body) before run after →
      ∀ collection s, isDeviceCollection collection = true → s ≠ [] →
        ["redfish".toList, "v1".toList, collection, s] <:+: segments run →
          qualifier uuid <+: s) ∧
      (∃ (places : List Place) (last : List Char),
        Layout body (places.map fun p => (p.gap, p.run)) last ∧
        Layout (qualifyLinks uuid body) (places.map fun p => (p.gap, p.result)) last ∧
        ∀ p ∈ places, Becomes (qualifier uuid) (segments p.run) (segments p.result)) ∧
      qualifyLinks uuid (qualifyLinks uuid body) = qualifyLinks uuid body := by
  have hsettles := settles_qualifyPath? huuid hslashless
  refine ⟨?_, ?_, hsettles.replaceRuns_replaceRuns body⟩
  · intro before run after hrun collection s hcollection hs hstands
    have hnone : qualifyPath? uuid run = none := hsettles.eq_none_of_runAt hrun
    have hpath := (qualifyPath?_eq_none_iff hrun.isRun).mp hnone
    have hopens : opensMember "redfish".toList "v1".toList collection = true := by
      simp [opensMember, hcollection]
    have hqualifier : qualifier uuid ≠ [] := by simp [qualifier]
    exact prefix_of_qualifySegments_eq_self hqualifier hpath hstands hopens hs
  · have hbody := layout_pieces body
    have hlinks := layout_pieces (qualifyLinks uuid body)
    rw [qualifyLinks, hsettles.pieces_replaceRuns,
      layout_map_after slash_mem_of_qualifyPath? [] (pieces body)] at hlinks
    refine ⟨(layout [] (pieces body)).1.map fun part =>
      ⟨part.1, part.2, (qualifyPath? uuid part.2).getD part.2⟩, (layout [] (pieces body)).2, ?_, ?_,
      ?_⟩
    · rw [List.map_map]
      exact (List.map_id _).symm ▸ hbody
    · rw [List.map_map]
      exact hlinks
    · intro p hp
      obtain ⟨part, hpart, rfl⟩ := List.mem_map.mp hp
      exact becomes_getD huuid hslashless (hbody.isRun_of_mem hpart)

/-- A member called like the root does not open a member once it is qualified; the letter case of a
collection does not matter; and what has the qualifier is left alone. -/
theorem qualifyLinks_complete_of_nested :
    IsRun "6d4a".toList ∧ '/' ∉ "6d4a".toList ∧
      qualifyLinks "6d4a".toList
          "/redfish/v1/Systems/redfish/v1/SYSTEMS/1,/redfish/v1/chassis/6d4a:2".toList =
        "/redfish/v1/Systems/6d4a:redfish/v1/SYSTEMS/1,/redfish/v1/chassis/6d4a:2".toList ∧
      (∀ before run after, RunAt
        "/redfish/v1/Systems/6d4a:redfish/v1/SYSTEMS/1,/redfish/v1/chassis/6d4a:2".toList
          before run after →
        ∀ collection s, isDeviceCollection collection = true → s ≠ [] →
          ["redfish".toList, "v1".toList, collection, s] <:+: segments run →
            qualifier "6d4a".toList <+: s) ∧
      qualifyLinks "6d4a".toList
          "/redfish/v1/Systems/6d4a:redfish/v1/SYSTEMS/1,/redfish/v1/chassis/6d4a:2".toList =
        "/redfish/v1/Systems/6d4a:redfish/v1/SYSTEMS/1,/redfish/v1/chassis/6d4a:2".toList := by
  have huuid : IsRun "6d4a".toList := by decide
  have hslashless : '/' ∉ "6d4a".toList := by decide
  have hlinks : qualifyLinks "6d4a".toList
      "/redfish/v1/Systems/redfish/v1/SYSTEMS/1,/redfish/v1/chassis/6d4a:2".toList =
        "/redfish/v1/Systems/6d4a:redfish/v1/SYSTEMS/1,/redfish/v1/chassis/6d4a:2".toList := by
    decide
  obtain ⟨hmembers, -, hagain⟩ := qualifyLinks_complete huuid hslashless
    "/redfish/v1/Systems/redfish/v1/SYSTEMS/1,/redfish/v1/chassis/6d4a:2".toList
  rw [hlinks] at hmembers hagain
  exact ⟨huuid, hslashless, hlinks, hmembers, hagain⟩

end PluginGateway.Path
