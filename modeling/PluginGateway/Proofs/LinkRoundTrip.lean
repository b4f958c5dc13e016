import PluginGateway.Proofs.Composed
import PluginGateway.Proofs.Qualifiers
import PluginGateway.Resource.Rehearsal

/-!
# Following a link leads back to where it came from

A plugin advertises paths in its own form. In what the aggregator answers they are put into its own
form, and the members of a device are qualified; a request for such a link takes the qualifiers away
and puts the path into the plugin's form again. The main statement, `devicePath_link`, says that for
tables that rename single segments one to one this leads to the path that the plugin advertised, and
that a request to the device makes its calls for that path.
-/

namespace PluginGateway.Path

/-! ## Tables that rename single segments -/

/-- A segment under its new name, or as it is. -/
def renamed (entries : List (Segment × Segment)) (s : Segment) : Segment :=
  (entries.lookup s).getD s

/-- The rule that renames a segment. -/
def renameRule (e : Segment × Segment) : Rule := ⟨e.1, [], [e.2]⟩

/-- A text that is one segment: it is not empty and holds no slash. -/
def IsSegment (s : List Char) : Prop := s ≠ [] ∧ '/' ∉ s

instance (s : List Char) : Decidable (IsSegment s) :=
  inferInstanceAs (Decidable (s ≠ [] ∧ '/' ∉ s))

/-- A segment is its only proper segment. -/
lemma properSegments_of_isSegment {s : List Char} (h : IsSegment s) : properSegments s = [s] := by
  have hne : s.isEmpty = false := by simpa using h.1
  simp [properSegments, segments, Text.split_of_not_mem h.2, hne]

/-- A rule with a source of one segment comes before all others of its kind. -/
lemma foldr_place_renameRule (entries : List (Segment × Segment)) :
    (entries.map renameRule).foldr Table.place [] = entries.map renameRule := by
  induction entries with
  | nil => rfl
  | cons e rest ih =>
    rw [List.map_cons, List.foldr_cons, ih]
    cases rest with
    | nil => rfl
    | cons e' rest => exact if_pos (Nat.le_refl 1)

/-- The rules of a table of pairs of segments are those that rename them, in the same order. -/
lemma rules_ofPairs {entries : List (Segment × Segment)}
    (h : ∀ e ∈ entries, IsSegment e.1 ∧ IsSegment e.2) :
    (Table.ofPairs entries).rules = entries.map renameRule := by
  have hrule : ∀ e ∈ entries, Rule.ofPair? e = some (renameRule e) := by
    intro e he
    simp [Rule.ofPair?, properSegments_of_isSegment (h e he).1,
      properSegments_of_isSegment (h e he).2, renameRule]
  have hrules : entries.filterMap Rule.ofPair? = entries.map renameRule := by
    rw [List.filterMap_congr hrule]
    exact congrFun (List.filterMap_eq_map (f := renameRule)) entries
  simp only [Table.ofPairs, hrules, foldr_place_renameRule]

/-- The rule for a path is the one that renames its first segment. -/
lemma ruleAt?_ofPairs {entries : List (Segment × Segment)}
    (h : ∀ e ∈ entries, IsSegment e.1 ∧ IsSegment e.2) (s : Segment) (rest : List Segment) :
    (Table.ofPairs entries).ruleAt? (s :: rest) =
      (entries.lookup s).map fun t => renameRule (s, t) := by
  rw [Table.ruleAt?, rules_ofPairs h]
  clear h
  induction entries with
  | nil => rfl
  | cons e more ih =>
    obtain ⟨source, target⟩ := e
    by_cases hs : source = s
    · subst hs
      simp [Rule.Matches, Rule.source, renameRule]
    · have hs' : (s == source) = false := by simpa using Ne.symm hs
      simpa [Rule.Matches, Rule.source, renameRule, hs, hs', List.lookup_cons] using ih

/-- A table of pairs of segments renames each segment. -/
lemma replaceSegments?_ofPairs {entries : List (Segment × Segment)}
    (h : ∀ e ∈ entries, IsSegment e.1 ∧ IsSegment e.2) (path : List Segment) :
    ((Table.ofPairs entries).replaceSegments? path).getD path = path.map (renamed entries) := by
  unfold Table.replaceSegments?
  induction path with
  | nil => rfl
  | cons s rest ih =>
    rw [Table.replaceFrom?, ruleAt?_ofPairs h, List.map_cons, ← ih]
    cases hs : entries.lookup s with
    | none =>
      have hsame : renamed entries s = s := by simp [renamed, hs]
      rw [hsame]
      cases (Table.ofPairs entries).replaceFrom? 0 rest <;> rfl
    | some t =>
      have hnew : renamed entries s = t := by simp [renamed, hs]
      rw [hnew]
      rfl

/-- A table of pairs of segments renames the segments of a text without marks. -/
lemma replace?_ofPairs {entries : List (Segment × Segment)}
    (h : ∀ e ∈ entries, IsSegment e.1 ∧ IsSegment e.2) {p : List Char} (hp : IsRun p) :
    ((Table.ofPairs entries).replace? p).getD p =
      joined ((segments p).map (renamed entries)) := by
  rw [← replaceSegments?_ofPairs h, Table.replace?, beforeTail_of_isRun hp, tail_of_isRun hp]
  cases (Table.ofPairs entries).replaceSegments? (segments p) with
  | none => exact (joined_segments p).symm
  | some path => exact List.append_nil _

/-! ## Names given one to one -/

/-- The new name of a segment that the entries name. -/
lemma renamed_of_mem {entries : List (Segment × Segment)} (hnodup : (entries.map Prod.fst).Nodup)
    {s t : Segment} (h : (s, t) ∈ entries) : renamed entries s = t := by
  have hlookup : entries.lookup s = some t := by
    induction entries with
    | nil => cases h
    | cons e rest ih =>
      obtain ⟨source, target⟩ := e
      rw [List.map_cons, List.nodup_cons] at hnodup
      rcases List.mem_cons.mp h with he | hrest
      · cases he
        simp
      · have hs : s ≠ source := by
          rintro rfl
          exact hnodup.1 (List.mem_map.mpr ⟨(s, t), hrest, rfl⟩)
        have hs' : (s == source) = false := by simpa using hs
        rw [List.lookup_cons, hs']
        exact ih hnodup.2 hrest
  rw [renamed, hlookup, Option.getD_some]

/-- A segment that the entries do not name stays. -/
lemma renamed_of_not_mem {entries : List (Segment × Segment)} {s : Segment}
    (h : s ∉ entries.map Prod.fst) : renamed entries s = s := by
  have hlookup : entries.lookup s = none := by
    rw [List.lookup_eq_none_iff]
    intro e he
    simp only [bne_iff_ne, ne_eq]
    rintro rfl
    exact h (List.mem_map.mpr ⟨e, he, rfl⟩)
  rw [renamed, hlookup, Option.getD_none]

/-- The new name of a segment is one that the entries give, or the segment itself. -/
lemma renamed_eq (entries : List (Segment × Segment)) (s : Segment) :
    renamed entries s = s ∨ renamed entries s ∈ entries.map Prod.snd := by
  unfold renamed
  cases h : entries.lookup s with
  | none => exact .inl rfl
  | some t =>
    obtain ⟨earlier, later, rfl, -⟩ := List.lookup_eq_some_iff.mp h
    exact .inr (by simp)

/-- Renaming there leads back from renaming here, for a segment that is no source unless it is a
target. -/
lemma renamed_renamed_swap {entries : List (Segment × Segment)}
    (hsources : (entries.map Prod.fst).Nodup) (htargets : (entries.map Prod.snd).Nodup)
    {s : Segment} (hs : s ∈ entries.map Prod.fst → s ∈ entries.map Prod.snd) :
    renamed entries (renamed (entries.map Prod.swap) s) = s := by
  have hswap : (entries.map Prod.swap).map Prod.fst = entries.map Prod.snd := by
    rw [List.map_map]
    rfl
  by_cases hmem : s ∈ entries.map Prod.snd
  · obtain ⟨⟨source, target⟩, he, rfl⟩ := List.mem_map.mp hmem
    have hback : renamed (entries.map Prod.swap) target = source :=
      renamed_of_mem (hswap ▸ htargets) (List.mem_map.mpr ⟨(source, target), he, rfl⟩)
    rw [hback]
    exact renamed_of_mem hsources he
  · have hback : renamed (entries.map Prod.swap) s = s :=
      renamed_of_not_mem (hswap ▸ hmem)
    rw [hback]
    exact renamed_of_not_mem fun h => hmem (hs h)

/-! ## The round trip -/

/-- Entries that rename segments one to one: pairs of segments without marks, with different sources
and different targets. -/
structure OneToOne (entries : List (Segment × Segment)) : Prop where
  /-- Sources and targets are segments. -/
  isSegment : ∀ e ∈ entries, IsSegment e.1 ∧ IsSegment e.2
  /-- Sources and targets have no marks. -/
  isRun : ∀ e ∈ entries, IsRun e.1 ∧ IsRun e.2
  /-- No segment is renamed twice. -/
  sources : (entries.map Prod.fst).Nodup
  /-- No name is given twice. -/
  targets : (entries.map Prod.snd).Nodup

/-- The link that is shown for a path of a plugin. -/
def link (t : Conversion) (uuid p : String) : List Char :=
  qualifyLinks uuid.toList (Text.lossy (t.northBody p.toUTF8)).toList

/-- The entries that rename back are one to one, too. -/
lemma OneToOne.swap {entries : List (Segment × Segment)} (h : OneToOne entries) :
    OneToOne (entries.map Prod.swap) where
  isSegment := by
    intro e he
    obtain ⟨e', he', rfl⟩ := List.mem_map.mp he
    exact (h.isSegment e' he').symm
  isRun := by
    intro e he
    obtain ⟨e', he', rfl⟩ := List.mem_map.mp he
    exact (h.isRun e' he').symm
  sources := by
    rw [List.map_map]
    exact h.targets
  targets := by
    rw [List.map_map]
    exact h.sources

/-- The new names of the segments of a path are segments without marks and slashes. -/
lemma OneToOne.renamed_segments {entries : List (Segment × Segment)} (h : OneToOne entries)
    {p : List Char} (hp : IsRun p) {s : Segment} (hs : s ∈ (segments p).map (renamed entries)) :
    IsRun s ∧ '/' ∉ s := by
  obtain ⟨s', hs', rfl⟩ := List.mem_map.mp hs
  rcases renamed_eq entries s' with hsame | hnew
  · rw [hsame]
    exact ⟨isRun_of_mem_segments hp hs', slash_not_mem_of_mem_segments hs'⟩
  · obtain ⟨e, he, htarget⟩ := List.mem_map.mp hnew
    rw [← htarget]
    exact ⟨(h.isRun e he).2, (h.isSegment e he).2.2⟩

/-- The segments of the link for a path are those of the path under their new names, qualified. -/
lemma link_eq {entries : List (Segment × Segment)} (h : OneToOne entries) {uuid p : String}
    (hp : IsRun p.toList) (hslash : '/' ∈ p.toList) :
    link (.ofPairs (entries.map Prod.swap) entries) uuid p =
      joined (qualifySegments (qualifier uuid.toList)
        ((segments p.toList).map (renamed (entries.map Prod.swap)))) := by
  have hback {s : Segment} := h.swap.renamed_segments (s := s) hp
  have hnorth : replaceRuns (Table.ofPairs (entries.map Prod.swap)).replace? p.toList =
      joined ((segments p.toList).map (renamed (entries.map Prod.swap))) := by
    rw [replaceRuns_of_isRun hp, if_pos hslash, replace?_ofPairs h.swap.isSegment hp]
  have hrun : IsRun (joined ((segments p.toList).map (renamed (entries.map Prod.swap)))) :=
    isRun_joined fun s hs => (hback hs).1
  have hsegments : segments (joined ((segments p.toList).map (renamed (entries.map Prod.swap)))) =
      (segments p.toList).map (renamed (entries.map Prod.swap)) :=
    segments_joined (by simp [segments_ne_nil]) fun s hs => (hback hs).2
  have hslash' : '/' ∈ joined ((segments p.toList).map (renamed (entries.map Prod.swap))) := by
    obtain ⟨s, t, path, hpath⟩ := exists_segments_of_slash_mem hslash
    rw [hpath]
    exact slash_mem_joined _ _ _
  unfold link
  rw [lossy_of_fromUTF8? (fromUTF8?_northBody _ (Text.fromUTF8?_toUTF8 p))]
  simp only [Conversion.ofPairs, String.toList_ofList, hnorth]
  rw [qualifyLinks, replaceRuns_of_isRun hrun, if_pos hslash', qualifyPath?_getD hrun, hsegments]

/-- The segments of a link have neither marks nor slashes. -/
lemma OneToOne.qualified_segments {entries : List (Segment × Segment)} (h : OneToOne entries)
    {uuid p : List Char} (huuid : IsRun uuid) (hslashless : '/' ∉ uuid) (hp : IsRun p) {s : Segment}
    (hs : s ∈ qualifySegments (qualifier uuid)
      ((segments p).map (renamed (entries.map Prod.swap)))) : IsRun s ∧ '/' ∉ s :=
  isRun_of_mem_qualifySegments huuid hslashless (fun _ hs => h.swap.renamed_segments hp hs) hs

section Link

variable {entries : List (Segment × Segment)} (h : OneToOne entries) {uuid p : String}
  (huuid : IsRun uuid.toList) (hslashless : '/' ∉ uuid.toList) (hp : IsRun p.toList)
  (hslash : '/' ∈ p.toList)

include h huuid hslashless hp hslash

/-- A link has no marks. -/
lemma isRun_link : IsRun (link (.ofPairs (entries.map Prod.swap) entries) uuid p) := by
  rw [link_eq h hp hslash]
  exact isRun_joined fun s hs => (h.qualified_segments huuid hslashless hp hs).1

/-- The segments of a link are those of the path under their new names, qualified. -/
lemma segments_link : segments (link (.ofPairs (entries.map Prod.swap) entries) uuid p) =
    qualifySegments (qualifier uuid.toList)
      ((segments p.toList).map (renamed (entries.map Prod.swap))) := by
  rw [link_eq h hp hslash]
  exact segments_joined (qualifySegments_ne_nil (by simp [segments_ne_nil])) fun s hs =>
    (h.qualified_segments huuid hslashless hp hs).2

end Link

/-- A link holds a slash. -/
lemma slash_mem_link {entries : List (Segment × Segment)} (h : OneToOne entries) {uuid p : String}
    (hp : IsRun p.toList) (hslash : '/' ∈ p.toList) :
    '/' ∈ link (.ofPairs (entries.map Prod.swap) entries) uuid p := by
  obtain ⟨s, t, path, hpath⟩ := exists_segments_of_slash_mem hslash
  rw [link_eq h hp hslash, hpath]
  cases path with
  | nil => exact slash_mem_joined _ _ _
  | cons u path => exact slash_mem_joined _ _ _

/-- The plugin's form of the link for a path is the path. -/
lemma devicePath_link_eq {entries : List (Segment × Segment)} (h : OneToOne entries)
    {uuid p : String} (huuid : IsRun uuid.toList) (hslashless : '/' ∉ uuid.toList)
    (hunqualified : ∀ e ∈ entries, ¬qualifier uuid.toList <+: e.1)
    (hp : IsRun p.toList) (hslash : '/' ∈ p.toList)
    (hsegments : ∀ s ∈ segments p.toList, ¬qualifier uuid.toList <+: s ∧
      (s ∈ entries.map Prod.fst → s ∈ entries.map Prod.snd)) :
    (Conversion.ofPairs (entries.map Prod.swap) entries).devicePath uuid.toList
      (link (.ofPairs (entries.map Prod.swap) entries) uuid p) = p.toList := by
  have hback {s : Segment} := h.swap.renamed_segments (s := s) hp
  -- No segment under its new name begins with the qualifier, so stripping leaves each alone.
  have hplain : ∀ s ∈ (segments p.toList).map (renamed (entries.map Prod.swap)),
      stripSegment (qualifier uuid.toList) s = s := by
    intro s hs
    refine stripSegment_of_not_prefix ?_
    obtain ⟨s', hs', rfl⟩ := List.mem_map.mp hs
    rcases renamed_eq (entries.map Prod.swap) s' with hsame | hnew
    · rw [hsame]
      exact (hsegments s' hs').1
    · rw [List.map_map] at hnew
      obtain ⟨e, he, hsource⟩ := List.mem_map.mp hnew
      rw [← hsource]
      exact hunqualified e he
  have hstrip : strip uuid.toList (link (.ofPairs (entries.map Prod.swap) entries) uuid p) =
      joined ((segments p.toList).map (renamed (entries.map Prod.swap))) := by
    rw [strip_of_isRun (isRun_link h huuid hslashless hp hslash),
      segments_link h huuid hslashless hp hslash, map_stripSegment_qualifySegments,
      List.map_congr_left hplain, List.map_id']
  have hstripped : IsRun (joined ((segments p.toList).map (renamed (entries.map Prod.swap)))) :=
    isRun_joined fun s hs => (hback hs).1
  rw [Conversion.devicePath, hstrip, Conversion.southPath, Conversion.ofPairs, Table.apply,
    replace?_ofPairs h.isSegment hstripped,
    segments_joined (by simp [segments_ne_nil]) fun s hs => (hback hs).2, List.map_map]
  have hsame : (segments p.toList).map (renamed entries ∘ renamed (entries.map Prod.swap)) =
      (segments p.toList).map id :=
    List.map_congr_left fun s hs => renamed_renamed_swap h.sources h.targets (hsegments s hs).2
  calc joined ((segments p.toList).map (renamed entries ∘ renamed (entries.map Prod.swap)))
      = joined ((segments p.toList).map id) := by rw [hsame]
    _ = p.toList := by rw [List.map_id, joined_segments]

/-- Only calls with one method and for one path, at the endpoint of that path, are quiet. -/
def callsFor (c : Client) (method : Method) (p : String) : Discipline where
  Quiet action := ∀ plugin call, action = .contact (.send plugin call) →
    call.method = method ∧ call.path = p ∧ endpoint c.scheme plugin p = .ok call.url
  Who _ := True
  Known _ _ := True

/-- A request to a device sends, apart from logins, only calls for the plugin's form of its URL. -/
lemma deviceRequest_punctuated {g : Aggregator} {uuid url p : String}
    (h : g.client.conversion.devicePath uuid.toList url.toList = p.toList) (method : Method)
    (body : Option Json) {σ : Type} (handle : (action : FlowAction) → σ → action.Answer × σ)
    (s : σ) :
    ∃ logins, Punctuated g.client (callsFor g.client method p)
      ((g.deviceRequest { uuid, url, method, body }).run.history handle s) logins := by
  have hsouth : g.client.southPath (String.ofList (strip uuid.toList url.toList)) = p := by
    rw [Conversion.devicePath] at h
    rw [Client.southPath, String.toList_ofList, h, String.ofList_toList]
  have hquiet : ∀ action : FlowAction, action.isSend = false → action.keepsToken = false →
      (callsFor g.client method p).Quiet action := by
    intro action hsend _ plugin call haction
    subst haction
    cases hsend
  have hcomposed := Composed.flow_deviceRequest (r := { uuid, url, method, body }) (g := g) hquiet
    (fun _ _ _ _ => trivial) fun plugin body token? basic? url hurl => by
      intro plugin' call haction
      cases haction
      exact ⟨rfl, hsouth, hsouth ▸ hurl⟩
  exact hcomposed.punctuated (fun _ => True) (fun _ _ _ => trivial) (fun _ _ _ => trivial) trivial

/-- Following a link is lossless. Segments are renamed one to one, between a table and its inverse;
in the path of a plugin no segment has a name that only the aggregator uses or begins with the
qualifier of the device. Then the link that is shown for the path leads back to the path, and a
request to the device for this link sends, apart from logins, only calls for that path. -/
theorem devicePath_link {entries : List (Segment × Segment)} (h : OneToOne entries)
    {uuid p : String} (huuid : IsRun uuid.toList) (hslashless : '/' ∉ uuid.toList)
    (hunqualified : ∀ e ∈ entries, ¬qualifier uuid.toList <+: e.1)
    (hp : IsRun p.toList) (hslash : '/' ∈ p.toList)
    (hsegments : ∀ s ∈ segments p.toList, ¬qualifier uuid.toList <+: s ∧
      (s ∈ entries.map Prod.fst → s ∈ entries.map Prod.snd)) :
    (Conversion.ofPairs (entries.map Prod.swap) entries).devicePath uuid.toList
        (link (.ofPairs (entries.map Prod.swap) entries) uuid p) = p.toList ∧
      ∀ (g : Aggregator), g.client.conversion = .ofPairs (entries.map Prod.swap) entries →
      ∀ (method : Method) (body : Option Json) {σ : Type}
        (handle : (action : FlowAction) → σ → action.Answer × σ) (s : σ),
        ∃ logins, Punctuated g.client (callsFor g.client method p)
          ((g.deviceRequest
            { uuid
              url := String.ofList (link (.ofPairs (entries.map Prod.swap) entries) uuid p)
              method
              body }).run.history handle s) logins := by
  have hback := devicePath_link_eq h huuid hslashless hunqualified hp hslash hsegments
  refine ⟨hback, fun g hg method body σ handle s => ?_⟩
  refine deviceRequest_punctuated ?_ method body handle s
  rw [hg, String.toList_ofList]
  exact hback

/-- A world of one device, behind a plugin that takes credentials and never answers. -/
def loneDevice : World where
  network := ⟨[], [true], [], [], 0, 0⟩
  inventory := (Inventory.empty.insertPlugin
    ⟨"GRF", "10.0.0.1", 45001, "admin", "secret", .basic⟩).insertTarget
      ⟨"6d4a", "GRF", "10.0.0.2", "root", "calvin".toUTF8⟩
  clock := "now"

/-- The link for a system of that device leads back to it: a request for it is sent to the path of the
system, and once more when nobody answers. -/
theorem devicePath_link_of_system :
    link .standard "6d4a" "/ODIM/v1/Systems/1" = "/redfish/v1/Systems/6d4a:1".toList ∧
      Conversion.standard.devicePath "6d4a".toList (link .standard "6d4a" "/ODIM/v1/Systems/1") =
        "/ODIM/v1/Systems/1".toList ∧
      ((((Aggregator.mk ⟨"https", .standard⟩ .ok none).deviceRequest
          { uuid := "6d4a"
            url := String.ofList (link .standard "6d4a" "/ODIM/v1/Systems/1") }).run.run
          World.handle loneDevice).2.network.calls.map fun call => (call.2.method, call.2.path)) =
        [(.get, "/ODIM/v1/Systems/1"), (.get, "/ODIM/v1/Systems/1")] ∧
      ∃ logins, Punctuated ⟨"https", .standard⟩
        (callsFor ⟨"https", .standard⟩ .get "/ODIM/v1/Systems/1")
        (((Aggregator.mk ⟨"https", .standard⟩ .ok none).deviceRequest
          { uuid := "6d4a"
            url := String.ofList (link .standard "6d4a" "/ODIM/v1/Systems/1") }).run.history
          World.handle loneDevice) logins := by
  have hentries : OneToOne [("redfish".toList, "ODIM".toList)] :=
    ⟨by decide, by decide, by decide, by decide⟩
  have huuid : IsRun "6d4a".toList := by decide
  have hpath : IsRun "/ODIM/v1/Systems/1".toList := by decide
  have hback := devicePath_link hentries huuid (by decide) (by decide) hpath (by decide) (by decide)
  have hlink : link .standard "6d4a" "/ODIM/v1/Systems/1" =
      joined (qualifySegments (qualifier "6d4a".toList)
        ((segments "/ODIM/v1/Systems/1".toList).map
          (renamed [("ODIM".toList, "redfish".toList)]))) :=
    link_eq hentries hpath (by decide)
  exact ⟨hlink.trans (by decide +kernel), hback.1, by decide +kernel,
    hback.2 ⟨⟨"https", .standard⟩, .ok, none⟩ rfl .get none World.handle loneDevice⟩

end PluginGateway.Path
