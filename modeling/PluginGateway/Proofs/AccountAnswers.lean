import Mathlib.Data.List.Infix
import PluginGateway.Proofs.AccountLinks
import PluginGateway.Proofs.DocumentTexts
import PluginGateway.Proofs.QualifiedLinks

/-!
# Account services in answers

An answer about accounts shows what a device answered, with the device's account service moved below
the manager. `Moved` says what the move does to a text: the path runs stand where they stood, in
each of them the account service is replaced wherever it is, and nothing is left of it.

The main statement, `remoteAccount_answers`, goes through the operations on accounts. All of them
show what was moved, with one exception: a deletion that was answered with 201 is answered as the
device answered it, and then the account service may be left in it
(`deleteRemoteAccount_of_created`). In the document that a read answers, no text holds the account
service, if neither the device nor the conversion uses escapes.
-/

namespace PluginGateway

open PluginGateway.Path

/-- No path run of the text holds the device's path of the account service. -/
def WithoutAccountPath (text : List Char) : Prop :=
  ∀ before run after, RunAt text before run after → ¬accountPath <:+: segments run

/-- It is enough to look at the pieces of the text that are path runs. -/
lemma withoutAccountPath_iff {text : List Char} :
    WithoutAccountPath text ↔
      ∀ p ∈ pieces text, ∀ run ∈ p.pathRun?, ¬accountPath <:+: segments run := by
  constructor
  · intro h p hp run hrun
    obtain ⟨rfl, hslash⟩ := pathRun?_eq_some_iff.mp hrun
    obtain ⟨earlier, later, hpieces⟩ := List.append_of_mem hp
    exact h _ _ _ (runAt_of_pieces hpieces hslash)
  · intro h before run after hrun
    have hmem : .run run ∈ pieces text := by
      rw [hrun.pieces_eq]
      simp
    exact h (.run run) hmem run (pathRun?_eq_some_iff.mpr ⟨rfl, hrun.slash⟩)

instance : DecidablePred WithoutAccountPath := fun _ =>
  decidable_of_iff _ withoutAccountPath_iff.symm

/-- The second text is the first one with the account service moved below the manager. -/
structure Moved (managerId text moved : String) : Prop where
  /-- The path runs stand between the same gaps, and in each the account service is replaced. -/
  places : ∃ (places : List Place) (last : List Char),
    Layout text.toList (places.map fun p => (p.gap, p.run)) last ∧
    Layout moved.toList (places.map fun p => (p.gap, p.result)) last ∧
    ∀ p ∈ places, MovedBelow managerId (segments p.run) (segments p.result)
  /-- No account service is left. -/
  without : WithoutAccountPath moved.toList

/-! ## Segments of a moved path -/

/-- The account service stands at the head of a path if its two segments do. -/
lemma accountPath_prefix_cons {s : Segment} {path : List Segment} :
    accountPath <+: s :: path ↔
      s = "v1".toList ∧ path.head? = some "AccountService".toList := by
  rw [accountPath, List.cons_prefix_cons]
  cases path with
  | nil => simp
  | cons t rest => simp [List.cons_prefix_cons, eq_comm]

/-- Where the account service does not stand at the head of a path, it stands behind it. -/
lemma accountPath_infix_of_cons {s : Segment} {path : List Segment}
    (hs : s ≠ "v1".toList ∨ path.head? ≠ some "AccountService".toList)
    (h : accountPath <:+: s :: path) : accountPath <:+: path := by
  rcases List.infix_cons_iff.mp h with hbegins | hlater
  · obtain ⟨hversion, hservice⟩ := accountPath_prefix_cons.mp hbegins
    exact absurd hservice (hs.resolve_left (not_not.mpr hversion))
  · exact hlater

namespace MovedBelow

variable {managerId : String} {path path' : List Segment}

/-- A moved path begins with the segment that it began with. -/
lemma head?_eq (h : MovedBelow managerId path path') : path'.head? = path.head? := by
  cases h <;> rfl

/-- A moved path has no fewer segments. -/
lemma length_le (h : MovedBelow managerId path path') : path.length ≤ path'.length := by
  induction h with
  | nil => exact Nat.le_refl 0
  | service _ ih =>
    simp only [List.length_append, accountPath, managerAccountPath, List.length_cons,
      List.length_nil]
    omega
  | other _ _ ih =>
    simp only [List.length_cons]
    omega

/-- The account service does not stand in a moved path. -/
lemma not_infix (h : MovedBelow managerId path path') : ¬accountPath <:+: path' := by
  induction h with
  | nil => decide
  | service _ ih =>
    intro hstands
    -- neither the version nor the identifier has the device's name of the service behind it
    have hnext {name : String} (hname : name ≠ "AccountService") {rest : List Segment} :
        (name.toList :: rest).head? ≠ some "AccountService".toList := fun h =>
      hname (String.toList_injective (Option.some.inj h))
    have hmanagers := accountPath_infix_of_cons (.inr (hnext (by decide))) hstands
    have hmanager := accountPath_infix_of_cons (.inl (by decide)) hmanagers
    have hservice := accountPath_infix_of_cons (.inr (hnext (by decide))) hmanager
    exact ih (accountPath_infix_of_cons (.inl (by decide)) hservice)
  | other hs h ih =>
    intro hstands
    refine ih (accountPath_infix_of_cons ?_ hstands)
    rwa [h.head?_eq, ← not_and_or, ← accountPath_prefix_cons]

end MovedBelow

/-! ## Path runs -/

/-- The move leaves a path alone exactly if the account service does not stand in it. -/
lemma account_replace?_eq_none_iff {managerId : String} {r : List Char} (hr : IsRun r) :
    Table.replace? ⟨[accountRule managerId]⟩ r = none ↔ ¬accountPath <:+: segments r := by
  rw [Table.replace?_eq_none_iff, beforeTail_of_isRun hr]
  exact List.forall_mem_singleton

section Runs

variable {managerId : String} (hmember : IsMember managerId)

include hmember

/-- What stands in the place of a path run has no marks, and the segments of the run become its
segments. -/
lemma movedBelow_getD {r : List Char} (hr : IsRun r) :
    IsRun ((Table.replace? ⟨[accountRule managerId]⟩ r).getD r) ∧
      MovedBelow managerId (segments r)
        (segments ((Table.replace? ⟨[accountRule managerId]⟩ r).getD r)) := by
  have hmoved := movedBelow_rewritten hmember (segments r)
  have hsegment : ∀ s ∈ Table.rewritten ⟨[accountRule managerId]⟩ (segments r),
      IsRun s ∧ '/' ∉ s := fun s hs => isRun_of_mem_rewritten_account hmember hr hs
  have hne : Table.rewritten ⟨[accountRule managerId]⟩ (segments r) ≠ [] := by
    refine List.ne_nil_of_length_pos (Nat.lt_of_lt_of_le ?_ hmoved.length_le)
    exact List.length_pos_of_ne_nil (segments_ne_nil r)
  rw [Table.replace?_getD _ hr, segments_joined hne fun s hs => (hsegment s hs).2]
  exact ⟨isRun_joined fun s hs => (hsegment s hs).1, hmoved⟩

/-- A path run that is moved has no marks, and the segments of the run become its segments. -/
lemma movedBelow_of_account_replace? {r r' : List Char} (hr : IsRun r)
    (h : Table.replace? ⟨[accountRule managerId]⟩ r = some r') :
    IsRun r' ∧ MovedBelow managerId (segments r) (segments r') := by
  have hmoved := movedBelow_getD hmember hr
  rwa [h, Option.getD_some] at hmoved

/-- A moved path holds a slash. -/
lemma slash_mem_of_account_replace? {r r' : List Char}
    (h : Table.replace? ⟨[accountRule managerId]⟩ r = some r') : '/' ∈ r' := by
  have hsource : accountPath <:+: segments (beforeTail r) := by
    by_contra hnone
    have hdeclined : Table.replace? ⟨[accountRule managerId]⟩ r = none :=
      Table.replace?_eq_none_iff.mpr (List.forall_mem_singleton.mpr hnone)
    rw [h] at hdeclined
    cases hdeclined
  have hlength := hsource.length_le.trans
    (movedBelow_rewritten hmember (segments (beforeTail r))).length_le
  rw [Table.eq_of_replace? h]
  match Table.rewritten ⟨[accountRule managerId]⟩ (segments (beforeTail r)), hlength with
  | s :: t :: path, _ => exact List.mem_append_left _ (slash_mem_joined s t path)

/-- Moved paths are not moved again. -/
theorem settles_account : Settles (Table.replace? ⟨[accountRule managerId]⟩) where
  isRun hr _ h := (movedBelow_of_account_replace? hmember hr h).1
  ne_nil _ _ h := List.ne_nil_of_mem (slash_mem_of_account_replace? hmember h)
  declined := by
    intro r r' hr _ h _
    obtain ⟨hrun, hmoved⟩ := movedBelow_of_account_replace? hmember hr h
    exact (account_replace?_eq_none_iff hrun).mpr hmoved.not_infix

/-- The account service of a device is moved below the manager. -/
theorem moved_toRemoteAccountService (text : String) :
    Moved managerId text (toRemoteAccountService managerId text) where
  without := by
    intro before run after hrun
    rw [toRemoteAccountService_toList] at hrun
    have hnone := (settles_account hmember).eq_none_of_runAt hrun
    exact (account_replace?_eq_none_iff hrun.isRun).mp hnone
  places := by
    have htext := layout_pieces text.toList
    have hmoved := layout_pieces (toRemoteAccountService managerId text).toList
    rw [toRemoteAccountService_toList, (settles_account hmember).pieces_replaceRuns,
      layout_map_after (slash_mem_of_account_replace? hmember) [] (pieces text.toList)] at hmoved
    refine ⟨(layout [] (pieces text.toList)).1.map fun part =>
      ⟨part.1, part.2, (Table.replace? ⟨[accountRule managerId]⟩ part.2).getD part.2⟩,
      (layout [] (pieces text.toList)).2, ?_, ?_, ?_⟩
    · rw [List.map_map]
      exact (List.map_id _).symm ▸ htext
    · rw [List.map_map, toRemoteAccountService_toList]
      exact hmoved
    · intro p hp
      obtain ⟨part, hpart, rfl⟩ := List.mem_map.mp hp
      exact (movedBelow_getD hmember (htext.isRun_of_mem hpart)).2

end Runs

/-! ## Texts of a document -/

/-- A path run of what stands between two quotation marks is one of the whole text. -/
lemma runAt_of_quoted {text cs : List Char} (h : Json.Quoted text cs)
    {before run after : List Char} (hrun : RunAt cs before run after) :
    ∃ before' after', RunAt text before' run after' := by
  obtain ⟨front, rest, rfl⟩ := h
  refine ⟨front ++ '"' :: before, after ++ '"' :: rest, ?_, hrun.isRun, hrun.slash, ?_, ?_⟩
  · rw [hrun.parts]
    simp
  · intro c hc
    rw [List.getLast?_append_cons, List.getLast?_cons] at hc
    cases hlast : before.getLast? with
    | none =>
      rw [hlast] at hc
      cases hc
      decide
    | some d =>
      rw [hlast] at hc
      cases hc
      exact hrun.opened _ hlast
  · intro c hc
    cases after with
    | nil =>
      cases hc
      decide
    | cons d more => exact hrun.closed c hc

/-- In a document without escapes and without the account service, no text holds it. -/
lemma everyText_of_withoutAccountPath {text : String} (hescape : '\\' ∉ text.toList)
    (h : WithoutAccountPath text.toList) {v : Json} (hparse : Json.parse text = .ok v) :
    v.EveryText fun t => WithoutAccountPath t.toList := by
  refine Json.everyText_of_parse (by decide) hescape (fun cs hquoted => ?_) hparse
  intro before run after hrun
  rw [String.toList_ofList] at hrun
  obtain ⟨before', after', hwhole⟩ := runAt_of_quoted hquoted hrun
  exact h before' run after' hwhole

/-! ## Escapes in answers -/

/-- The conversion puts no escapes into bodies. -/
def WritesNoEscape (t : Conversion) : Prop :=
  ∀ rule ∈ t.north.rules, ∀ s ∈ rule.target, '\\' ∉ s

instance (t : Conversion) : Decidable (WritesNoEscape t) :=
  inferInstanceAs (Decidable (∀ rule ∈ t.north.rules, ∀ s ∈ rule.target, '\\' ∉ s))

/-- If the event is a response to a call for a device and reports success, its body is a text
without escapes. -/
def PlainAnswer (event : FlowEvent) : Prop :=
  ∀ plugin call response, event = ⟨.contact (.send plugin call), .ok response⟩ →
    call.IsForDevice → response.isSuccess = true → '\\' ∉ (Text.lossy response.body).toList

/-- No escapes are put into a text if none are in what is written in the place of its path runs. -/
lemma escape_not_mem_replaceRuns {f : List Char → Option (List Char)}
    (hf : ∀ r r', IsRun r → f r = some r' → '\\' ∉ r') {text : List Char} (h : '\\' ∉ text) :
    '\\' ∉ replaceRuns f text := by
  rw [replaceRuns_eq_flatMap]
  intro hmem
  obtain ⟨p, hp, hmem⟩ := List.mem_flatMap.mp hmem
  have htext : '\\' ∉ p.text := fun hmem =>
    h (text_pieces text ▸ List.mem_flatMap.mpr ⟨p, hp, hmem⟩)
  cases p with
  | mark c => exact htext hmem
  | run r =>
    have hrun : IsRun r := (isProper_of_mem_pieces hp).1
    rcases Piece.replaced_run (f := f) (r := r) with ⟨-, hanswer⟩ | ⟨hsame, -⟩
    · exact hf r _ hrun hanswer hmem
    · rw [hsame] at hmem
      exact htext hmem

/-- A text without marks has no escapes. -/
lemma escape_not_mem_of_isRun {r : List Char} (hr : IsRun r) : '\\' ∉ r := fun h =>
  absurd (hr _ h) (by decide)

/-- A body without escapes has none in the aggregator's form. -/
lemma escape_not_mem_northBody {t : Conversion} (ht : WritesNoEscape t) {body : ByteArray}
    (h : '\\' ∉ (Text.lossy body).toList) : '\\' ∉ (Text.lossy (t.northBody body)).toList := by
  cases hbody : String.fromUTF8? body with
  | none => rwa [northBody_of_fromUTF8?_eq_none hbody]
  | some text =>
    rw [lossy_of_fromUTF8? hbody] at h
    rw [lossy_of_fromUTF8? (fromUTF8?_northBody t hbody), String.toList_ofList]
    refine escape_not_mem_replaceRuns (fun r r' hr hanswer hmem => ?_) h
    rw [Table.eq_of_replace? hanswer, beforeTail_of_isRun hr, tail_of_isRun hr,
      List.append_nil] at hmem
    rcases mem_joined hmem with hslash | ⟨s, hs, hmem⟩
    · exact absurd hslash (by decide)
    · rcases Table.mem_rewritten hs with hs | ⟨rule, hrule, hs⟩
      · exact escape_not_mem_of_isRun (isRun_of_mem_segments hr hs) hmem
      · exact ht rule hrule s hs hmem

/-- What is shown of a body without escapes has none. -/
lemma escape_not_mem_shown {t : Conversion} (ht : WritesNoEscape t) {managerId uuid : String}
    (hmember : IsMember managerId) (huuid : deviceOfManager managerId = .ok uuid)
    {body : ByteArray} (h : '\\' ∉ (Text.lossy body).toList) :
    '\\' ∉ (toRemoteAccountService managerId (String.ofList (qualifyLinks uuid.toList
      (Text.lossy (t.northBody body)).toList))).toList := by
  have hrun : IsRun uuid.toList := fun c hc =>
    hmember.isRun c (mem_of_deviceOfManager huuid hc)
  have hslashless : '/' ∉ uuid.toList := fun hc =>
    hmember.isSegment.2 (mem_of_deviceOfManager huuid hc)
  rw [toRemoteAccountService_toList, String.toList_ofList]
  refine escape_not_mem_replaceRuns (fun r r' hr hanswer => ?_)
    (escape_not_mem_replaceRuns (fun r r' hr hanswer => ?_) (escape_not_mem_northBody ht h))
  · exact escape_not_mem_of_isRun (movedBelow_of_account_replace? hmember hr hanswer).1
  · exact escape_not_mem_of_isRun (segments_of_qualifyPath? hrun hslashless hr hanswer).1

/-! ## Operations on accounts -/

/-- The answers that can be given are those of the events. -/
def recorded (events : List FlowEvent) : Discipline where
  Quiet _ := True
  Who _ := True
  Known action answer := ⟨action, answer⟩ ∈ events

/-- The answer is what the aggregator shows of a response to a call for a device, which is among the
events and reports success. -/
def Aggregator.Shows (g : Aggregator) (uuid : String) (events : List FlowEvent)
    (answer : DeviceResponse) : Prop :=
  ∃ plugin call response, call.IsForDevice ∧
    (⟨.contact (.send plugin call), .ok response⟩ : FlowEvent) ∈ events ∧
    response.isSuccess = true ∧
    answer = ⟨response.status, String.ofList (qualifyLinks uuid.toList
      (Text.lossy (g.client.conversion.northBody response.body)).toList)⟩

/-- The text is what the aggregator shows of a response for the device of the manager, with the
account service moved below the manager. -/
def Aggregator.ShowsBelow (g : Aggregator) (managerId : String) (events : List FlowEvent)
    (text : String) : Prop :=
  ∃ uuid answer, deviceOfManager managerId = .ok uuid ∧ g.Shows uuid events answer ∧
    Moved managerId answer.body text

/-- What is shown was answered with 200 or 201. -/
lemma Aggregator.Shows.status {g : Aggregator} {uuid : String} {events : List FlowEvent}
    {answer : DeviceResponse} (h : g.Shows uuid events answer) :
    answer.status = 200 ∨ answer.status = 201 := by
  obtain ⟨plugin, call, response, -, -, hsuccess, rfl⟩ := h
  simpa [Response.isSuccess] using hsuccess

section Recorded

variable (g : Aggregator) (events : List FlowEvent)

/-- What is answered to a request for a device is shown of a response. -/
lemma recorded_deviceRequest (r : DeviceRequest) :
    Composed g.client (recorded events) (OnSuccess (g.Shows r.uuid events))
      (g.deviceRequest r).run :=
  Composed.flow_deviceRequest (g := g) (D := recorded events) (r := r)
    (fun _ _ _ => trivial) (fun _ _ _ _ => trivial) fun _ _ _ _ _ _ => trivial

/-- The text of a resource of the account service is shown of a response. -/
lemma recorded_accountText (managerId uuid url : String) :
    Composed g.client (recorded events)
      (OnSuccess fun text => ∃ status, g.Shows uuid events ⟨status, text⟩)
      (g.accountText managerId uuid url).run :=
  Composed.flow_orFail (Composed.flow_bind (recorded_deviceRequest g events _)
    fun answer hanswer => Composed.flow_done fun _ h => Except.ok.inj h ▸ ⟨answer.status, hanswer⟩)

/-- A document that is read is that of a text shown of a response. -/
lemma recorded_readRemoteAccount (managerId url : String) :
    Composed g.client (recorded events)
      (OnSuccess fun v => ∃ uuid answer, deviceOfManager managerId = .ok uuid ∧
        g.Shows uuid events answer ∧
        Json.parse (toRemoteAccountService managerId answer.body) = .ok v)
      (g.readRemoteAccount managerId url).run := by
  unfold Aggregator.readRemoteAccount
  refine Composed.flow_bind (Composed.flow_done_self _) fun uuid huuid => ?_
  refine Composed.flow_bind (recorded_accountText g events managerId uuid url) fun text htext => ?_
  obtain ⟨status, hshows⟩ := htext
  cases hparse : Json.parse (toRemoteAccountService managerId text) with
  | error fault => exact Composed.flow_done nofun
  | ok v =>
    exact Composed.flow_done fun _ h =>
      Except.ok.inj h ▸ ⟨uuid, ⟨status, text⟩, huuid, hshows, hparse⟩

variable {managerId : String} (hmember : IsMember managerId)

include hmember

/-- A creation is answered with 201 and with what is shown of a response, moved. -/
lemma recorded_createRemoteAccount (url : String) (body : Json) :
    Composed g.client (recorded events)
      (OnSuccess fun answer => answer.status = 201 ∧ g.ShowsBelow managerId events answer.body)
      (g.createRemoteAccount managerId url body).run := by
  unfold Aggregator.createRemoteAccount
  refine Composed.flow_done_bind fun body => ?_
  refine Composed.flow_bind (Composed.flow_done_self _) fun uuid huuid => ?_
  refine Composed.flow_bind (recorded_deviceRequest g events _) fun shown hshown => ?_
  exact Composed.flow_done fun _ h => Except.ok.inj h ▸
    ⟨rfl, uuid, shown, huuid, hshown, moved_toRemoteAccountService hmember shown.body⟩

/-- A change is answered with what is shown of a response, moved: that of the device to the change,
or to the reading behind it. -/
lemma recorded_updateRemoteAccount (url : String) (body : Json) :
    Composed g.client (recorded events)
      (OnSuccess fun answer => (answer.status = 200 ∨ answer.status = 201) ∧
        g.ShowsBelow managerId events answer.body)
      (g.updateRemoteAccount managerId url body).run := by
  unfold Aggregator.updateRemoteAccount
  refine Composed.flow_done_bind fun body => ?_
  refine Composed.flow_bind (Composed.flow_done_self _) fun uuid huuid => ?_
  refine Composed.flow_bind (recorded_deviceRequest g events _) fun shown hshown => ?_
  by_cases hstatus : shown.status = 200
  · simp only [hstatus, if_true]
    refine Composed.flow_bind (recorded_accountText g events managerId uuid url)
      fun text htext => ?_
    obtain ⟨status, hread⟩ := htext
    exact Composed.flow_done fun _ h => Except.ok.inj h ▸ ⟨.inl rfl, uuid, ⟨status, text⟩, huuid,
      hread, moved_toRemoteAccountService hmember text⟩
  · simp only [hstatus, if_false]
    exact Composed.flow_done fun _ h => Except.ok.inj h ▸ ⟨hshown.status, uuid, shown, huuid,
      hshown, moved_toRemoteAccountService hmember shown.body⟩

omit hmember in
/-- A deletion is answered with no content, or with 201 and with what is shown of a response as it
is. -/
lemma recorded_deleteRemoteAccount (url : String) :
    Composed g.client (recorded events)
      (OnSuccess fun answer => answer = ⟨204, ""⟩ ∨ answer.status = 201 ∧
        ∃ uuid, deviceOfManager managerId = .ok uuid ∧ g.Shows uuid events answer)
      (g.deleteRemoteAccount managerId url).run := by
  unfold Aggregator.deleteRemoteAccount
  refine Composed.flow_bind (Composed.flow_done_self _) fun uuid huuid => ?_
  refine Composed.flow_bind (recorded_deviceRequest g events _) fun shown hshown => ?_
  by_cases hstatus : shown.status = 200
  · simp only [hstatus, if_true]
    exact Composed.flow_done fun _ h => .inl (Except.ok.inj h).symm
  · simp only [hstatus, if_false]
    exact Composed.flow_done fun _ h => Except.ok.inj h ▸
      .inr ⟨hshown.status.resolve_left hstatus, uuid, huuid, hshown⟩

end Recorded

variable {σ : Type}

/-- The operations on accounts, for a manager whose identifier is one segment without marks, and
whatever the surroundings answer. What a read, a creation or a change answers is shown of a response
of the manager's device, with the account service moved below the manager wherever it was, so that
none is left; in the document that a read answers, no string and no key holds one, if neither the
device nor the conversion puts escapes into bodies. A deletion that the device answers with 200 is
answered with no content. A deletion that the device answers with 201 is answered as the device
answered it: there alone the account service is not moved. -/
theorem remoteAccount_answers {managerId : String} (hmember : IsMember managerId) (g : Aggregator)
    (handle : (action : FlowAction) → σ → action.Answer × σ) (s : σ) (url : String) :
    (∀ v, ((g.readRemoteAccount managerId url).run.run handle s).1 = .ok v →
      ∃ text, Json.parse text = .ok v ∧
        g.ShowsBelow managerId ((g.readRemoteAccount managerId url).run.history handle s) text ∧
        (WritesNoEscape g.client.conversion →
          (∀ event ∈ (g.readRemoteAccount managerId url).run.history handle s,
            PlainAnswer event) →
          v.EveryText fun t => WithoutAccountPath t.toList)) ∧
    (∀ body answer, ((g.createRemoteAccount managerId url body).run.run handle s).1 = .ok answer →
      answer.status = 201 ∧ g.ShowsBelow managerId
        ((g.createRemoteAccount managerId url body).run.history handle s) answer.body) ∧
    (∀ body answer, ((g.updateRemoteAccount managerId url body).run.run handle s).1 = .ok answer →
      (answer.status = 200 ∨ answer.status = 201) ∧ g.ShowsBelow managerId
        ((g.updateRemoteAccount managerId url body).run.history handle s) answer.body) ∧
    ∀ answer, ((g.deleteRemoteAccount managerId url).run.run handle s).1 = .ok answer →
      answer = ⟨204, ""⟩ ∧ WithoutAccountPath answer.body.toList ∨
      answer.status = 201 ∧ ∃ uuid, deviceOfManager managerId = .ok uuid ∧
        g.Shows uuid ((g.deleteRemoteAccount managerId url).run.history handle s) answer := by
  refine ⟨fun v hv => ?read, fun body answer hanswer => ?create, fun body answer hanswer => ?update,
    fun answer hanswer => ?delete⟩
  case read =>
    obtain ⟨uuid, shown, huuid, hshown, hparse⟩ :=
      (recorded_readRemoteAccount g _ managerId url).run_post (fun event hevent => hevent) v hv
    have hmoved := moved_toRemoteAccountService hmember shown.body
    refine ⟨_, hparse, ⟨uuid, shown, huuid, hshown, hmoved⟩, fun hconversion hplain => ?_⟩
    obtain ⟨plugin, call, response, hdevice, hevent, hsuccess, rfl⟩ := hshown
    have hbody := hplain _ hevent plugin call response rfl hdevice hsuccess
    exact everyText_of_withoutAccountPath
      (escape_not_mem_shown hconversion hmember huuid hbody) hmoved.without hparse
  case create =>
    exact (recorded_createRemoteAccount g _ hmember url body).run_post
      (fun event hevent => hevent) answer hanswer
  case update =>
    exact (recorded_updateRemoteAccount g _ hmember url body).run_post
      (fun event hevent => hevent) answer hanswer
  case delete =>
    have hdeleted := (recorded_deleteRemoteAccount g _ url).run_post
      (fun event hevent => hevent) answer hanswer
    refine hdeleted.imp_left ?_
    rintro rfl
    exact ⟨rfl, by decide⟩

/-- A document in which a plugin names an account. -/
def accountDocument : String := "\x7b\"@odata.id\":\"/ODIM/v1/AccountService/Accounts/3\"\x7d"

/-- A world of one device, behind a plugin that answers the document with a status. -/
def accountDevice (status : Nat) : World where
  network := ⟨[⟨.respond ⟨status, [], accountDocument.toUTF8⟩, 0⟩], [true], [], [], 0, 0⟩
  inventory := loneDevice.inventory
  clock := "now"

/-- The aggregator's URL of that account. -/
def accountLink : String := "/redfish/v1/Managers/6d4a:1/RemoteAccountService/Accounts/3"

/-- The identifier of the manager in it is one segment without marks. -/
lemma isMember_accountLink : IsMember "6d4a:1" := ⟨by decide, by decide⟩

/-- No text of the account that is read from that device holds the device's account service. -/
theorem remoteAccount_answers_of_read :
    ∃ v, (((Aggregator.mk ⟨"https", .standard⟩ .ok none).readRemoteAccount "6d4a:1"
        accountLink).run.run World.handle (accountDevice 200)).1 = .ok v ∧
      v.EveryText fun t => WithoutAccountPath t.toList := by
  obtain ⟨v, hv⟩ : ∃ v, (((Aggregator.mk ⟨"https", .standard⟩ .ok none).readRemoteAccount "6d4a:1"
      accountLink).run.run World.handle (accountDevice 200)).1 = .ok v :=
    exists_ok_of_isOk (by decide +kernel)
  obtain ⟨text, -, -, htexts⟩ := (remoteAccount_answers isMember_accountLink
    ⟨⟨"https", .standard⟩, .ok, none⟩ World.handle (accountDevice 200) accountLink).1 v hv
  refine ⟨v, hv, htexts (by decide) ?_⟩
  rintro event hevent plugin call response rfl - -
  obtain ⟨reply, hreply, hreaction⟩ := World.prepared _ hevent
  rw [List.mem_singleton.mp hreply] at hreaction
  cases hreaction
  rw [lossy_of_fromUTF8? (Text.fromUTF8?_toUTF8 accountDocument)]
  decide

/-- The deletion of the account, answered with 201, shows the device's account service. -/
theorem deleteRemoteAccount_of_created :
    (IsMember "6d4a:1" ∧ '\\' ∉ accountDocument.toList) ∧
      ∃ answer, (((Aggregator.mk ⟨"https", .standard⟩ .ok none).deleteRemoteAccount "6d4a:1"
          accountLink).run.run World.handle (accountDevice 201)).1 = .ok answer ∧
        ¬WithoutAccountPath answer.body.toList := by
  have hbody : (((Aggregator.mk ⟨"https", .standard⟩ .ok none).deleteRemoteAccount "6d4a:1"
      accountLink).run.run World.handle (accountDevice 201)).1.toOption.map DeviceResponse.body =
        some "\x7b\"@odata.id\":\"/redfish/v1/AccountService/Accounts/3\"\x7d" := by
    decide +kernel
  have hleft : ¬WithoutAccountPath
      "\x7b\"@odata.id\":\"/redfish/v1/AccountService/Accounts/3\"\x7d".toList := by
    decide +kernel
  refine ⟨⟨isMember_accountLink, by decide⟩, ?_⟩
  cases hanswer : (((Aggregator.mk ⟨"https", .standard⟩ .ok none).deleteRemoteAccount "6d4a:1"
      accountLink).run.run World.handle (accountDevice 201)).1 with
  | error e =>
    rw [hanswer] at hbody
    cases hbody
  | ok answer =>
    rw [hanswer] at hbody
    exact ⟨answer, rfl, (Option.some.inj hbody).symm ▸ hleft⟩

end PluginGateway
