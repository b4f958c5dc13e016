import PluginGateway.Proofs.LinkRoundTrip
import PluginGateway.Proofs.SegmentScan
import PluginGateway.Proofs.ValidAnswers

/-!
# Following a link of an account service

In an answer for a manager the account service of the device is moved below the manager, on top of
the other rewrites of links; a request moves it back. The two moves replace several segments at
once, so it has to be seen that no other place of a path looks like one that was moved:
`toAccountService_toRemoteAccountService` says that the moves undo each other for paths in which the
aggregator's name of the service does not occur.

The main statement, `readRemoteAccount_link`, says that the link that a manager's answer shows for a
path of the plugin leads back to this path, and that reading the link is a request to the device for
it. It leaves identifiers of devices with a colon aside there, since the identifier of a manager is
taken apart at its first colon; `readRemoteAccount_link_of_colon` shows what happens with one.
-/

namespace PluginGateway

open PluginGateway.Path

/-! ## The two moves of an account service -/

/-- The device's path of its account service. -/
def accountPath : List Segment := ["v1".toList, "AccountService".toList]

/-- The path of the account service below a manager. -/
def managerAccountPath (managerId : String) : List Segment :=
  ["v1".toList, "Managers".toList, managerId.toList, remoteAccountService.toList]

/-- The segments of the one path become those of the other: from the left, the account service is
replaced by that below the manager, and every other segment stays. -/
inductive MovedBelow (managerId : String) : List Segment → List Segment → Prop
  /-- The path is over. -/
  | nil : MovedBelow managerId [] []
  /-- The account service comes first. -/
  | service {path path' : List Segment} (h : MovedBelow managerId path path') :
    MovedBelow managerId (accountPath ++ path) (managerAccountPath managerId ++ path')
  /-- Another segment comes first. -/
  | other {s : Segment} {path path' : List Segment} (hs : ¬accountPath <+: s :: path)
    (h : MovedBelow managerId path path') : MovedBelow managerId (s :: path) (s :: path')

/-- The rule that moves an account service back from below a manager. -/
def accountReturnRule (managerId : String) : Rule :=
  ⟨"Managers".toList, [managerId.toList, remoteAccountService.toList], ["AccountService".toList]⟩

/-- The identifier of a manager is one segment without marks. -/
structure IsMember (managerId : String) : Prop where
  /-- It is a segment. -/
  isSegment : IsSegment managerId.toList
  /-- It has no marks. -/
  isRun : IsRun managerId.toList

/-- A path of segments has these as its proper segments. -/
lemma properSegments_joined {path : List Segment} (hne : path ≠ []) (h : ∀ s ∈ path, IsSegment s) :
    properSegments (joined path) = path := by
  rw [properSegments, segments_joined hne fun s hs => (h s hs).2, List.filter_eq_self]
  intro s hs
  simpa using (h s hs).1

section Moves

variable {managerId : String} (hmember : IsMember managerId)

include hmember

/-- The path of a manager's account service is made of segments. -/
lemma isSegment_of_account {s : Segment} (hs : s ∈ managerAccountPath managerId) :
    IsSegment s := by
  simp only [managerAccountPath, List.mem_cons, List.not_mem_nil, or_false] at hs
  rcases hs with rfl | rfl | rfl | rfl
  · decide
  · decide
  · exact hmember.isSegment
  · decide

/-- The account service is moved below the manager. -/
lemma target_accountRule : (accountRule managerId).target = managerAccountPath managerId := by
  have htext : ("v1/Managers/" ++ managerId ++ "/" ++ remoteAccountService).toList =
      joined (managerAccountPath managerId) := by
    simp [joined, Text.join, managerAccountPath, remoteAccountService]
  rw [accountRule, htext]
  exact properSegments_joined (List.cons_ne_nil _ _) fun s hs => isSegment_of_account hmember hs

/-- The account service is moved back by its rule. -/
lemma toAccountService_toList (url : String) :
    (toAccountService managerId url).toList =
      Table.apply ⟨[accountReturnRule managerId]⟩ url.toList := by
  have htext : ("Managers/" ++ managerId ++ "/" ++ remoteAccountService).toList =
      joined ["Managers".toList, managerId.toList, remoteAccountService.toList] := by
    simp [joined, Text.join, remoteAccountService]
  have hsource : properSegments ("Managers/" ++ managerId ++ "/" ++ remoteAccountService).toList =
      ["Managers".toList, managerId.toList, remoteAccountService.toList] := by
    rw [htext]
    exact properSegments_joined (List.cons_ne_nil _ _) fun s hs =>
      isSegment_of_account hmember (List.mem_cons_of_mem _ hs)
  have hrule : Rule.ofPair? (("Managers/" ++ managerId ++ "/" ++ remoteAccountService).toList,
      "AccountService".toList) = some (accountReturnRule managerId) := by
    rw [Rule.ofPair?, hsource]
    rfl
  rw [toAccountService, String.toList_ofList, Table.ofPairs, List.filterMap_cons, hrule]
  rfl

end Moves

/-- A rule matches where its source stands. -/
lemma ruleAt?_single (r : Rule) (path : List Segment) :
    Table.ruleAt? ⟨[r]⟩ path = if r.source <+: path then some r else none := by
  simp only [Table.ruleAt?, List.find?_cons, List.find?_nil, Rule.Matches]
  by_cases h : r.source <+: path
  · simp only [List.isPrefixOf_iff_prefix.mpr h, if_pos h]
  · simp only [Bool.eq_false_iff.mpr (mt List.isPrefixOf_iff_prefix.mp h), if_neg h]

/-- The segments of a path after the move are segments of the path or of its target. -/
lemma mem_rewritten_account {managerId : String} {path : List Segment} {s : Segment}
    (hs : s ∈ Table.rewritten ⟨[accountRule managerId]⟩ path) :
    s ∈ path ∨ s ∈ (accountRule managerId).target := by
  rcases Table.mem_rewritten hs with hs | ⟨r, hr, hs⟩
  · exact .inl hs
  · rw [List.mem_singleton.mp hr] at hs
    exact .inr hs

/-- No segment of a path run has marks or slashes after the move. -/
lemma isRun_of_mem_rewritten_account {managerId : String} (hmember : IsMember managerId)
    {r : List Char} (hr : IsRun r) {s : Segment}
    (hs : s ∈ Table.rewritten ⟨[accountRule managerId]⟩ (segments r)) : IsRun s ∧ '/' ∉ s := by
  rcases mem_rewritten_account hs with hs | hs
  · exact ⟨isRun_of_mem_segments hr hs, slash_not_mem_of_mem_segments hs⟩
  · rw [target_accountRule hmember] at hs
    refine ⟨?_, (isSegment_of_account hmember hs).2⟩
    simp only [managerAccountPath, List.mem_cons, List.not_mem_nil, or_false] at hs
    rcases hs with rfl | rfl | rfl | rfl
    · decide
    · decide
    · exact hmember.isRun
    · decide

/-- The rule of the account service moves it in a path. -/
lemma movedBelow_rewritten {managerId : String} (hmember : IsMember managerId)
    (path : List Segment) :
    MovedBelow managerId path (Table.rewritten ⟨[accountRule managerId]⟩ path) := by
  -- The induction is on the length, since a move takes two segments at once.
  induction hlength : path.length using Nat.strong_induction_on generalizing path with
  | _ n ih =>
    cases path with
    | nil => exact .nil
    | cons s rest =>
      have hrule : Table.ruleAt? ⟨[accountRule managerId]⟩ (s :: rest) =
          if accountPath <+: s :: rest then some (accountRule managerId) else none :=
        ruleAt?_single (accountRule managerId) (s :: rest)
      by_cases hmatch : accountPath <+: s :: rest
      · rw [if_pos hmatch] at hrule
        obtain ⟨later, hlater⟩ := hmatch
        have hshorter : later.length < n := by
          rw [← hlength, ← hlater, List.length_append]
          exact Nat.lt_add_of_pos_left (by decide)
        obtain ⟨rfl, rfl⟩ := List.cons.inj hlater
        rw [Table.rewritten_of_rule hrule, target_accountRule hmember]
        exact .service (ih later.length hshorter later rfl)
      · rw [if_neg hmatch] at hrule
        rw [Table.rewritten_of_none hrule]
        exact .other hmatch (ih rest.length (by simp [← hlength]) rest rfl)

/-- A moved path is moved back, if what is behind it is. -/
lemma rewritten_account_return {managerId : String} {path later : List Segment}
    (h : Table.rewritten ⟨[accountReturnRule managerId]⟩ path = later) :
    Table.rewritten ⟨[accountReturnRule managerId]⟩ (managerAccountPath managerId ++ path) =
      accountPath ++ later := by
  have hpath : managerAccountPath managerId ++ path =
      "v1".toList :: "Managers".toList :: managerId.toList :: remoteAccountService.toList ::
        path := rfl
  have hstays : ¬(accountReturnRule managerId).source <+: "v1".toList :: "Managers".toList ::
      managerId.toList :: remoteAccountService.toList :: path := by
    intro hmatch
    have hfirst : "Managers".toList = "v1".toList := (List.cons_prefix_cons.mp hmatch).1
    exact absurd hfirst (by decide)
  have hreturns : (accountReturnRule managerId).source <+:
      "Managers".toList :: managerId.toList :: remoteAccountService.toList :: path :=
    ⟨path, rfl⟩
  rw [hpath, Table.rewritten_of_none (by rw [ruleAt?_single, if_neg hstays]),
    Table.rewritten_of_rule (by rw [ruleAt?_single, if_pos hreturns])]
  exact congrArg (accountPath ++ ·) h

namespace MovedBelow

variable {managerId : String} {path path' : List Segment}

/-- A segment with which no moved path begins is not the work of the move. -/
lemma eq_cons {later : List Segment} {s : Segment} (hs : s ≠ "v1".toList)
    (h : MovedBelow managerId path (s :: later)) :
    ∃ rest, path = s :: rest ∧ MovedBelow managerId rest later := by
  generalize hpath' : s :: later = path' at h
  cases h with
  | nil => cases hpath'
  | service h => exact absurd (List.cons.inj hpath').1 hs
  | other hs h =>
    obtain ⟨rfl, rfl⟩ := List.cons.inj hpath'
    exact ⟨_, rfl, h⟩

/-- The two moves undo each other on segments, if none is the aggregator's name of the service. -/
lemma rewritten_return (h : MovedBelow managerId path path')
    (hmanager : managerId.toList ≠ "v1".toList) (hpath : remoteAccountService.toList ∉ path) :
    Table.rewritten ⟨[accountReturnRule managerId]⟩ path' = path := by
  induction h with
  | nil => rfl
  | service _ ih =>
    exact rewritten_account_return (ih fun hmem => hpath (List.mem_append_right _ hmem))
  | @other s path path' _ h ih =>
    -- What looks like a moved path here would have been one before.
    have hreturn : ¬(accountReturnRule managerId).source <+: s :: path' := by
      rintro ⟨later, hlater⟩
      obtain ⟨-, rfl⟩ := List.cons.inj hlater
      obtain ⟨rest, rfl, hrest⟩ := h.eq_cons hmanager
      obtain ⟨rest', rfl, -⟩ := hrest.eq_cons (by decide)
      exact hpath (by simp)
    rw [Table.rewritten_of_none (by rw [ruleAt?_single, if_neg hreturn]),
      ih fun hmem => hpath (List.mem_cons_of_mem _ hmem)]

end MovedBelow

/-- The two moves of an account service undo each other on a path in which the aggregator's name of
the service does not occur. -/
theorem toAccountService_toRemoteAccountService {managerId text : String}
    (hmember : IsMember managerId) (hmanager : managerId.toList ≠ "v1".toList)
    (hrun : IsRun text.toList) (hslash : '/' ∈ text.toList)
    (hname : remoteAccountService.toList ∉ segments text.toList) :
    toAccountService managerId (toRemoteAccountService managerId text) = text := by
  have hmoved : (toRemoteAccountService managerId text).toList =
      joined (Table.rewritten ⟨[accountRule managerId]⟩ (segments text.toList)) := by
    rw [toRemoteAccountService_toList, replaceRuns_of_isRun hrun, if_pos hslash,
      Table.replace?_getD _ hrun]
  have hsegment : ∀ s ∈ Table.rewritten ⟨[accountRule managerId]⟩ (segments text.toList),
      IsRun s ∧ '/' ∉ s := fun s hs => isRun_of_mem_rewritten_account hmember hrun hs
  have hmoves := movedBelow_rewritten hmember (segments text.toList)
  have hback := hmoves.rewritten_return hmanager hname
  have hne : Table.rewritten ⟨[accountRule managerId]⟩ (segments text.toList) ≠ [] := by
    intro h
    rw [h] at hback
    exact segments_ne_nil text.toList hback.symm
  have hrun' : IsRun (toRemoteAccountService managerId text).toList := by
    rw [hmoved]
    exact isRun_joined fun s hs => (hsegment s hs).1
  refine String.toList_injective ?_
  rw [toAccountService_toList hmember, Table.apply, Table.replace?_getD _ hrun', hmoved,
    segments_joined hne fun s hs => (hsegment s hs).2, hback, joined_segments]

/-! ## Links of a manager's account service -/

/-- The identifier of a device's manager, with a local name. -/
def managerIdOf (uuid localName : String) : String := uuid ++ ":" ++ localName

/-- The link that a manager's answer shows for a path of a plugin. -/
def remoteLink (uuid managerId p : String) : String :=
  toRemoteAccountService managerId (String.ofList (link .standard uuid p))

/-- The path is one of a plugin, for a device: it has no marks and more than one segment, and no
segment is one of the names that the aggregator uses or begins with the qualifier of the device. -/
structure IsPluginPath (uuid p : String) : Prop where
  /-- The path has no marks. -/
  isRun : IsRun p.toList
  /-- The path holds a slash. -/
  slash : '/' ∈ p.toList
  /-- No segment is the aggregator's name of the service root. -/
  redfish : "redfish".toList ∉ segments p.toList
  /-- No segment is the aggregator's name of the account service. -/
  account : remoteAccountService.toList ∉ segments p.toList
  /-- No segment begins with the qualifier. -/
  unqualified : ∀ s ∈ segments p.toList, ¬qualifier uuid.toList <+: s

/-- The standard conversion renames one to one. -/
lemma oneToOne_standard : OneToOne [("redfish".toList, "ODIM".toList)] :=
  ⟨by decide, by decide, by decide, by decide⟩

section Links

variable {uuid localName p : String} (huuid : IsRun uuid.toList) (hslashless : '/' ∉ uuid.toList)

include huuid hslashless

/-- The identifier of a device's manager is one segment without marks. -/
lemma isMember_managerIdOf (hlocal : IsRun localName.toList)
    (hlocalslash : '/' ∉ localName.toList) : IsMember (managerIdOf uuid localName) := by
  have hchars : (managerIdOf uuid localName).toList = uuid.toList ++ ':' :: localName.toList := by
    simp [managerIdOf]
  refine ⟨⟨?_, ?_⟩, ?_⟩
  · simp [hchars]
  · simp [hchars, hslashless, hlocalslash]
  · intro c hc
    rw [hchars] at hc
    rcases List.mem_append.mp hc with hc | hc
    · exact huuid c hc
    · rcases List.mem_cons.mp hc with rfl | hc
      · decide
      · exact hlocal c hc

/-- The aggregator's name of the account service does not come into a link for a path of a plugin by
the other rewrites. -/
lemma account_not_mem_link (hp : IsPluginPath uuid p) :
    remoteAccountService.toList ∉ segments (link .standard uuid p) := by
  have hsegments : segments (link .standard uuid p) = _ :=
    segments_link oneToOne_standard huuid hslashless hp.isRun hp.slash
  rw [hsegments]
  intro hmem
  rcases mem_qualifySegments hmem with hmem | ⟨s, -, hs⟩
  · obtain ⟨s, hs, hname⟩ := List.mem_map.mp hmem
    rcases renamed_eq ([("redfish".toList, "ODIM".toList)].map Prod.swap) s with hsame | hnew
    · exact hp.account (by rwa [← hname, hsame])
    · rw [hname] at hnew
      exact absurd hnew (by decide)
  · have hcolon : ':' ∈ remoteAccountService.toList := by
      rw [hs]
      simp [qualifier]
    exact absurd hcolon (by decide)

/-- The link of a manager's answer is moved back to the link that it was moved from. -/
lemma toAccountService_remoteLink (hlocal : IsRun localName.toList)
    (hlocalslash : '/' ∉ localName.toList) (hp : IsPluginPath uuid p) :
    toAccountService (managerIdOf uuid localName)
        (remoteLink uuid (managerIdOf uuid localName) p) =
      String.ofList (link .standard uuid p) := by
  have hmanager : (managerIdOf uuid localName).toList ≠ "v1".toList := by
    intro h
    have hcolon : ':' ∈ (managerIdOf uuid localName).toList := by simp [managerIdOf]
    rw [h] at hcolon
    exact absurd hcolon (by decide)
  refine toAccountService_toRemoteAccountService
    (isMember_managerIdOf huuid hslashless hlocal hlocalslash) hmanager ?_ ?_ ?_
  · rw [String.toList_ofList]
    exact isRun_link oneToOne_standard huuid hslashless hp.isRun hp.slash
  · rw [String.toList_ofList]
    exact slash_mem_link oneToOne_standard hp.isRun hp.slash
  · rw [String.toList_ofList]
    exact account_not_mem_link huuid hslashless hp

end Links

/-- The device of a manager is found in its identifier, up to the first colon. -/
lemma deviceOfManager_managerIdOf {uuid : String} (hcolon : ':' ∉ uuid.toList)
    (localName : String) :
    deviceOfManager (managerIdOf uuid localName) = .ok uuid := by
  have hchars : (managerIdOf uuid localName).toList = uuid.toList ++ ':' :: localName.toList := by
    simp [managerIdOf]
  have hcontains : (managerIdOf uuid localName).toList.contains ':' = true := by
    simp [hchars]
  have htake : (managerIdOf uuid localName).toList.takeWhile (· ≠ ':') = uuid.toList := by
    rw [hchars, List.takeWhile_append_of_pos]
    · simp
    · intro c hc
      have hne : c ≠ ':' := fun h => hcolon (h ▸ hc)
      simpa using hne
  simp only [deviceOfManager, splitManagerId?, hcontains, if_true, htake, String.ofList_toList]

variable {σ : Type} (handle : (action : FlowAction) → σ → action.Answer × σ)

/-- Reading an account asks for what the request to the device of the manager asks for. -/
lemma history_readRemoteAccount (g : Aggregator) {managerId uuid : String}
    (hdevice : deviceOfManager managerId = .ok uuid) (url : String) (s : σ) :
    (g.readRemoteAccount managerId url).run.history handle s =
      (g.deviceRequest { uuid, url := toAccountService managerId url }).run.history handle s := by
  have htext : (g.deviceText uuid (toAccountService managerId url)).run.history handle s =
      (g.deviceRequest { uuid, url := toAccountService managerId url }).run.history handle s :=
    history_flow_bind_of_silent fun _ _ => rfl
  have haccount : (g.accountText managerId uuid url).run.history handle s =
      (g.deviceText uuid (toAccountService managerId url)).run.history handle s :=
    history_flow_orFail _ _ s
  rw [Aggregator.readRemoteAccount, history_flow_bind (run_deviceOfManager hdevice s)]
  refine (history_flow_bind_of_silent fun text s => ?_).trans (haccount.trans htext)
  split <;> rfl

/-- Following a link of an account service is lossless. Let a path of a plugin hold neither of the
names that only the aggregator uses, and no segment that begins with the qualifier of the device.
The link that an answer for the device's manager shows for it leads back to it. If the identifier of
the device has no colon, reading the link is a request to the device for the link without the move,
and sends, apart from logins, only calls for the path. -/
theorem readRemoteAccount_link {uuid localName p : String} (huuid : IsRun uuid.toList)
    (hslashless : '/' ∉ uuid.toList) (hlocal : IsRun localName.toList)
    (hlocalslash : '/' ∉ localName.toList) (hp : IsPluginPath uuid p) :
    Conversion.standard.devicePath uuid.toList (toAccountService (managerIdOf uuid localName)
        (remoteLink uuid (managerIdOf uuid localName) p)).toList = p.toList ∧
      (':' ∉ uuid.toList → ∀ g : Aggregator, g.client.conversion = .standard →
        ∀ {σ : Type} (handle : (action : FlowAction) → σ → action.Answer × σ) (s : σ),
          (g.readRemoteAccount (managerIdOf uuid localName)
              (remoteLink uuid (managerIdOf uuid localName) p)).run.history handle s =
            (g.deviceRequest
              { uuid, url := String.ofList (link .standard uuid p) }).run.history handle s ∧
          ∃ logins, Punctuated g.client (callsFor g.client .get p)
            ((g.readRemoteAccount (managerIdOf uuid localName)
              (remoteLink uuid (managerIdOf uuid localName) p)).run.history handle s) logins) := by
  have hmoved := toAccountService_remoteLink huuid hslashless hlocal hlocalslash hp
  have hentries := oneToOne_standard
  have hqualifier : ∀ e ∈ [("redfish".toList, "ODIM".toList)], ¬qualifier uuid.toList <+: e.1 := by
    intro e he hprefix
    rw [List.mem_singleton.mp he] at hprefix
    have hcolon : ':' ∈ "redfish".toList := hprefix.subset (by simp [qualifier])
    exact absurd hcolon (by decide)
  have hsegments : ∀ s ∈ segments p.toList, ¬qualifier uuid.toList <+: s ∧
      (s ∈ [("redfish".toList, "ODIM".toList)].map Prod.fst →
        s ∈ [("redfish".toList, "ODIM".toList)].map Prod.snd) := by
    intro s hs
    refine ⟨hp.unqualified s hs, fun hmem => ?_⟩
    rw [List.mem_singleton.mp hmem] at hs
    exact absurd hs hp.redfish
  have hback := devicePath_link_eq hentries huuid hslashless hqualifier hp.isRun hp.slash hsegments
  rw [hmoved, String.toList_ofList]
  refine ⟨hback, fun hcolon g hg σ handle s => ?_⟩
  have hhistory := history_readRemoteAccount handle g
    (deviceOfManager_managerIdOf hcolon localName)
    (remoteLink uuid (managerIdOf uuid localName) p) s
  rw [hmoved] at hhistory
  rw [hhistory]
  refine ⟨rfl, deviceRequest_punctuated ?_ .get none handle s⟩
  rw [hg, String.toList_ofList]
  exact hback

/-- The link for an account of that device, below its manager, leads back to it. -/
theorem readRemoteAccount_link_of_account :
    remoteLink "6d4a" "6d4a:1" "/ODIM/v1/AccountService/Accounts/2" =
        "/redfish/v1/Managers/6d4a:1/RemoteAccountService/Accounts/2" ∧
      toAccountService "6d4a:1" "/redfish/v1/Managers/6d4a:1/RemoteAccountService/Accounts/2" =
        "/redfish/v1/AccountService/Accounts/2" ∧
      Conversion.standard.devicePath "6d4a".toList "/redfish/v1/AccountService/Accounts/2".toList =
        "/ODIM/v1/AccountService/Accounts/2".toList ∧
      ∃ logins, Punctuated ⟨"https", .standard⟩
        (callsFor ⟨"https", .standard⟩ .get "/ODIM/v1/AccountService/Accounts/2")
        (((Aggregator.mk ⟨"https", .standard⟩ .ok none).readRemoteAccount "6d4a:1"
          "/redfish/v1/Managers/6d4a:1/RemoteAccountService/Accounts/2").run.history
            World.handle loneDevice) logins := by
  have hpath : IsPluginPath "6d4a" "/ODIM/v1/AccountService/Accounts/2" :=
    ⟨by decide, by decide, by decide, by decide, by decide⟩
  have hback := @readRemoteAccount_link "6d4a" "1" "/ODIM/v1/AccountService/Accounts/2"
    (by decide) (by decide) (by decide) (by decide) hpath
  have hmanager : managerIdOf "6d4a" "1" = "6d4a:1" := by decide +kernel
  have hlink : remoteLink "6d4a" "6d4a:1" "/ODIM/v1/AccountService/Accounts/2" =
      "/redfish/v1/Managers/6d4a:1/RemoteAccountService/Accounts/2" := by decide +kernel
  have hmoved : toAccountService "6d4a:1"
      "/redfish/v1/Managers/6d4a:1/RemoteAccountService/Accounts/2" =
        "/redfish/v1/AccountService/Accounts/2" := by decide +kernel
  rw [hmanager, hlink, hmoved] at hback
  have hread := hback.2 (by decide) ⟨⟨"https", .standard⟩, .ok, none⟩ rfl World.handle loneDevice
  exact ⟨hlink, hmoved, hback.1, hread.2⟩

/-- A world of two devices behind one plugin, of which the identifier of one begins with that of the
other and a colon. -/
def colonDevices : World where
  network := ⟨[⟨.respond ⟨200, [], "\x7b\x7d".toUTF8⟩, 0⟩], [true], [], [], 0, 0⟩
  inventory := ((Inventory.empty.insertPlugin
    ⟨"GRF", "10.0.0.5", 45001, "admin", "secret", .basic⟩).insertTarget
      ⟨"a:b", "GRF", "10.24.0.14", "root", "calvin".toUTF8⟩).insertTarget
      ⟨"a", "GRF", "10.24.0.14", "root", "calvin".toUTF8⟩
  clock := "now"

/-- With a colon in the identifier of the device, reading a link asks another device, and may ask it
for another path. -/
theorem readRemoteAccount_link_of_colon :
    (IsRun "a:b".toList ∧ '/' ∉ "a:b".toList ∧ IsRun "1".toList ∧ '/' ∉ "1".toList ∧
      IsPluginPath "a:b" "/ODIM/v1/a:x") ∧
    ((((Aggregator.mk ⟨"https", .standard⟩ .ok none).readRemoteAccount (managerIdOf "a:b" "1")
        (remoteLink "a:b" (managerIdOf "a:b" "1") "/ODIM/v1/a:x")).run.run World.handle
          colonDevices).2.network.calls.map fun call => call.2.path) = ["/ODIM/v1/x"] := by
  refine ⟨⟨by decide, by decide, by decide, by decide, ?_⟩, by decide +kernel⟩
  exact ⟨by decide, by decide, by decide, by decide, by decide⟩

end PluginGateway
