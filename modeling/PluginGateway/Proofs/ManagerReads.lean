import PluginGateway.Proofs.AccountLinks
import PluginGateway.Proofs.StoredResources

/-!
# How a resource under a manager is read

A resource under a manager is looked for in the store first, in the table that its URL names.
`ManagerRun` says what follows, for each kind of manager and each answer of the store: a record
that is found is the result, and only a record that is missing is asked for elsewhere, at the plugin
behind a plain manager or at the device of a device's manager.

The main statement, `managersResource_run`, says that every read goes so, whatever the store and the
network answer.
-/

namespace PluginGateway

/-- The name of the field that says of which type a record is. -/
def typeField : String := "@odata.type"

/-- The fields are the others with a type given: the type is as said, every other field is found as
before, and the order of the fields is kept, with a new one at the end. -/
structure TypeGiven (type : String) (fields fields' : List (String × Json)) : Prop where
  /-- The type is found. -/
  type : fields'.lookup typeField = some (.string type)
  /-- Every other field is found as before. -/
  others : ∀ name, name ≠ typeField → fields'.lookup name = fields.lookup name
  /-- The names keep their order. -/
  names : fields'.map Prod.fst = fields.map Prod.fst ∨
    typeField ∉ fields.map Prod.fst ∧ fields'.map Prod.fst = fields.map Prod.fst ++ [typeField]

/-- The second record is the first one as a record of the table: an object is given the type of the
table, if the table has one, and any other record stays. -/
inductive Stamped (table : String) : Json → Json → Prop
  /-- An object in a table of a known type. -/
  | typed (type : String) (htype : odataTypes.lookup table = some type)
      (fields fields' : List (String × Json)) (hfields : TypeGiven type fields fields') :
    Stamped table (.object fields) (.object fields')
  /-- A record that is no object. -/
  | other (record : Json) (hrecord : record.isObject = false) : Stamped table record record
  /-- A record in a table without a type. -/
  | unknown (record : Json) (htable : odataTypes.lookup table = none) : Stamped table record record

/-- The identifier is that of the manager of a device. -/
structure IsManagerOf (managerId uuid : String) : Prop where
  /-- The identifier of the device comes first, and a colon and a local name behind it. -/
  eq_managerIdOf : ∃ localName, managerId = managerIdOf uuid localName
  /-- The identifier of the device ends at the first colon. -/
  colon : ':' ∉ uuid.toList

/-- What follows the look into the store, given what was found there and the state after it: the
events behind it, and the result with the state after these. -/
inductive ManagerRun {σ : Type} (handle : (action : FlowAction) → σ → action.Answer × σ)
    (g : Aggregator) (managerId table url : String) :
    Except FlowError Json × σ → List FlowEvent → Except FlowError Json × σ → Prop
  /-- A record is found for a plain manager. -/
  | stored (hplain : ':' ∉ managerId.toList) (record : Json) (s : σ) :
    ManagerRun handle g managerId table url (.ok record, s) [] (.ok record, s)
  /-- A record is found for the manager of a device. -/
  | storedOfDevice (uuid : String) (huuid : IsManagerOf managerId uuid) (record record' : Json)
      (h : Stamped table record record') (s : σ) :
    ManagerRun handle g managerId table url (.ok record, s) [] (.ok record', s)
  /-- Nothing is found for the aggregator's own manager, for whatever reason. -/
  | own (hplain : ':' ∉ managerId.toList) (hroot : g.rootUuid = some managerId) (e : FlowError)
      (s : σ) :
    ManagerRun handle g managerId table url (.error e, s) []
      (.error (.internal ("unable to get aggregator manager details: " ++ e.message)), s)
  /-- The store fails, for any other manager. -/
  | failing (hother : ':' ∈ managerId.toList ∨ g.rootUuid ≠ some managerId) (e : FlowError)
      (he : ∀ kind identifier, e ≠ .notFound kind identifier) (s : σ) :
    ManagerRun handle g managerId table url (.error e, s) [] (.error e, s)
  /-- The record is missing for another plain manager, and its plugin is asked. -/
  | missing (hplain : ':' ∉ managerId.toList) (hother : g.rootUuid ≠ some managerId)
      (kind identifier : String) (s : σ) :
    ManagerRun handle g managerId table url (.error (.notFound kind identifier), s)
      ((g.pluginManagerResource managerId url).run.history handle s)
      ((g.pluginManagerResource managerId url).run.run handle s)
  /-- The record is missing for the manager of a device, and the device cannot be read. -/
  | unread (uuid : String) (huuid : IsManagerOf managerId uuid) (kind identifier : String)
      (s s' : σ) (e : FlowError) (h : (g.deviceText uuid url).run.run handle s = (.error e, s')) :
    ManagerRun handle g managerId table url (.error (.notFound kind identifier), s)
      ((g.deviceText uuid url).run.history handle s) (.error (.notFound table managerId), s')
  /-- The record is missing for the manager of a device, and what is read there is no document. -/
  | unparsed (uuid : String) (huuid : IsManagerOf managerId uuid) (kind identifier : String)
      (s s' : σ) (text : String) (h : (g.deviceText uuid url).run.run handle s = (.ok text, s'))
      (fault : Json.SyntaxError) (hparse : Json.parse text = .error fault) :
    ManagerRun handle g managerId table url (.error (.notFound kind identifier), s)
      ((g.deviceText uuid url).run.history handle s)
      (.error (.internal ("device resource " ++ url ++ " is not valid JSON: " ++ fault.message)),
        s')
  /-- The record is missing for the manager of a device, and is read there. -/
  | fetched (uuid : String) (huuid : IsManagerOf managerId uuid) (kind identifier : String)
      (s s' : σ) (text : String) (h : (g.deviceText uuid url).run.run handle s = (.ok text, s'))
      (record record' : Json) (hparse : Json.parse text = .ok record)
      (hrecord : Stamped table record record') :
    ManagerRun handle g managerId table url (.error (.notFound kind identifier), s)
      ((g.deviceText uuid url).run.history handle s) (.ok record', s')

/-! ## Types of records -/

/-- A field that is put among others gives a type, if it is the field for it. -/
lemma typeGiven_put (type : String) (fields : List (String × Json)) :
    TypeGiven type fields (Keyed.put typeField (.string type) fields) where
  type := Keyed.lookup_put_self typeField _ fields
  others name hname := Keyed.lookup_put_of_ne hname _ fields
  names := by
    by_cases hfield : typeField ∈ fields.map Prod.fst
    · exact .inl (Keyed.keys_put_of_mem hfield)
    · refine .inr ⟨hfield, ?_⟩
      rw [Keyed.put_of_not_mem hfield, List.map_append]
      rfl

/-- A record is stamped by giving it the type of its table. -/
lemma stamped_stampType (table : String) (record : Json) :
    Stamped table record (stampType table record) := by
  unfold stampType
  cases htype : odataTypes.lookup table with
  | none => exact .unknown record htype
  | some type =>
    cases record with
    | object fields => exact .typed type htype fields _ (typeGiven_put type fields)
    | _ => exact .other _ rfl

/-! ## Kinds of managers -/

/-- An identifier that is not taken apart is plain. -/
lemma not_mem_of_splitManagerId?_eq_none {managerId : String}
    (h : splitManagerId? managerId = none) : ':' ∉ managerId.toList := by
  simpa [splitManagerId?] using h

/-- An identifier that is taken apart is that of the manager of a device. -/
lemma isManagerOf_of_splitManagerId? {managerId uuid localName : String}
    (h : splitManagerId? managerId = some (uuid, localName)) : IsManagerOf managerId uuid := by
  simp only [splitManagerId?, Option.ite_none_right_eq_some, Option.some.injEq,
    Prod.mk.injEq] at h
  obtain ⟨hcolon, rfl, -⟩ := h
  have hmem : ':' ∈ managerId.toList := by simpa using hcolon
  refine ⟨?_, fun hmem' => ?_⟩
  · have hne : managerId.toList.dropWhile (· ≠ ':') ≠ [] := by
      rw [Ne, List.dropWhile_eq_nil_iff]
      exact fun h => absurd (h ':' hmem) (by simp)
    obtain ⟨c, rest, hdrop⟩ := List.exists_cons_of_ne_nil hne
    have hfirst := List.head?_dropWhile_not (fun c => decide (c ≠ ':')) managerId.toList
    rw [hdrop] at hfirst
    obtain rfl : c = ':' := by simpa using hfirst
    refine ⟨String.ofList rest, String.toList_injective ?_⟩
    have hwhole := List.takeWhile_append_dropWhile (p := fun c => decide (c ≠ ':'))
      (l := managerId.toList)
    rw [hdrop] at hwhole
    simpa [managerIdOf] using hwhole.symm
  · rw [String.toList_ofList] at hmem'
    exact absurd (List.mem_takeWhile_imp hmem') (by simp)

/-! ## Reads -/

section Handler

variable {σ : Type} (handle : (action : FlowAction) → σ → action.Answer × σ) (g : Aggregator)
  (managerId table url : String)

/-- A failure of the store is that of a missing record, or any other. -/
lemma FlowError.isNotFound_iff (e : FlowError) :
    e.isNotFound = true ↔ ∃ kind identifier, e = .notFound kind identifier := by
  cases e <;> simp [FlowError.isNotFound]

/-- A flow that looks into the store and goes on with what it found. -/
lemma run_findResource_bind {f : Except FlowError Json → Flow Json} (s : σ) :
    (Flow.attempt (Flow.findResource table url) >>= f).run.history handle s =
        ⟨.findResource table url, (handle (.findResource table url) s).1⟩ ::
          (f (handle (.findResource table url) s).1).run.history handle
            (handle (.findResource table url) s).2 ∧
      (Flow.attempt (Flow.findResource table url) >>= f).run.run handle s =
        (f (handle (.findResource table url) s).1).run.run handle
          (handle (.findResource table url) s).2 := by
  have hrun : (Flow.attempt (Flow.findResource table url)).run.run handle s =
      (.ok (handle (.findResource table url) s).1, (handle (.findResource table url) s).2) :=
    run_attempt handle _ s
  rw [history_flow_bind hrun, run_flow_bind hrun, history_attempt]
  exact ⟨rfl, rfl⟩

/-- A resource under a manager without a device is read as said. -/
lemma plainManagerResource_run (hplain : ':' ∉ managerId.toList) (s : σ) :
    ∃ events, (g.plainManagerResource managerId table url).run.history handle s =
        ⟨.findResource table url, (handle (.findResource table url) s).1⟩ :: events ∧
      ManagerRun handle g managerId table url (handle (.findResource table url) s) events
        ((g.plainManagerResource managerId table url).run.run handle s) := by
  unfold Aggregator.plainManagerResource
  obtain ⟨hhistory, hrun⟩ := run_findResource_bind handle table url s
  refine ⟨_, hhistory, ?_⟩
  rw [hrun]
  rcases handle (.findResource table url) s with ⟨e | record, s'⟩
  · by_cases hroot : g.rootUuid = some managerId
    · simp only [Aggregator.isRootManager, hroot, beq_self_eq_true, if_true]
      exact .own hplain hroot e s'
    · have hother : g.isRootManager managerId = false := by
        simpa [Aggregator.isRootManager] using hroot
      simp only [hother, Bool.false_eq_true, if_false]
      by_cases hmissing : e.isNotFound = true
      · obtain ⟨kind, identifier, rfl⟩ := e.isNotFound_iff.mp hmissing
        exact .missing hplain hroot kind identifier s'
      · simp only [hmissing]
        refine .failing (.inr hroot) e (fun kind identifier h => hmissing ?_) s'
        exact e.isNotFound_iff.mpr ⟨kind, identifier, h⟩
  · exact .stored hplain record s'

/-- What is not stored under the manager of a device is read from the device as said. -/
lemma fetchedResource_run {uuid : String} (huuid : IsManagerOf managerId uuid)
    (kind identifier : String) (s : σ) :
    ManagerRun handle g managerId table url (.error (.notFound kind identifier), s)
      ((stampType table <$> g.fetchedResource managerId uuid table url).run.history handle s)
      ((stampType table <$> g.fetchedResource managerId uuid table url).run.run handle s) := by
  have hsilent : ((stampType table <$> g.fetchedResource managerId uuid table url)).run.history
      handle s = (g.deviceText uuid url).run.history handle s := by
    rw [map_eq_pure_bind, history_flow_bind_of_silent fun _ _ => rfl, Aggregator.fetchedResource,
      history_flow_bind_of_silent, history_flow_orFail]
    intro text s
    split <;> rfl
  rw [hsilent, map_eq_pure_bind]
  rcases hrun : (g.deviceText uuid url).run.run handle s with ⟨e | text, s'⟩
  · have htext : ((g.deviceText uuid url).orFail fun _ => .notFound table managerId).run.run
        handle s = (.error (.notFound table managerId), s') := by
      rw [run_flow_orFail, hrun]
      rfl
    have hfetched : (g.fetchedResource managerId uuid table url).run.run handle s =
        (.error (.notFound table managerId), s') := run_flow_bind_error htext
    rw [run_flow_bind_error hfetched]
    exact .unread uuid huuid kind identifier s s' e hrun
  · have htext : ((g.deviceText uuid url).orFail fun _ => .notFound table managerId).run.run
        handle s = (.ok text, s') := by
      rw [run_flow_orFail, hrun]
      rfl
    cases hparse : Json.parse text with
    | error fault =>
      have hfetched : (g.fetchedResource managerId uuid table url).run.run handle s =
          (.error (.internal ("device resource " ++ url ++ " is not valid JSON: " ++
            fault.message)), s') := by
        rw [Aggregator.fetchedResource, run_flow_bind htext, hparse]
        rfl
      rw [run_flow_bind_error hfetched]
      exact .unparsed uuid huuid kind identifier s s' text hrun fault hparse
    | ok record =>
      have hfetched : (g.fetchedResource managerId uuid table url).run.run handle s =
          (.ok record, s') := by
        rw [Aggregator.fetchedResource, run_flow_bind htext, hparse]
        rfl
      rw [run_flow_bind hfetched]
      exact .fetched uuid huuid kind identifier s s' text hrun record _ hparse
        (stamped_stampType table record)

/-- A resource under the manager of a device is read as said. -/
lemma deviceManagerResource_run {uuid : String} (huuid : IsManagerOf managerId uuid) (s : σ) :
    ∃ events, (g.deviceManagerResource managerId uuid table url).run.history handle s =
        ⟨.findResource table url, (handle (.findResource table url) s).1⟩ :: events ∧
      ManagerRun handle g managerId table url (handle (.findResource table url) s) events
        ((g.deviceManagerResource managerId uuid table url).run.run handle s) := by
  unfold Aggregator.deviceManagerResource
  obtain ⟨hhistory, hrun⟩ := run_findResource_bind handle table url s
  refine ⟨_, hhistory, ?_⟩
  rw [hrun]
  rcases handle (.findResource table url) s with ⟨e | record, s'⟩
  · dsimp only
    by_cases hmissing : e.isNotFound = true
    · obtain ⟨kind, identifier, rfl⟩ := e.isNotFound_iff.mp hmissing
      rw [if_pos hmissing, ← map_eq_pure_bind]
      exact fetchedResource_run handle g managerId table url huuid kind identifier s'
    · rw [if_neg hmissing]
      obtain ⟨localName, rfl⟩ := huuid.eq_managerIdOf
      refine .failing (.inl (by simp [managerIdOf])) e (fun kind identifier h => hmissing ?_) s'
      exact e.isNotFound_iff.mpr ⟨kind, identifier, h⟩
  · exact .storedOfDevice uuid huuid record _ (stamped_stampType table record) s'

/-- Every read of a resource under a manager looks into the store first, once, and goes on as said,
whatever the store and the network answer. A record that is found is the result, stamped with the
type of its table for the manager of a device, and nothing is sent. If the store fails, nothing is
sent either: the aggregator's own manager answers an internal error for any failure, and other
managers answer any failure but a missing record as it is. If the record is missing, a plain manager
is read from its plugin, with the calls and the result of that; and a resource under the manager of
a device is read from the device, with the calls of that: a failure becomes that of a missing
record of the table, a text that is no document an internal error, and a document is stamped as a
stored record is. -/
theorem managersResource_run (member : Option String) (s : σ) :
    ∃ events, (g.managersResource managerId member url).run.history handle s =
        ⟨.findResource (resourceTable url member.isSome) url,
          (handle (.findResource (resourceTable url member.isSome) url) s).1⟩ :: events ∧
      ManagerRun handle g managerId (resourceTable url member.isSome) url
        (handle (.findResource (resourceTable url member.isSome) url) s) events
        ((g.managersResource managerId member url).run.run handle s) := by
  unfold Aggregator.managersResource
  cases hsplit : splitManagerId? managerId with
  | none =>
    exact plainManagerResource_run handle g managerId _ url
      (not_mem_of_splitManagerId?_eq_none hsplit) s
  | some parts =>
    exact deviceManagerResource_run handle g managerId _ url
      (isManagerOf_of_splitManagerId? hsplit) s

end Handler

end PluginGateway
