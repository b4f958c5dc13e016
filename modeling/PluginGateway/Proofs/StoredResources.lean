import PluginGateway.Proofs.AskedActions
import PluginGateway.Proofs.DeviceConduct

/-!
# What happens to stored resources

A media action posts to a device and, if the device answered with 200, reads the media resource
again and stores it. `MediaRun` says how this goes, with its result and the record that was stored,
if one was; `virtualMediaAction_run` says that every media action goes so, whatever the surroundings
answer.

The main statement, `run_inventory`, is about runs of operations of any length over any inventory:
plugins and devices stay as they are, and a stored resource changes only by a media action that
stored its media resource.
-/

namespace PluginGateway

/-- The events of reading a media resource of a device again, with the record stored, if one is. -/
inductive RefreshRun (g : Aggregator) (uuid url : String) : List FlowEvent → Option Json → Prop
  /-- The resource is not read. -/
  | unread (events : List FlowEvent) (e : FlowError)
      (h : DeviceRun g { uuid, url } events (.error e)) : RefreshRun g uuid url events none
  /-- What is read is no document. -/
  | unparsed (events : List FlowEvent) (answer : DeviceResponse)
      (h : DeviceRun g { uuid, url } events (.ok answer)) (fault : Json.SyntaxError)
      (hparse : Json.parse answer.body = .error fault) : RefreshRun g uuid url events none
  /-- The document is refused by the store. -/
  | refused (events : List FlowEvent) (answer : DeviceResponse)
      (h : DeviceRun g { uuid, url } events (.ok answer)) (record : Json)
      (hparse : Json.parse answer.body = .ok record) (e : FlowError) :
    RefreshRun g uuid url
      (events ++ [⟨.storeResource virtualMediaTable url record, .error e⟩]) none
  /-- The document is stored. -/
  | stored (events : List FlowEvent) (answer : DeviceResponse)
      (h : DeviceRun g { uuid, url } events (.ok answer)) (record : Json)
      (hparse : Json.parse answer.body = .ok record) :
    RefreshRun g uuid url
      (events ++ [⟨.storeResource virtualMediaTable url record, .ok ()⟩]) (some record)

/-- The events of a media action with its result, and the record stored, if one is. What comes of
reading the media resource again leaves the result as it is. -/
inductive MediaRun (g : Aggregator) (managerId url : String) (body : Option Json) :
    List FlowEvent → Except FlowError DeviceResponse → Option Json → Prop
  /-- The document is not one for the action. -/
  | invalid (e : FlowError) (h : Aggregator.mediaActionBody url body = .error e) :
    MediaRun g managerId url body [] (.error e) none
  /-- The manager is not one of a device. -/
  | noDevice (e : FlowError) (h : deviceOfManager managerId = .error e) :
    MediaRun g managerId url body [] (.error e) none
  /-- The action fails. -/
  | failed (posted : Option Json) (hposted : Aggregator.mediaActionBody url body = .ok posted)
      (uuid : String) (huuid : deviceOfManager managerId = .ok uuid) (events : List FlowEvent)
      (e : FlowError)
      (h : DeviceRun g { uuid, url, method := .post, body := posted } events (.error e)) :
    MediaRun g managerId url body events (.error e) none
  /-- The action is answered with another status than 200. -/
  | other (posted : Option Json) (hposted : Aggregator.mediaActionBody url body = .ok posted)
      (uuid : String) (huuid : deviceOfManager managerId = .ok uuid) (events : List FlowEvent)
      (answer : DeviceResponse) (hstatus : answer.status ≠ 200)
      (h : DeviceRun g { uuid, url, method := .post, body := posted } events (.ok answer)) :
    MediaRun g managerId url body events (.ok answer) none
  /-- The action is answered with 200, and the media resource is read again. -/
  | refreshed (posted : Option Json) (hposted : Aggregator.mediaActionBody url body = .ok posted)
      (uuid : String) (huuid : deviceOfManager managerId = .ok uuid) (events : List FlowEvent)
      (answer : DeviceResponse) (hstatus : answer.status = 200)
      (h : DeviceRun g { uuid, url, method := .post, body := posted } events (.ok answer))
      (later : List FlowEvent) (record? : Option Json)
      (hlater : RefreshRun g uuid (mediaUrl url) later record?) :
    MediaRun g managerId url body (events ++ later) (.ok answer) record?

/-- The inventory with a record for a media resource, if there is one. -/
def Inventory.withMedia (i : Inventory) (url : String) : Option Json → Inventory
  | some record => i.insertResource virtualMediaTable url record
  | none => i

/-! ## Media actions -/

section Handler

variable {σ : Type} (handle : (action : FlowAction) → σ → action.Answer × σ) (g : Aggregator)

/-- A flow whose error is its result ends as the flow does. -/
lemma run_attempt {α : Type} (x : Flow α) (s : σ) :
    (Flow.attempt x).run.run handle s = (.ok (x.run.run handle s).1, (x.run.run handle s).2) :=
  Program.run_bind x.run (fun result => .done (Except.ok result)) s

/-- What happens in a flow happens in the flow whose error is its result. -/
lemma history_attempt {α : Type} (x : Flow α) (s : σ) :
    (Flow.attempt x).run.history handle s = x.run.history handle s := by
  have h : (Flow.attempt x).run.history handle s = x.run.history handle s ++
      (Program.done (Except.ok (x.run.run handle s).1)).history handle
        (x.run.run handle s).2 :=
    Program.history_bind x.run
      (fun result => .done (Except.ok result : Except FlowError (Except FlowError α))) s
  rwa [Program.history_done, List.append_nil] at h

/-- Reading the text of a resource of a device is a request to the device. -/
lemma deviceText_run (uuid url : String) (s : σ) :
    DeviceRun g { uuid, url } ((g.deviceText uuid url).run.history handle s)
        ((g.deviceRequest { uuid, url }).run.run handle s).1 ∧
      (g.deviceText uuid url).run.run handle s =
        (((g.deviceRequest { uuid, url }).run.run handle s).1.map DeviceResponse.body,
          ((g.deviceRequest { uuid, url }).run.run handle s).2) := by
  obtain ⟨events, result, s', hhistory, hrun, hdevice⟩ :=
    exists_deviceRun handle g { uuid, url } s
  unfold Aggregator.deviceText
  rw [history_flow_bind_of_silent fun _ _ => rfl, hhistory, hrun]
  refine ⟨hdevice, ?_⟩
  cases result with
  | error e => exact run_flow_bind_error hrun
  | ok answer => exact run_flow_bind hrun

/-- A media resource is read again as said. -/
lemma refreshMedia_run (uuid url : String) (s : σ) :
    ∃ record?, RefreshRun g uuid url ((g.refreshMedia uuid url).run.history handle s) record? := by
  obtain ⟨hdevice, htext⟩ := deviceText_run handle g uuid url s
  unfold Aggregator.refreshMedia
  rcases hrun : (g.deviceRequest { uuid, url }).run.run handle s with ⟨e | answer, s'⟩
  · rw [hrun] at hdevice htext
    exact ⟨none, history_flow_bind_error htext ▸ .unread _ e hdevice⟩
  · rw [hrun] at hdevice htext
    rw [history_flow_bind htext]
    cases hparse : Json.parse answer.body with
    | error fault =>
      exact ⟨none, by simpa [hparse] using RefreshRun.unparsed _ answer hdevice fault hparse⟩
    | ok record =>
      have hstore : (Flow.storeResource virtualMediaTable url record).run.history handle s' =
          [⟨.storeResource virtualMediaTable url record,
            (handle (.storeResource virtualMediaTable url record) s').1⟩] := rfl
      dsimp only
      rw [hstore]
      cases (handle (.storeResource virtualMediaTable url record) s').1 with
      | error e => exact ⟨none, .refused _ answer hdevice record hparse e⟩
      | ok stored => exact ⟨some record, .stored _ answer hdevice record hparse⟩

/-- A media action goes as said, whatever the surroundings answer. -/
theorem virtualMediaAction_run (managerId url : String) (body : Option Json) (s : σ) :
    ∃ record?, MediaRun g managerId url body
      ((g.virtualMediaAction managerId url body).run.history handle s)
      ((g.virtualMediaAction managerId url body).run.run handle s).1 record? := by
  unfold Aggregator.virtualMediaAction
  cases hposted : Aggregator.mediaActionBody url body with
  | error e => exact ⟨none, .invalid e hposted⟩
  | ok posted =>
    cases huuid : deviceOfManager managerId with
    | error e => exact ⟨none, .noDevice e huuid⟩
    | ok uuid =>
      simp only [flow_ok_bind]
      obtain ⟨events, result, s', hhistory, hrun, hdevice⟩ :=
        exists_deviceRun handle g { uuid, url, method := .post, body := posted } s
      cases result with
      | error e =>
        rw [history_flow_bind_error hrun, run_flow_bind_error hrun, hhistory]
        exact ⟨none, .failed posted hposted uuid huuid events e hdevice⟩
      | ok answer =>
        rw [history_flow_bind hrun, run_flow_bind hrun, hhistory]
        by_cases hstatus : answer.status = 200
        · obtain ⟨record?, hlater⟩ := refreshMedia_run handle g uuid (mediaUrl url) s'
          refine ⟨record?, ?_⟩
          simp only [hstatus, if_true]
          rw [history_flow_bind (run_attempt handle _ s'), run_flow_bind (run_attempt handle _ s'),
            history_attempt]
          simpa using
            MediaRun.refreshed posted hposted uuid huuid _ answer hstatus hdevice _ record? hlater
        · simp only [hstatus, if_false]
          exact ⟨none, by
            simpa using MediaRun.other posted hposted uuid huuid _ answer hstatus hdevice⟩

end Handler

/-! ## The inventory after a history -/

/-- The inventory after an event. -/
def keepRecord (i : Inventory) : FlowEvent → Inventory
  | ⟨.storeResource table url record, .ok ()⟩ => i.insertResource table url record
  | _ => i

/-- What an action does to the inventory. -/
lemma inventory_handle (action : FlowAction) (w : World) :
    (World.handle action w).2.inventory =
      keepRecord w.inventory ⟨action, (World.handle action w).1⟩ := by
  cases action with
  | storeResource table url record =>
    simp only [World.handle, Inventory.storeResource]
    cases w.inventory.writeFault table url <;> rfl
  | contact action => rfl
  | findTarget uuid => rfl
  | findPlugin id => rfl
  | findResource table url => rfl
  | now => rfl

/-- The inventory after a run is what its history makes of it. -/
lemma inventory_run {α : Type} (x : FlowProgram α) (w : World) :
    (x.run World.handle w).2.inventory =
      (x.history World.handle w).foldl keepRecord w.inventory := by
  induction x generalizing w with
  | done a => rfl
  | ask action next ih =>
    have h := ih (World.handle action w).1 (World.handle action w).2
    rw [inventory_handle] at h
    exact h

/-- Events that store nothing leave the inventory as it is. -/
lemma foldl_keepRecord_of_not {events : List FlowEvent}
    (h : ∀ event ∈ events, event.1.isStore = false) (i : Inventory) :
    events.foldl keepRecord i = i := by
  induction events with
  | nil => rfl
  | cons event rest ih =>
    obtain ⟨hevent, hrest⟩ := List.forall_mem_cons.mp h
    have hkept : keepRecord i event = i := by
      obtain ⟨action, answer⟩ := event
      cases action <;> first | rfl | cases hevent
    rw [List.foldl_cons, hkept, ih hrest]

/-- A request to a device stores nothing. -/
lemma DeviceRun.foldl_keepRecord {g : Aggregator} {r : DeviceRequest} {events : List FlowEvent}
    {result : Except FlowError DeviceResponse} (h : DeviceRun g r events result) (i : Inventory) :
    events.foldl keepRecord i = i := by
  refine foldl_keepRecord_of_not ?_ i
  cases h with
  | noTarget e => simp [FlowAction.isStore]
  | noPlugin target e => simp [FlowAction.isStore]
  | known target plugin session first login second result hconduct =>
    refine List.forall_mem_cons.mpr ⟨rfl, List.forall_mem_cons.mpr ⟨rfl, ?_⟩⟩
    exact List.forall_mem_map.mpr fun event _ => rfl

/-- Reading a media resource again stores the record that is said to be stored. -/
lemma RefreshRun.foldl_keepRecord {g : Aggregator} {uuid url : String} {events : List FlowEvent}
    {record? : Option Json} (h : RefreshRun g uuid url events record?) (i : Inventory) :
    events.foldl keepRecord i = i.withMedia url record? := by
  cases h with
  | unread events e h => exact h.foldl_keepRecord i
  | unparsed events answer h fault hparse => exact h.foldl_keepRecord i
  | refused events answer h record hparse e =>
    rw [List.foldl_append, h.foldl_keepRecord]
    rfl
  | stored events answer h record hparse =>
    rw [List.foldl_append, h.foldl_keepRecord]
    rfl

/-- A media action stores the record that is said to be stored. -/
lemma MediaRun.foldl_keepRecord {g : Aggregator} {managerId url : String} {body : Option Json}
    {events : List FlowEvent} {result : Except FlowError DeviceResponse} {record? : Option Json}
    (h : MediaRun g managerId url body events result record?) (i : Inventory) :
    events.foldl keepRecord i = i.withMedia (mediaUrl url) record? := by
  cases h with
  | invalid e h => rfl
  | noDevice e h => rfl
  | failed posted hposted uuid huuid events e h => exact h.foldl_keepRecord i
  | other posted hposted uuid huuid events answer hstatus h => exact h.foldl_keepRecord i
  | refreshed posted hposted uuid huuid events answer hstatus h later record? hlater =>
    rw [List.foldl_append, h.foldl_keepRecord, hlater.foldl_keepRecord]

/-- A media action that fails stores nothing. -/
lemma MediaRun.record?_of_error {g : Aggregator} {managerId url : String} {body : Option Json}
    {events : List FlowEvent} {e : FlowError} {record? : Option Json}
    (h : MediaRun g managerId url body events (.error e) record?) : record? = none := by
  cases h <;> rfl

/-- A media action that stores something was answered with 200. -/
lemma MediaRun.exists_answer {g : Aggregator} {managerId url : String} {body : Option Json}
    {events : List FlowEvent} {result : Except FlowError DeviceResponse} {record : Json}
    (h : MediaRun g managerId url body events result (some record)) :
    ∃ answer, result = .ok answer ∧ answer.status = 200 := by
  cases h with
  | refreshed posted hposted uuid huuid events answer hstatus h later record? hlater =>
    exact ⟨answer, rfl, hstatus⟩

/-- A media action that stores something is one for a device. -/
lemma MediaRun.exists_device {g : Aggregator} {managerId url : String} {body : Option Json}
    {events : List FlowEvent} {result : Except FlowError DeviceResponse} {record : Json}
    (h : MediaRun g managerId url body events result (some record)) :
    ∃ uuid, deviceOfManager managerId = .ok uuid := by
  cases h with
  | refreshed posted hposted uuid huuid => exact ⟨uuid, huuid⟩

/-! ## Operations one after another -/

/-- A media action in a world, with the record that it stored, if it stored one. -/
def MediaIn (w : World) (g : Aggregator) (managerId url : String) (body : Option Json)
    (result : Except FlowError DeviceResponse) (record? : Option Json) : Prop :=
  ((g.virtualMediaAction managerId url body).run.run World.handle w).1 = result ∧
    MediaRun g managerId url body
      ((g.virtualMediaAction managerId url body).run.history World.handle w) result record?

/-- What one operation does to the inventory. -/
structure InventoryStep (g : Aggregator) (operation : Operation) (w w' : World) : Prop where
  /-- The plugins stay as they are. -/
  plugins : w'.inventory.plugins = w.inventory.plugins
  /-- The devices stay as they are. -/
  targets : w'.inventory.targets = w.inventory.targets
  /-- Nothing changes in an operation other than a media action. -/
  others : (∀ managerId url body, operation ≠ .media managerId url body) →
    w'.inventory = w.inventory
  /-- A media action stores at most its media resource. If it fails, nothing changes. -/
  media : ∀ managerId url body, operation = .media managerId url body →
    ∃ result record?, MediaIn w g managerId url body result record? ∧
      w'.inventory = w.inventory.withMedia (mediaUrl url) record? ∧
      ∀ e, result = .error e → w'.inventory = w.inventory
  /-- A stored resource that changes is the media resource of a media action that was answered with
  200, and becomes what was read again. -/
  changed : ∀ key, w'.inventory.resources.lookup key ≠ w.inventory.resources.lookup key →
    ∃ managerId url body answer record, operation = .media managerId url body ∧
      MediaIn w g managerId url body (.ok answer) (some record) ∧ answer.status = 200 ∧
      key = (virtualMediaTable, mediaUrl url) ∧
      w'.inventory.resources.lookup key = some record

/-- A run of operations, each of which treats the inventory so. -/
inductive InventoryRun : World → List (Aggregator × Operation) → World → Prop
  /-- The run is over. -/
  | nil (w : World) : InventoryRun w [] w
  /-- An operation comes first. -/
  | cons (g : Aggregator) (operation : Operation) {w w' : World}
      {steps : List (Aggregator × Operation)}
      (h : InventoryStep g operation w (operation.perform g w))
      (hrest : InventoryRun (operation.perform g w) steps w') :
    InventoryRun w ((g, operation) :: steps) w'

/-- A record for a media resource leaves plugins and devices alone. -/
lemma Inventory.withMedia_frame (i : Inventory) (url : String) (record? : Option Json) :
    (i.withMedia url record?).plugins = i.plugins ∧
      (i.withMedia url record?).targets = i.targets := by
  cases record? <;> exact ⟨rfl, rfl⟩

/-- Only the record for a media resource changes, and it becomes the one given. -/
lemma Inventory.lookup_withMedia {i : Inventory} {url : String} {record? : Option Json}
    {key : String × String}
    (h : (i.withMedia url record?).resources.lookup key ≠ i.resources.lookup key) :
    ∃ record, record? = some record ∧ key = (virtualMediaTable, url) ∧
      (i.withMedia url record?).resources.lookup key = some record := by
  cases record? with
  | none => exact absurd rfl h
  | some record =>
    by_cases hkey : key = (virtualMediaTable, url)
    · exact ⟨record, rfl, hkey, hkey ▸ Keyed.lookup_put_self _ record i.resources⟩
    · exact absurd (Keyed.lookup_put_of_ne hkey record i.resources) h

/-- The properties of calls and other actions that are no stores. -/
lemma permits_of_not_store (c : Client) :
    Permits c (fun _ => True) fun action => action.isStore = false where
  quiet := fun _ _ hstore => hstore
  send := fun _ _ _ _ => rfl
  login := trivial
  strip := fun _ _ _ => trivial
  media := fun _ _ => trivial
  account := fun _ _ _ => trivial

/-- An operation other than a media action leaves the inventory as it is. -/
lemma Operation.inventory_of_not_media (g : Aggregator) {operation : Operation}
    (h : ∀ managerId url body, operation ≠ .media managerId url body) (w : World) :
    (operation.perform g w).inventory = w.inventory := by
  have hasks := (permits_of_not_store g.client).asks_operation operation (fun _ _ => trivial)
    fun managerId url body hmedia => absurd hmedia (h managerId url body)
  rw [Operation.perform, inventory_run]
  exact foldl_keepRecord_of_not (hasks.forall_history w) _

/-- A media action leaves behind the inventory that its run says. -/
lemma MediaIn.inventory_perform {w : World} {g : Aggregator} {managerId url : String}
    {body : Option Json} {result : Except FlowError DeviceResponse} {record? : Option Json}
    (h : MediaIn w g managerId url body result record?) :
    ((Operation.media managerId url body).perform g w).inventory =
      w.inventory.withMedia (mediaUrl url) record? := by
  rw [Operation.perform, Operation.program, Program.run_bind, Program.run_done, inventory_run,
    h.2.foldl_keepRecord]

/-- A media action changes the inventory as its run says. -/
lemma Operation.inventory_of_media (g : Aggregator) (managerId url : String) (body : Option Json)
    (w : World) :
    ∃ result record?, MediaIn w g managerId url body result record? ∧
      ((Operation.media managerId url body).perform g w).inventory =
        w.inventory.withMedia (mediaUrl url) record? := by
  obtain ⟨record?, hrun⟩ := virtualMediaAction_run World.handle g managerId url body w
  have hmedia : MediaIn w g managerId url body _ record? := ⟨rfl, hrun⟩
  exact ⟨_, record?, hmedia, hmedia.inventory_perform⟩

/-- Every operation treats the inventory so. -/
lemma inventoryStep (g : Aggregator) (operation : Operation) (w : World) :
    InventoryStep g operation w (operation.perform g w) := by
  by_cases h : ∃ managerId url body, operation = .media managerId url body
  · obtain ⟨managerId, url, body, rfl⟩ := h
    obtain ⟨result, record?, hmedia, hinventory⟩ :=
      Operation.inventory_of_media g managerId url body w
    have hframe := w.inventory.withMedia_frame (mediaUrl url) record?
    refine ⟨hinventory ▸ hframe.1, hinventory ▸ hframe.2, fun h => absurd rfl (h _ _ _), ?_, ?_⟩
    · rintro _ _ _ ⟨⟩
      refine ⟨result, record?, hmedia, hinventory, ?_⟩
      rintro e rfl
      rw [hinventory, hmedia.2.record?_of_error]
      rfl
    · intro key hkey
      rw [hinventory] at hkey ⊢
      obtain ⟨record, rfl, hkey, hlookup⟩ := Inventory.lookup_withMedia hkey
      obtain ⟨answer, rfl, hstatus⟩ := hmedia.2.exists_answer
      exact ⟨managerId, url, body, answer, record, rfl, hmedia, hstatus, hkey, hlookup⟩
  · have hsame := Operation.inventory_of_not_media g
      (fun managerId url body hmedia => h ⟨managerId, url, body, hmedia⟩) w
    refine ⟨by rw [hsame], by rw [hsame], fun _ => hsame, ?_, ?_⟩
    · exact fun managerId url body hmedia => absurd ⟨managerId, url, body, hmedia⟩ h
    · exact fun key hkey => absurd (by rw [hsame]) hkey

/-- In a run of operations over any inventory, one that refuses records included, and against any
answers, plugins and devices stay as they are. A stored resource changes only by a media action that
was answered with 200, whose media resource was then read and spelled a document, and whose store
took that document; it changes only under the URL of that media resource, to the document read. What
goes wrong behind the answer changes neither the answer nor any record, and a media action that
fails changes no record. -/
theorem run_inventory (w : World) (steps : List (Aggregator × Operation)) :
    InventoryRun w steps (performAll w steps) ∧
      (performAll w steps).inventory.plugins = w.inventory.plugins ∧
      (performAll w steps).inventory.targets = w.inventory.targets ∧
      ∀ key, (performAll w steps).inventory.resources.lookup key ≠
          w.inventory.resources.lookup key →
        ∃ step ∈ steps, ∃ managerId url body, step.2 = .media managerId url body ∧
          key = (virtualMediaTable, mediaUrl url) := by
  induction steps generalizing w with
  | nil => exact ⟨.nil w, rfl, rfl, fun key hkey => absurd rfl hkey⟩
  | cons step rest ih =>
    obtain ⟨g, operation⟩ := step
    have hstep := inventoryStep g operation w
    obtain ⟨hrun, hplugins, htargets, hchanged⟩ := ih (operation.perform g w)
    refine ⟨.cons g operation hstep hrun, hplugins.trans hstep.plugins,
      htargets.trans hstep.targets, fun key hkey => ?_⟩
    by_cases hlater : (performAll (operation.perform g w) rest).inventory.resources.lookup key =
        (operation.perform g w).inventory.resources.lookup key
    · obtain ⟨managerId, url, body, _, _, hmedia, _, _, hurl, _⟩ :=
        hstep.changed key (hlater ▸ hkey)
      exact ⟨_, List.mem_cons_self, managerId, url, body, hmedia, hurl⟩
    · obtain ⟨later, hmem, hlaterstep⟩ := hchanged key hlater
      exact ⟨later, List.mem_cons_of_mem _ hmem, hlaterstep⟩

end PluginGateway
