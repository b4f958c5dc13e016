import PluginGateway.Proofs.Payloads
import PluginGateway.Proofs.StoredResources

/-!
# Operations that post payloads

An operation that posts a payload checks the document that it is given, looks for the device of the
manager, and passes the document that the payload comes to on to the device. `PayloadRun` says how
this goes, with the state that is left, and `PostsPayloads` what is certain of such an operation for
all documents. `Aggregator.postPayload` is the operation in general, for any payload and any request
that is made of it.

The main statement, `payloads_posted`, says this of the creation and the change of an account and of
the insertion of media, each with the properties of its payload.
-/

namespace PluginGateway

open Payload (Properties Posts)

/-- What an operation that posts a payload does with a document: the events, and the result with the
state after them. `request` is the request to the device for the document that the payload comes to,
and `Later` says what may be asked for once the device has answered. -/
inductive PayloadRun (g : Aggregator) (managerId : String) (properties : Properties)
    (request : String → Json → DeviceRequest) (Later : String → List FlowEvent → Prop) (v : Json)
    {σ : Type} (s : σ) : List FlowEvent → Except FlowError DeviceResponse × σ → Prop
  /-- The document is no payload. Nothing is asked for, and the state stays as it is. -/
  | refused (h : ∀ posted, ¬Posts properties v posted) (reason : String) :
    PayloadRun g managerId properties request Later v s [] (.error (.invalidRequest reason), s)
  /-- The manager is not one of a device. -/
  | noDevice (posted : Json) (h : Posts properties v posted)
      (hmanager : ∀ uuid, deviceOfManager managerId ≠ .ok uuid) :
    PayloadRun g managerId properties request Later v s []
      (.error (.notFound "Managers" managerId), s)
  /-- The request to the device fails. -/
  | failed (posted : Json) (h : Posts properties v posted) (uuid : String)
      (huuid : deviceOfManager managerId = .ok uuid) (events : List FlowEvent) (e : FlowError)
      (hdevice : DeviceRun g (request uuid posted) events (.error e)) (s' : σ) :
    PayloadRun g managerId properties request Later v s events (.error e, s')
  /-- The device answers. -/
  | answered (posted : Json) (h : Posts properties v posted) (uuid : String)
      (huuid : deviceOfManager managerId = .ok uuid) (events : List FlowEvent)
      (answer : DeviceResponse) (hdevice : DeviceRun g (request uuid posted) events (.ok answer))
      (later : List FlowEvent) (hlater : later = [] ∨ Later uuid later)
      (result : Except FlowError DeviceResponse) (s' : σ) :
    PayloadRun g managerId properties request Later v s (events ++ later) (result, s')

/-- An operation posts payloads of these properties, checked by `check`. -/
structure PostsPayloads (g : Aggregator) (managerId : String) (properties : Properties)
    (check : Json → Except FlowError Json) (request : String → Json → DeviceRequest)
    (Later : String → List FlowEvent → Prop) (operation : Json → Flow DeviceResponse) : Prop where
  /-- The documents accepted are the payloads, each as the document that it comes to. -/
  accepted : ∀ v posted, check v = .ok posted ↔ Posts properties v posted
  /-- What is posted is accepted again, as it is. -/
  again : ∀ v posted, Posts properties v posted → check posted = .ok posted
  /-- The operation goes so, whatever the surroundings answer. -/
  run : ∀ {σ : Type} (handle : (action : FlowAction) → σ → action.Answer × σ) (v : Json) (s : σ),
    PayloadRun g managerId properties request Later v s
      ((operation v).run.history handle s) ((operation v).run.run handle s)
  /-- In a world, the request is answered as invalid exactly if the document is no payload. -/
  refused : ∀ (v : Json) (w : World),
    (∃ reason, ((operation v).run.run World.handle w).1 = .error (.invalidRequest reason)) ↔
      ∀ posted, ¬Posts properties v posted

/-! ## Invalid requests -/

/-- A device that is not found is missing. -/
lemma Inventory.findTarget_error {i : Inventory} {uuid : String} {e : FlowError}
    (h : i.findTarget uuid = .error e) : e = .notFound "Target" uuid := by
  unfold findTarget at h
  split at h
  · cases h
  · exact (Except.error.inj h).symm

/-- A plugin that is not found is missing. -/
lemma Inventory.findPlugin_error {i : Inventory} {id : String} {e : FlowError}
    (h : i.findPlugin id = .error e) : e = .notFound "Plugin" id := by
  unfold findPlugin at h
  split at h
  · cases h
  · exact (Except.error.inj h).symm

/-- A request to a device is not answered as invalid. -/
lemma deviceRequest_ne_invalidRequest (g : Aggregator) (r : DeviceRequest) (w : World)
    (reason : String) :
    ((g.deviceRequest r).run.run World.handle w).1 ≠ .error (.invalidRequest reason) := by
  intro h
  rcases deviceRequest_error World.handle g r h with
    hmissing | ⟨target, w', -, hmissing⟩ | ⟨reason', hreason⟩ | ⟨failure, hfailure⟩
  · cases Inventory.findTarget_error hmissing
  · cases Inventory.findPlugin_error hmissing
  · cases hreason
  · exact (FlowError.ofContact_ne failure).2.1 reason hfailure.symm

/-- A manager that is not one of a device is not found. -/
lemma deviceOfManager_error {managerId : String} {e : FlowError}
    (h : deviceOfManager managerId = .error e) : e = .notFound "Managers" managerId := by
  unfold deviceOfManager at h
  split at h
  · cases h
  · exact (Except.error.inj h).symm

/-- An account or role that is not found, or else the manager, is not an invalid request. -/
lemma accountNotFound_ne_invalidRequest (managerId url reason : String) :
    accountNotFound managerId url ≠ .invalidRequest reason := by
  unfold accountNotFound
  split <;> nofun

/-! ## The operation in general -/

/-- Check a document, find the device of the manager, and make the request to it; `rest` makes the
answer of what the device answers. -/
def Aggregator.postPayload (g : Aggregator) (managerId : String) (shape : PayloadShape)
    (request : String → Json → DeviceRequest) (rest : String → DeviceResponse → Flow DeviceResponse)
    (v : Json) : Flow DeviceResponse := do
  let posted ← ExceptT.mk (.done (checkedPayload shape v))
  let uuid ← ExceptT.mk (.done (deviceOfManager managerId))
  let answer ← g.deviceRequest (request uuid posted)
  rest uuid answer

section General

variable {shape : PayloadShape} (hnames : (shape.properties.map Prod.fst).Nodup)

include hnames

/-- The documents accepted are the payloads. -/
lemma checkedPayload_eq_ok_iff {v posted : Json} :
    checkedPayload shape v = .ok posted ↔ Posts shape.properties v posted := by
  rw [checkedPayload, mapError_eq_ok_iff, Payload.check_eq_ok_iff hnames]

/-- A document that is no payload is an invalid request, and any other one is accepted. -/
lemma checkedPayload_cases (v : Json) :
    (∃ reason, checkedPayload shape v = .error (.invalidRequest reason) ∧
      ∀ posted, ¬Posts shape.properties v posted) ∨
    ∃ posted, checkedPayload shape v = .ok posted ∧ Posts shape.properties v posted := by
  cases hchecked : checkedPayload shape v with
  | ok posted => exact .inr ⟨posted, rfl, (checkedPayload_eq_ok_iff hnames).mp hchecked⟩
  | error e =>
    obtain ⟨fault, -, rfl⟩ := mapError_eq_error_iff.mp hchecked
    refine .inl ⟨_, rfl, fun posted hposted => ?_⟩
    rw [(checkedPayload_eq_ok_iff hnames).mpr hposted] at hchecked
    cases hchecked

variable (g : Aggregator) (managerId : String) {request : String → Json → DeviceRequest}
  {rest : String → DeviceResponse → Flow DeviceResponse}

/-- The operation in general goes as said, if its end does. -/
lemma postPayload_run {Later : String → List FlowEvent → Prop} {σ : Type}
    (handle : (action : FlowAction) → σ → action.Answer × σ)
    (hrest : ∀ uuid answer s, (rest uuid answer).run.history handle s = [] ∨
      Later uuid ((rest uuid answer).run.history handle s)) (v : Json) (s : σ) :
    PayloadRun g managerId shape.properties request Later v s
      ((g.postPayload managerId shape request rest v).run.history handle s)
      ((g.postPayload managerId shape request rest v).run.run handle s) := by
  unfold Aggregator.postPayload
  rcases checkedPayload_cases hnames v with ⟨reason, hchecked, hrefused⟩ | ⟨posted, hchecked, h⟩
  · rw [hchecked]
    exact .refused hrefused reason
  rw [hchecked, flow_ok_bind]
  cases huuid : deviceOfManager managerId with
  | error e =>
    obtain rfl := deviceOfManager_error huuid
    refine .noDevice posted h fun uuid hfound => ?_
    rw [huuid] at hfound
    cases hfound
  | ok uuid =>
    rw [flow_ok_bind]
    obtain ⟨events, result, s', hhistory, hrun, hdevice⟩ :=
      exists_deviceRun handle g (request uuid posted) s
    cases result with
    | error e =>
      rw [history_flow_bind_error hrun, run_flow_bind_error hrun, hhistory]
      exact .failed posted h uuid huuid events e hdevice s'
    | ok answer =>
      rw [history_flow_bind hrun, run_flow_bind hrun, hhistory]
      exact .answered posted h uuid huuid events answer hdevice _ (hrest uuid answer s') _ _

/-- In a world, the operation in general is answered as invalid exactly if the document is no
payload, unless its end is. -/
lemma postPayload_invalid_iff
    (hrest : ∀ uuid answer (w : World) reason,
      ((rest uuid answer).run.run World.handle w).1 ≠ .error (.invalidRequest reason))
    (v : Json) (w : World) :
    (∃ reason, ((g.postPayload managerId shape request rest v).run.run World.handle w).1 =
        .error (.invalidRequest reason)) ↔ ∀ posted, ¬Posts shape.properties v posted := by
  unfold Aggregator.postPayload
  rcases checkedPayload_cases hnames v with ⟨reason, hchecked, hrefused⟩ | ⟨posted, hchecked, h⟩
  · rw [hchecked]
    exact ⟨fun _ => hrefused, fun _ => ⟨reason, rfl⟩⟩
  rw [hchecked, flow_ok_bind]
  refine ⟨?_, fun hnone => absurd h (hnone posted)⟩
  rintro ⟨reason, hinvalid⟩
  rcases run_flow_bind_eq_error hinvalid with hmanager | ⟨uuid, w₁, -, hinvalid⟩
  · cases deviceOfManager_error hmanager
  rcases run_flow_bind_eq_error hinvalid with hdevice | ⟨answer, w₂, -, hinvalid⟩
  · exact absurd hdevice (deviceRequest_ne_invalidRequest g _ w₁ reason)
  · exact absurd hinvalid (hrest uuid answer w₂ reason)

/-- The operation in general posts payloads, if its end asks for no more than said and is not
answered as invalid. -/
lemma postsPayloads_postPayload {Later : String → List FlowEvent → Prop}
    (hhistory : ∀ {σ : Type} (handle : (action : FlowAction) → σ → action.Answer × σ) uuid answer s,
      (rest uuid answer).run.history handle s = [] ∨
        Later uuid ((rest uuid answer).run.history handle s))
    (hvalid : ∀ uuid answer (w : World) reason,
      ((rest uuid answer).run.run World.handle w).1 ≠ .error (.invalidRequest reason)) :
    PostsPayloads g managerId shape.properties (checkedPayload shape) request Later
      (g.postPayload managerId shape request rest) where
  accepted _ _ := checkedPayload_eq_ok_iff hnames
  again _ _ h := (checkedPayload_eq_ok_iff hnames).mpr (Payload.posts_self hnames h)
  run handle v s := postPayload_run hnames g managerId handle (hhistory handle) v s
  refused v w := postPayload_invalid_iff hnames g managerId hvalid v w

end General

/-! ## The operations -/

section Operations

variable (g : Aggregator) (managerId url : String)

/-- Reading a resource of the account service is a request to the device. -/
lemma history_accountText {σ : Type} (handle : (action : FlowAction) → σ → action.Answer × σ)
    (uuid : String) (s : σ) :
    ∃ result, DeviceRun g { uuid, url := toAccountService managerId url }
      ((g.accountText managerId uuid url).run.history handle s) result := by
  rw [Aggregator.accountText, history_flow_orFail]
  exact ⟨_, (deviceText_run handle g uuid (toAccountService managerId url) s).1⟩

/-- A change of an account ends with reading the account again, if the device has changed it. -/
lemma postsPayloads_updateRemoteAccount :
    PostsPayloads g managerId updateAccountShape.properties (checkedPayload updateAccountShape)
      (fun uuid posted =>
        { uuid, url := toAccountService managerId url, method := .patch, body := some posted })
      (fun uuid events => ∃ result,
        DeviceRun g { uuid, url := toAccountService managerId url } events result)
      (g.updateRemoteAccount managerId url) := by
  have hnames : (updateAccountShape.properties.map Prod.fst).Nodup := by decide
  refine postsPayloads_postPayload hnames g managerId ?_ ?_
  · intro σ handle uuid answer s
    by_cases hstatus : answer.status = 200
    · rw [if_pos hstatus, history_flow_bind_of_silent fun _ _ => rfl]
      exact .inr (history_accountText g managerId url handle uuid s)
    · rw [if_neg hstatus]
      exact .inl rfl
  · intro uuid answer w reason h
    by_cases hstatus : answer.status = 200
    · rw [if_pos hstatus] at h
      rcases run_flow_bind_eq_error h with htext | ⟨text, w', -, h⟩
      · rw [Aggregator.accountText, run_flow_orFail] at htext
        obtain ⟨e, -, hinvalid⟩ := mapError_eq_error_iff.mp htext
        exact accountNotFound_ne_invalidRequest managerId url reason hinvalid
      · cases h
    · rw [if_neg hstatus] at h
      cases h

/-- A text occurs in another one exactly if it is a stretch of it. -/
lemma occursIn_iff (needle hay : List Char) : occursIn needle hay = true ↔ needle <:+: hay := by
  induction hay with
  | nil => simp [occursIn]
  | cons c rest ih =>
    rw [occursIn, Bool.or_eq_true, ih, List.isPrefixOf_iff_prefix, List.infix_cons_iff]

/-- An insertion of media is the operation in general. -/
lemma virtualMediaAction_eq (hurl : "VirtualMedia.InsertMedia".toList <:+: url.toList) (v : Json) :
    g.virtualMediaAction managerId url (some v) =
      g.postPayload managerId insertMediaShape
        (fun uuid posted => { uuid, url, method := .post, body := some posted })
        (fun uuid answer => do
          if answer.status = 200 then
            let _ ← Flow.attempt (g.refreshMedia uuid (mediaUrl url))
          return answer) v := by
  have hinsert : occursIn insertMediaAction.toList url.toList = true := (occursIn_iff _ _).mpr hurl
  have hbody : Aggregator.mediaActionBody url (some v) =
      (checkedPayload insertMediaShape v).map some := if_pos hinsert
  unfold Aggregator.virtualMediaAction Aggregator.postPayload
  rw [hbody]
  cases checkedPayload insertMediaShape v <;> rfl

/-- An insertion of media ends with reading the media resource again, if the device has inserted
them. -/
lemma postsPayloads_virtualMediaAction
    (hurl : "VirtualMedia.InsertMedia".toList <:+: url.toList) :
    PostsPayloads g managerId insertMediaShape.properties (checkedPayload insertMediaShape)
      (fun uuid posted => { uuid, url, method := .post, body := some posted })
      (fun uuid events => ∃ record?, RefreshRun g uuid (mediaUrl url) events record?)
      (fun v => g.virtualMediaAction managerId url (some v)) := by
  have hnames : (insertMediaShape.properties.map Prod.fst).Nodup := by decide
  rw [funext (virtualMediaAction_eq g managerId url hurl)]
  refine postsPayloads_postPayload hnames g managerId ?_ ?_
  · intro σ handle uuid answer s
    dsimp only
    by_cases hstatus : answer.status = 200
    · rw [if_pos hstatus, history_flow_bind (run_attempt handle _ s), history_attempt]
      obtain ⟨record?, hrefresh⟩ := refreshMedia_run handle g uuid (mediaUrl url) s
      refine .inr ⟨record?, ?_⟩
      simpa using hrefresh
    · rw [if_neg hstatus]
      exact .inl rfl
  · intro uuid answer w reason h
    dsimp only at h
    by_cases hstatus : answer.status = 200
    · rw [if_pos hstatus, run_flow_bind (run_attempt World.handle _ w)] at h
      cases h
    · rw [if_neg hstatus] at h
      cases h

/-- The creation and the change of an account and the insertion of media post payloads. A document
is accepted exactly if it is an object whose fields are properties of the payload with values of
their types, those that must be given among them, or an array of such values in order of
declaration, in which only properties at the end are left out; a null stands for a string that may
be left out, and for nothing else. What goes to the device is the object of the values given other
than null, in order of declaration, with the truth values of an insertion that are left out as true,
and it is accepted again as it is. Any other document is answered as an invalid request: nothing is
asked for, and the state stays as it is. No document that is accepted is answered so. -/
theorem payloads_posted :
    PostsPayloads g managerId
        [("UserName", .requiredText), ("Password", .requiredText), ("RoleId", .requiredText)]
        (checkedPayload createAccountShape)
        (fun uuid posted =>
          { uuid, url := toAccountService managerId url, method := .post, body := some posted })
        (fun _ _ => False) (g.createRemoteAccount managerId url) ∧
      PostsPayloads g managerId
        [("UserName", .optionalText), ("Password", .optionalText), ("RoleId", .optionalText)]
        (checkedPayload updateAccountShape)
        (fun uuid posted =>
          { uuid, url := toAccountService managerId url, method := .patch, body := some posted })
        (fun uuid events => ∃ result,
          DeviceRun g { uuid, url := toAccountService managerId url } events result)
        (g.updateRemoteAccount managerId url) ∧
      ("VirtualMedia.InsertMedia".toList <:+: url.toList →
        PostsPayloads g managerId
          [("Image", .requiredText), ("Inserted", .flag), ("WriteProtected", .flag),
            ("TransferMethod", .optionalText), ("TransferProtocolType", .optionalText),
            ("UserName", .optionalText), ("Password", .optionalText)]
          (fun v => insertMediaBody (some v))
          (fun uuid posted => { uuid, url, method := .post, body := some posted })
          (fun uuid events => ∃ record?, RefreshRun g uuid (mediaUrl url) events record?)
          (fun v => g.virtualMediaAction managerId url (some v))) := by
  have hnames : (createAccountShape.properties.map Prod.fst).Nodup := by decide
  refine ⟨postsPayloads_postPayload hnames g managerId ?_ ?_,
    postsPayloads_updateRemoteAccount g managerId url,
    postsPayloads_virtualMediaAction g managerId url⟩
  · exact fun handle uuid answer s => .inl rfl
  · exact fun uuid answer w reason h => nomatch h

end Operations

/-- The action that inserts media into a drive of a manager. -/
def insertionUrl : String :=
  "/redfish/v1/Managers/6d4a:1/VirtualMedia/CD1/Actions/VirtualMedia.InsertMedia"

/-- An image and a truth value are a payload in order of declaration, and what is left out is filled
in; an image by its name with a null for a truth value is none, and is refused whatever the world is
like. -/
theorem payloads_posted_of_insertion :
    "VirtualMedia.InsertMedia".toList <:+: insertionUrl.toList ∧
      insertMediaBody (some (.array [.string "a.iso", .bool false])) =
        .ok (.object [("Image", .string "a.iso"), ("Inserted", .bool false),
          ("WriteProtected", .bool true)]) ∧
      ∀ w : World, ∃ reason,
        (((Aggregator.mk ⟨"https", .standard⟩ .ok none).virtualMediaAction "6d4a:1" insertionUrl
          (some (.object [("Image", .string "a.iso"), ("Inserted", .null)]))).run.run
            World.handle w).1 = .error (.invalidRequest reason) := by
  have hurl : "VirtualMedia.InsertMedia".toList <:+: insertionUrl.toList := by decide +kernel
  have hposts := (payloads_posted ⟨⟨"https", .standard⟩, .ok, none⟩ "6d4a:1" insertionUrl).2.2 hurl
  refine ⟨hurl, (hposts.accepted _ _).mpr ?_, fun w => (hposts.refused _ w).mpr ?_⟩
  · refine ⟨_, .array _ (by decide), ⟨?_, ?_⟩, rfl⟩
    · intro name v hmem
      rcases List.mem_cons.mp hmem with heq | hmem
      · cases heq
        exact ⟨.requiredText, by decide, .requiredText _⟩
      · cases List.mem_singleton.mp hmem
        exact ⟨.flag, by decide, .flag false⟩
    · intro name hmem
      have himage : name = "Image" := by simpa using hmem
      exact ⟨.string "a.iso", himage ▸ List.mem_cons_self⟩
  · rintro posted ⟨fields, hspells, haccepts, -⟩
    cases hspells
    obtain ⟨kind, hkind, hfits⟩ := haccepts.fits "Inserted" .null (by simp)
    obtain rfl : kind = .flag := by simpa using hkind
    cases hfits

end PluginGateway
