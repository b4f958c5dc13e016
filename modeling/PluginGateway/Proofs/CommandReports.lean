import PluginGateway.Proofs.CommandCourses
import PluginGateway.Proofs.PostedPayloads
import PluginGateway.Proofs.ProvidedInventory

/-!
# What a command reports

Every command follows one of its courses, and reports what decides there. `Report.Tells` says what
this means for a reader of the report: the exit code tells the kinds of decisions apart, a failure
prints nothing, and an answer that decided is reported with its own status and its own bytes.

The main statement, `rehearse_tells`, says that whatever replies the network has prepared, exactly
one thing decides how a command ends, and the exit code and all that is printed and reported tell
what it is.
-/

namespace PluginGateway

/-! ## Reports that tell what decides -/

/-- How an action of a flow is answered where a probe answers the questions about health. -/
def Probe.attending {σ : Type} (p : Probe) (handle : (a : FlowAction) → σ → a.Answer × σ) :
    (a : FlowAction) → σ → a.Answer × σ := fun a s => (p.insteadInFlow a).run handle s

/-- What happens when a command is carried out on a network. -/
def Equipment.events (q : Equipment) (command : Command) (network : Rehearsal) : List FlowEvent :=
  (command.flow q.aggregator).run.history (q.probe.attending World.handle)
    ⟨network, q.inventory, ""⟩

/-- A report tells which of several decisions a command ended with. -/
structure Report.Tells (report : Report) (Ends : Decision → Prop) : Prop where
  /-- The exit code is 0 exactly if the operation succeeded. -/
  success : report.exitCode = 0 ↔ ∃ output, Ends (.success output)
  /-- It is 3 exactly if no session could be created. -/
  noSession : report.exitCode = 3 ↔ ∃ pluginId, Ends (.noSession pluginId)
  /-- It is 4 exactly if the probe found the plugin down, or if the answer that decided had another
  status than 200 and 201. -/
  plugin : report.exitCode = 4 ↔
    (∃ pluginId, Ends (.down pluginId)) ∨ ∃ response, Ends (.refused response)
  /-- It is 1 exactly if anything else stood in the way. -/
  hindered : report.exitCode = 1 ↔ Ends .hindered
  /-- A success is printed. -/
  printed : ∀ output, Ends (.success output) → report.output = output
  /-- A failure prints nothing. -/
  silent : report.exitCode ≠ 0 → report.output = ""
  /-- The status and the body of the answer that decided are reported as they came. -/
  answer : ∀ response, Ends (.refused response) → ∃ message body,
    report.error? = some (.plugin response.status message body) ∧ LaysOut response.body body

/-- The report on a decision tells that it is the one. -/
lemma Decision.Reported.tells {decision : Decision} {report : Report}
    (h : decision.Reported report) {Ends : Decision → Prop} (hends : ∀ d, Ends d ↔ d = decision) :
    report.Tells Ends := by
  cases h with
  | success output =>
    constructor <;> simp [hends, Report.exitCode, eq_comm]
  | noSession pluginId =>
    constructor <;> simp [hends, Report.exitCode, CommandError.exitCode]
  | down pluginId =>
    constructor <;> simp [hends, Report.exitCode, CommandError.exitCode]
  | refused response message body hbody =>
    constructor
    case answer =>
      rintro response' hresponse'
      obtain rfl := Decision.refused.inj ((hends _).mp hresponse')
      exact ⟨message, body, rfl, hbody⟩
    all_goals simp [hends, Report.exitCode, CommandError.exitCode]
  | hindered e hcode =>
    constructor <;> simp [hends, Report.exitCode, hcode]

/-! ## Commands follow their courses -/

/-- The flow goes as a course says, and its result is reported as what decides says. -/
def Follows {σ : Type} (handle : (a : FlowAction) → σ → a.Answer × σ) (s : σ)
    (x : CommandFlow String) (Course : List FlowEvent → Decision → Prop) : Prop :=
  ∃ decision, Course (x.run.history handle s) decision ∧
    decision.Reported (.ofResult (x.run.run handle s).1)

/-- The flow is a conversation that goes as a course says, and its result is reported so. -/
def FollowsTalk {σ : Type} (handle : (a : FlowAction) → σ → a.Answer × σ) (s : σ)
    (x : CommandFlow String) (Course : List Event → Decision → Prop) : Prop :=
  ∃ events decision, x.run.history handle s = events.map Event.inFlow ∧
    Course events decision ∧ decision.Reported (.ofResult (x.run.run handle s).1)

namespace CommandFlow

variable {α β σ : Type} (handle : (a : FlowAction) → σ → a.Answer × σ)

/-- A flow within a command ends as the flow does, apart from the error. -/
lemma run_ofFlow (x : Flow α) (s : σ) :
    (ofFlow x).run.run handle s =
      ((x.run.run handle s).1.mapError CommandError.ofFlow, (x.run.run handle s).2) :=
  Program.run_bind x.run (fun result => .done (result.mapError CommandError.ofFlow)) s

/-- What happens in a flow within a command is what happens in the flow. -/
lemma history_ofFlow (x : Flow α) (s : σ) :
    (ofFlow x).run.history handle s = x.run.history handle s := by
  simp only [ofFlow, ExceptT.run_mk, Program.history_bind, Program.history_done, List.append_nil]

/-- A conversation within a command ends as the conversation does. -/
lemma run_converse (x : Conversation α) (s : σ) :
    (converse x).run.run handle s =
      (.ok (x.run (withinFlow handle) s).1, (x.run (withinFlow handle) s).2) := by
  have h : (converse x).run.run handle s =
      (Program.done (Except.ok ((Flow.converse x).run handle s).1)).run handle
        ((Flow.converse x).run handle s).2 :=
    Program.run_bind (Flow.converse x)
      (fun a => .done (Except.ok a : Except CommandError α)) s
  rwa [PluginGateway.run_converse] at h

/-- What happens in a conversation within a command is what happens in the conversation. -/
lemma history_converse (x : Conversation α) (s : σ) :
    (converse x).run.history handle s =
      (x.history (withinFlow handle) s).map Event.inFlow := by
  have h : (converse x).run.history handle s = (Flow.converse x).history handle s ++
      (Program.done (Except.ok ((Flow.converse x).run handle s).1)).history handle
        ((Flow.converse x).run handle s).2 :=
    Program.history_bind (Flow.converse x)
      (fun a => .done (Except.ok a : Except CommandError α)) s
  rwa [Program.history_done, List.append_nil, PluginGateway.history_converse] at h

/-- Flows one after another, within a command. -/
lemma ofFlow_bind (x : Flow α) (f : α → Flow β) :
    ofFlow (x >>= f) = ofFlow x >>= fun a => ofFlow (f a) := by
  refine ExceptT.ext ?_
  rw [ExceptT.run_bind]
  simp only [ofFlow, ExceptT.run_mk, ExceptT.run_bind, Program.bind_eq, Program.bind_bind]
  refine congrArg _ (funext fun result => ?_)
  cases result <;> rfl

end CommandFlow

section Lookups

variable (p : Probe) {w : World}

/-- A command that looks a plugin up goes as the look-up goes. -/
lemma follows_withPlugin {id : String} {x : Plugin → CommandFlow String}
    {Course : Plugin → List Event → Decision → Prop}
    (h : ∀ plugin, FollowsTalk (p.attending World.handle) w (x plugin) (Course plugin)) :
    Follows (p.attending World.handle) w (CommandFlow.ofFlow (Flow.findPlugin id) >>= x)
      (WithPlugin id Course) := by
  have hevent : (CommandFlow.ofFlow (Flow.findPlugin id)).run.history (p.attending World.handle) w =
      [⟨.findPlugin id, w.inventory.findPlugin id⟩] := rfl
  have hrun : (CommandFlow.ofFlow (Flow.findPlugin id)).run.run (p.attending World.handle) w =
      ((w.inventory.findPlugin id).mapError CommandError.ofFlow, w) := rfl
  cases hfound : w.inventory.findPlugin id with
  | error e =>
    obtain rfl := Inventory.findPlugin_error hfound
    rw [hfound] at hevent hrun
    refine ⟨.hindered, ?_, ?_⟩
    · rw [history_flow_bind_error hrun, hevent]
      exact .unknown
    · rw [run_flow_bind_error hrun]
      exact .hindered _ rfl
  | ok plugin =>
    rw [hfound] at hevent hrun
    obtain ⟨events, decision, hevents, hcourse, hreported⟩ := h plugin
    refine ⟨decision, ?_, ?_⟩
    · rw [history_flow_bind hrun, hevent, hevents]
      exact .known plugin events decision hcourse
    · rw [run_flow_bind hrun]
      exact hreported

/-- A command that looks a device up goes as the look-up goes. -/
lemma follows_withTarget {uuid : String} {x : Target → CommandFlow String}
    {Course : Target → List FlowEvent → Decision → Prop}
    (h : ∀ target, w.inventory.findTarget uuid = .ok target →
      Follows (p.attending World.handle) w (x target) (Course target)) :
    Follows (p.attending World.handle) w (CommandFlow.ofFlow (Flow.findTarget uuid) >>= x)
      (WithTarget uuid Course) := by
  have hevent :
      (CommandFlow.ofFlow (Flow.findTarget uuid)).run.history (p.attending World.handle) w =
        [⟨.findTarget uuid, w.inventory.findTarget uuid⟩] := rfl
  have hrun : (CommandFlow.ofFlow (Flow.findTarget uuid)).run.run (p.attending World.handle) w =
      ((w.inventory.findTarget uuid).mapError CommandError.ofFlow, w) := rfl
  cases hfound : w.inventory.findTarget uuid with
  | error e =>
    obtain rfl := Inventory.findTarget_error hfound
    rw [hfound] at hevent hrun
    refine ⟨.hindered, ?_, ?_⟩
    · rw [history_flow_bind_error hrun, hevent]
      exact .unknown
    · rw [run_flow_bind_error hrun]
      exact .hindered _ rfl
  | ok target =>
    rw [hfound] at hevent hrun
    obtain ⟨decision, hcourse, hreported⟩ := h target hfound
    refine ⟨decision, ?_, ?_⟩
    · rw [history_flow_bind hrun, hevent]
      exact .known target _ decision hcourse
    · rw [run_flow_bind hrun]
      exact hreported

end Lookups

section Handler

variable {σ : Type} (handle : (a : FlowAction) → σ → a.Answer × σ)

/-- What is said about a request cannot be read only if it is unreadable, and the failure is none of
the plugin's. -/
lemma RequestOptions.unreadable_of_error {o : RequestOptions} {e : CommandError}
    (h : o.read = .error e) : o.Unreadable ∧ e.exitCode = 1 := by
  unfold read at h
  split at h
  · next hmethod =>
    obtain rfl := Except.error.inj h
    exact ⟨.inl hmethod, rfl⟩
  · split at h
    · cases h
    · next data hdata =>
      split at h
      · cases h
      · next e hparse =>
        obtain rfl := Except.error.inj h
        exact ⟨.inr ⟨data, e, hdata, hparse⟩, rfl⟩

/-- A command that reads what is said about a request goes as the reading goes. -/
lemma follows_withOptions {o : RequestOptions} {x : Method × Option Json → CommandFlow String}
    {Course : Method → Option Json → List FlowEvent → Decision → Prop} {s : σ}
    (h : ∀ method body, Follows handle s (x (method, body)) (Course method body)) :
    Follows handle s (ExceptT.mk (.done o.read) >>= x) (WithOptions o Course) := by
  cases hread : o.read with
  | error e =>
    obtain ⟨hunreadable, hcode⟩ := RequestOptions.unreadable_of_error hread
    exact ⟨.hindered, .unreadable hunreadable, .hindered e hcode⟩
  | ok request =>
    obtain ⟨method, body⟩ := request
    obtain ⟨decision, hcourse, hreported⟩ := h method body
    exact ⟨decision, .readable method body hread _ decision hcourse, hreported⟩

/-- An authorised contact, with what is printed of its outcome, is decided. -/
lemma followsTalk_contact (c : Client) (context : String) (r : ContactRequest)
    (shown : ByteArray → String) (s : σ) :
    FollowsTalk handle s (CommandFlow.ofFlow (Flow.contact (c.authorizedContact context r)) >>=
      fun outcome => pure (shown outcome.body)) (Decided c r shown) := by
  obtain ⟨decision, hdecided, hreported⟩ := (authorizedContact_conduct (withinFlow handle) c context
    r s).exists_decided shown
  refine ⟨_, decision, ?_, hdecided, ?_⟩
  · rw [history_flow_bind_of_silent fun _ _ => rfl, CommandFlow.history_ofFlow,
      history_flow_contact]
  · have hrun := CommandFlow.run_ofFlow handle (Flow.contact (c.authorizedContact context r)) s
    rw [run_flow_contact] at hrun
    cases houtcome : ((c.authorizedContact context r).run (withinFlow handle) s).1 with
    | error failure =>
      rw [houtcome] at hrun hreported
      rw [run_flow_bind_error hrun]
      exact hreported
    | ok outcome =>
      rw [houtcome] at hrun hreported
      rw [run_flow_bind hrun]
      exact hreported

/-- A login is reported as its token says. -/
lemma followsTalk_login (c : Client) (id : String) (plugin : Plugin) (s : σ) :
    FollowsTalk handle s (do
      match ← CommandFlow.converse (c.login plugin) with
      | some _ => return "Session created with plugin " ++ id ++ " (token cached)\n"
      | none => throw (.sessionUnavailable plugin.id)) (LoginCourse c id plugin) := by
  have hlogin := login_login (withinFlow handle) c plugin s
  have hrun := CommandFlow.run_converse handle (c.login plugin) s
  cases htoken : ((c.login plugin).run (withinFlow handle) s).1 with
  | none =>
    rw [htoken] at hlogin hrun
    refine ⟨_, _, ?_, .failed _ hlogin, ?_⟩
    · rw [history_flow_bind hrun, CommandFlow.history_converse]
      exact List.append_nil _
    · rw [run_flow_bind hrun]
      exact .noSession plugin.id
  | some token =>
    rw [htoken] at hlogin hrun
    refine ⟨_, _, ?_, .created _ token hlogin, ?_⟩
    · rw [history_flow_bind hrun, CommandFlow.history_converse]
      exact List.append_nil _
    · rw [run_flow_bind hrun]
      exact .success _

/-- What the probe finds is reported. -/
lemma followsTalk_status (id : String) (plugin : Plugin) (s : σ) :
    FollowsTalk handle s (do
      if ← CommandFlow.converse (Conversation.checkHealth plugin) then return id ++ ": alive\n"
      else throw (.pluginDown plugin.id)) (StatusCourse id plugin) := by
  have hrun := CommandFlow.run_converse handle (Conversation.checkHealth plugin) s
  have hevents := CommandFlow.history_converse handle (Conversation.checkHealth plugin) s
  simp only [Conversation.checkHealth, Program.run_perform, Program.history_perform] at hrun hevents
  cases halive : (withinFlow handle (.checkHealth plugin) s).1 with
  | false =>
    rw [halive] at hrun hevents
    refine ⟨_, _, ?_, .down, ?_⟩
    · rw [Conversation.checkHealth, history_flow_bind hrun, hevents]
      rfl
    · rw [Conversation.checkHealth, run_flow_bind hrun]
      exact .down plugin.id
  | true =>
    rw [halive] at hrun hevents
    refine ⟨_, _, ?_, .alive, ?_⟩
    · rw [Conversation.checkHealth, history_flow_bind hrun, hevents]
      rfl
    · rw [Conversation.checkHealth, run_flow_bind hrun]
      exact .success _

/-- A request for a device whose password is a text is decided as a contact. -/
lemma followsTalk_deviceContact {g : Aggregator} {r : DeviceRequest} {target : Target}
    {plugin : Plugin} {password : String} (hpassword : g.Decrypts target password) (s : σ) :
    FollowsTalk handle s (CommandFlow.ofFlow (g.deviceContact r target plugin) >>=
      fun outcome => pure (printed (r.answer outcome).body)) (DeviceCourse g r target plugin) := by
  have hcontact : g.deviceContact r target plugin =
      Flow.contact (g.client.authorizedContact r.context (r.forPlugin plugin target password)) := by
    unfold Aggregator.deviceContact
    rw [devicePassword_of_decrypts hpassword]
  rw [hcontact]
  obtain ⟨events, decision, hevents, hdecided, hreported⟩ := followsTalk_contact handle g.client
    r.context (r.forPlugin plugin target password) (fun body =>
      printed (String.ofList (Path.qualifyLinks r.uuid.toList (Text.lossy body).toList))) s
  exact ⟨events, decision, hevents, ⟨password, hpassword, hdecided⟩, hreported⟩

end Handler

section Commands

variable (p : Probe) (g : Aggregator) (w : World)

/-- A contact goes as the look-up of its plugin and the contact with it. -/
lemma follows_contactFlow (id path : String) (o : RequestOptions) :
    Follows (p.attending World.handle) w (Command.contactFlow g id path o)
      (Command.Course g (.contact id path o)) := by
  unfold Command.contactFlow
  refine follows_withOptions _ fun method body => follows_withPlugin p fun plugin => ?_
  have hcontact : (do
      let request ← CommandFlow.ofFlow
        (Flow.contact (g.client.authorize { plugin, method, resource := path, body }))
      let outcome ← CommandFlow.ofFlow
        (Flow.contact (g.client.contactWithRetry (Command.contactContext id) request))
      return printed outcome.text) =
      (CommandFlow.ofFlow (Flow.contact (g.client.authorizedContact (Command.contactContext id)
        { plugin, method, resource := path, body })) >>= fun outcome =>
          pure (printed outcome.text) : CommandFlow String) := by
    unfold Client.authorizedContact
    rw [← flow_contact_bind_contact, CommandFlow.ofFlow_bind, bind_assoc]
  rw [hcontact]
  exact followsTalk_contact _ g.client _ _ (fun body => printed (Text.lossy body)) w

/-- A request for a device goes as the look-ups of the device and of its plugin, and the contact
with it. -/
lemma follows_deviceFlow (uuid url : String) (o : RequestOptions)
    (hpasswords : ∀ uuid target, w.inventory.findTarget uuid = .ok target →
      ∃ password, g.Decrypts target password) :
    Follows (p.attending World.handle) w (Command.deviceFlow g uuid url o)
      (Command.Course g (.device uuid url o)) := by
  unfold Command.deviceFlow
  refine follows_withOptions _ fun method body => ?_
  have hdevice : (do
      let response ← CommandFlow.ofFlow (g.deviceRequest { uuid, url, method, body })
      return printed response.body) =
      (CommandFlow.ofFlow (Flow.findTarget uuid) >>= fun target =>
        CommandFlow.ofFlow (Flow.findPlugin target.pluginId) >>= fun plugin =>
          CommandFlow.ofFlow (g.deviceContact { uuid, url, method, body } target plugin) >>=
            fun outcome => pure (printed
              (DeviceRequest.answer { uuid, url, method, body } outcome).body) :
        CommandFlow String) := by
    rw [g.deviceRequest_eq]
    simp only [CommandFlow.ofFlow_bind, bind_assoc]
    rfl
  dsimp only
  rw [hdevice]
  refine follows_withTarget p fun target htarget => follows_withPlugin p fun plugin => ?_
  obtain ⟨password, hpassword⟩ := hpasswords uuid target htarget
  exact followsTalk_deviceContact _ hpassword w

/-- Every command but that for the location follows its course. -/
theorem follows_flow {command : Command} (hcommand : command ≠ .configPath)
    (hpasswords : ∀ uuid target, w.inventory.findTarget uuid = .ok target →
      ∃ password, g.Decrypts target password) :
    Follows (p.attending World.handle) w (command.flow g) (command.Course g) := by
  cases command with
  | login id => exact follows_withPlugin p fun plugin => followsTalk_login _ g.client id plugin w
  | status id => exact follows_withPlugin p fun plugin => followsTalk_status _ id plugin w
  | contact id path o => exact follows_contactFlow p g w id path o
  | device uuid url o => exact follows_deviceFlow p g w uuid url o hpasswords
  | configPath => exact absurd rfl hcommand

end Commands

/-! ## The equipment of an invocation -/

/-- A device of a configuration has a text for its password. -/
lemma Config.exists_password_of_target {c : Config} {env : Environment} {uuid : String} {t : Target}
    (h : c.target env uuid = .ok t) : ∃ password : String, t.password = password.toUTF8 := by
  unfold target at h
  split at h
  · cases h
  · next entry _ =>
    split at h
    · cases h
    · simp only [bind_eq_ok_iff, pure, Except.pure, Except.ok.injEq] at h
      obtain ⟨password, -, rfl⟩ := h
      exact ⟨password, rfl⟩

/-- Devices put one by one are found where they are among them, or were found before. -/
lemma Inventory.findTarget_foldl {P : Target → Prop} {targets : List Target} {i : Inventory}
    (hbefore : ∀ e ∈ i.targets, P e.2) (htargets : ∀ t ∈ targets, P t) {uuid : String} {t : Target}
    (h : (targets.foldl insertTarget i).findTarget uuid = .ok t) : P t := by
  induction targets generalizing i with
  | nil =>
    unfold findTarget at h
    split at h
    · next hfound =>
      obtain ⟨before, after, hentries, -⟩ := List.lookup_eq_some_iff.mp hfound
      cases h
      exact hbefore (uuid, t) (by rw [List.foldl_nil] at hentries; simp [hentries])
    · cases h
  | cons target targets ih =>
    obtain ⟨htarget, hrest⟩ := List.forall_mem_cons.mp htargets
    refine ih (fun e he => ?_) hrest h
    rcases Keyed.mem_of_mem_put he with rfl | he
    · exact htarget
    · exact hbefore e he

/-- The devices of an equipment have passwords that are texts. -/
lemma Config.exists_password_of_equipment {c : Config} {env : Environment}
    {readFile : String → Except String ByteArray} {q : Equipment}
    (h : c.equipment env readFile = .ok q) {uuid : String} {t : Target}
    (ht : q.inventory.findTarget uuid = .ok t) : ∃ password, q.aggregator.Decrypts t password := by
  simp only [equipment, bind_eq_ok_iff, mapError_eq_ok_iff, pure, Except.pure,
    Except.ok.injEq] at h
  obtain ⟨_, -, i, hinventory, rfl⟩ := h
  simp only [inventory, bind_eq_ok_iff, mapM_eq_ok_iff, pure, Except.pure,
    Except.ok.injEq] at hinventory
  obtain ⟨plugins, -, targets, htargets, rfl⟩ := hinventory
  refine Inventory.findTarget_foldl
    (P := fun t => ∃ password : String, Except.ok t.password = Except.ok password.toUTF8) ?_ ?_ ht
  · intro e he
    rw [Inventory.foldl_insertPlugin] at he
    exact absurd he List.not_mem_nil
  · intro t ht
    obtain ⟨e, -, he⟩ := (mem_iff_of_map_eq htargets).mp ht
    obtain ⟨password, hpassword⟩ := exists_password_of_target he
    exact ⟨password, congrArg _ hpassword⟩

/-- A flow in which a probe answers is the flow, with the probe attending to it. -/
lemma Probe.run_answeringFlow {α σ : Type} (p : Probe)
    (handle : (a : FlowAction) → σ → a.Answer × σ) (x : FlowProgram α) (s : σ) :
    (p.answeringFlow x).run handle s = x.run (p.attending handle) s :=
  Program.run_expand x s

/-- A command that is carried out reports the result of its flow. -/
lemma Invocation.rehearse_eq {i : Invocation} {env : Environment}
    {readFile : String → Except String ByteArray} {q : Equipment}
    (hequipment : i.equipment env readFile = .ok q) (hcommand : i.command ≠ .configPath)
    (network : Rehearsal) :
    i.rehearse env readFile network =
      (.ofResult ((i.command.flow q.aggregator).run.run (q.probe.attending World.handle)
          ⟨network, q.inventory, ""⟩).1,
        ((i.command.flow q.aggregator).run.run (q.probe.attending World.handle)
          ⟨network, q.inventory, ""⟩).2.network) := by
  have hplan : i.plan env readFile = .ok (.inr (q.inventory,
      q.probe.answeringFlow (i.command.flow q.aggregator).run)) := by
    unfold plan
    rw [hequipment]
    split
    · next h => exact absurd h hcommand
    · rfl
  unfold rehearse
  rw [hplan]
  simp only [World.perform, Probe.run_answeringFlow]

/-! ## The report of a command -/

/-- A command with a request that cannot be read has failed before it does anything. -/
lemma Command.flow_of_unreadable (g : Aggregator) {command : Command} {o : RequestOptions}
    (ho : command.request? = some o) (h : o.Unreadable) :
    ∃ e : CommandError, e.exitCode = 1 ∧ command.flow g = ExceptT.mk (.done (.error e)) := by
  cases hread : o.read with
  | ok request => exact absurd h (RequestOptions.not_unreadable hread)
  | error e =>
    refine ⟨e, (RequestOptions.unreadable_of_error hread).2, ?_⟩
    cases command with
    | contact id path request =>
      obtain rfl := Option.some.inj ho
      show contactFlow g id path request = _
      unfold contactFlow
      rw [hread]
      rfl
    | device uuid url request =>
      obtain rfl := Option.some.inj ho
      show deviceFlow g uuid url request = _
      unfold deviceFlow
      rw [hread]
      rfl
    | _ => cases ho

/-- Whatever the network answers, exactly one thing decides how a command ends, and its report tells
what it is; a command with a request that cannot be read fails and leaves the network as it is. -/
theorem rehearse_tells {i : Invocation} {env : Environment}
    {readFile : String → Except String ByteArray} {q : Equipment}
    (hequipment : i.equipment env readFile = .ok q) (hcommand : i.command ≠ .configPath)
    (network : Rehearsal) :
    (∃! decision, i.command.Course q.aggregator (q.events i.command network) decision) ∧
    (i.rehearse env readFile network).1.Tells
      (i.command.Course q.aggregator (q.events i.command network)) ∧
    ∀ o, i.command.request? = some o → o.Unreadable →
      (i.rehearse env readFile network).1.exitCode = 1 ∧
        (i.rehearse env readFile network).2 = network := by
  have hpasswords (uuid : String) (target : Target)
      (h : q.inventory.findTarget uuid = .ok target) :
      ∃ password, q.aggregator.Decrypts target password := by
    obtain ⟨config, -, hconfig⟩ := bind_eq_ok_iff.mp hequipment
    exact Config.exists_password_of_equipment hconfig h
  obtain ⟨decision, hcourse, hreported⟩ :=
    follows_flow q.probe q.aggregator ⟨network, q.inventory, ""⟩ hcommand hpasswords
  have hends (d : Decision) :
      i.command.Course q.aggregator (q.events i.command network) d ↔ d = decision :=
    ⟨fun h => h.unique hcourse, fun h => h ▸ hcourse⟩
  rw [Invocation.rehearse_eq hequipment hcommand]
  refine ⟨⟨decision, hcourse, fun d hd => (hends d).mp hd⟩, hreported.tells hends, ?_⟩
  intro o ho hunreadable
  obtain ⟨e, hcode, hflow⟩ := Command.flow_of_unreadable q.aggregator ho hunreadable
  rw [hflow]
  exact ⟨hcode, rfl⟩

/-- The plugin `grf` is asked for its root, with a method. -/
def askingRoot (method : String) : Invocation where
  config := some "plugins.toml"
  verbosity := 0
  command := .contact "grf" "/redfish/v1" { method }

/-- A disk with a configuration of the plugin `grf`, which takes tokens. -/
def onePluginDisk (path : String) : Except String ByteArray :=
  if path = "plugins.toml" then
    .ok ("[plugins.grf]\nip = \"10.0.0.5\"\nport = 45001\nusername = \"u\"\npassword = \"p\"\n" ++
      "preferred_auth_type = \"XAuthToken\"\n").toUTF8
  else .error "no such file"

/-- A plugin that takes no token: it refuses the one that is kept, issues another one, and refuses
this one too. -/
def takingNoToken : Rehearsal where
  replies := [⟨.respond ⟨401, [], ByteArray.empty⟩, 0⟩,
    ⟨.respond ⟨201, [("X-Auth-Token", "t2".toUTF8)], ByteArray.empty⟩, 0⟩,
    ⟨.respond ⟨401, [], "expired".toUTF8⟩, 0⟩]
  health := []
  tokens := [("grf", "t1")]
  calls := []
  waited := 0
  checks := 0

/-- A plugin that refuses a second token decides how the command ends, and its status and its body
are reported; with a method that is none the plugin is not asked. -/
theorem rehearse_tells_of_takingNoToken :
    (∃ q, (askingRoot "get").equipment [] onePluginDisk = .ok q ∧
      (askingRoot "get").command ≠ .configPath ∧
      (∃! decision, (askingRoot "get").command.Course q.aggregator
        (q.events (askingRoot "get").command takingNoToken) decision) ∧
      ((askingRoot "get").rehearse [] onePluginDisk takingNoToken).1.Tells
        ((askingRoot "get").command.Course q.aggregator
          (q.events (askingRoot "get").command takingNoToken)) ∧
      ((askingRoot "get").rehearse [] onePluginDisk takingNoToken).1.error?.bind
        CommandError.help? = some "Plugin answered HTTP 401:\n\"expired\"") ∧
    ∃ q, (askingRoot "g t").equipment [] onePluginDisk = .ok q ∧
      RequestOptions.Unreadable { method := "g t" } ∧
      ((askingRoot "g t").rehearse [] onePluginDisk takingNoToken).1.exitCode = 1 ∧
      ((askingRoot "g t").rehearse [] onePluginDisk takingNoToken).2 = takingNoToken := by
  constructor
  · obtain ⟨q, hq⟩ : ∃ q, (askingRoot "get").equipment [] onePluginDisk = .ok q :=
      exists_ok_of_isOk (by decide +kernel)
    have hcommand : (askingRoot "get").command ≠ .configPath := nofun
    obtain ⟨hunique, htells, -⟩ := rehearse_tells hq hcommand takingNoToken
    exact ⟨q, hq, hcommand, hunique, htells, by decide +kernel⟩
  · obtain ⟨q, hq⟩ : ∃ q, (askingRoot "g t").equipment [] onePluginDisk = .ok q :=
      exists_ok_of_isOk (by decide +kernel)
    have hunreadable : RequestOptions.Unreadable { method := "g t" } := .inl (by decide +kernel)
    obtain ⟨-, -, hsilent⟩ := rehearse_tells hq nofun takingNoToken
    exact ⟨q, hq, hunreadable, hsilent _ rfl hunreadable⟩

end PluginGateway
