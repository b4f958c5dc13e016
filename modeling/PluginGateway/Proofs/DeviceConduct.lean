import PluginGateway.Proofs.Results
import PluginGateway.Proofs.Woven

/-!
# How a request to a device goes

A request to a device is passed on to the plugin of the device, with the address and the credentials
of the device in its document. `DeviceRun` says how this goes: the device and its plugin are looked
up, and if both are known there is a session, a first round of calls for the request, and possibly a
login and a second round. `DeviceConduct` says what is certain of these parts.

The main statement, `deviceRequest_run`, says that every request to a device goes so, whatever the
surroundings answer.
-/

namespace PluginGateway

/-- The stored password of a device is decrypted to a text. -/
def Aggregator.Decrypts (g : Aggregator) (t : Target) (password : String) : Prop :=
  g.decrypt t.password = .ok password.toUTF8

/-- The call passes the request on to the plugin of the device: it has the method of the request,
the plugin's form of its path, and an object of the address and the credentials of the device, with
the document of the request beside them exactly if there is one. -/
structure DeviceRequest.PassedOn (g : Aggregator) (r : DeviceRequest) (target : Target)
    (plugin : Plugin) (password : String) (call : Call) : Prop where
  /-- The method is that of the request. -/
  method : call.method = r.method
  /-- The path is the plugin's form of the URL without the qualifiers of the device. -/
  path : call.path = String.ofList (g.client.conversion.devicePath r.uuid.toList r.url.toList)
  /-- The call goes to the endpoint of that path. -/
  endpoint : endpoint g.client.scheme plugin call.path = .ok call.url
  /-- The document holds the device's address and credentials, and that of the request. -/
  body : call.body = some (.object ([("ManagerAddress", .string target.managerAddress),
    ("UserName", .string target.username), ("Password", .string password)] ++
      (r.body.map fun v => ("PostBody", v)).toList))

/-- What is certain of a request to a device once the device and its plugin are known. The events
are those of the session, of the first calls, of a login behind these, and of the second calls. -/
structure DeviceConduct (g : Aggregator) (r : DeviceRequest) (target : Target) (plugin : Plugin)
    (session first login second : List Event) (result : Except FlowError DeviceResponse) :
    Prop where
  /-- A plugin that takes tokens is asked for a session, by a login if no token is kept, and any
  other plugin is asked for nothing. -/
  opening : (plugin.auth = .token → ∃ kept? token?, Session g.client plugin kept? session token?) ∧
    (plugin.auth ≠ .token → session = [])
  /-- The calls for the device need a session and a password, and all of them pass the request on to
  the plugin of the device. -/
  calls : first ++ second ≠ [] →
    (plugin.auth = .token → ∃ kept? token, Session g.client plugin kept? session (some token)) ∧
      ∃ password, g.Decrypts target password ∧
        ∀ event ∈ first ++ second, event.OfExchange plugin (r.PassedOn g target plugin password)
  /-- Behind the first calls nothing follows but a login, and behind the login the second calls. -/
  renewal : login ++ second = [] ∨ first ≠ [] ∧ ∃ token?, Login g.client plugin login token?
  /-- With a password the request is an authorised contact, and has the result of the contact. -/
  carried : ∀ password, g.Decrypts target password → ∃ kept? outcome?,
    AuthorizedConduct g.client r.context (r.forPlugin plugin target password) kept?
      (session ++ first ++ login ++ second) outcome? ∧
    result = (outcome?.mapError FlowError.ofContact).map r.answer
  /-- Nothing is sent for a device without a password. -/
  decryption : ∀ reason, result = .error (.decryption reason) → first ++ login ++ second = []
  /-- A success is what the plugin answered to the last call, with the links of the device
  qualified. -/
  success : ∀ answer, result = .ok answer → ∃ call response,
    (first ++ second).getLast? = some (.sent plugin call (.ok response)) ∧
      (response.status = 200 ∨ response.status = 201) ∧
      answer = ⟨response.status, String.ofList (Path.qualifyLinks r.uuid.toList
        (Text.lossy (g.client.conversion.northBody response.body)).toList)⟩

/-- The events of a request to a device, with its result. -/
inductive DeviceRun (g : Aggregator) (r : DeviceRequest) :
    List FlowEvent → Except FlowError DeviceResponse → Prop
  /-- The device is not known. -/
  | noTarget (e : FlowError) : DeviceRun g r [⟨.findTarget r.uuid, .error e⟩] (.error e)
  /-- The plugin of the device is not known. -/
  | noPlugin (target : Target) (e : FlowError) :
    DeviceRun g r [⟨.findTarget r.uuid, .ok target⟩, ⟨.findPlugin target.pluginId, .error e⟩]
      (.error e)
  /-- The device and its plugin are known. -/
  | known (target : Target) (plugin : Plugin) (session first login second : List Event)
      (result : Except FlowError DeviceResponse)
      (h : DeviceConduct g r target plugin session first login second result) :
    DeviceRun g r (⟨.findTarget r.uuid, .ok target⟩ :: ⟨.findPlugin target.pluginId, .ok plugin⟩ ::
      (session ++ first ++ login ++ second).map Event.inFlow) result

/-! ## The calls of a request that is carried out -/

/-- The call is one of the request, whichever credentials it carries. -/
structure Call.Serves (c : Client) (r : ContactRequest) (call : Call) : Prop where
  /-- The method is that of the request. -/
  method : call.method = r.method
  /-- The path is the plugin's form of that of the request. -/
  path : call.path = c.southPath r.resource
  /-- The call goes to the endpoint of that path. -/
  endpoint : endpoint c.scheme r.plugin (c.southPath r.resource) = .ok call.url
  /-- The document is that of the request. -/
  body : call.body = r.body

/-- The parts of a request that is carried out: its first calls, a login behind these, and its
second calls. -/
structure Conduct.Parts (c : Client) (r : ContactRequest) (first login second : List Event)
    (result : Except ContactError Outcome) : Prop where
  /-- All calls besides the login are calls of the request. -/
  calls : ∀ event ∈ first ++ second, event.OfExchange r.plugin (Call.Serves c r)
  /-- Behind the first calls nothing follows but a login, and behind the login the second calls. -/
  renewal : login ++ second = [] ∨ first ≠ [] ∧ ∃ token?, Login c r.plugin login token?
  /-- An outcome is that of the last call. -/
  outcome : ∀ outcome, result = .ok outcome → ∃ call response,
    (first ++ second).getLast? = some (.sent r.plugin call (.ok response)) ∧
      (response.status = 200 ∨ response.status = 201) ∧ outcome.status = response.status ∧
      outcome.body = c.conversion.northBody response.body

variable {c : Client} {context : String} {r : ContactRequest}

/-- An outcome comes from a response that reports success. -/
lemma Ending.exists_of_result {ending : Ending} {outcome : Outcome}
    (h : ending.result c context = .ok outcome) :
    ∃ response, ending = .answered (.ok response) ∧
      (response.status = 200 ∨ response.status = 201) ∧ outcome.status = response.status ∧
      outcome.body = c.conversion.northBody response.body := by
  cases ending with
  | unsent fault => cases h
  | answered answer =>
    cases answer with
    | error failure => cases h
    | ok response =>
      by_cases hsuccess : response.status = 200 ∨ response.status = 201
      · simp only [Ending.result, hsuccess, if_true, Except.ok.injEq] at h
        subst h
        exact ⟨response, rfl, hsuccess, rfl, rfl⟩
      · simp [Ending.result, hsuccess] at h

/-- A request that is carried out has these parts. -/
lemma Conduct.exists_parts {events : List Event} {result : Except ContactError Outcome}
    (h : Conduct c context r events result) :
    ∃ first login second, events = first ++ login ++ second ∧
      Conduct.Parts c r first login second result := by
  have hanswered : ∀ (first : List Event) {events : List Event} {path : String} {draft : Url → Call}
      {ending : Ending}, Phase c.scheme r.plugin path draft events ending →
      ∀ outcome, ending.result c context = .ok outcome → ∃ call response,
        (first ++ events).getLast? = some (.sent r.plugin call (.ok response)) ∧
          (response.status = 200 ∨ response.status = 201) ∧ outcome.status = response.status ∧
          outcome.body = c.conversion.northBody response.body := by
    intro first events path draft ending hphase outcome houtcome
    obtain ⟨response, rfl, hstatus⟩ := Ending.exists_of_result houtcome
    obtain ⟨url, hlast⟩ := hphase.getLast?_events
    refine ⟨draft url, response, ?_, hstatus⟩
    rw [List.getLast?_append, hlast, Option.some_or]
  have hrefused : ∀ {first : List Event} {refusal : Ending}, RequestPhase c r first refusal →
      refusal.Refused → first ≠ [] := by
    rintro first refusal hfirst ⟨response, rfl, -⟩ rfl
    obtain ⟨url, hlast⟩ := hfirst.getLast?_events
    cases hlast
  have hserves : ∀ {events : List Event} {ending : Ending}, RequestPhase c r events ending →
      ∀ event ∈ events, event.OfExchange r.plugin (Call.Serves c r) := by
    intro events ending hphase
    exact hphase.forall_events fun url hurl => ⟨rfl, rfl, hurl, rfl⟩
  cases h with
  | single events ending hfirst hstands =>
    refine ⟨events, [], [], by simp, ?_, .inl rfl, ?_⟩
    · simpa using hserves hfirst
    · simpa using hanswered [] hfirst
  | lockedOut first login refusal hfirst hrefusal htoken hlogin =>
    refine ⟨first, login, [], by simp, ?_, .inr ⟨hrefused hfirst hrefusal, none, hlogin⟩, nofun⟩
    simpa using hserves hfirst
  | repeated first login second refusal ending token hfirst hrefusal htoken hlogin hsecond =>
    refine ⟨first, login, second, rfl, ?_, .inr ⟨hrefused hfirst hrefusal, some token, hlogin⟩,
      hanswered first hsecond⟩
    intro event hevent
    rcases List.mem_append.mp hevent with hevent | hevent
    · exact hserves hfirst event hevent
    · exact hsecond.forall_events (fun url hurl => ⟨rfl, rfl, hurl, rfl⟩) event hevent

/-! ## Flows that make a contact -/

variable {σ : Type} (handle : (action : FlowAction) → σ → action.Answer × σ)

/-- The history of a contact within a flow. -/
lemma history_flow_contact {α : Type} (x : Conversation (Except ContactError α)) (s : σ) :
    (Flow.contact x).run.history handle s =
      (x.history (withinFlow handle) s).map Event.inFlow := by
  simp only [Flow.contact, ExceptT.run_mk, Program.history_bind, Program.history_done,
    List.append_nil, history_converse]

/-- The result of a contact within a flow. -/
lemma run_flow_contact {α : Type} (x : Conversation (Except ContactError α)) (s : σ) :
    (Flow.contact x).run.run handle s =
      ((x.run (withinFlow handle) s).1.mapError FlowError.ofContact,
        (x.run (withinFlow handle) s).2) := by
  simp only [Flow.contact, ExceptT.run_mk, Program.run_bind, Program.run_done, run_converse]

/-- A failed contact is none of the failures that flows have on their own account. -/
lemma FlowError.ofContact_ne (failure : ContactError) :
    (∀ kind identifier, ofContact failure ≠ .notFound kind identifier) ∧
      (∀ reason, ofContact failure ≠ .invalidRequest reason) ∧
      ∀ reason, ofContact failure ≠ .decryption reason := by
  cases failure <;> exact ⟨nofun, nofun, nofun⟩

/-- What an authorisation asks of a plugin is a session, for a plugin that takes tokens. -/
lemma Authorization.opening {kept? : Option String} {session : List Event}
    {r'? : Option ContactRequest} (h : Authorization c r kept? session r'?) :
    (r.plugin.auth = .token → ∃ kept? token?, Session c r.plugin kept? session token?) ∧
      (r.plugin.auth ≠ .token → session = []) := by
  cases h with
  | credentials hbasic => exact ⟨fun h => absurd h hbasic, fun _ => rfl⟩
  | token htoken events token hsession =>
    exact ⟨fun _ => ⟨kept?, some token, hsession⟩, fun h => absurd htoken h⟩
  | refused htoken events hsession =>
    exact ⟨fun _ => ⟨kept?, none, hsession⟩, fun h => absurd htoken h⟩

/-- A request to a plugin that takes tokens is authorised by a session that was obtained. -/
lemma Authorization.obtained {kept? : Option String} {session : List Event} {r' : ContactRequest}
    (h : Authorization c r kept? session (some r')) (htoken : r.plugin.auth = .token) :
    ∃ kept? token, Session c r.plugin kept? session (some token) := by
  cases h with
  | credentials hbasic => exact absurd htoken hbasic
  | token htoken events token hsession => exact ⟨kept?, token, hsession⟩

/-- A password is found if the stored one is decrypted to it. -/
lemma decrypts_of_devicePassword {g : Aggregator} {target : Target} {password : String}
    (h : g.devicePassword target = .ok password) : g.Decrypts target password := by
  unfold Aggregator.devicePassword at h
  unfold Aggregator.Decrypts
  cases hplain : g.decrypt target.password with
  | error e =>
    rw [hplain] at h
    cases h
  | ok plain =>
    rw [hplain] at h
    dsimp only [Text.decode] at h
    cases htext : String.fromUTF8? plain with
    | none =>
      rw [htext] at h
      cases h
    | some text =>
      rw [htext] at h
      obtain rfl := Except.ok.inj h
      rw [Text.toUTF8_of_fromUTF8? htext]

/-- The password of a device is the one that the stored password is decrypted to. -/
lemma devicePassword_of_decrypts {g : Aggregator} {target : Target} {password : String}
    (h : g.Decrypts target password) : g.devicePassword target = .ok password := by
  have hplain : g.decrypt target.password = .ok password.toUTF8 := h
  unfold Aggregator.devicePassword
  rw [hplain]
  simp only [Text.decode, Text.fromUTF8?_toUTF8]
  rfl

variable (g : Aggregator) (r : DeviceRequest) (target : Target) (plugin : Plugin)

/-- If the contact fails before it is made, nothing is sent for the device. -/
lemma deviceConduct_of_error {request : ContactRequest} (hplugin : request.plugin = plugin)
    {kept? : Option String} {session : List Event} {r'? : Option ContactRequest}
    (h : Authorization g.client request kept? session r'?) {e : FlowError}
    (hcarried : ∀ password, g.Decrypts target password → ∃ kept? outcome?,
      AuthorizedConduct g.client r.context (r.forPlugin plugin target password) kept?
        session outcome? ∧
      .error e = (outcome?.mapError FlowError.ofContact).map r.answer) :
    DeviceConduct g r target plugin session [] [] [] (.error e) where
  opening := hplugin ▸ h.opening
  calls := fun hcalls => absurd rfl hcalls
  renewal := .inl rfl
  carried := by simpa using hcarried
  decryption := fun _ _ => rfl
  success := nofun

/-- The calls of a request for a device pass it on to the plugin of the device. -/
lemma passedOn_of_serves {password : String} {token? : Option String} {basic? : Option Credentials}
    {call : Call} (h : call.Serves g.client
      { r.forPlugin plugin target password with token := token?, basic := basic? }) :
    r.PassedOn g target plugin password call := by
  have hpath : call.path =
      String.ofList (g.client.conversion.devicePath r.uuid.toList r.url.toList) := by
    rw [h.path, Client.southPath, Path.Conversion.devicePath]
    exact congrArg (fun path => String.ofList (g.client.conversion.southPath path))
      String.toList_ofList
  exact ⟨h.method, hpath, h.path ▸ h.endpoint, h.body⟩

/-- Without a password a session is asked for, and nothing is sent for the device. -/
lemma deviceContact_of_error {e : FlowError} (hpassword : g.devicePassword target = .error e)
    (s : σ) :
    ∃ session, (g.deviceContact r target plugin).run.history handle s =
        session.map Event.inFlow ∧
      DeviceConduct g r target plugin session [] [] []
        (((g.deviceContact r target plugin).run.run handle s).1.map r.answer) := by
  have hcarried {session : List Event} {e' : FlowError} (password : String)
      (hdecrypts : g.Decrypts target password) : ∃ kept? outcome?,
        AuthorizedConduct g.client r.context (r.forPlugin plugin target password) kept?
          session outcome? ∧
        .error e' = (outcome?.mapError FlowError.ofContact).map r.answer := by
    rw [devicePassword_of_decrypts hdecrypts] at hpassword
    cases hpassword
  obtain ⟨r'?, hauthorization, hresult⟩ :=
    authorize_authorization (withinFlow handle) g.client (r.bare plugin) s
  have hrun := run_flow_contact handle (g.client.authorize (r.bare plugin)) s
  have hhistory := history_flow_contact handle (g.client.authorize (r.bare plugin)) s
  rw [hresult] at hrun
  refine ⟨(g.client.authorize (r.bare plugin)).history (withinFlow handle) s, ?_, ?_⟩
  · simp only [Aggregator.deviceContact, hpassword]
    cases r'? with
    | none => rw [history_flow_bind_error hrun, hhistory]
    | some r' =>
      rw [history_flow_bind hrun, hhistory]
      exact List.append_nil _
  · simp only [Aggregator.deviceContact, hpassword]
    cases r'? with
    | none =>
      rw [run_flow_bind_error hrun]
      exact deviceConduct_of_error g r target plugin rfl hauthorization hcarried
    | some r' =>
      rw [run_flow_bind hrun]
      exact deviceConduct_of_error g r target plugin rfl hauthorization hcarried

/-- With a password, what is made of the request is the contact that was made. -/
lemma carried_of_contact {password : String} (hpassword : g.devicePassword target = .ok password)
    {kept? : Option String} {events : List Event} {outcome? : Except ContactError Outcome}
    (h : AuthorizedConduct g.client r.context (r.forPlugin plugin target password) kept? events
      outcome?) (password' : String) (hdecrypts : g.Decrypts target password') :
    ∃ kept?' outcome?', AuthorizedConduct g.client r.context
        (r.forPlugin plugin target password') kept?' events outcome?' ∧
      (outcome?.mapError FlowError.ofContact).map r.answer =
        (outcome?'.mapError FlowError.ofContact).map r.answer := by
  rw [devicePassword_of_decrypts hdecrypts] at hpassword
  obtain rfl := Except.ok.inj hpassword
  exact ⟨kept?, outcome?, h, rfl⟩

/-- A request that is authorised and carried out for a device goes as is certain of it. -/
lemma deviceConduct_of_parts {password : String}
    (hpassword : g.devicePassword target = .ok password) {kept? token? : Option String}
    {basic? : Option Credentials} {session first login second : List Event}
    {result : Except ContactError Outcome}
    (h : Authorization g.client (r.forPlugin plugin target password) kept? session
      (some { r.forPlugin plugin target password with token := token?, basic := basic? }))
    (hparts : Conduct.Parts g.client
      { r.forPlugin plugin target password with token := token?, basic := basic? }
      first login second result)
    (hcontact : AuthorizedConduct g.client r.context (r.forPlugin plugin target password) kept?
      (session ++ first ++ login ++ second) result) :
    DeviceConduct g r target plugin session first login second
      ((result.mapError FlowError.ofContact).map r.answer) where
  opening := h.opening
  calls := by
    intro hcalls
    refine ⟨h.obtained, password, decrypts_of_devicePassword hpassword, fun event hevent => ?_⟩
    exact (hparts.calls event hevent).mono fun call hcall =>
      passedOn_of_serves g r target plugin hcall
  renewal := hparts.renewal
  carried := carried_of_contact g r target plugin hpassword hcontact
  decryption := by
    intro reason hreason
    cases result with
    | ok outcome => cases hreason
    | error failure =>
      exact absurd (Except.error.inj hreason) ((FlowError.ofContact_ne failure).2.2 _)
  success := by
    intro answer hanswer
    cases result with
    | error failure => cases hanswer
    | ok outcome =>
      obtain ⟨call, response, hlast, hsuccess, hstatus, hbody⟩ := hparts.outcome outcome rfl
      obtain rfl := Except.ok.inj hanswer
      refine ⟨call, response, hlast, hsuccess, ?_⟩
      rw [DeviceRequest.answer, Outcome.text, hstatus, hbody]

/-- With a password the request is authorised and carried out. -/
lemma deviceContact_of_password {password : String}
    (hpassword : g.devicePassword target = .ok password) (s : σ) :
    ∃ session first login second,
      (g.deviceContact r target plugin).run.history handle s =
        (session ++ first ++ login ++ second).map Event.inFlow ∧
      DeviceConduct g r target plugin session first login second
        (((g.deviceContact r target plugin).run.run handle s).1.map r.answer) := by
  have hcontact := authorizedContact_conduct (withinFlow handle) g.client r.context
    (r.forPlugin plugin target password) s
  simp only [Aggregator.deviceContact, hpassword, history_flow_contact, run_flow_contact]
  generalize (g.client.authorizedContact r.context (r.forPlugin plugin target password)).history
    (withinFlow handle) s = events at hcontact ⊢
  generalize ((g.client.authorizedContact r.context (r.forPlugin plugin target password)).run
    (withinFlow handle) s).1 = result at hcontact ⊢
  cases hcontact with
  | unavailable session h =>
    have hcarried := carried_of_contact g r target plugin hpassword (.unavailable events h)
    exact ⟨events, [], [], [], by simp, deviceConduct_of_error g r target plugin rfl h hcarried⟩
  | conducted session r' h events result hconduct =>
    obtain ⟨token?, basic?, rfl⟩ := h.eq_some
    obtain ⟨first, login, second, rfl, hparts⟩ := hconduct.exists_parts
    have hevents : session ++ (first ++ login ++ second) = session ++ first ++ login ++ second := by
      simp only [List.append_assoc]
    have hwhole := AuthorizedConduct.conducted session _ h _ _ hconduct
    rw [hevents] at hwhole ⊢
    exact ⟨session, first, login, second, rfl,
      deviceConduct_of_parts g r target plugin hpassword h hparts hwhole⟩

/-- Once the device and its plugin are found, a request goes as is certain of it. -/
lemma deviceContact_conduct (s : σ) :
    ∃ session first login second,
      (g.deviceContact r target plugin).run.history handle s =
        (session ++ first ++ login ++ second).map Event.inFlow ∧
      DeviceConduct g r target plugin session first login second
        (((g.deviceContact r target plugin).run.run handle s).1.map r.answer) := by
  cases hpassword : g.devicePassword target with
  | error e =>
    obtain ⟨session, hhistory, hconduct⟩ :=
      deviceContact_of_error handle g r target plugin hpassword s
    exact ⟨session, [], [], [], by simpa using hhistory, hconduct⟩
  | ok password => exact deviceContact_of_password handle g r target plugin hpassword s

/-! ## Why a request to a device fails -/

/-- A contact within a flow fails as the contact does. -/
lemma flow_contact_error {α : Type} {x : Conversation (Except ContactError α)} {s : σ}
    {e : FlowError} (h : ((Flow.contact x).run.run handle s).1 = .error e) :
    ∃ failure, e = .ofContact failure := by
  rw [run_flow_contact] at h
  obtain ⟨failure, -, hfailure⟩ := mapError_eq_error_iff.mp h
  exact ⟨failure, hfailure.symm⟩

/-- A password that is not to be had cannot be decrypted. -/
lemma devicePassword_error {e : FlowError} (h : g.devicePassword target = .error e) :
    ∃ reason, e = .decryption reason := by
  unfold Aggregator.devicePassword at h
  cases hplain : g.decrypt target.password with
  | error fault =>
    rw [hplain] at h
    exact ⟨_, (Except.error.inj h).symm⟩
  | ok plain =>
    rw [hplain] at h
    obtain ⟨fault, -, hfault⟩ := mapError_eq_error_iff.mp h
    exact ⟨_, hfault.symm⟩

/-- The contact with the plugin of a device fails because there is no password, or because of the
contact. -/
lemma deviceContact_error {s : σ} {e : FlowError}
    (h : ((g.deviceContact r target plugin).run.run handle s).1 = .error e) :
    (∃ reason, e = .decryption reason) ∨ ∃ failure, e = .ofContact failure := by
  unfold Aggregator.deviceContact at h
  cases hpassword : g.devicePassword target with
  | ok password =>
    rw [hpassword] at h
    exact .inr (flow_contact_error handle h)
  | error e' =>
    rw [hpassword] at h
    rcases run_flow_bind_eq_error h with hcontact | ⟨request, s', -, hfailed⟩
    · exact .inr (flow_contact_error handle hcontact)
    · obtain rfl : e' = e := Except.error.inj hfailed
      exact .inl (devicePassword_error g target hpassword)

/-- A request to a device fails because the device or its plugin is not found, because there is no
password, or because the contact with the plugin fails. -/
lemma deviceRequest_error {s : σ} {e : FlowError}
    (h : ((g.deviceRequest r).run.run handle s).1 = .error e) :
    (handle (.findTarget r.uuid) s).1 = .error e ∨
      (∃ target s₁, handle (.findTarget r.uuid) s = (.ok target, s₁) ∧
        (handle (.findPlugin target.pluginId) s₁).1 = .error e) ∨
      (∃ reason, e = .decryption reason) ∨ ∃ failure, e = .ofContact failure := by
  rw [g.deviceRequest_eq] at h
  rcases run_flow_bind_eq_error h with htarget | ⟨target, s₁, htarget, h⟩
  · exact .inl htarget
  rcases run_flow_bind_eq_error h with hplugin | ⟨plugin, s₂, -, h⟩
  · exact .inr (.inl ⟨target, s₁, htarget, hplugin⟩)
  rcases run_flow_bind_eq_error h with hcontact | ⟨outcome, s₃, -, h⟩
  · exact .inr (.inr (deviceContact_error handle g r target plugin hcontact))
  · cases h

/-! ## Every request -/

/-- A request to a device with its events, its result and the state that is left. -/
lemma exists_deviceRun (s : σ) :
    ∃ events result s', (g.deviceRequest r).run.history handle s = events ∧
      (g.deviceRequest r).run.run handle s = (result, s') ∧ DeviceRun g r events result := by
  suffices h : DeviceRun g r ((g.deviceRequest r).run.history handle s)
      ((g.deviceRequest r).run.run handle s).1 from ⟨_, _, _, rfl, rfl, h⟩
  rw [g.deviceRequest_eq]
  have htarget : (Flow.findTarget r.uuid).run.history handle s =
      [⟨.findTarget r.uuid, (handle (.findTarget r.uuid) s).1⟩] := rfl
  rcases hfound : handle (.findTarget r.uuid) s with ⟨e | target, s₁⟩
  · have hrun : (Flow.findTarget r.uuid).run.run handle s = (.error e, s₁) := hfound
    rw [history_flow_bind_error hrun, run_flow_bind_error hrun, htarget, hfound]
    exact .noTarget e
  have hrun : (Flow.findTarget r.uuid).run.run handle s = (.ok target, s₁) := hfound
  rw [history_flow_bind hrun, run_flow_bind hrun, htarget, hfound]
  have hplugin : (Flow.findPlugin target.pluginId).run.history handle s₁ =
      [⟨.findPlugin target.pluginId, (handle (.findPlugin target.pluginId) s₁).1⟩] := rfl
  rcases hfound' : handle (.findPlugin target.pluginId) s₁ with ⟨e | plugin, s₂⟩
  · have hrun' : (Flow.findPlugin target.pluginId).run.run handle s₁ = (.error e, s₂) := hfound'
    rw [history_flow_bind_error hrun', run_flow_bind_error hrun', hplugin, hfound']
    exact .noPlugin target e
  have hrun' : (Flow.findPlugin target.pluginId).run.run handle s₁ = (.ok plugin, s₂) := hfound'
  rw [history_flow_bind hrun', run_flow_bind hrun', hplugin, hfound']
  obtain ⟨session, first, login, second, hhistory, hconduct⟩ :=
    deviceContact_conduct handle g r target plugin s₂
  have hanswer : ((do
      let outcome ← g.deviceContact r target plugin
      return r.answer outcome) : Flow DeviceResponse).run =
      (g.deviceContact r target plugin).run.bind fun result => .done (result.map r.answer) := by
    rw [ExceptT.run_bind]
    refine congrArg _ (funext fun result => ?_)
    cases result <;> rfl
  rw [hanswer, Program.history_bind, Program.run_bind, Program.history_done, List.append_nil,
    hhistory]
  exact .known target plugin session first login second _ hconduct

/-- A request to a device goes in one of three ways, whatever the surroundings answer. If the device
or its plugin is not known, nothing is sent. Otherwise there is a session with the plugin, if the
plugin takes tokens, and only behind it, and only with the password of the device, calls are made
for the device; each of them passes the request on to the plugin of the device, those sent again
after silence and those behind a login included; and a success is the answer to the last of them.
With the password, the whole is an authorised contact and has its result. -/
theorem deviceRequest_run (s : σ) :
    DeviceRun g r ((g.deviceRequest r).run.history handle s)
      ((g.deviceRequest r).run.run handle s).1 := by
  obtain ⟨events, result, s', hhistory, hrun, hdevice⟩ := exists_deviceRun handle g r s
  rw [hhistory, hrun]
  exact hdevice

end PluginGateway
