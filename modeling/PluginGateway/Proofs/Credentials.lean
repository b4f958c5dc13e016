import PluginGateway.Proofs.TokenCache

/-!
# Credentials go to their own plugin

What a call carries to authenticate its caller is chosen in several places: when a request is
authorised, when its call is made, when it is repeated after a login, and when a token is looked up
that was kept before. `Call.Credited` says what is right for a call, given what has happened before
it: a login carries nothing, a call to a plugin that takes tokens carries one that was kept for its
name at the start or that a login for this name has brought, and any other call carries the plugin's
own user name and password.

The main statement, `run_separated`, is about runs of authorised contacts and flows of any length,
from any kept tokens and against any prepared answers: all their calls are such.
-/

namespace PluginGateway

/-! ## What is right for a call -/

/-- The plugin that an action sends a call to, and the call, if it sends one. -/
def FlowAction.call? : FlowAction → Option (Plugin × Call)
  | .contact (.send plugin call) | .contact (.sendWithin _ plugin call) => some (plugin, call)
  | _ => none

/-- Calls are sent in contacts only. -/
lemma FlowAction.call?_of_not {action : FlowAction} (h : action.isContact = false) :
    action.call? = none := by
  cases action with
  | contact action => cases h
  | _ => rfl

/-- A login for a plugin of the name was answered with success and the token. -/
def IssuedIn (events : List FlowEvent) (id token : String) : Prop :=
  ∃ (c : Client) (plugin : Plugin) (url : Url) (response : Response), plugin.id = id ∧
    (Event.sent plugin (loginCall c plugin url) (.ok response)).inFlow ∈ events ∧
    (response.status = 200 ∨ response.status = 201) ∧ response.Carries token

/-- The token was kept under the name at the start, or a login for a plugin of the name has brought
it. -/
def Entitled (start : List (String × String)) (past : List FlowEvent) (id token : String) : Prop :=
  start.lookup id = some token ∨ IssuedIn past id token

/-- The call carries what its plugin authenticates callers by, and nothing besides, given the tokens
kept at the start and what has happened since. -/
inductive Call.Credited (start : List (String × String)) (past : List FlowEvent)
    (plugin : Plugin) (call : Call) : Prop
  /-- A login carries neither a token nor credentials. -/
  | login (hauth : plugin.auth = .token) (c : Client) (url : Url)
      (hcall : call = loginCall c plugin url)
  /-- A call to a plugin that takes tokens carries one that belongs to the plugin's name. -/
  | token (hauth : plugin.auth = .token) (token : String) (htoken : call.token = some token)
      (hbasic : call.basic = none) (hentitled : Entitled start past plugin.id token)
  /-- A call to any other plugin carries the plugin's own credentials. -/
  | credentials (hauth : plugin.auth = .basic) (htoken : call.token = none)
      (hbasic : call.basic = some plugin.credentials)

/-- Every call among the events carries what is right for it, given the tokens kept at the start and
what has happened before it. -/
def Separated (start : List (String × String)) (events : List FlowEvent) : Prop :=
  ∀ before event after, events = before ++ event :: after →
    ∀ plugin call, event.1.call? = some (plugin, call) → call.Credited start before plugin

/-- The tokens kept are those of the start and those that logins have brought. -/
def Sourced (start : List (String × String)) (past : List FlowEvent)
    (tokens : List (String × String)) : Prop :=
  ∀ id token, tokens.lookup id = some token → Entitled start past id token

/-- The request holds what its plugin authenticates callers by. -/
inductive ContactRequest.Ready (start : List (String × String)) (past : List FlowEvent)
    (r : ContactRequest) : Prop
  /-- A token that belongs to the name of a plugin that takes tokens. -/
  | token (hauth : r.plugin.auth = .token) (token : String) (htoken : r.token = some token)
      (hentitled : Entitled start past r.plugin.id token)
  /-- The plugin's own credentials. -/
  | credentials (hauth : r.plugin.auth = .basic) (hbasic : r.basic = some r.plugin.credentials)

variable {start tokens : List (String × String)} {past more events : List FlowEvent}

/-- What has been issued stays so. -/
lemma Entitled.later {id token : String} (h : Entitled start past id token) :
    Entitled start (past ++ more) id token := by
  rcases h with h | ⟨c, plugin, url, response, hid, hmem, hissued⟩
  · exact .inl h
  · exact .inr ⟨c, plugin, url, response, hid, List.mem_append_left _ hmem, hissued⟩

/-- What is right for a call stays right. -/
lemma Call.Credited.later {plugin : Plugin} {call : Call} (h : call.Credited start past plugin) :
    call.Credited start (past ++ more) plugin := by
  cases h with
  | login hauth c url hcall => exact .login hauth c url hcall
  | token hauth token htoken hbasic hentitled =>
    exact .token hauth token htoken hbasic hentitled.later
  | credentials hauth htoken hbasic => exact .credentials hauth htoken hbasic

/-- What has a source keeps it. -/
lemma Sourced.later (h : Sourced start past tokens) : Sourced start (past ++ more) tokens :=
  fun id token hkept => (h id token hkept).later

/-- One more token is kept, to which its plugin is entitled. -/
lemma Sourced.put {id token : String} (h : Sourced start past tokens)
    (hentitled : Entitled start past id token) :
    Sourced start past (Keyed.put id token tokens) := by
  intro id' token' hkept
  by_cases hid : id' = id
  · subst hid
    rw [Keyed.lookup_put_self] at hkept
    obtain rfl := Option.some.inj hkept
    exact hentitled
  · rw [Keyed.lookup_put_of_ne hid] at hkept
    exact h id' token' hkept

/-- The call of a request that is ready is right. -/
lemma ContactRequest.Ready.credited {r : ContactRequest} (h : r.Ready start past) (c : Client)
    (url : Url) : (requestCall c r url).Credited start past r.plugin := by
  cases h with
  | token hauth token htoken hentitled =>
    refine .token hauth token ?_ ?_ hentitled
    · simp only [requestCall, hauth, if_true, htoken]
    · simp only [requestCall, hauth, if_true]
  | credentials hauth hbasic =>
    refine .credentials hauth ?_ ?_
    · simp only [requestCall, hauth, reduceCtorEq, if_false]
    · simp only [requestCall, hauth, reduceCtorEq, if_false, hbasic]

/-! ## Stretches of events -/

/-- The events begin where the tokens kept have their sources and end so, and in between each call
is right where it stands. -/
structure Stretch (start : List (String × String)) (past : List FlowEvent)
    (tokens : List (String × String)) (events : List FlowEvent) : Prop where
  /-- The calls are right. -/
  credited : ∀ before event after, events = before ++ event :: after →
    ∀ plugin call, event.1.call? = some (plugin, call) →
      call.Credited start (past ++ before) plugin
  /-- The tokens kept afterwards have their sources. -/
  sourced : Sourced start (past ++ events) (events.foldl keepEvent tokens)

/-- One stretch after another. -/
lemma Stretch.append {events' : List FlowEvent} (h : Stretch start past tokens events)
    (h' : Stretch start (past ++ events) (events.foldl keepEvent tokens) events') :
    Stretch start past tokens (events ++ events') where
  credited := by
    intro before event after hsplit plugin call hcall
    rcases List.append_eq_append_iff.mp hsplit with
      ⟨between, rfl, hevents'⟩ | ⟨between, hevents, hrest⟩
    · -- the call is in the second stretch, `between` of it being over
      rw [← List.append_assoc]
      exact h'.credited between event after hevents' plugin call hcall
    · cases between with
      | nil =>
        have hbefore : before = events := by simpa using hevents.symm
        have hevents' : events' = [] ++ event :: after := by simpa using hrest.symm
        rw [hbefore]
        simpa using h'.credited [] event after hevents' plugin call hcall
      | cons first between =>
        obtain ⟨rfl, -⟩ := List.cons.inj hrest
        exact h.credited before event between hevents plugin call hcall
  sourced := by
    rw [← List.append_assoc, List.foldl_append]
    exact h'.sourced

/-- A stretch in which no token is kept and all calls are right from the beginning. -/
lemma Stretch.of_forall (hsourced : Sourced start past tokens)
    (hkeeps : events.foldl keepEvent tokens = tokens)
    (h : ∀ event ∈ events, ∀ plugin call, event.1.call? = some (plugin, call) →
      call.Credited start past plugin) : Stretch start past tokens events where
  credited := by
    rintro before event after rfl plugin call hcall
    exact (h event (by simp) plugin call hcall).later
  sourced := by
    rw [hkeeps]
    exact hsourced.later

/-- A single event that sends no call. -/
lemma Stretch.silent {event : FlowEvent} (hcall : event.1.call? = none)
    (hsourced : Sourced start past (keepEvent tokens event)) :
    Stretch start past tokens [event] where
  credited := by
    intro before event' after hsplit plugin call hcall'
    have hevent : event' ∈ [event] := by simp [hsplit]
    obtain rfl := List.mem_singleton.mp hevent
    rw [hcall] at hcall'
    cases hcall'
  sourced := hsourced.later

/-- A phase is a stretch if the call drafted for its endpoint is right. -/
lemma Phase.stretch {scheme : String} {plugin : Plugin} {path : String} {draft : Url → Call}
    {events : List Event} {ending : Ending} (h : Phase scheme plugin path draft events ending)
    (hsourced : Sourced start past tokens)
    (hdraft : ∀ url, (draft url).Credited start past plugin) :
    Stretch start past tokens (events.map Event.inFlow) := by
  refine .of_forall hsourced (h.foldl_keepEvent tokens) ?_
  intro event hevent plugin' call hcall
  obtain ⟨event', hevent', rfl⟩ := List.mem_map.mp hevent
  have hexchange := h.forall_events (P := fun call => call.Credited start past plugin)
    (fun url _ => hdraft url) event' hevent'
  cases hexchange with
  | sent call' hcredited answer =>
    cases hcall
    exact hcredited
  | checked alive => cases hcall

/-- A login phase that ended in a token has issued it. -/
lemma issuedIn_of_loginPhase {c : Client} {plugin : Plugin} {events : List Event} {ending : Ending}
    {token : String} (h : LoginPhase c plugin events ending) (hissued : ending.Issued token) :
    IssuedIn (past ++ events.map Event.inFlow) plugin.id token := by
  obtain ⟨response, rfl, hsuccess, hcarries⟩ := hissued
  obtain ⟨url, hlast⟩ := h.getLast?_events
  have hmem := List.mem_map_of_mem (f := Event.inFlow) (List.mem_of_getLast? hlast)
  exact ⟨c, plugin, url, response, rfl, List.mem_append_right _ hmem, hsuccess, hcarries⟩

/-- A login with a plugin that takes tokens is a stretch, and the plugin is entitled to the token
that it brings. -/
lemma Login.stretch {c : Client} {plugin : Plugin} {events : List Event} {token? : Option String}
    (h : Login c plugin events token?) (hauth : plugin.auth = .token)
    (hsourced : Sourced start past tokens) :
    Stretch start past tokens (events.map Event.inFlow) ∧
      ∀ token, token? = some token →
        Entitled start (past ++ events.map Event.inFlow) plugin.id token := by
  have hcall (url : Url) : (loginCall c plugin url).Credited start past plugin :=
    .login hauth c url rfl
  cases h with
  | failed events ending hphase hnone => exact ⟨hphase.stretch hsourced hcall, nofun⟩
  | issued events ending hphase token hissued =>
    have hentitled : Entitled start (past ++ events.map Event.inFlow) plugin.id token :=
      .inr (issuedIn_of_loginPhase hphase hissued)
    have hlogin := hphase.stretch hsourced hcall
    have hstored : Stretch start (past ++ events.map Event.inFlow) tokens
        [(Event.stored plugin.id token).inFlow] := .silent rfl (hsourced.later.put hentitled)
    rw [List.map_append]
    refine ⟨hlogin.append (by rwa [hphase.foldl_keepEvent]), fun token' htoken' => ?_⟩
    obtain rfl := Option.some.inj htoken'
    rw [← List.append_assoc]
    exact hentitled.later

/-- Finding a token for a plugin that takes tokens is a stretch, and the plugin is entitled to the
token that is found. -/
lemma Session.stretch {c : Client} {plugin : Plugin} {events : List Event} {token? : Option String}
    (h : Session c plugin (tokens.lookup plugin.id) events token?) (hauth : plugin.auth = .token)
    (hsourced : Sourced start past tokens) :
    Stretch start past tokens (events.map Event.inFlow) ∧
      ∀ token, token? = some token →
        Entitled start (past ++ events.map Event.inFlow) plugin.id token := by
  have hrecalled (token? : Option String) :
      Stretch start past tokens [(Event.recalled plugin.id token?).inFlow] := .silent rfl hsourced
  generalize hkept : tokens.lookup plugin.id = kept? at h
  cases h with
  | kept token =>
    refine ⟨hrecalled _, fun token' htoken' => ?_⟩
    obtain rfl := Option.some.inj htoken'
    exact (hsourced plugin.id token hkept).later
  | opened events token? hlogin =>
    obtain ⟨hstretch, hentitled⟩ := hlogin.stretch hauth (hrecalled none).sourced
    refine ⟨(hrecalled none).append hstretch, fun token htoken => ?_⟩
    simpa using hentitled token htoken

/-- An authorisation is a stretch, and the request is ready behind it. -/
lemma Authorization.stretch {c : Client} {r : ContactRequest} {events : List Event}
    {r'? : Option ContactRequest}
    (h : Authorization c r (tokens.lookup r.plugin.id) events r'?)
    (hsourced : Sourced start past tokens) :
    Stretch start past tokens (events.map Event.inFlow) ∧
      ∀ r', r'? = some r' → r'.Ready start (past ++ events.map Event.inFlow) := by
  cases h with
  | credentials hbasic =>
    have hauth : r.plugin.auth = .basic := by
      cases hscheme : r.plugin.auth with
      | token => exact absurd hscheme hbasic
      | basic => rfl
    refine ⟨.of_forall hsourced rfl (List.forall_mem_nil _), fun r' hr' => ?_⟩
    obtain rfl := Option.some.inj hr'
    exact .credentials hauth rfl
  | token htoken events token hsession =>
    obtain ⟨hstretch, hentitled⟩ := hsession.stretch htoken hsourced
    refine ⟨hstretch, fun r' hr' => ?_⟩
    obtain rfl := Option.some.inj hr'
    exact .token htoken token rfl (hentitled token rfl)
  | refused htoken events hsession => exact ⟨(hsession.stretch htoken hsourced).1, nofun⟩

/-- Carrying out a request that is ready is a stretch. -/
lemma Conduct.stretch {c : Client} {context : String} {r : ContactRequest} {events : List Event}
    {result : Except ContactError Outcome} (h : Conduct c context r events result)
    (hready : r.Ready start past) (hsourced : Sourced start past tokens) :
    Stretch start past tokens (events.map Event.inFlow) := by
  have hphase {events : List Event} {ending : Ending} (h : RequestPhase c r events ending) :
      Stretch start past tokens (events.map Event.inFlow) :=
    Phase.stretch h hsourced (hready.credited c)
  cases h with
  | single events ending hfirst hstands => exact hphase hfirst
  | lockedOut first login refusal hfirst hrefused htoken hlogin =>
    rw [List.map_append]
    exact (hphase hfirst).append (hlogin.stretch htoken (hphase hfirst).sourced).1
  | repeated first login second refusal ending token hfirst hrefused htoken hlogin hsecond =>
    obtain ⟨hstretch, hentitled⟩ := hlogin.stretch htoken (hphase hfirst).sourced
    have hboth := (hphase hfirst).append hstretch
    rw [List.map_append, List.map_append]
    refine hboth.append (hsecond.stretch hboth.sourced fun url => ?_)
    -- the repeated call carries the token that the login in between has brought
    exact .token htoken token rfl rfl (by simpa using hentitled token rfl)

/-- An authorised contact is a stretch. -/
lemma AuthorizedConduct.stretch {c : Client} {context : String} {r : ContactRequest}
    {events : List Event} {result : Except ContactError Outcome}
    (h : AuthorizedConduct c context r (tokens.lookup r.plugin.id) events result)
    (hsourced : Sourced start past tokens) :
    Stretch start past tokens (events.map Event.inFlow) := by
  cases h with
  | unavailable session hauthorization => exact (hauthorization.stretch hsourced).1
  | conducted session r' hauthorization events result hconduct =>
    obtain ⟨hstretch, hready⟩ := hauthorization.stretch hsourced
    rw [List.map_append]
    exact hstretch.append (hconduct.stretch (hready r' rfl) hstretch.sourced)

/-! ## Runs -/

/-- One program after another is a stretch if the programs are. -/
lemma Stretch.bind {α β : Type} {x : FlowProgram α} {f : α → FlowProgram β} {w : World}
    (hx : Stretch start past w.network.tokens (x.history World.handle w))
    (hf : ∀ a past w, Sourced start past w.network.tokens →
      Stretch start past w.network.tokens ((f a).history World.handle w)) :
    Stretch start past w.network.tokens ((x.bind f).history World.handle w) := by
  rw [Program.history_bind]
  refine hx.append ?_
  rw [← tokens_run]
  refine hf _ _ _ ?_
  rw [tokens_run]
  exact hx.sourced

/-- A program woven from authorised contacts is a stretch. -/
lemma Woven.stretch {α : Type} {c : Client} {x : FlowProgram α} (h : Woven c (fun _ => True) x)
    (past : List FlowEvent) (w : World) (hsourced : Sourced start past w.network.tokens) :
    Stretch start past w.network.tokens (x.history World.handle w) := by
  induction h generalizing past w with
  | done a => exact .of_forall hsourced rfl (List.forall_mem_nil _)
  | ask action haction next _ ih =>
    refine Stretch.bind (x := .perform action) ?_ fun answer => ih answer fun _ _ _ => trivial
    refine .silent (FlowAction.call?_of_not haction) ?_
    rw [keepEvent_of_not (FlowAction.keepsToken_of_not haction)]
    exact hsourced
  | authorize r hknown next _ ih =>
    refine Stretch.bind ?_ ih
    obtain ⟨r'?, hauthorization, -⟩ := authorize_authorization (withinFlow World.handle) c r w
    rw [history_converse]
    exact (Authorization.stretch hauthorization hsourced).1
  | contact context r hknown next _ ih =>
    refine Stretch.bind ?_ ih
    rw [history_converse]
    exact (authorizedContact_conduct (withinFlow World.handle) c context r w).stretch hsourced

/-- An authorised contact or a flow over resources. -/
inductive Errand where
  /-- An authorised contact. -/
  | contact (context : String) (r : ContactRequest)
  /-- A flow over resources. -/
  | flow (operation : Operation) (h : operation.isFlow = true)

/-- The errand as a program, its result left aside. -/
def Errand.program (g : Aggregator) : Errand → FlowProgram Unit
  | contact context r =>
    (Flow.converse (g.client.authorizedContact context r)).bind fun _ => .done ()
  | flow operation _ => operation.program g

/-- An errand is woven from authorised contacts. -/
lemma Errand.woven (g : Aggregator) (errand : Errand) :
    Woven g.client (fun _ => True) (errand.program g) := by
  cases errand with
  | contact context r => exact .contact context r trivial _ fun _ => .done ()
  | flow operation h => exact operation.woven g h

/-- Errands one after another, each with the aggregator that runs it. -/
def Errand.inTurn : List (Aggregator × Errand) → FlowProgram Unit
  | [] => .done ()
  | (g, errand) :: rest => (errand.program g).bind fun _ => inTurn rest

/-- Errands one after another are a stretch. -/
lemma Errand.inTurn_stretch (errands : List (Aggregator × Errand)) (past : List FlowEvent)
    (w : World) (hsourced : Sourced start past w.network.tokens) :
    Stretch start past w.network.tokens ((Errand.inTurn errands).history World.handle w) := by
  induction errands generalizing past w with
  | nil => exact .of_forall hsourced rfl (List.forall_mem_nil _)
  | cons step rest ih =>
    obtain ⟨g, errand⟩ := step
    exact Stretch.bind ((errand.woven g).stretch past w hsourced) fun _ => ih

/-- In a run of authorised contacts and flows over resources, from any kept tokens and against any
answers, each call carries what its plugin authenticates callers by and nothing besides: a login
nothing at all; any other call to a plugin that takes tokens one that was kept for the plugin's name
at the start or that a login for the name has brought earlier in the run; and a call to any other
plugin the plugin's own user name and password. -/
theorem run_separated (w : World) (errands : List (Aggregator × Errand)) :
    Separated w.network.tokens ((Errand.inTurn errands).history World.handle w) := by
  have hsourced : Sourced w.network.tokens [] w.network.tokens := fun _ _ hkept => .inl hkept
  exact (Errand.inTurn_stretch errands [] w hsourced).credited

end PluginGateway
