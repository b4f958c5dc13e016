import PluginGateway.Proofs.Exchange
import PluginGateway.Resource.RemoteAccount

/-!
# Flows made of quiet actions and logins

A resource flow is a program over many actions, but all it does to sessions it does by logins. A
`Discipline` fixes which actions are called quiet, at which plugins logins are allowed, and which
answers can be given. A program is `Composed` under a discipline if it can be put together from
quiet actions and from whole logins at plugins where they are allowed, and if a predicate holds of
its result. This is shown once for every flow, by going through its parts; what is quiet is left to
the use: any action that keeps no token, say, or only calls of a certain path.

The history of such a program is `Punctuated`: quiet events, with the events of whole logins among
them (`Composed.punctuated`).
-/

namespace PluginGateway

/-- An action of a resource flow with the answer that it got. -/
abbrev FlowEvent : Type := Program.Event FlowAction FlowAction.Answer

/-- An event of a conversation, within a flow. -/
def Event.inFlow : Event → FlowEvent :=
  Program.Event.lift FlowAction.contact fun _ answer => answer

namespace FlowAction

/-- The action sends a call. -/
def isSend : FlowAction → Bool
  | .contact (.send _ _) => true
  | _ => false

/-- The action keeps a session token. -/
def keepsToken : FlowAction → Bool
  | .contact (.storeToken _ _) => true
  | _ => false

end FlowAction

/-- What is said of programs: which of their actions are quiet, at which plugins they may log in,
and which answers they can get. -/
structure Discipline where
  /-- The action is quiet. -/
  Quiet : FlowAction → Prop
  /-- A login at the plugin is allowed. -/
  Who : Plugin → Prop
  /-- The answer can be given to the action. -/
  Known : (action : FlowAction) → action.Answer → Prop

/-- The program is put together from quiet actions and from logins at the plugins allowed, and its
result is as said, whatever answers it gets of those that can be given. -/
inductive Composed (c : Client) (D : Discipline) {α : Type} (Post : α → Prop) : FlowProgram α → Prop
  /-- The program is over. -/
  | done (a : α) (hpost : Post a) : Composed c D Post (.done a)
  /-- A quiet action comes first. -/
  | ask (action : FlowAction) (hquiet : D.Quiet action) (next : action.Answer → FlowProgram α)
      (h : ∀ answer, D.Known action answer → Composed c D Post (next answer)) :
    Composed c D Post (.ask action next)
  /-- A login comes first. -/
  | login (plugin : Plugin) (hwho : D.Who plugin) (next : Option String → FlowProgram α)
      (h : ∀ token?, Composed c D Post (next token?)) :
    Composed c D Post ((Flow.converse (c.login plugin)).bind next)

/-- A history of quiet events and whole logins, with the plugins of the logins and the tokens that
they brought. -/
inductive Punctuated (c : Client) (D : Discipline) :
    List FlowEvent → List (Plugin × Option String) → Prop
  /-- Nothing happened. -/
  | nil : Punctuated c D [] []
  /-- A quiet event comes first. -/
  | quiet (event : FlowEvent) (hquiet : D.Quiet event.1) {rest : List FlowEvent}
      {logins : List (Plugin × Option String)} (h : Punctuated c D rest logins) :
    Punctuated c D (event :: rest) logins
  /-- A login comes first. -/
  | login (plugin : Plugin) (hwho : D.Who plugin) (events : List Event) (token? : Option String)
      (hlogin : Login c plugin events token?) {rest : List FlowEvent}
      {logins : List (Plugin × Option String)} (h : Punctuated c D rest logins) :
    Punctuated c D (events.map Event.inFlow ++ rest) ((plugin, token?) :: logins)

/-- The outcome of a request is what the conversation makes of a response that reports success,
given to the call of the request with some token. -/
def Answered (c : Client) (D : Discipline) (r : ContactRequest) (outcome : Outcome) : Prop :=
  ∃ token? url response,
    D.Known (.contact (.send r.plugin (requestCall c { r with token := token? } url)))
      (.ok response) ∧
    response.isSuccess = true ∧ outcome.body = c.conversion.northBody response.body ∧
    outcome.status = response.status

/-- The call carries the address and the credentials of a device. -/
def Call.IsForDevice (call : Call) : Prop :=
  ∃ target password body, call.body = some (deviceInfo target password body)

/-- What is answered to a request for a device is what is made of a response that reports success,
given to a call for a device. -/
def FromDevice (c : Client) (D : Discipline) (r : DeviceRequest) (answer : DeviceResponse) : Prop :=
  ∃ plugin call response, call.IsForDevice ∧
    D.Known (.contact (.send plugin call)) (.ok response) ∧ response.isSuccess = true ∧
    answer = ⟨response.status, String.ofList (Path.qualifyLinks r.uuid.toList
      (Text.lossy (c.conversion.northBody response.body)).toList)⟩

/-- What is said of the result of a flow that does not fail. -/
def OnSuccess {α : Type} (P : α → Prop) (r : Except FlowError α) : Prop := ∀ a, r = .ok a → P a

variable {c : Client} {D : Discipline} {α β : Type}

/-- One program after another, within a flow. -/
lemma converse_bind (x : Conversation α) (f : α → Conversation β) :
    Flow.converse (x.bind f) = (Flow.converse x).bind fun a => Flow.converse (f a) :=
  Program.embed_bind x f

/-- A handler of flows, as a handler of the conversations within them. -/
def withinFlow {σ : Type} (handle : (a : FlowAction) → σ → a.Answer × σ) :
    (a : Action) → σ → a.Answer × σ := fun a s => handle (.contact a) s

/-- The history of a conversation within a flow. -/
lemma history_converse {σ : Type} {handle : (a : FlowAction) → σ → a.Answer × σ}
    (x : Conversation α) (s : σ) :
    (Flow.converse x).history handle s = (x.history (withinFlow handle) s).map Event.inFlow :=
  Program.history_embed (fun _ _ => rfl) x s

/-- The run of a conversation within a flow. -/
lemma run_converse {σ : Type} {handle : (a : FlowAction) → σ → a.Answer × σ}
    (x : Conversation α) (s : σ) :
    (Flow.converse x).run handle s = x.run (withinFlow handle) s :=
  Program.run_embed x s

section Flows

-- the parts of a command are such flows as well, with errors of their own
variable {σ ε : Type} {handle : (a : FlowAction) → σ → a.Answer × σ}
  {x : ExceptT ε (Program FlowAction FlowAction.Answer) α}
  {f : α → ExceptT ε (Program FlowAction FlowAction.Answer) β} {s s' : σ}

/-- A flow goes on after a flow that does not fail. -/
lemma run_flow_bind {a : α} (h : x.run.run handle s = (.ok a, s')) :
    (x >>= f).run.run handle s = (f a).run.run handle s' := by
  rw [ExceptT.run_bind, Program.bind_eq, Program.run_bind, h]

/-- A flow does not go on after a flow that fails. -/
lemma run_flow_bind_error {e : ε} (h : x.run.run handle s = (.error e, s')) :
    (x >>= f).run.run handle s = (.error e, s') := by
  rw [ExceptT.run_bind, Program.bind_eq, Program.run_bind, h]
  rfl

/-- A flow of two parts that fails does so in its first part, or behind it in the second one. -/
lemma run_flow_bind_eq_error {e : ε} (h : ((x >>= f).run.run handle s).1 = .error e) :
    (x.run.run handle s).1 = .error e ∨
      ∃ a s', x.run.run handle s = (.ok a, s') ∧ ((f a).run.run handle s').1 = .error e := by
  rcases hx : x.run.run handle s with ⟨e' | a, s'⟩
  · rw [run_flow_bind_error hx] at h
    exact .inl (congrArg Except.error (Except.error.inj h))
  · rw [run_flow_bind hx] at h
    exact .inr ⟨a, s', rfl, h⟩

/-- The history of a flow after one that does not fail. -/
lemma history_flow_bind {a : α} (h : x.run.run handle s = (.ok a, s')) :
    (x >>= f).run.history handle s =
      x.run.history handle s ++ (f a).run.history handle s' := by
  rw [ExceptT.run_bind, Program.bind_eq, Program.history_bind, h]

/-- Nothing happens after a flow that fails. -/
lemma history_flow_bind_error {e : ε} (h : x.run.run handle s = (.error e, s')) :
    (x >>= f).run.history handle s = x.run.history handle s := by
  rw [ExceptT.run_bind, Program.bind_eq, Program.history_bind, h]
  exact List.append_nil _

/-- Nothing more happens in a flow that goes on without asking for anything. -/
lemma history_flow_bind_of_silent (hf : ∀ a s, (f a).run.history handle s = []) :
    (x >>= f).run.history handle s = x.run.history handle s := by
  rw [ExceptT.run_bind, Program.bind_eq, Program.history_bind]
  cases (x.run.run handle s).1 with
  | ok a => exact (congrArg _ (hf a _)).trans (List.append_nil _)
  | error e => exact List.append_nil _

/-- A flow with its error replaced ends as the flow does, apart from the error. -/
lemma run_flow_orFail (x : Flow α) (f : FlowError → FlowError) (s : σ) :
    (x.orFail f).run.run handle s =
      ((x.run.run handle s).1.mapError f, (x.run.run handle s).2) :=
  Program.run_bind x.run (fun result => .done (result.mapError f)) s

/-- In a flow with its error replaced the same happens as in the flow. -/
lemma history_flow_orFail (x : Flow α) (f : FlowError → FlowError) (s : σ) :
    (x.orFail f).run.history handle s = x.run.history handle s := by
  simp only [Flow.orFail, ExceptT.run_mk, Program.history_bind, Program.history_done,
    List.append_nil]

/-- What happens in a flow happens in every flow that begins with it. -/
lemma mem_history_flow_bind {event : FlowEvent} (h : event ∈ x.run.history handle s) :
    event ∈ (x >>= f).run.history handle s := by
  rw [ExceptT.run_bind, Program.bind_eq, Program.history_bind]
  exact List.mem_append_left _ h

/-- What happens in a flow happens in every flow that goes on with it. -/
lemma mem_history_flow_bind_of_run {a : α} (hx : x.run.run handle s = (.ok a, s'))
    {event : FlowEvent} (h : event ∈ (f a).run.history handle s') :
    event ∈ (x >>= f).run.history handle s := by
  rw [history_flow_bind hx]
  exact List.mem_append_right _ h

end Flows

namespace Composed

/-- The history of a composed program is punctuated by its logins, if an invariant of the
surroundings sees to it that they give answers that can be given. -/
theorem punctuated {σ : Type} {handle : (a : FlowAction) → σ → a.Answer × σ} (Inv : σ → Prop)
    (hanswer : ∀ action s, Inv s → D.Known action (handle action s).1)
    (hstep : ∀ action s, Inv s → Inv (handle action s).2) {Post : α → Prop} {x : FlowProgram α}
    (h : Composed c D Post x) {s : σ} (hs : Inv s) :
    ∃ logins, Punctuated c D (x.history handle s) logins := by
  induction h generalizing s with
  | done a => exact ⟨[], .nil⟩
  | ask action hquiet next _ ih =>
    obtain ⟨logins, hrest⟩ := ih (handle action s).1 (hanswer action s hs) (hstep action s hs)
    exact ⟨logins, .quiet ⟨action, (handle action s).1⟩ hquiet hrest⟩
  | login plugin hwho next _ ih =>
    have hlogin := login_login (withinFlow handle) c plugin s
    have hafter : Inv ((c.login plugin).run (withinFlow handle) s).2 :=
      Program.run_invariant (fun action s hs => hstep (.contact action) s hs) _ hs
    obtain ⟨logins, hrest⟩ := ih ((c.login plugin).run (withinFlow handle) s).1 hafter
    rw [Program.history_bind, history_converse, run_converse]
    exact ⟨_, .login plugin hwho _ _ hlogin hrest⟩

/-- What is said of the result of a composed program holds after every run in which the answers are
such as can be given. -/
theorem run_post {σ : Type} {handle : (a : FlowAction) → σ → a.Answer × σ} {Post : α → Prop}
    {x : FlowProgram α} (h : Composed c D Post x) {s : σ}
    (hknown : ∀ event ∈ x.history handle s, D.Known event.1 event.2) :
    Post (x.run handle s).1 := by
  induction h generalizing s with
  | done a hpost => exact hpost
  | ask action hquiet next _ ih =>
    obtain ⟨hanswer, hrest⟩ := List.forall_mem_cons.mp hknown
    exact ih (handle action s).1 hanswer hrest
  | login plugin hwho next _ ih =>
    rw [Program.run_bind]
    refine ih _ fun event hevent => hknown event ?_
    rw [Program.history_bind]
    exact List.mem_append_right _ hevent

/-- One composed program after another. -/
theorem bind {P : α → Prop} {Q : β → Prop} {x : FlowProgram α} {f : α → FlowProgram β}
    (hx : Composed c D P x) (hf : ∀ a, P a → Composed c D Q (f a)) :
    Composed c D Q (x.bind f) := by
  induction hx with
  | done a hpost => exact hf a hpost
  | ask action hquiet next _ ih => exact .ask action hquiet _ ih
  | login plugin hwho next _ ih =>
    have hassoc : ((Flow.converse (c.login plugin)).bind next).bind f =
        (Flow.converse (c.login plugin)).bind fun token? => (next token?).bind f :=
      bind_assoc (m := Program FlowAction FlowAction.Answer) _ next f
    rw [hassoc]
    exact .login plugin hwho _ ih

/-- Less said of the result. -/
theorem mono {P Q : α → Prop} {x : FlowProgram α} (hx : Composed c D P x)
    (h : ∀ a, P a → Q a) : Composed c D Q x := by
  induction hx with
  | done a hpost => exact .done a (h a hpost)
  | ask action hquiet next _ ih => exact .ask action hquiet next ih
  | login plugin hwho next _ ih => exact .login plugin hwho next ih

/-- A single action of a conversation. -/
theorem converse_perform {action : Action} (hquiet : D.Quiet (.contact action)) :
    Composed c D (D.Known (.contact action)) (Flow.converse (Program.perform action)) :=
  .ask (.contact action) hquiet _ .done

/-- A login. -/
theorem converse_login {plugin : Plugin} (hwho : D.Who plugin) :
    Composed c D (fun _ => True) (Flow.converse (c.login plugin)) := by
  have hdone : (Flow.converse (c.login plugin)).bind Program.done =
      Flow.converse (c.login plugin) :=
    bind_pure (m := Program FlowAction FlowAction.Answer) _
  exact hdone ▸ .login plugin hwho _ fun token? => .done token? trivial

/-- One flow after another, if the first one does not fail. -/
theorem flow_bind {P : α → Prop} {Q : β → Prop} {x : Flow α} {f : α → Flow β}
    (hx : Composed c D (OnSuccess P) x.run)
    (hf : ∀ a, P a → Composed c D (OnSuccess Q) (f a).run) :
    Composed c D (OnSuccess Q) (x >>= f).run := by
  rw [ExceptT.run_bind]
  refine hx.bind fun r hr => ?_
  cases r with
  | ok a => exact hf a (hr a rfl)
  | error e => exact .done _ nofun

/-- A flow of a single quiet action. -/
theorem flow_single {action : FlowAction} (hquiet : D.Quiet action) {x : Flow α}
    {result : action.Answer → Except FlowError α}
    (hx : x.run = .ask action fun answer => .done (result answer)) :
    Composed c D (OnSuccess fun a => ∃ answer, D.Known action answer ∧ result answer = .ok a)
      x.run := by
  rw [hx]
  exact .ask action hquiet _ fun answer hanswer => .done _ fun a ha => ⟨answer, hanswer, ha⟩

/-- A flow that has its result without any action. -/
theorem flow_done {P : α → Prop} {r : Except FlowError α} (hr : OnSuccess P r) :
    Composed c D (OnSuccess P) (ExceptT.mk (.done r) : Flow α).run :=
  .done r hr

/-- A flow that has its result without any action has this result. -/
theorem flow_done_self (r : Except FlowError α) :
    Composed c D (OnSuccess fun a => r = .ok a) (ExceptT.mk (.done r) : Flow α).run :=
  flow_done fun _ h => h

/-- A flow after one that has its result without any action. -/
theorem flow_done_bind {Q : β → Prop} {r : Except FlowError α} {f : α → Flow β}
    (hf : ∀ a, Composed c D (OnSuccess Q) (f a).run) :
    Composed c D (OnSuccess Q) ((ExceptT.mk (.done r) : Flow α) >>= f).run := by
  have hr : OnSuccess (fun _ => True) r := fun _ _ => trivial
  exact flow_bind (flow_done hr) fun a _ => hf a

/-- A flow with its error replaced. -/
theorem flow_orFail {P : α → Prop} {x : Flow α} {f : FlowError → FlowError}
    (hx : Composed c D (OnSuccess P) x.run) : Composed c D (OnSuccess P) (x.orFail f).run := by
  refine hx.bind fun r hr => .done (r.mapError f) ?_
  cases r with
  | ok a => exact hr
  | error e => exact nofun

/-- A contact within a flow. -/
theorem flow_contact {P : α → Prop} {x : Conversation (Except ContactError α)}
    (hx : Composed c D (fun r => ∀ a, r = .ok a → P a) (Flow.converse x)) :
    Composed c D (OnSuccess P) (Flow.contact x).run := by
  refine hx.bind fun r hr => .done (r.mapError FlowError.ofContact) ?_
  cases r with
  | ok a => exact fun b hb => Except.ok.inj hb ▸ hr a rfl
  | error e => exact nofun

/-! ### Contacts -/

section Contacts

variable (hquiet : ∀ action : FlowAction,
  action.isSend = false → action.keepsToken = false → D.Quiet action)

include hquiet

/-- A call, and the same call again if need be. -/
theorem converse_sendGuarded {plugin : Plugin} {call : Call}
    (hsend : D.Quiet (.contact (.send plugin call))) :
    Composed c D
      (fun answer => ∀ response, answer = .ok response →
        D.Known (.contact (.send plugin call)) (.ok response))
      (Flow.converse (Client.sendGuarded plugin call)) := by
  have hsent : Composed c D (D.Known (.contact (.send plugin call)))
      (Flow.converse (Conversation.send plugin call)) := converse_perform hsend
  simp only [Client.sendGuarded, Program.bind_eq, converse_bind]
  refine hsent.bind fun answer hanswer => ?_
  cases answer with
  | ok response => exact .done _ fun response' h => Except.ok.inj h ▸ hanswer
  | error failure =>
    have hfailed : ∀ response, (.error failure : Except SendFailure Response) = .ok response →
        D.Known (.contact (.send plugin call)) (.ok response) := by
      intro response h
      cases h
    cases hsilence : failure.isSilence with
    | false =>
      simp only [hsilence, Bool.false_eq_true, if_false]
      exact .done _ hfailed
    | true =>
      simp only [hsilence, if_true, converse_bind]
      refine (converse_perform (hquiet _ rfl rfl)).bind fun alive _ => ?_
      cases alive with
      | false => exact .done _ hfailed
      | true => exact hsent.mono fun answer hanswer response h => h ▸ hanswer

/-- A contact is made of quiet actions if its calls are quiet. -/
theorem converse_contact {context : String} {r : ContactRequest}
    (hsend : ∀ url, endpoint c.scheme r.plugin (c.southPath r.resource) = .ok url →
      D.Quiet (.contact (.send r.plugin (requestCall c r url)))) :
    Composed c D (fun result => ∀ outcome, result = .ok outcome → Answered c D r outcome)
      (Flow.converse (c.contact context r)) := by
  unfold Client.contact
  rw [call_eq]
  cases hurl : endpoint c.scheme r.plugin (c.southPath r.resource) with
  | error fault => exact .done _ nofun
  | ok url =>
    simp only [Except.map, Program.bind_eq, converse_bind]
    refine (converse_sendGuarded hquiet (hsend url hurl)).bind fun answer hanswer => .done _ ?_
    intro outcome houtcome
    cases answer with
    | error failure => cases houtcome
    | ok response =>
      cases hsuccess : response.isSuccess with
      | false => simp [Client.concluded, hsuccess] at houtcome
      | true =>
        simp only [Client.concluded, hsuccess, if_true, Except.ok.injEq] at houtcome
        subst houtcome
        exact ⟨r.token, url, response, hanswer response rfl, hsuccess, rfl, rfl⟩

/-- What follows a failed contact: a login for a plugin that uses tokens, and the request again. -/
theorem converse_retryAfterReauth {context : String} {r : ContactRequest} {failure : ContactError}
    (hsend : ∀ token? url, endpoint c.scheme r.plugin (c.southPath r.resource) = .ok url →
      D.Quiet (.contact (.send r.plugin (requestCall c { r with token := token? } url))))
    (hwho : r.plugin.auth = .token → D.Who r.plugin) :
    Composed c D (fun result => ∀ outcome, result = .ok outcome → Answered c D r outcome)
      (Flow.converse (c.retryAfterReauth context r failure)) := by
  by_cases h : failure.isUnauthorized = true ∧ r.plugin.auth = .token
  · rw [retryAfterReauth_of_refused c context h.1 h.2, converse_bind]
    refine (converse_login (hwho h.2)).bind fun token? _ => ?_
    cases token? with
    | none => exact .done _ nofun
    | some token =>
      have hrepeated : Composed c D _
          (Flow.converse (c.contact context { r with token := some token })) :=
        converse_contact hquiet (hsend (some token))
      exact hrepeated.mono fun result hresult outcome houtcome => hresult outcome houtcome
  · rw [retryAfterReauth_of_not c context h]
    exact .done _ nofun

/-- A contact that is repeated after a login if the plugin refused the token. -/
theorem converse_contactWithRetry {context : String} {r : ContactRequest}
    (hsend : ∀ token? url, endpoint c.scheme r.plugin (c.southPath r.resource) = .ok url →
      D.Quiet (.contact (.send r.plugin (requestCall c { r with token := token? } url))))
    (hwho : r.plugin.auth = .token → D.Who r.plugin) :
    Composed c D (fun result => ∀ outcome, result = .ok outcome → Answered c D r outcome)
      (Flow.converse (c.contactWithRetry context r)) := by
  simp only [Client.contactWithRetry, Program.bind_eq, converse_bind]
  refine (converse_contact hquiet (hsend r.token)).bind fun result hresult => ?_
  cases result with
  | ok outcome => exact .done _ hresult
  | error failure => exact converse_retryAfterReauth hquiet hsend hwho

/-- The token of a plugin, from the cache or from a login. -/
theorem converse_getToken {plugin : Plugin} (hwho : D.Who plugin) :
    Composed c D (fun _ => True) (Flow.converse (c.getToken plugin)) := by
  simp only [Client.getToken, Program.bind_eq, converse_bind]
  refine (converse_perform (hquiet _ rfl rfl)).bind fun token? _ => ?_
  cases token? with
  | some token => exact .done _ trivial
  | none => exact converse_login hwho

/-- A request is given its credentials, if need be by a login for a plugin that uses tokens, and is
otherwise left as it is. -/
theorem converse_authorize {r : ContactRequest} (hwho : r.plugin.auth = .token → D.Who r.plugin) :
    Composed c D
      (fun result => ∀ r', result = .ok r' →
        ∃ token? basic?, r' = { r with token := token?, basic := basic? })
      (Flow.converse (c.authorize r)) := by
  unfold Client.authorize
  by_cases htoken : r.plugin.auth = .token
  · simp only [usesToken_eq_true_iff.mpr htoken, if_true, Program.bind_eq, converse_bind]
    refine (converse_getToken hquiet (hwho htoken)).bind fun token? _ => ?_
    cases token? with
    | none => exact .done _ nofun
    | some token => exact .done _ fun r' h => ⟨some token, r.basic, (Except.ok.inj h).symm⟩
  · have hbasic : r.plugin.usesToken = false := by
      simpa [← usesToken_eq_true_iff] using htoken
    simp only [hbasic, Bool.false_eq_true, if_false]
    exact .done _ fun r' h => ⟨r.token, some r.plugin.credentials, (Except.ok.inj h).symm⟩

end Contacts

/-! ### Flows -/

section Flows

variable {g : Aggregator} (hquiet : ∀ action : FlowAction,
  action.isSend = false → action.keepsToken = false → D.Quiet action)
  (hwho : ∀ id (plugin : Plugin), D.Known (.findPlugin id) (.ok plugin) → plugin.auth = .token →
    D.Who plugin)

include hquiet

/-- A request to a plugin, with its credentials. -/
theorem flow_authorized {plugin : Plugin} (hplugin : plugin.auth = .token → D.Who plugin)
    {method : Method} {resource : String} :
    Composed g.client D
      (OnSuccess fun r => ∃ token? basic?, r =
        { plugin, method, resource, body := none, token := token?, basic := basic? })
      (g.authorized plugin method resource).run :=
  flow_contact (converse_authorize (r := { plugin, method, resource }) hquiet hplugin)

include hwho

/-- A plugin that is found may be logged in to, if it uses tokens. -/
theorem flow_findPlugin (id : String) :
    Composed g.client D (OnSuccess fun plugin => plugin.auth = .token → D.Who plugin)
      (Flow.findPlugin id).run := by
  refine (flow_single (hquiet (.findPlugin id) rfl rfl) rfl).mono fun result hresult plugin h => ?_
  obtain ⟨answer, hknown, rfl⟩ := hresult plugin h
  exact hwho id plugin hknown

/-- A request to a device is made of quiet actions and logins, if a call for the path that its URL
leads to is quiet. -/
theorem flow_deviceRequest {r : DeviceRequest}
    (hsend : ∀ plugin body token? basic? url,
      endpoint g.client.scheme plugin (g.client.southPath
        (String.ofList (Path.strip r.uuid.toList r.url.toList))) = .ok url →
      D.Quiet (.contact (.send plugin
        (requestCall g.client
          { plugin
            method := r.method
            resource := String.ofList (Path.strip r.uuid.toList r.url.toList)
            body := body
            token := token?
            basic := basic? } url)))) :
    Composed g.client D (OnSuccess (FromDevice g.client D r)) (g.deviceRequest r).run := by
  unfold Aggregator.deviceRequest
  refine flow_bind (flow_single (hquiet (.findTarget r.uuid) rfl rfl) rfl) fun target _ => ?_
  refine flow_bind (flow_findPlugin hquiet hwho target.pluginId) fun plugin hplugin => ?_
  refine flow_bind (flow_authorized hquiet hplugin) fun request hrequest => ?_
  obtain ⟨token?, basic?, rfl⟩ := hrequest
  refine flow_done_bind fun password => ?_
  refine flow_bind (flow_contact (converse_contactWithRetry hquiet
    (fun token? url => hsend plugin _ token? basic? url) hplugin)) fun outcome houtcome => ?_
  obtain ⟨token?', url, response, hknown, hsuccess, hbody, hstatus⟩ := houtcome
  refine flow_done fun answer hanswer => ?_
  cases hanswer
  exact ⟨plugin, _, response, ⟨target, password, r.body, rfl⟩, hknown, hsuccess,
    by rw [Outcome.text, hbody, hstatus]⟩

end Flows

end Composed

end PluginGateway
