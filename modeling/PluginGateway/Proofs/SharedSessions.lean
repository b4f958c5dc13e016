import Mathlib.Logic.Relation
import PluginGateway.Keyed
import PluginGateway.Proofs.Authorization

/-!
# Callers that share the sessions of a plugin

Any number of callers make authorised contacts with one plugin that takes tokens. They share the
tokens that are kept, and nothing keeps them apart: between any two actions of one, the others may
act. So a caller may look up a token that another is about to replace, and several may log in at the
same time. `Ensemble.Step` lets one caller do one action, answered as the plugin answers that has no
failures.

The main statement, `shared_sessions_heal`, says that this does no harm: every caller that finishes
has what it asked for, none logs in more than once, and once one has finished the token that is kept
is one that the plugin honours. It rests on `Heals`, which says of what is left of a caller that it
goes well whatever the others do meanwhile: `Heals.step` is about one action, and `Ensemble.Heals`
carries it over to all callers.
-/

namespace PluginGateway

/-! ## The plugin and its callers -/

/-- What the callers of a plugin share: the session tokens that are kept, and which tokens the
plugin honours. -/
structure Shared where
  /-- The tokens kept, each under the name of a plugin. -/
  tokens : List (String × String)
  /-- The plugin honours the token. -/
  honoured : String → Prop

/-- The call is a login to a plugin. -/
def Call.IsLogin (plugin : Plugin) (call : Call) : Prop := ∃ c url, call = loginCall c plugin url

/-- How an action is answered, and what is shared afterwards. The plugin answers every login with a
token that it honours from then on; it answers any other call with success exactly if it honours the
token of the call; and there are no failures. -/
inductive Shared.Answers (plugin : Plugin) (s : Shared) :
    (action : Action) → action.Answer → Shared → Prop
  /-- A token is looked up. -/
  | lookUp (id : String) : Answers plugin s (.recallToken id) (s.tokens.lookup id) s
  /-- A token is kept. -/
  | keep (id token : String) :
    Answers plugin s (.storeToken id token) () { s with tokens := Keyed.put id token s.tokens }
  /-- The plugin is logged in to. -/
  | login (call : Call) (hlogin : call.IsLogin plugin) (response : Response) (token : String)
      (hsuccess : response.status = 200 ∨ response.status = 201)
      (htoken : response.Carries token) :
    Answers plugin s (.send plugin call) (.ok response)
      { s with honoured := fun t => t = token ∨ s.honoured t }
  /-- The plugin honours the token of a call. -/
  | accepted (call : Call) (token : String) (htoken : call.token = some token)
      (h : s.honoured token) (response : Response) (hstatus : response.status = 200) :
    Answers plugin s (.send plugin call) (.ok response) s
  /-- The plugin does not honour the token of a call. -/
  | refused (call : Call) (token : String) (htoken : call.token = some token)
      (h : ¬s.honoured token) (response : Response) (hstatus : response.status = 401) :
    Answers plugin s (.send plugin call) (.ok response) s

/-- One that makes an authorised contact. -/
structure Caller where
  /-- How plugins are talked to. -/
  client : Client
  /-- What is being done. -/
  context : String
  /-- The request, without its token. -/
  request : ContactRequest

/-- The endpoints that the caller may have to call are URLs. -/
def Caller.Addressed (caller : Caller) : Prop :=
  (∃ url, endpoint caller.client.scheme caller.request.plugin
    (caller.client.southPath loginPath) = .ok url) ∧
  ∃ url, endpoint caller.client.scheme caller.request.plugin
    (caller.client.southPath caller.request.resource) = .ok url

/-- A caller on its way: what has happened, and what is left to do. -/
structure Thread where
  /-- The caller. -/
  caller : Caller
  /-- The actions that were done, with their answers. -/
  past : List Event
  /-- What is left to do. -/
  rest : Conversation (Except ContactError Outcome)

/-- A caller that has not begun. -/
def Thread.start (caller : Caller) : Thread where
  caller := caller
  past := []
  rest := caller.client.authorizedContact caller.context caller.request

/-- The event is a login to a plugin. -/
def Event.IsLogin (plugin : Plugin) (event : Event) : Prop :=
  ∃ call answer, event = .sent plugin call answer ∧ call.IsLogin plugin

open Classical in
/-- How many logins there were. -/
noncomputable def loginCount (plugin : Plugin) (events : List Event) : Nat :=
  events.countP fun event => decide (event.IsLogin plugin)

/-- Logins before and after. -/
lemma loginCount_append (plugin : Plugin) (events events' : List Event) :
    loginCount plugin (events ++ events') = loginCount plugin events + loginCount plugin events' :=
  List.countP_append

/-- One event is at most one login. -/
lemma loginCount_singleton_le (plugin : Plugin) (event : Event) :
    loginCount plugin [event] ≤ 1 := List.countP_le_length

/-- An event that is no login is not counted. -/
lemma loginCount_singleton_of_not {plugin : Plugin} {event : Event} (h : ¬event.IsLogin plugin) :
    loginCount plugin [event] = 0 := by
  simp [loginCount, h]

/-- Callers on their way, with what they share. -/
structure Ensemble where
  /-- What the callers share. -/
  shared : Shared
  /-- The callers. -/
  threads : List Thread

/-- One of the callers does its next action. -/
inductive Ensemble.Step (plugin : Plugin) : Ensemble → Ensemble → Prop
  /-- The caller between the others does it. -/
  | act (before after : List Thread) (caller : Caller) (past : List Event) (action : Action)
      (next : action.Answer → Conversation (Except ContactError Outcome)) (answer : action.Answer)
      (shared shared' : Shared) (h : shared.Answers plugin action answer shared') :
    Step plugin ⟨shared, before ++ ⟨caller, past, .ask action next⟩ :: after⟩
      ⟨shared', before ++ ⟨caller, past ++ [⟨action, answer⟩], next answer⟩ :: after⟩

/-- The callers get there by actions of theirs, in any order. -/
def Ensemble.Reaches (plugin : Plugin) : Ensemble → Ensemble → Prop :=
  Relation.ReflTransGen (Ensemble.Step plugin)

/-- The token that is kept for the plugin is one that it honours. -/
def Shared.Safe (plugin : Plugin) (s : Shared) : Prop :=
  ∃ token, s.tokens.lookup plugin.id = some token ∧ s.honoured token

/-! ## What others may do meanwhile -/

/-- What is shared later: the plugin honours what it honoured, and the token that is kept for it was
kept before or is one that it honours. -/
structure Shared.Later (plugin : Plugin) (s s' : Shared) : Prop where
  /-- The plugin honours what it honoured. -/
  honoured : ∀ token, s.honoured token → s'.honoured token
  /-- The token that is kept was kept before or is honoured. -/
  kept : s'.tokens.lookup plugin.id = s.tokens.lookup plugin.id ∨ s'.Safe plugin

variable {plugin : Plugin} {s s' s'' : Shared}

namespace Shared.Later

/-- Nothing may have happened. -/
lemma refl (s : Shared) : Shared.Later plugin s s := ⟨fun _ h => h, .inl rfl⟩

/-- What is kept stays honoured. -/
lemma safe (h : Shared.Later plugin s s') {token : String}
    (hkept : s.tokens.lookup plugin.id = some token) (htoken : s'.honoured token) :
    s'.Safe plugin := by
  rcases h.kept with hsame | hsafe
  · exact ⟨token, hsame.trans hkept, htoken⟩
  · exact hsafe

/-- A token that is kept and honoured stays so. -/
lemma safe_of_safe (h : Shared.Later plugin s s') (hsafe : s.Safe plugin) : s'.Safe plugin := by
  obtain ⟨token, hkept, htoken⟩ := hsafe
  exact h.safe hkept (h.honoured token htoken)

/-- Later than later is later. -/
lemma trans (h : Shared.Later plugin s s') (h' : Shared.Later plugin s' s'') :
    Shared.Later plugin s s'' := by
  refine ⟨fun token ht => h'.honoured token (h.honoured token ht), ?_⟩
  rcases h'.kept with hsame' | hsafe'
  · rcases h.kept with hsame | hsafe
    · exact .inl (hsame'.trans hsame)
    · exact .inr (h'.safe_of_safe hsafe)
  · exact .inr hsafe'

end Shared.Later

/-- What is left to do goes well from here on, whatever the others do meanwhile, with at most so
many logins: only honoured tokens are kept, and the result is as said, in terms of the logins left
and of what is shared then. -/
inductive Heals (plugin : Plugin) {α : Type} (Post : Nat → Shared → α → Prop) :
    Nat → Shared → Conversation α → Prop
  /-- Nothing is left to do. -/
  | done {logins : Nat} {s : Shared} (a : α)
      (hpost : ∀ s', Shared.Later plugin s s' → Post logins s' a) :
    Heals plugin Post logins s (.done a)
  /-- The token kept for the plugin is looked up. -/
  | lookUp {logins : Nat} {s : Shared} (next : Option String → Conversation α)
      (h : ∀ s', Shared.Later plugin s s' →
        Heals plugin Post logins s' (next (s'.tokens.lookup plugin.id))) :
    Heals plugin Post logins s (.ask (.recallToken plugin.id) next)
  /-- A token that the plugin honours is kept for it. -/
  | keep {logins : Nat} {s : Shared} (token : String) (htoken : s.honoured token)
      (next : Unit → Conversation α)
      (h : ∀ s', Shared.Later plugin s s' → s'.Safe plugin →
        Heals plugin Post logins s' (next ())) :
    Heals plugin Post logins s (.ask (.storeToken plugin.id token) next)
  /-- The plugin is logged in to. -/
  | login {logins : Nat} {s : Shared} (call : Call) (hlogin : call.IsLogin plugin)
      (next : Except SendFailure Response → Conversation α)
      (h : ∀ s' response token, Shared.Later plugin s s' →
        (response.status = 200 ∨ response.status = 201) → response.Carries token →
        s'.honoured token → Heals plugin Post logins s' (next (.ok response))) :
    Heals plugin Post (logins + 1) s (.ask (.send plugin call) next)
  /-- A call with a token is sent. -/
  | call {logins : Nat} {s : Shared} (call : Call) (token : String)
      (htoken : call.token = some token) (next : Except SendFailure Response → Conversation α)
      (haccepted : ∀ s' response, Shared.Later plugin s s' → s'.honoured token →
        response.status = 200 → Heals plugin Post logins s' (next (.ok response)))
      (hrefused : ∀ s' response, Shared.Later plugin s s' → ¬s'.honoured token →
        response.status = 401 → Heals plugin Post logins s' (next (.ok response))) :
    Heals plugin Post logins s (.ask (.send plugin call) next)

namespace Heals

variable {α β : Type} {Post : Nat → Shared → α → Prop} {logins : Nat}

/-- What goes well from here on goes well from later on. -/
theorem later {x : Conversation α} (h : Heals plugin Post logins s x)
    (hlater : Shared.Later plugin s s') : Heals plugin Post logins s' x := by
  cases h with
  | done a hpost => exact .done a fun t ht => hpost t (hlater.trans ht)
  | lookUp next hnext => exact .lookUp next fun t ht => hnext t (hlater.trans ht)
  | keep token htoken next hnext =>
    exact .keep token (hlater.honoured token htoken) next fun t ht => hnext t (hlater.trans ht)
  | login call hlogin next hnext =>
    exact .login call hlogin next fun t response token ht =>
      hnext t response token (hlater.trans ht)
  | call call token htoken next haccepted hrefused =>
    exact .call call token htoken next (fun t response ht => haccepted t response (hlater.trans ht))
      (fun t response ht => hrefused t response (hlater.trans ht))

/-- One program after another. -/
theorem bind {Post' : Nat → Shared → β → Prop} {x : Conversation α} {f : α → Conversation β}
    (hx : Heals plugin Post logins s x)
    (hf : ∀ logins' s' a, Shared.Later plugin s s' →
      (∀ s'', Shared.Later plugin s' s'' → Post logins' s'' a) →
      Heals plugin Post' logins' s' (f a)) : Heals plugin Post' logins s (x.bind f) := by
  induction hx with
  | done a hpost => exact hf _ _ a (.refl _) hpost
  | lookUp next _ ih =>
    exact .lookUp _ fun t ht => ih t ht fun logins' s' a hs' => hf logins' s' a (ht.trans hs')
  | keep token htoken next _ ih =>
    exact .keep token htoken _ fun t ht hsafe =>
      ih t ht hsafe fun logins' s' a hs' => hf logins' s' a (ht.trans hs')
  | login call hlogin next _ ih =>
    exact .login call hlogin _ fun t response token ht hsuccess hcarries hhonoured =>
      ih t response token ht hsuccess hcarries hhonoured fun logins' s' a hs' =>
        hf logins' s' a (ht.trans hs')
  | call call token htoken next _ _ ihaccepted ihrefused =>
    refine .call call token htoken _ ?_ ?_
    · intro t response ht hhonoured hstatus
      exact ihaccepted t response ht hhonoured hstatus fun logins' s' a hs' =>
        hf logins' s' a (ht.trans hs')
    · intro t response ht hhonoured hstatus
      exact ihrefused t response ht hhonoured hstatus fun logins' s' a hs' =>
        hf logins' s' a (ht.trans hs')

/-- Something else said of the result. -/
theorem mono {Post' : Nat → Shared → α → Prop} {x : Conversation α}
    (hx : Heals plugin Post logins s x)
    (h : ∀ logins' s' a, Shared.Later plugin s s' → Post logins' s' a → Post' logins' s' a) :
    Heals plugin Post' logins s x := by
  have hdone : x.bind Program.done = x := bind_pure (m := Program Action Action.Answer) x
  rw [← hdone]
  refine hx.bind fun logins' s' a hlater hpost => .done a fun s'' hlater' => ?_
  exact h logins' s'' a (hlater.trans hlater') (hpost s'' hlater')

end Heals

/-- A login carries no token. -/
lemma Call.IsLogin.token_eq_none {call : Call} (h : call.IsLogin plugin) : call.token = none := by
  obtain ⟨c, url, rfl⟩ := h
  rfl

/-- A call that carries a token is no login. -/
lemma not_isLogin_of_token {call : Call} {token : String} (htoken : call.token = some token)
    (answer : Except SendFailure Response) :
    ¬Event.IsLogin plugin ⟨.send plugin call, answer⟩ := by
  rintro ⟨call', answer', hevent, hlogin⟩
  have haction : Action.send plugin call = Action.send plugin call' := congrArg Sigma.fst hevent
  obtain rfl := (Action.send.inj haction).2
  rw [hlogin.token_eq_none] at htoken
  cases htoken

/-- An action that sends nothing is no login. -/
lemma not_isLogin_of_ne (action : Action) (haction : ∀ call, action ≠ .send plugin call)
    (answer : action.Answer) : ¬Event.IsLogin plugin ⟨action, answer⟩ := by
  rintro ⟨call, answer', hevent, -⟩
  exact haction call (congrArg Sigma.fst hevent)

/-- What is kept does not change what is honoured, and an honoured token that is kept is safe. -/
lemma later_keep {token : String} (htoken : s.honoured token) :
    Shared.Later plugin s { s with tokens := Keyed.put plugin.id token s.tokens } ∧
      Shared.Safe plugin { s with tokens := Keyed.put plugin.id token s.tokens } := by
  have hsafe : Shared.Safe plugin { s with tokens := Keyed.put plugin.id token s.tokens } :=
    ⟨token, Keyed.lookup_put_self _ _ _, htoken⟩
  exact ⟨⟨fun _ h => h, .inr hsafe⟩, hsafe⟩

/-- A login only adds to what is honoured. -/
lemma later_login (token : String) :
    Shared.Later plugin s { s with honoured := fun t => t = token ∨ s.honoured t } :=
  ⟨fun _ h => .inr h, .inl rfl⟩

/-- One action of a program that goes well, answered as the plugin answers, leaves a program that
goes well, with one login less if the action was one; and for others it is something that may
happen meanwhile. -/
theorem Heals.step {α : Type} {Post : Nat → Shared → α → Prop} {logins : Nat} {action : Action}
    {next : action.Answer → Conversation α} {answer : action.Answer}
    (h : Heals plugin Post logins s (.ask action next))
    (hanswers : s.Answers plugin action answer s') :
    Shared.Later plugin s s' ∧ ∃ logins', Heals plugin Post logins' s' (next answer) ∧
      logins' + loginCount plugin [⟨action, answer⟩] ≤ logins := by
  cases h with
  | lookUp next hnext =>
    cases hanswers with
    | lookUp =>
      have hnone : ¬Event.IsLogin plugin
          ⟨.recallToken plugin.id, s.tokens.lookup plugin.id⟩ :=
        not_isLogin_of_ne (.recallToken plugin.id) (by simp) _
      have hcount := loginCount_singleton_of_not hnone
      exact ⟨.refl s, logins, hnext s (.refl s), by omega⟩
  | keep token htoken next hnext =>
    cases hanswers with
    | keep =>
      obtain ⟨hlater, hsafe⟩ := @later_keep plugin s token htoken
      have hnone : ¬Event.IsLogin plugin ⟨.storeToken plugin.id token, ()⟩ :=
        not_isLogin_of_ne (.storeToken plugin.id token) (by simp) ()
      have hcount := loginCount_singleton_of_not hnone
      exact ⟨hlater, logins, hnext _ hlater hsafe, by omega⟩
  | login call hlogin next hnext =>
    cases hanswers with
    | login _ _ response token hsuccess hcarries =>
      have hcount := loginCount_singleton_le plugin ⟨.send plugin call, .ok response⟩
      exact ⟨later_login token, _,
        hnext _ response token (later_login token) hsuccess hcarries (.inl rfl), by omega⟩
    | accepted _ token htoken =>
      rw [hlogin.token_eq_none] at htoken
      cases htoken
    | refused _ token htoken =>
      rw [hlogin.token_eq_none] at htoken
      cases htoken
  | call call token htoken next haccepted hrefused =>
    have hcount (response : Response) :
        loginCount plugin [⟨.send plugin call, .ok response⟩] = 0 :=
      loginCount_singleton_of_not (not_isLogin_of_token htoken (.ok response))
    cases hanswers with
    | login _ hlogin =>
      rw [hlogin.token_eq_none] at htoken
      cases htoken
    | accepted _ token' htoken' h response hstatus =>
      obtain rfl := Option.some.inj (htoken.symm.trans htoken')
      exact ⟨.refl s, logins, haccepted s response (.refl s) h hstatus, by
        rw [hcount]
        exact Nat.le_refl logins⟩
    | refused _ token' htoken' h response hstatus =>
      obtain rfl := Option.some.inj (htoken.symm.trans htoken')
      exact ⟨.refl s, logins, hrefused s response (.refl s) h hstatus, by
        rw [hcount]
        exact Nat.le_refl logins⟩

/-! ## A caller goes well -/

/-- A login is answered with a token that is honoured. -/
lemma heals_sendGuarded_login {call : Call} (hlogin : call.IsLogin plugin) (logins : Nat)
    (s : Shared) :
    Heals plugin (fun logins' s' answer => logins' = logins ∧ ∃ response token,
        answer = .ok response ∧ (response.status = 200 ∨ response.status = 201) ∧
          response.Carries token ∧ s'.honoured token)
      (logins + 1) s (Client.sendGuarded plugin call) := by
  refine .login call hlogin _ fun s' response token hlater hsuccess hcarries hhonoured => ?_
  refine .done _ fun s'' hlater' => ⟨rfl, response, token, rfl, hsuccess, hcarries, ?_⟩
  exact hlater'.honoured token hhonoured

/-- A call is answered with success, or its token was not honoured before. -/
lemma heals_sendGuarded_call {call : Call} {token : String} (htoken : call.token = some token)
    (logins : Nat) (s : Shared) :
    Heals plugin (fun logins' s' answer => logins' = logins ∧ ∃ response, answer = .ok response ∧
        (response.status = 200 ∧ s'.honoured token ∨
          response.status = 401 ∧ ¬s.honoured token))
      logins s (Client.sendGuarded plugin call) := by
  refine .call call token htoken _ ?_ ?_
  · intro s' response hlater hhonoured hstatus
    refine .done _ fun s'' hlater' => ⟨rfl, response, rfl, .inl ⟨hstatus, ?_⟩⟩
    exact hlater'.honoured token hhonoured
  · intro s' response hlater hhonoured hstatus
    refine .done _ fun s'' hlater' => ⟨rfl, response, rfl, .inr ⟨hstatus, ?_⟩⟩
    exact fun h => hhonoured (hlater.honoured token h)

/-- A login brings a token that is honoured, and keeps it; it fails only if its endpoint is no URL.
-/
lemma heals_login (c : Client) (plugin : Plugin) (logins : Nat) (s : Shared) :
    Heals plugin (fun logins' s' token? => logins ≤ logins' ∧
        ((∃ url, endpoint c.scheme plugin (c.southPath loginPath) = .ok url) → token? ≠ none) ∧
        ∀ token, token? = some token → s'.honoured token ∧ s'.Safe plugin)
      (logins + 1) s (c.login plugin) := by
  simp only [Client.login, Program.bind_eq]
  cases hurl : endpoint c.scheme plugin (c.southPath loginPath) with
  | error fault =>
    have hcontact : c.contact loginContext (Client.loginRequest plugin) =
        .done (.error (.invalidUrl fault)) :=
      contact_of_error (r := Client.loginRequest plugin) hurl _
    rw [hcontact]
    refine .done none fun s' hlater => ⟨Nat.le_succ logins, ?_, ?_⟩
    · rintro ⟨url, hurl'⟩
      cases hurl'
    · intro token htoken
      cases htoken
  | ok url =>
    have hcontact : c.contact loginContext (Client.loginRequest plugin) =
        (Client.sendGuarded plugin (loginCall c plugin url)).bind fun answer =>
          .done (c.concluded loginContext answer) := by
      rw [← requestCall_loginRequest]
      exact contact_of_ok (r := Client.loginRequest plugin) hurl _
    rw [hcontact, Program.bind_bind]
    refine (heals_sendGuarded_login ⟨c, url, rfl⟩ logins s).bind
      fun logins' s' answer hlater hpost => ?_
    obtain ⟨rfl, response, token, rfl, hsuccess, hcarries, hhonoured⟩ := hpost s' (.refl s')
    have hissued : Client.issuedToken? (c.concluded loginContext (.ok response)) = some token := by
      rw [concluded_eq_result, issuedToken?_result]
      exact ⟨response, rfl, hsuccess, hcarries⟩
    simp only [Program.bind, hissued]
    refine .keep token hhonoured _ fun t ht hsafe => .done _ fun t' ht' => ?_
    refine ⟨Nat.le_refl _, fun _ => Option.some_ne_none token, ?_⟩
    intro token' htoken'
    obtain rfl := Option.some.inj htoken'
    exact ⟨ht'.honoured _ (ht.honoured _ hhonoured), ht'.safe_of_safe hsafe⟩

/-- A request with a token succeeds, unless the token was not honoured before or the endpoint is no
URL. -/
lemma heals_contact (c : Client) (context : String) {r : ContactRequest}
    (hauth : r.plugin.auth = .token) (token : String) (logins : Nat) (s : Shared) :
    Heals r.plugin (fun logins' s' result => logins' = logins ∧
        ((∃ outcome, result = .ok outcome ∧ outcome.status = 200 ∧ s'.honoured token) ∨
          ∃ failure, result = .error failure ∧
            (failure.isUnauthorized = true ∧ ¬s.honoured token ∨
              failure.isUnauthorized = false ∧
                ¬∃ url, endpoint c.scheme r.plugin (c.southPath r.resource) = .ok url)))
      logins s (c.contact context { r with token := some token }) := by
  cases hurl : endpoint c.scheme r.plugin (c.southPath r.resource) with
  | error fault =>
    rw [contact_of_error (r := { r with token := some token }) hurl]
    refine .done _ fun s' hlater => ⟨rfl, .inr ⟨_, rfl, .inr ⟨rfl, ?_⟩⟩⟩
    rintro ⟨url, hurl'⟩
    cases hurl'
  | ok url =>
    have hcall : (requestCall c { r with token := some token } url).token = some token := by
      simp [requestCall, hauth]
    rw [contact_of_ok (r := { r with token := some token }) hurl]
    refine (heals_sendGuarded_call hcall logins s).bind fun logins' s' answer hlater hpost => ?_
    obtain ⟨rfl, response, rfl, -⟩ := hpost s' (.refl s')
    refine .done _ fun s'' hlater' => ⟨rfl, ?_⟩
    obtain ⟨-, response', hresponse, hanswer⟩ := hpost s'' hlater'
    obtain rfl := Except.ok.inj hresponse
    rcases hanswer with ⟨hstatus, hhonoured⟩ | ⟨hstatus, hhonoured⟩
    · have hresult : c.concluded context (.ok response) =
          .ok ⟨c.conversion.northBody response.body, response.authToken?, response.status⟩ := by
        simp [Client.concluded, Response.isSuccess, hstatus]
      exact .inl ⟨_, hresult, hstatus, hhonoured⟩
    · have hresult : c.concluded context (.ok response) =
          .error (.rejected context response.status response.body) := by
        simp [Client.concluded, Response.isSuccess, hstatus]
      exact .inr ⟨_, hresult, .inl ⟨by simp [ContactError.isUnauthorized, hstatus], hhonoured⟩⟩

/-- The outcome that a caller has asked for: success, with an honoured token kept for its plugin. -/
def Caller.Served (caller : Caller) (s : Shared) (result : Except ContactError Outcome) : Prop :=
  (∃ outcome, result = .ok outcome ∧ outcome.status = 200) ∧ s.Safe caller.request.plugin

/-- What a caller ends in, if its endpoints are URLs. -/
def Caller.Post (caller : Caller) (_ : Nat) (s : Shared)
    (result : Except ContactError Outcome) : Prop := caller.Addressed → caller.Served s result

/-- Once the token is honoured, an honoured token is kept. -/
def Shared.Guards (plugin : Plugin) (s : Shared) (token : String) : Prop :=
  ∀ s', Shared.Later plugin s s' → s'.honoured token → s'.Safe plugin

/-- A token that is kept guards itself. -/
lemma guards_of_kept {token : String} (hkept : s.tokens.lookup plugin.id = some token) :
    s.Guards plugin token := fun _ hlater hhonoured => hlater.safe hkept hhonoured

/-- While an honoured token is kept, any token is guarded. -/
lemma guards_of_safe (hsafe : s.Safe plugin) (token : String) : s.Guards plugin token :=
  fun _ hlater _ => hlater.safe_of_safe hsafe

/-- A token that is guarded stays so. -/
lemma Shared.Guards.later {token : String} (h : s.Guards plugin token)
    (hlater : Shared.Later plugin s s') : s'.Guards plugin token :=
  fun s'' hlater' => h s'' (hlater.trans hlater')

/-- A token is found that is guarded, and one that is not known to be honoured is found without a
login. -/
lemma heals_getToken (c : Client) (plugin : Plugin) (s : Shared) :
    Heals plugin (fun logins' s' token? =>
        ((∃ url, endpoint c.scheme plugin (c.southPath loginPath) = .ok url) → token? ≠ none) ∧
        ∀ token, token? = some token →
          s'.Guards plugin token ∧ (s'.honoured token ∨ 0 < logins'))
      1 s (c.getToken plugin) := by
  rw [getToken_eq]
  refine .lookUp _ fun s' hlater => ?_
  cases hkept : s'.tokens.lookup plugin.id with
  | some token =>
    refine .done _ fun s'' hlater' => ⟨fun _ => nofun, ?_⟩
    rintro token' htoken'
    obtain rfl := Option.some.inj htoken'
    exact ⟨(guards_of_kept hkept).later hlater', .inr Nat.one_pos⟩
  | none =>
    simp only [Client.keptOrLogin]
    refine (heals_login c plugin 0 s').mono ?_
    rintro logins' s'' token? hlater' ⟨-, haddressed, hissued⟩
    refine ⟨haddressed, fun token htoken => ?_⟩
    obtain ⟨hhonoured, hsafe⟩ := hissued token htoken
    exact ⟨guards_of_safe hsafe token, .inl hhonoured⟩

section Caller

variable {caller : Caller} (hauth : caller.request.plugin.auth = .token)

include hauth

/-- A request with an honoured token goes well, if the token is guarded. -/
lemma heals_contact_of_honoured {token : String} (hhonoured : s.honoured token)
    (hguards : s.Guards caller.request.plugin token) (logins : Nat) :
    Heals caller.request.plugin caller.Post logins s
      (caller.client.contact caller.context { caller.request with token := some token }) := by
  refine (heals_contact caller.client caller.context hauth token logins s).mono ?_
  rintro logins' s' result hlater ⟨-, hresult⟩ haddressed
  rcases hresult with ⟨outcome, rfl, hstatus, hhonoured'⟩ | ⟨failure, rfl, hfailure⟩
  · exact ⟨⟨outcome, rfl, hstatus⟩, hguards s' hlater hhonoured'⟩
  · rcases hfailure with ⟨-, hnot⟩ | ⟨-, hnot⟩
    · exact absurd hhonoured hnot
    · exact absurd haddressed.2 hnot

/-- A request that was refused for its token goes well, with a login. -/
lemma heals_retryAfterReauth {failure : ContactError}
    (hunauthorized : failure.isUnauthorized = true) (token : String) (logins : Nat) :
    Heals caller.request.plugin caller.Post (logins + 1) s
      (caller.client.retryAfterReauth caller.context
        { caller.request with token := some token } failure) := by
  rw [retryAfterReauth_of_refused (r := { caller.request with token := some token }) _ _
    hunauthorized hauth]
  refine (heals_login caller.client caller.request.plugin logins s).bind ?_
  intro logins' s' token? hlater hpost
  obtain ⟨-, haddressed, hissued⟩ := hpost s' (.refl s')
  cases token? with
  | none => exact .done _ fun s'' hlater' haddr => absurd rfl (haddressed haddr.1)
  | some token' =>
    obtain ⟨hhonoured, hsafe⟩ := hissued token' rfl
    exact heals_contact_of_honoured hauth hhonoured (guards_of_safe hsafe token') logins'

/-- A request with a token that is guarded goes well, with a login left if the token may not be
honoured. -/
lemma heals_contactWithRetry {token : String} {logins : Nat}
    (hguards : s.Guards caller.request.plugin token) (hready : s.honoured token ∨ 0 < logins) :
    Heals caller.request.plugin caller.Post logins s
      (caller.client.contactWithRetry caller.context
        { caller.request with token := some token }) := by
  simp only [Client.contactWithRetry, Program.bind_eq]
  refine (heals_contact caller.client caller.context hauth token logins s).bind ?_
  intro logins' s' result hlater hpost
  obtain ⟨rfl, hresult⟩ := hpost s' (.refl s')
  rcases hresult with ⟨outcome, rfl, hstatus, hhonoured⟩ | ⟨failure, rfl, hfailure⟩
  · refine .done _ fun s'' hlater' _ => ⟨⟨outcome, rfl, hstatus⟩, ?_⟩
    exact hguards s'' (hlater.trans hlater') (hlater'.honoured token hhonoured)
  · rcases hfailure with ⟨hunauthorized, hnot⟩ | ⟨hauthorized, hnot⟩
    · obtain ⟨logins, rfl⟩ := Nat.exists_eq_add_one.mpr (hready.resolve_left hnot)
      exact heals_retryAfterReauth hauth hunauthorized token logins
    · dsimp only
      rw [retryAfterReauth_of_not (r := { caller.request with token := some token }) _ _
        (by simp [hauthorized])]
      exact .done _ fun s'' hlater' haddressed => absurd haddressed.2 hnot

/-- A caller that has not begun goes well, with at most one login. -/
theorem heals_start (s : Shared) :
    Heals caller.request.plugin caller.Post 1 s (Thread.start caller).rest := by
  rw [Thread.start, authorizedContact_of_token _ _ hauth]
  refine (heals_getToken caller.client caller.request.plugin s).bind ?_
  intro logins' s' token? hlater hpost
  obtain ⟨haddressed, hfound⟩ := hpost s' (.refl s')
  cases token? with
  | none => exact .done _ fun s'' hlater' haddr => absurd rfl (haddressed haddr.1)
  | some token =>
    obtain ⟨hguards, hready⟩ := hfound token rfl
    exact heals_contactWithRetry hauth hguards hready

end Caller

/-! ## All callers -/

namespace Ensemble

/-- Every caller makes its contact with the plugin, and what is left of it goes well, with no more
than one login altogether. -/
def Sound (plugin : Plugin) (e : Ensemble) : Prop :=
  ∀ thread ∈ e.threads, thread.caller.request.plugin = plugin ∧
    ∃ logins, Heals plugin thread.caller.Post logins e.shared thread.rest ∧
      logins + loginCount plugin thread.past ≤ 1

/-- Callers that have not begun go well, whatever is kept and honoured. -/
lemma sound_start (hauth : plugin.auth = .token) {callers : List Caller}
    (hcallers : ∀ caller ∈ callers, caller.request.plugin = plugin) (shared : Shared) :
    Sound plugin ⟨shared, callers.map Thread.start⟩ := by
  intro thread hthread
  obtain ⟨caller, hcaller, rfl⟩ := List.mem_map.mp hthread
  have hplugin : caller.request.plugin = plugin := hcallers caller hcaller
  subst hplugin
  exact ⟨rfl, 1, heals_start hauth shared, Nat.le_refl 1⟩

/-- Whichever caller does its next action, all go well. -/
lemma Sound.step {e e' : Ensemble} (h : Sound plugin e) (hstep : Step plugin e e') :
    Sound plugin e' := by
  cases hstep with
  | act before after caller past action next answer shared shared' hanswers =>
    have hactive : (⟨caller, past, .ask action next⟩ : Thread) ∈
        before ++ ⟨caller, past, .ask action next⟩ :: after := by simp
    obtain ⟨hplugin, logins, hheals, (hcount : logins + loginCount plugin past ≤ 1)⟩ :=
      h _ hactive
    obtain ⟨hlater, logins', hheals', hcount'⟩ := hheals.step hanswers
    -- The others go well as before, since what is shared is later for them.
    have hother : ∀ thread ∈ before ++ after, thread.caller.request.plugin = plugin ∧
        ∃ logins, Heals plugin thread.caller.Post logins shared' thread.rest ∧
          logins + loginCount plugin thread.past ≤ 1 := by
      intro thread hthread
      have hmem : thread ∈ before ++ ⟨caller, past, .ask action next⟩ :: after := by
        rcases List.mem_append.mp hthread with hthread | hthread
        · exact List.mem_append_left _ hthread
        · exact List.mem_append_right _ (List.mem_cons_of_mem _ hthread)
      obtain ⟨hplugin', logins, hheals, hcount⟩ := h thread hmem
      exact ⟨hplugin', logins, hheals.later hlater, hcount⟩
    intro thread hthread
    rcases List.mem_append.mp hthread with hthread | hthread
    · exact hother thread (List.mem_append_left _ hthread)
    · rcases List.mem_cons.mp hthread with rfl | hthread
      · refine ⟨hplugin, logins', hheals', ?_⟩
        rw [loginCount_append]
        omega
      · exact hother thread (List.mem_append_right _ hthread)

/-- However the callers get on, all go well. -/
lemma Sound.reaches {e e' : Ensemble} (h : Sound plugin e) (hreaches : Reaches plugin e e') :
    Sound plugin e' := by
  induction hreaches with
  | refl => exact h
  | tail _ hstep ih => exact ih.step hstep

/-- No caller comes or goes. -/
lemma Reaches.callers {e e' : Ensemble} (h : Reaches plugin e e') :
    e'.threads.map Thread.caller = e.threads.map Thread.caller := by
  induction h with
  | refl => rfl
  | tail _ hstep ih =>
    rw [← ih]
    cases hstep with
    | act before after caller past action next answer shared shared' hanswers => simp

end Ensemble

/-! ## No caller gets stuck -/

/-- A response that hands out a token. -/
def issuingResponse : Response := ⟨201, [(authTokenHeader, "t".toUTF8)], ByteArray.empty⟩

/-- The response hands out its token. -/
lemma issuingResponse_carries : issuingResponse.Carries "t" := by
  have htoken : issuingResponse.authToken? = some "t" := by decide +kernel
  exact Response.authToken?_eq_some_iff.mp htoken

/-- A caller of whom what is left goes well can be let finish while the others wait. -/
lemma Heals.exists_finish {Post : Nat → Shared → Except ContactError Outcome → Prop}
    {logins : Nat} {x : Conversation (Except ContactError Outcome)}
    (h : Heals plugin Post logins s x) (before after : List Thread) (caller : Caller)
    (past : List Event) :
    ∃ s' past' result, Ensemble.Reaches plugin ⟨s, before ++ ⟨caller, past, x⟩ :: after⟩
      ⟨s', before ++ ⟨caller, past', .done result⟩ :: after⟩ := by
  induction h generalizing past with
  | done a hpost => exact ⟨_, past, a, .refl⟩
  | @lookUp logins s next _ ih =>
    obtain ⟨s', past', result, hreaches⟩ := ih s (.refl s)
      (past ++ [⟨.recallToken plugin.id, s.tokens.lookup plugin.id⟩])
    exact ⟨s', past', result, .head (.act before after caller past _ next _ s s (.lookUp _))
      hreaches⟩
  | @keep logins s token htoken next _ ih =>
    obtain ⟨hlater, hsafe⟩ := @later_keep plugin s token htoken
    obtain ⟨s', past', result, hreaches⟩ := ih _ hlater hsafe
      (past ++ [⟨.storeToken plugin.id token, ()⟩])
    exact ⟨s', past', result, .head (.act before after caller past _ next _ s _ (.keep _ _))
      hreaches⟩
  | @login logins s call hlogin next _ ih =>
    obtain ⟨s', past', result, hreaches⟩ := ih _ issuingResponse "t" (later_login "t") (.inr rfl)
      issuingResponse_carries (.inl rfl) (past ++ [⟨.send plugin call, .ok issuingResponse⟩])
    exact ⟨s', past', result, .head (.act before after caller past _ next _ s _
      (.login call hlogin issuingResponse "t" (.inr rfl) issuingResponse_carries)) hreaches⟩
  | @call logins s call token htoken next _ _ ihaccepted ihrefused =>
    by_cases hhonoured : s.honoured token
    · obtain ⟨s', past', result, hreaches⟩ := ihaccepted s ⟨200, [], ByteArray.empty⟩ (.refl s)
        hhonoured rfl (past ++ [⟨.send plugin call, .ok ⟨200, [], ByteArray.empty⟩⟩])
      exact ⟨s', past', result, .head (.act before after caller past _ next _ s s
        (.accepted call token htoken hhonoured _ rfl)) hreaches⟩
    · obtain ⟨s', past', result, hreaches⟩ := ihrefused s ⟨401, [], ByteArray.empty⟩ (.refl s)
        hhonoured rfl (past ++ [⟨.send plugin call, .ok ⟨401, [], ByteArray.empty⟩⟩])
      exact ⟨s', past', result, .head (.act before after caller past _ next _ s s
        (.refused call token htoken hhonoured _ rfl)) hreaches⟩

/-- However far the callers are, all can be let finish. -/
theorem exists_all_finished {shared : Shared} {threads : List Thread}
    (h : Ensemble.Sound plugin ⟨shared, threads⟩) :
    ∃ e, Ensemble.Reaches plugin ⟨shared, threads⟩ e ∧
      ∀ thread ∈ e.threads, ∃ result, thread.rest = .done result := by
  -- The callers are let finish one after another; `before` are those that have.
  have hfinish : ∀ (rest before : List Thread) (shared : Shared),
      Ensemble.Sound plugin ⟨shared, before ++ rest⟩ →
      (∀ thread ∈ before, ∃ result, thread.rest = .done result) →
      ∃ e, Ensemble.Reaches plugin ⟨shared, before ++ rest⟩ e ∧
        ∀ thread ∈ e.threads, ∃ result, thread.rest = .done result := by
    intro rest
    induction rest with
    | nil =>
      intro before shared hsound hbefore
      exact ⟨_, .refl, by simpa using hbefore⟩
    | cons thread rest ih =>
      intro before shared hsound hbefore
      obtain ⟨-, logins, hheals, -⟩ := hsound thread (by simp)
      obtain ⟨shared', past, result, hreaches⟩ :=
        hheals.exists_finish before rest thread.caller thread.past
      have hsound' := hsound.reaches hreaches
      have hsplit : before ++ (⟨thread.caller, past, .done result⟩ : Thread) :: rest =
          (before ++ [⟨thread.caller, past, .done result⟩]) ++ rest := by simp
      rw [hsplit] at hreaches hsound'
      obtain ⟨e, hreaches', hfinished⟩ := ih _ shared' hsound' (by
        intro thread' hthread'
        rcases List.mem_append.mp hthread' with hthread' | hthread'
        · exact hbefore thread' hthread'
        · rw [List.mem_singleton.mp hthread']
          exact ⟨result, rfl⟩)
      exact ⟨e, hreaches.trans hreaches', hfinished⟩
  exact hfinish threads [] shared h (List.forall_mem_nil _)

/-- Callers that share the sessions of a plugin do each other no harm. Let any number of callers
make authorised contacts with one plugin that takes tokens, in any order of their actions, whatever
is kept at the start. Then none of them logs in more than once; and one that has finished, and whose
endpoints are URLs, has the success that it asked for, and from then on the token that is kept is
one that the plugin honours. -/
theorem shared_sessions_heal {plugin : Plugin} (hauth : plugin.auth = .token)
    {callers : List Caller} (hcallers : ∀ caller ∈ callers, caller.request.plugin = plugin)
    {shared : Shared} {e : Ensemble}
    (h : Ensemble.Reaches plugin ⟨shared, callers.map Thread.start⟩ e) :
    e.threads.map Thread.caller = callers ∧
      (∀ thread ∈ e.threads, loginCount plugin thread.past ≤ 1) ∧
      ∀ thread ∈ e.threads, thread.caller.Addressed → ∀ result, thread.rest = .done result →
        (∃ outcome, result = .ok outcome ∧ outcome.status = 200) ∧ e.shared.Safe plugin := by
  have hsound := (Ensemble.sound_start hauth hcallers shared).reaches h
  refine ⟨?_, ?_, ?_⟩
  · have hstart : (callers.map Thread.start).map Thread.caller = callers := by
      rw [List.map_map]
      exact List.map_id callers
    rw [h.callers]
    exact hstart
  · intro thread hthread
    obtain ⟨-, logins, -, hcount⟩ := hsound thread hthread
    omega
  · intro thread hthread haddressed result hresult
    obtain ⟨rfl, logins, hheals, -⟩ := hsound thread hthread
    rw [hresult] at hheals
    cases hheals with
    | done a hpost => exact hpost e.shared (.refl _) haddressed

/-- A plugin that takes tokens. -/
def tokenPlugin : Plugin := ⟨"GRF", "10.0.0.5", 45001, "admin", "secret", .token⟩

/-- A caller that reads a resource of that plugin. -/
def readingCaller (resource : String) : Caller where
  client := ⟨"https", .standard⟩
  context := "error: "
  request := { plugin := tokenPlugin, method := .get, resource }

/-- The endpoints of two callers are URLs. -/
lemma addressed_readingCaller {caller : Caller} (h : caller ∈
    [readingCaller "/redfish/v1/Systems", readingCaller "/redfish/v1/Chassis"]) :
    caller.Addressed := by
  simp only [List.mem_cons, List.not_mem_nil, or_false] at h
  rcases h with rfl | rfl
  · exact ⟨exists_ok_of_isOk (by decide +kernel), exists_ok_of_isOk (by decide +kernel)⟩
  · exact ⟨exists_ok_of_isOk (by decide +kernel), exists_ok_of_isOk (by decide +kernel)⟩

/-- Two callers that find a token which the plugin does not honour can both finish, and have then
what they asked for. -/
theorem shared_sessions_heal_of_stale :
    ∃ e, Ensemble.Reaches tokenPlugin
        ⟨⟨[("GRF", "stale")], fun _ => False⟩,
          [readingCaller "/redfish/v1/Systems", readingCaller "/redfish/v1/Chassis"].map
            Thread.start⟩ e ∧
      e.threads.length = 2 ∧ e.shared.Safe tokenPlugin ∧
      ∀ thread ∈ e.threads, loginCount tokenPlugin thread.past ≤ 1 ∧
        ∃ outcome, thread.rest = .done (.ok outcome) ∧ outcome.status = 200 := by
  have hcallers : ∀ caller ∈ [readingCaller "/redfish/v1/Systems",
      readingCaller "/redfish/v1/Chassis"], caller.request.plugin = tokenPlugin := by
    intro caller hcaller
    simp only [List.mem_cons, List.not_mem_nil, or_false] at hcaller
    rcases hcaller with rfl | rfl <;> rfl
  have hauth : tokenPlugin.auth = .token := rfl
  have hsound := Ensemble.sound_start hauth hcallers ⟨[("GRF", "stale")], fun _ => False⟩
  obtain ⟨e, hreaches, hfinished⟩ := exists_all_finished hsound
  obtain ⟨hthreads, hlogins, hserved⟩ :=
    shared_sessions_heal hauth hcallers hreaches
  have hdone : ∀ thread ∈ e.threads,
      (∃ outcome, thread.rest = .done (.ok outcome) ∧ outcome.status = 200) ∧
        e.shared.Safe tokenPlugin := by
    intro thread hthread
    obtain ⟨result, hresult⟩ := hfinished thread hthread
    have hcaller : thread.caller ∈ e.threads.map Thread.caller := List.mem_map_of_mem hthread
    rw [hthreads] at hcaller
    obtain ⟨⟨outcome, rfl, hstatus⟩, hsafe⟩ :=
      hserved thread hthread (addressed_readingCaller hcaller) result hresult
    exact ⟨⟨outcome, hresult, hstatus⟩, hsafe⟩
  have hlength : e.threads.length = 2 := by
    have hmap := congrArg List.length hthreads
    rwa [List.length_map] at hmap
  obtain ⟨thread, hthread⟩ := List.exists_mem_of_length_pos (by omega : 0 < e.threads.length)
  exact ⟨e, hreaches, hlength, (hdone thread hthread).2, fun thread hthread =>
    ⟨hlogins thread hthread, (hdone thread hthread).1⟩⟩

/-- A caller whose request has no URL as its endpoint ends in a failure that says so, if a token is
kept. -/
lemma exists_reaches_of_error {caller : Caller} (hauth : caller.request.plugin.auth = .token)
    {fault : Url.Fault} (hurl : endpoint caller.client.scheme caller.request.plugin
      (caller.client.southPath caller.request.resource) = .error fault)
    {shared : Shared} {token : String}
    (hkept : shared.tokens.lookup caller.request.plugin.id = some token) :
    ∃ past, Ensemble.Reaches caller.request.plugin ⟨shared, [Thread.start caller]⟩
      ⟨shared, [⟨caller, past, .done (.error (.invalidUrl fault))⟩]⟩ := by
  have hnot : ¬((ContactError.invalidUrl fault).isUnauthorized = true ∧
      caller.request.plugin.auth = .token) := by
    simp [ContactError.isUnauthorized]
  have hfails : caller.client.contactWithToken caller.context caller.request (some token) =
      .done (.error (.invalidUrl fault)) := by
    rw [Client.contactWithToken, Client.contactWithRetry,
      contact_of_error (r := { caller.request with token := some token }) hurl]
    exact retryAfterReauth_of_not (r := { caller.request with token := some token })
      caller.client caller.context hnot
  have hanswers : shared.Answers caller.request.plugin (.recallToken caller.request.plugin.id)
      (some token) shared := hkept ▸ Shared.Answers.lookUp _
  have hfound : (caller.client.keptOrLogin caller.request.plugin (some token)).bind
      (caller.client.contactWithToken caller.context caller.request) =
        .done (.error (.invalidUrl fault)) := by
    simp only [Client.keptOrLogin, Program.bind, hfails]
  have hstart : Thread.start caller = ⟨caller, [], .ask (.recallToken caller.request.plugin.id)
      fun token? => (caller.client.keptOrLogin caller.request.plugin token?).bind
        (caller.client.contactWithToken caller.context caller.request)⟩ := by
    rw [Thread.start, authorizedContact_of_token _ _ hauth, getToken_eq, Program.bind]
  refine ⟨[.recalled caller.request.plugin.id (some token)], .single ?_⟩
  rw [hstart, ← hfound]
  exact .act [] [] caller [] _ _ _ _ _ hanswers

/-- A caller that asks for a resource without a slash at its beginning ends in a failure, even with
a token that the plugin honours, since its endpoint is no URL. -/
theorem shared_sessions_heal_of_unaddressed :
    ∃ e thread fault, Ensemble.Reaches tokenPlugin
        ⟨⟨[("GRF", "t")], fun token => token = "t"⟩, [readingCaller "x"].map Thread.start⟩ e ∧
      thread ∈ e.threads ∧ thread.rest = .done (.error (.invalidUrl fault)) := by
  have hunaddressed : (endpoint (readingCaller "x").client.scheme (readingCaller "x").request.plugin
      ((readingCaller "x").client.southPath (readingCaller "x").request.resource)).isOk =
        false := by
    decide +kernel
  have hauth : (readingCaller "x").request.plugin.auth = .token := rfl
  have hkept : [("GRF", "t")].lookup (readingCaller "x").request.plugin.id = some "t" := by
    decide +kernel
  cases hurl : endpoint (readingCaller "x").client.scheme (readingCaller "x").request.plugin
      ((readingCaller "x").client.southPath (readingCaller "x").request.resource) with
  | ok url =>
    rw [hurl] at hunaddressed
    cases hunaddressed
  | error fault =>
    obtain ⟨past, hreaches⟩ := @exists_reaches_of_error _ hauth fault hurl
      ⟨[("GRF", "t")], fun token => token = "t"⟩ "t" hkept
    exact ⟨_, _, fault, hreaches, List.mem_singleton_self _, rfl⟩

end PluginGateway
