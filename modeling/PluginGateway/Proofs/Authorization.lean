import PluginGateway.Proofs.Exchange

/-!
# Authorised contacts

Before a request goes to a plugin it is given what the plugin authenticates callers by: a session
token, which is the one kept or else the one that a login brings, or the plugin's own credentials.
`Session` and `Authorization` say what happens then, and `authorizedContact` is the contact as it is
made everywhere: the request is given its credentials, and carried out if that worked.

The main statement, `authorizedContact_conduct`, says that such a contact is an `Authorization` with
a `Conduct` behind it, whatever the surroundings answer.
-/

namespace PluginGateway

/-- The session token kept for a plugin was looked up. -/
def Event.recalled (pluginId : String) (token? : Option String) : Event :=
  ⟨.recallToken pluginId, token?⟩

/-- The events of finding a token for a plugin, and the token found, given what is kept: the token
that is kept, or else that of a login. -/
inductive Session (c : Client) (plugin : Plugin) :
    Option String → List Event → Option String → Prop
  /-- A token is kept. -/
  | kept (token : String) :
    Session c plugin (some token) [.recalled plugin.id (some token)] (some token)
  /-- No token is kept. -/
  | opened (events : List Event) (token? : Option String) (h : Login c plugin events token?) :
    Session c plugin none (.recalled plugin.id none :: events) token?

/-- The events of giving a request what its plugin authenticates callers by, and the request as it
is then, if there was a token to give. -/
inductive Authorization (c : Client) (r : ContactRequest) (kept? : Option String) :
    List Event → Option ContactRequest → Prop
  /-- The plugin takes its own credentials. -/
  | credentials (hbasic : r.plugin.auth ≠ .token) :
    Authorization c r kept? [] (some { r with basic := some r.plugin.credentials })
  /-- The plugin takes tokens, and there is one. -/
  | token (htoken : r.plugin.auth = .token) (events : List Event) (token : String)
      (h : Session c r.plugin kept? events (some token)) :
    Authorization c r kept? events (some { r with token := some token })
  /-- The plugin takes tokens, and there is none. -/
  | refused (htoken : r.plugin.auth = .token) (events : List Event)
      (h : Session c r.plugin kept? events none) :
    Authorization c r kept? events none

/-- Go on with what a conversation brought, unless it failed. -/
def Conversation.onSuccess {α β : Type} (f : α → Conversation (Except ContactError β)) :
    Except ContactError α → Conversation (Except ContactError β)
  | .ok a => f a
  | .error failure => .done (.error failure)

/-- Carry out a request with what its plugin authenticates callers by. -/
def Client.authorizedContact (c : Client) (context : String) (r : ContactRequest) :
    Conversation (Except ContactError Outcome) :=
  (c.authorize r).bind (Conversation.onSuccess (c.contactWithRetry context))

/-- How an authorised contact is carried out, with its result. -/
inductive AuthorizedConduct (c : Client) (context : String) (r : ContactRequest)
    (kept? : Option String) : List Event → Except ContactError Outcome → Prop
  /-- There is no token to give to the request. -/
  | unavailable (session : List Event) (h : Authorization c r kept? session none) :
    AuthorizedConduct c context r kept? session (.error (.sessionUnavailable r.plugin.id))
  /-- The request is carried out. -/
  | conducted (session : List Event) (r' : ContactRequest)
      (h : Authorization c r kept? session (some r')) (events : List Event)
      (result : Except ContactError Outcome) (hconduct : Conduct c context r' events result) :
    AuthorizedConduct c context r kept? (session ++ events) result

/-- What an authorisation comes to for the caller. -/
def Authorization.result (r : ContactRequest) :
    Option ContactRequest → Except ContactError ContactRequest
  | some r' => .ok r'
  | none => .error (.sessionUnavailable r.plugin.id)

/-- An authorisation changes nothing of a request besides its credentials. -/
lemma Authorization.eq_some {c : Client} {r r' : ContactRequest} {kept? : Option String}
    {events : List Event} (h : Authorization c r kept? events (some r')) :
    ∃ token? basic?, r' = { r with token := token?, basic := basic? } := by
  cases h with
  | credentials hbasic => exact ⟨r.token, some r.plugin.credentials, rfl⟩
  | token htoken events token hsession => exact ⟨some token, r.basic, rfl⟩

/-- The token that is kept, or that of a login. -/
def Client.keptOrLogin (c : Client) (plugin : Plugin) : Option String → Conversation (Option String)
  | some token => .done (some token)
  | none => c.login plugin

/-- A token is looked up, and behind it there is a login if none is kept. -/
lemma getToken_eq (c : Client) (plugin : Plugin) :
    c.getToken plugin = .ask (.recallToken plugin.id) (c.keptOrLogin plugin) := by
  simp only [Client.getToken, Conversation.recallToken, Program.perform, Program.bind_eq,
    Program.bind]
  refine congrArg _ (funext fun token? => ?_)
  cases token? with
  | none => simp only [Client.keptOrLogin]
  | some token => simp only [Client.keptOrLogin, Program.pure_eq]

/-- Carry out a request with a token, if there is one. -/
def Client.contactWithToken (c : Client) (context : String) (r : ContactRequest) :
    Option String → Conversation (Except ContactError Outcome)
  | some token => c.contactWithRetry context { r with token := some token }
  | none => .done (.error (.sessionUnavailable r.plugin.id))

/-- An authorised contact with a plugin that takes tokens is made with the token that is found. -/
lemma authorizedContact_of_token (c : Client) (context : String) {r : ContactRequest}
    (htoken : r.plugin.auth = .token) :
    c.authorizedContact context r =
      (c.getToken r.plugin).bind (c.contactWithToken context r) := by
  simp only [Client.authorizedContact, Client.authorize, usesToken_eq_true_iff.mpr htoken, if_true,
    Program.bind_eq, Program.pure_eq, Program.bind_bind]
  refine congrArg _ (funext fun token? => ?_)
  cases token? with
  | none => simp only [Program.bind, Conversation.onSuccess, Client.contactWithToken]
  | some token => simp only [Program.bind, Conversation.onSuccess, Client.contactWithToken]

/-- An authorised contact with a plugin that takes no tokens is made with its user's name. -/
lemma authorizedContact_of_basic (c : Client) (context : String) {r : ContactRequest}
    (htoken : r.plugin.auth ≠ .token) :
    c.authorizedContact context r =
      c.contactWithRetry context { r with basic := some r.plugin.credentials } := by
  have hbasic : r.plugin.usesToken = false := by
    simpa [← usesToken_eq_true_iff] using htoken
  simp only [Client.authorizedContact, Client.authorize, hbasic, Bool.false_eq_true, if_false,
    Program.pure_eq, Program.bind, Conversation.onSuccess]

variable {σ : Type} (handle : (a : Action) → σ → a.Answer × σ)

/-- A token is found as a session is. -/
lemma getToken_session (c : Client) (plugin : Plugin) (s : σ) :
    Session c plugin (handle (.recallToken plugin.id) s).1 ((c.getToken plugin).history handle s)
      ((c.getToken plugin).run handle s).1 := by
  simp only [getToken_eq, Program.history, Program.run]
  obtain ⟨token?, s'⟩ := handle (.recallToken plugin.id) s
  cases token? with
  | some token => exact .kept token
  | none =>
    simp only [Client.keptOrLogin]
    exact .opened _ _ (login_login handle c plugin s')

/-- A request is authorised as an authorisation is. -/
lemma authorize_authorization (c : Client) (r : ContactRequest) (s : σ) :
    ∃ r'?, Authorization c r (handle (.recallToken r.plugin.id) s).1
        ((c.authorize r).history handle s) r'? ∧
      ((c.authorize r).run handle s).1 = Authorization.result r r'? := by
  unfold Client.authorize
  by_cases htoken : r.plugin.auth = .token
  · have hsession := getToken_session handle c r.plugin s
    simp only [usesToken_eq_true_iff.mpr htoken, if_true, Program.bind_eq, Program.history_bind,
      Program.run_bind]
    cases hfound : ((c.getToken r.plugin).run handle s).1 with
    | some token =>
      rw [hfound] at hsession
      exact ⟨some { r with token := some token },
        by simpa using Authorization.token htoken _ token hsession, rfl⟩
    | none =>
      rw [hfound] at hsession
      exact ⟨none, by simpa using Authorization.refused htoken _ hsession, rfl⟩
  · have hbasic : r.plugin.usesToken = false := by
      simpa [← usesToken_eq_true_iff] using htoken
    simp only [hbasic, Bool.false_eq_true, if_false]
    exact ⟨_, .credentials htoken, rfl⟩

/-- Whatever the surroundings answer, an authorised contact is an authorisation and, if there are
credentials, the conduct of the request with these. -/
theorem authorizedContact_conduct (c : Client) (context : String) (r : ContactRequest) (s : σ) :
    AuthorizedConduct c context r (handle (.recallToken r.plugin.id) s).1
      ((c.authorizedContact context r).history handle s)
      ((c.authorizedContact context r).run handle s).1 := by
  obtain ⟨r'?, hauthorization, hresult⟩ := authorize_authorization handle c r s
  simp only [Client.authorizedContact, Program.history_bind, Program.run_bind, hresult]
  cases r'? with
  | none =>
    simpa [Authorization.result, Conversation.onSuccess] using
      AuthorizedConduct.unavailable _ hauthorization
  | some r' =>
    obtain ⟨events, result, s', hhistory, hrun, hconduct⟩ :=
      exists_conduct handle c context r' ((c.authorize r).run handle s).2
    simp only [Authorization.result, Conversation.onSuccess, hhistory, hrun]
    exact .conducted _ r' hauthorization events result hconduct

/-- The document of an authorised contact may as well be put in after the authorisation. -/
lemma authorizedContact_body (c : Client) (context : String) (r : ContactRequest)
    (body : Option Json) :
    c.authorizedContact context { r with body } = (c.authorize r).bind
      (Conversation.onSuccess fun r' => c.contactWithRetry context { r' with body }) := by
  unfold Client.authorizedContact Client.authorize
  simp only [Program.bind_eq, Program.pure_eq]
  cases r.plugin.usesToken with
  | false => simp only [Bool.false_eq_true, if_false, Program.bind, Conversation.onSuccess]
  | true =>
    simp only [if_true, Program.bind_bind]
    refine congrArg _ (funext fun token? => ?_)
    cases token? <;> simp only [Program.bind, Conversation.onSuccess]

end PluginGateway
