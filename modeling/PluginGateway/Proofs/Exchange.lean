import PluginGateway.Contact.Rehearsal
import PluginGateway.Contact.Session
import PluginGateway.Proofs.History

/-!
# Exchanges, phases and the one repetition after a login

What a contact does is described here without its program. An `Exchange` is one call sent once, or
twice if the first sending met silence and the plugin was found alive. A `Phase` is the exchange for
one endpoint, or nothing at all if the endpoint is no URL. A `Conduct` puts phases together: that of
the request; behind a refused token that of a login; and behind a login that brought a token that of
the request with the new token.

The main statement, `contactWithRetry_conduct`, says that whatever the surroundings answer, a
request is carried out as a `Conduct` says, with no action besides.
-/

namespace PluginGateway

/-- An action of a conversation with the answer that it got. -/
abbrev Event : Type := Program.Event Action Action.Answer

namespace Event

/-- A call was sent. -/
def sent (plugin : Plugin) (call : Call) (answer : Except SendFailure Response) : Event :=
  ⟨.send plugin call, answer⟩

/-- The plugin's health was asked for. -/
def checked (plugin : Plugin) (alive : Bool) : Event := ⟨.checkHealth plugin, alive⟩

/-- A session token was kept. -/
def stored (pluginId token : String) : Event := ⟨.storeToken pluginId token, ()⟩

end Event

/-! ## Tokens in responses -/

/-- A character of a token fits a header: it is visible, a space or a tab. -/
def IsTokenByte (b : UInt8) : Prop := b = 9 ∨ (32 ≤ b ∧ b < 127)

/-- The first header for a session token, in letters of any case, has the token as its value, and
the value is usable: it is not empty and all its bytes are visible characters, spaces or tabs. -/
def Response.Carries (r : Response) (token : String) : Prop :=
  ∃ earlier name value later,
    r.headers = earlier ++ (name, value) :: later ∧
      (∀ h ∈ earlier, Text.sameIgnoringCase h.1.toList authTokenHeader.toList = false) ∧
      Text.sameIgnoringCase name.toList authTokenHeader.toList = true ∧
      value.isEmpty = false ∧ (∀ b ∈ value.data.toList, IsTokenByte b) ∧
      token = String.ofList (value.data.toList.map fun b => Char.ofNat b.toNat)

/-- A response hands out the token that it carries and no other. -/
lemma Response.authToken?_eq_some_iff {r : Response} {token : String} :
    r.authToken? = some token ↔ r.Carries token := by
  have hvisible (value : ByteArray) :
      value.data.toList.all Response.isVisible = true ↔ ∀ b ∈ value.data.toList, IsTokenByte b := by
    rw [List.all_eq_true]
    simp only [Response.isVisible, IsTokenByte, Bool.or_eq_true, Bool.and_eq_true, beq_iff_eq,
      decide_eq_true_eq]
  constructor
  · intro h
    unfold Response.authToken? Response.header? at h
    split at h
    · next value hvalue =>
      obtain ⟨⟨name, value'⟩, hfind, rfl⟩ := Option.map_eq_some_iff.mp hvalue
      obtain ⟨hname, earlier, later, hheaders, hearlier⟩ :=
        List.find?_eq_some_iff_append.mp hfind
      split at h
      · next husable =>
        simp only [Bool.and_eq_true, Bool.not_eq_true'] at husable
        exact ⟨earlier, name, value', later, hheaders,
          fun h hh => by simpa using hearlier h hh, hname, husable.1,
          (hvisible value').mp husable.2, (Option.some.inj h).symm⟩
      · simp at h
    · simp at h
  · rintro ⟨earlier, name, value, later, hheaders, hearlier, hname, hempty, hbytes, rfl⟩
    have hfind : r.headers.find?
        (fun h => Text.sameIgnoringCase h.1.toList authTokenHeader.toList) = some (name, value) :=
      List.find?_eq_some_iff_append.mpr
        ⟨hname, earlier, later, hheaders, fun h hh => by simp [hearlier h hh]⟩
    unfold Response.authToken? Response.header?
    rw [hfind]
    simp [hempty, (hvisible value).mpr hbytes]

/-- A result that is no error. -/
lemma exists_ok_of_isOk {ε : Type} {x : Except ε α} (h : x.isOk = true) : ∃ a, x = .ok a := by
  cases x with
  | ok a => exact ⟨a, rfl⟩
  | error e => cases h

/-! ## One exchange -/

/-- The events of one call and the answer they end in. The call is sent again exactly if the first
sending met silence and the health check that then follows finds the plugin alive. -/
inductive Exchange (plugin : Plugin) (call : Call) :
    List Event → Except SendFailure Response → Prop
  /-- A response came. -/
  | answered (response : Response) :
    Exchange plugin call [.sent plugin call (.ok response)] (.ok response)
  /-- The response broke off. -/
  | broken (failure : SendFailure) (hsound : failure.isSilence = false) :
    Exchange plugin call [.sent plugin call (.error failure)] (.error failure)
  /-- Silence, and the plugin is not alive. -/
  | abandoned (failure : SendFailure) (hsilence : failure.isSilence = true) :
    Exchange plugin call [.sent plugin call (.error failure), .checked plugin false]
      (.error failure)
  /-- Silence, and the plugin is alive. -/
  | resent (failure : SendFailure) (hsilence : failure.isSilence = true)
      (answer : Except SendFailure Response) :
    Exchange plugin call
      [.sent plugin call (.error failure), .checked plugin true, .sent plugin call answer] answer

/-- How a phase ended: without a call because its endpoint is no URL, or in the answer of its
exchange. -/
inductive Ending where
  /-- Nothing was sent. -/
  | unsent (fault : Url.Fault)
  /-- The exchange ended so. -/
  | answered (answer : Except SendFailure Response)

namespace Ending

/-- The phase ended in a response with a property. -/
def InResponse (P : Response → Prop) (e : Ending) : Prop :=
  ∃ response, e = answered (.ok response) ∧ P response

/-- The plugin answered that the caller is not authorised. -/
def Refused : Ending → Prop := InResponse fun response => response.status = 401

/-- The plugin answered with success and a usable token. -/
def Issued (token : String) : Ending → Prop :=
  InResponse fun response =>
    (response.status = 200 ∨ response.status = 201) ∧ response.Carries token

/-- What the phase amounts to for the caller: the body of a success in the aggregator's form, and
otherwise a failure in the context of what was being done. -/
def result (c : Client) (context : String) : Ending → Except ContactError Outcome
  | unsent fault => .error (.invalidUrl fault)
  | answered (.error failure) => .error (.ofSendFailure context failure)
  | answered (.ok response) =>
    if response.status = 200 ∨ response.status = 201 then
      .ok ⟨c.conversion.northBody response.body, response.authToken?, response.status⟩
    else .error (.rejected context response.status response.body)

end Ending

/-- The events and the ending of one phase: the exchange of the call drafted for the endpoint of a
path, or nothing if that endpoint is no URL. -/
inductive Phase (scheme : String) (plugin : Plugin) (path : String) (draft : Url → Call) :
    List Event → Ending → Prop
  /-- The endpoint is no URL. -/
  | unsent (fault : Url.Fault) (hurl : endpoint scheme plugin path = .error fault) :
    Phase scheme plugin path draft [] (.unsent fault)
  /-- The call was sent. -/
  | exchanged (url : Url) (hurl : endpoint scheme plugin path = .ok url) (events : List Event)
      (answer : Except SendFailure Response) (h : Exchange plugin (draft url) events answer) :
    Phase scheme plugin path draft events (.answered answer)

/-- The call of a request at an endpoint: its method, path and body, with the token for a plugin
that expects one and with the credentials for any other. -/
def requestCall (c : Client) (r : ContactRequest) (url : Url) : Call where
  method := r.method
  url := url
  path := c.southPath r.resource
  token := if r.plugin.auth = .token then r.token else none
  basic := if r.plugin.auth = .token then none else r.basic
  body := r.body

/-- The phase of a request. -/
def RequestPhase (c : Client) (r : ContactRequest) : List Event → Ending → Prop :=
  Phase c.scheme r.plugin (c.southPath r.resource) (requestCall c r)

/-- The call of a login at an endpoint: the plugin's own user name and password are posted, with
neither token nor credentials beside them. -/
def loginCall (c : Client) (plugin : Plugin) (url : Url) : Call where
  method := .post
  url := url
  path := c.southPath "/ODIM/v1/Sessions"
  token := none
  basic := none
  body := some (.object
    [("Username", .string plugin.username), ("Password", .string plugin.password)])

/-- The phase of a login. -/
def LoginPhase (c : Client) (plugin : Plugin) : List Event → Ending → Prop :=
  Phase c.scheme plugin (c.southPath "/ODIM/v1/Sessions") (loginCall c plugin)

/-- The call with which a request is repeated: as before, but with the token of a login. -/
def repeatedCall (c : Client) (r : ContactRequest) (token : String) (url : Url) : Call where
  method := r.method
  url := url
  path := c.southPath r.resource
  token := some token
  basic := none
  body := r.body

/-- The events of a login and the token that it brings: its phase, and behind a success with a
usable token that this token is kept. -/
inductive Login (c : Client) (plugin : Plugin) : List Event → Option String → Prop
  /-- The plugin issued a token. -/
  | issued (events : List Event) (ending : Ending) (h : LoginPhase c plugin events ending)
      (token : String) (hissued : ending.Issued token) :
    Login c plugin (events ++ [.stored plugin.id token]) (some token)
  /-- The plugin issued none. -/
  | failed (events : List Event) (ending : Ending) (h : LoginPhase c plugin events ending)
      (hnone : ∀ token, ¬ending.Issued token) :
    Login c plugin events none

/-- How a request is carried out, with its result. -/
inductive Conduct (c : Client) (context : String) (r : ContactRequest) :
    List Event → Except ContactError Outcome → Prop
  /-- The request was not refused, or the plugin knows no tokens: one phase is all. -/
  | single (events : List Event) (ending : Ending) (hfirst : RequestPhase c r events ending)
      (hstands : ¬(ending.Refused ∧ r.plugin.auth = .token)) :
    Conduct c context r events (ending.result c context)
  /-- The token was refused and the login brought no other. -/
  | lockedOut (first login : List Event) (refusal : Ending)
      (hfirst : RequestPhase c r first refusal) (hrefused : refusal.Refused)
      (htoken : r.plugin.auth = .token) (hlogin : Login c r.plugin login none) :
    Conduct c context r (first ++ login) (.error (.sessionUnavailable r.plugin.id))
  /-- The token was refused and the login brought another one, with which the request is repeated.
  Whatever this ends in stands. -/
  | repeated (first login second : List Event) (refusal ending : Ending) (token : String)
      (hfirst : RequestPhase c r first refusal) (hrefused : refusal.Refused)
      (htoken : r.plugin.auth = .token) (hlogin : Login c r.plugin login (some token))
      (hsecond : Phase c.scheme r.plugin (c.southPath r.resource) (repeatedCall c r token)
        second ending) :
    Conduct c context r (first ++ login ++ second) (ending.result c context)

/-! ## The events of exchanges -/

/-- The event belongs to an exchange with a plugin: a call with a property was sent, or the plugin's
health was asked for. -/
inductive Event.OfExchange (plugin : Plugin) (P : Call → Prop) : Event → Prop
  /-- A call was sent. -/
  | sent (call : Call) (h : P call) (answer : Except SendFailure Response) :
    OfExchange plugin P (.sent plugin call answer)
  /-- The plugin's health was asked for. -/
  | checked (alive : Bool) : OfExchange plugin P (.checked plugin alive)

/-- Less said of the calls. -/
lemma Event.OfExchange.mono {plugin : Plugin} {P Q : Call → Prop} {event : Event}
    (h : event.OfExchange plugin P) (hcall : ∀ call, P call → Q call) :
    event.OfExchange plugin Q := by
  cases h with
  | sent call h answer => exact .sent call (hcall call h) answer
  | checked alive => exact .checked alive

/-- The events of an exchange belong to it. -/
lemma Exchange.forall_events {plugin : Plugin} {call : Call} {events : List Event}
    {answer : Except SendFailure Response} {P : Call → Prop}
    (h : Exchange plugin call events answer) (hcall : P call) :
    ∀ event ∈ events, event.OfExchange plugin P := by
  have hsent (answer : Except SendFailure Response) :
      (Event.sent plugin call answer).OfExchange plugin P := .sent call hcall answer
  have hchecked (alive : Bool) : (Event.checked plugin alive).OfExchange plugin P := .checked alive
  cases h with
  | answered response => simpa using hsent _
  | broken failure hsound => simpa using hsent _
  | abandoned failure hsilence => simpa using ⟨hsent _, hchecked false⟩
  | resent failure hsilence answer => simpa using ⟨hsent _, hchecked true, hsent _⟩

/-- The events of a phase belong to exchanges of the call that is drafted for its endpoint. -/
lemma Phase.forall_events {scheme : String} {plugin : Plugin} {path : String} {draft : Url → Call}
    {events : List Event} {ending : Ending} {P : Call → Prop}
    (h : Phase scheme plugin path draft events ending)
    (hdraft : ∀ url, endpoint scheme plugin path = .ok url → P (draft url)) :
    ∀ event ∈ events, event.OfExchange plugin P := by
  cases h with
  | unsent fault hurl => exact List.forall_mem_nil _
  | exchanged url hurl events answer hexchange => exact hexchange.forall_events (hdraft url hurl)

/-- A phase that ends in a response has it as the answer to its last call. -/
lemma Phase.getLast?_events {scheme : String} {plugin : Plugin} {path : String}
    {draft : Url → Call} {events : List Event} {response : Response}
    (h : Phase scheme plugin path draft events (.answered (.ok response))) :
    ∃ url, events.getLast? = some (.sent plugin (draft url) (.ok response)) := by
  cases h with
  | exchanged url hurl events answer hexchange =>
    refine ⟨url, ?_⟩
    cases hexchange <;> rfl

/-! ## The program conducts requests so -/

variable {σ : Type} (handle : (a : Action) → σ → a.Answer × σ)

/-- A guarded sending is one exchange. -/
lemma sendGuarded_exchange (plugin : Plugin) (call : Call) (s : σ) :
    Exchange plugin call ((Client.sendGuarded plugin call).history handle s)
      ((Client.sendGuarded plugin call).run handle s).1 := by
  simp only [Client.sendGuarded, Conversation.send, Program.bind_eq, Program.history_bind,
    Program.run_bind, Program.history_perform, Program.run_perform]
  obtain ⟨answer, s'⟩ := handle (.send plugin call) s
  cases answer with
  | ok response => exact .answered response
  | error failure =>
    cases hsilence : failure.isSilence with
    | false =>
      simp only [hsilence, Bool.false_eq_true, if_false]
      exact .broken failure hsilence
    | true =>
      simp only [hsilence, if_true, Conversation.checkHealth, Program.history_bind,
        Program.run_bind, Program.history_perform, Program.run_perform]
      rcases Bool.eq_false_or_eq_true (handle (.checkHealth plugin) s').1 with halive | halive
      · simp only [halive, if_true]
        exact .resent failure hsilence _
      · simp only [halive, Bool.false_eq_true, if_false]
        exact .abandoned failure hsilence

/-- What an exchange amounts to is what its ending amounts to. -/
lemma concluded_eq_result (c : Client) (context : String)
    (answer : Except SendFailure Response) :
    c.concluded context answer = (Ending.answered answer).result c context := by
  cases answer with
  | error failure => rfl
  | ok response =>
    have hsuccess : response.isSuccess = true ↔ response.status = 200 ∨ response.status = 201 := by
      simp [Response.isSuccess]
    simp only [Client.concluded, Ending.result, hsuccess]

/-- A plugin uses tokens exactly if that is its scheme. -/
lemma usesToken_eq_true_iff {p : Plugin} : p.usesToken = true ↔ p.auth = .token := by
  simp [Plugin.usesToken]

/-- The call of a request is the one drafted for its endpoint. -/
lemma call_eq (c : Client) (r : ContactRequest) :
    c.call r = (endpoint c.scheme r.plugin (c.southPath r.resource)).map (requestCall c r) := by
  unfold Client.call
  cases endpoint c.scheme r.plugin (c.southPath r.resource) with
  | error fault => rfl
  | ok url => simp only [Except.map, requestCall, usesToken_eq_true_iff]

/-- A contact at an endpoint that is no URL fails. -/
lemma contact_of_error {c : Client} {r : ContactRequest} {fault : Url.Fault}
    (hurl : endpoint c.scheme r.plugin (c.southPath r.resource) = .error fault)
    (context : String) : c.contact context r = .done (.error (.invalidUrl fault)) := by
  rw [Client.contact, call_eq, hurl]
  rfl

/-- A contact at an endpoint that is a URL is a guarded sending. -/
lemma contact_of_ok {c : Client} {r : ContactRequest} {url : Url}
    (hurl : endpoint c.scheme r.plugin (c.southPath r.resource) = .ok url) (context : String) :
    c.contact context r = (Client.sendGuarded r.plugin (requestCall c r url)).bind fun answer =>
      .done (c.concluded context answer) := by
  rw [Client.contact, call_eq, hurl]
  rfl

/-- A contact is one phase. -/
lemma contact_phase (c : Client) (context : String) (r : ContactRequest) (s : σ) :
    ∃ ending, RequestPhase c r ((c.contact context r).history handle s) ending ∧
      ((c.contact context r).run handle s).1 = ending.result c context := by
  cases hurl : endpoint c.scheme r.plugin (c.southPath r.resource) with
  | error fault =>
    rw [contact_of_error hurl]
    exact ⟨.unsent fault, .unsent fault hurl, rfl⟩
  | ok url =>
    have hexchange := sendGuarded_exchange handle r.plugin (requestCall c r url) s
    rw [contact_of_ok hurl]
    refine ⟨.answered ((Client.sendGuarded r.plugin (requestCall c r url)).run handle s).1, ?_, ?_⟩
    · simpa [RequestPhase] using Phase.exchanged url hurl _ _ hexchange
    · simpa using concluded_eq_result c context _

/-- The call of the request of a login is that of the login. -/
lemma requestCall_loginRequest (c : Client) (plugin : Plugin) :
    requestCall c (Client.loginRequest plugin) = loginCall c plugin := by
  funext url
  by_cases htoken : plugin.auth = .token
  · simp [requestCall, loginCall, Client.loginRequest, loginPath, htoken]
  · simp [requestCall, loginCall, Client.loginRequest, loginPath, htoken]

/-- The phase of the request of a login is that of the login. -/
lemma requestPhase_loginRequest (c : Client) (plugin : Plugin) :
    RequestPhase c (Client.loginRequest plugin) = LoginPhase c plugin := by
  simp only [RequestPhase, LoginPhase, requestCall_loginRequest]
  rfl

/-- The phase of a request with a token, at a plugin that expects one. -/
lemma requestPhase_token (c : Client) {r : ContactRequest} (htoken : r.plugin.auth = .token)
    (token : String) :
    RequestPhase c { r with token := some token } =
      Phase c.scheme r.plugin (c.southPath r.resource) (repeatedCall c r token) := by
  have hdraft : requestCall c { r with token := some token } = repeatedCall c r token := by
    funext url
    simp [requestCall, repeatedCall, htoken]
  simp only [RequestPhase, hdraft]

/-- What a phase amounts to holds the token that it issued, if it issued one. -/
lemma issuedToken?_result {c : Client} {context : String} {ending : Ending} {token : String} :
    Client.issuedToken? (ending.result c context) = some token ↔ ending.Issued token := by
  cases ending with
  | unsent fault => simp [Ending.result, Client.issuedToken?, Ending.Issued, Ending.InResponse]
  | answered answer =>
    cases answer with
    | error failure =>
      simp [Ending.result, Client.issuedToken?, Ending.Issued, Ending.InResponse]
    | ok response =>
      by_cases hsuccess : response.status = 200 ∨ response.status = 201
      · simp [Ending.result, Client.issuedToken?, Ending.Issued, Ending.InResponse, hsuccess,
          Response.authToken?_eq_some_iff]
      · simp [Ending.result, Client.issuedToken?, Ending.Issued, Ending.InResponse, hsuccess]

/-- A phase is refused exactly if it amounts to a failure that says so. -/
lemma refused_iff_result (c : Client) (context : String) (ending : Ending) :
    ending.Refused ↔
      ∃ failure, ending.result c context = .error failure ∧ failure.isUnauthorized = true := by
  cases ending with
  | unsent fault =>
    simp [Ending.result, Ending.Refused, Ending.InResponse, ContactError.isUnauthorized]
  | answered answer =>
    cases answer with
    | error failure =>
      simp [Ending.result, Ending.Refused, Ending.InResponse,
        ContactError.isUnauthorized_ofSendFailure]
    | ok response =>
      by_cases hsuccess : response.status = 200 ∨ response.status = 201
      · have hother : response.status ≠ 401 := by omega
        simp [Ending.result, Ending.Refused, Ending.InResponse, hsuccess, hother]
      · simp [Ending.result, Ending.Refused, Ending.InResponse, hsuccess,
          ContactError.isUnauthorized]

/-- A login is a phase, behind which the token that it brought is kept. -/
lemma login_login (c : Client) (plugin : Plugin) (s : σ) :
    Login c plugin ((c.login plugin).history handle s) ((c.login plugin).run handle s).1 := by
  obtain ⟨ending, hphase, hresult⟩ :=
    contact_phase handle c loginContext (Client.loginRequest plugin) s
  rw [requestPhase_loginRequest] at hphase
  simp only [Client.login, Program.bind_eq, Program.history_bind, Program.run_bind, hresult]
  cases htoken : Client.issuedToken? (ending.result c loginContext) with
  | some token =>
    exact .issued _ ending hphase token (issuedToken?_result.mp htoken)
  | none =>
    have hnone : ∀ token, ¬ending.Issued token := fun token h =>
      Option.some_ne_none token ((issuedToken?_result.mpr h).symm.trans htoken)
    simpa using Login.failed _ ending hphase hnone

/-- A failure that is no refusal of a token stands. -/
lemma retryAfterReauth_of_not (c : Client) (context : String) {r : ContactRequest}
    {failure : ContactError}
    (h : ¬(failure.isUnauthorized = true ∧ r.plugin.auth = .token)) :
    c.retryAfterReauth context r failure = .done (.error failure) := by
  have hskip : (!failure.isUnauthorized || !r.plugin.usesToken) = true := by
    rw [← usesToken_eq_true_iff, not_and_or] at h
    simpa using h
  simp only [Client.retryAfterReauth, hskip, if_true, Program.pure_eq]

/-- Behind a refused token a login follows, and behind a login that brings a token the request. -/
lemma retryAfterReauth_of_refused (c : Client) (context : String) {r : ContactRequest}
    {failure : ContactError} (hrefused : failure.isUnauthorized = true)
    (htoken : r.plugin.auth = .token) :
    c.retryAfterReauth context r failure = (c.login r.plugin).bind fun
      | some token => c.contact context { r with token := some token }
      | none => .done (.error (.sessionUnavailable r.plugin.id)) := by
  simp only [Client.retryAfterReauth, hrefused, usesToken_eq_true_iff.mpr htoken, Bool.not_true,
    Bool.or_false, Bool.false_eq_true, if_false, Program.bind_eq]
  refine congrArg _ (funext fun token? => ?_)
  cases token? <;> rfl

/-- A request that is carried out, with its events, its result and the state that is left. -/
lemma exists_conduct {σ : Type} (handle : (a : Action) → σ → a.Answer × σ) (c : Client)
    (context : String) (r : ContactRequest) (s : σ) :
    ∃ events result s', (c.contactWithRetry context r).history handle s = events ∧
      (c.contactWithRetry context r).run handle s = (result, s') ∧
        Conduct c context r events result := by
  suffices h : Conduct c context r ((c.contactWithRetry context r).history handle s)
      ((c.contactWithRetry context r).run handle s).1 from ⟨_, _, _, rfl, rfl, h⟩
  obtain ⟨ending, hphase, hresult⟩ := contact_phase handle c context r s
  have hrefused := refused_iff_result c context ending
  simp only [Client.contactWithRetry, Program.bind_eq, Program.history_bind, Program.run_bind,
    hresult]
  cases houtcome : ending.result c context with
  | ok outcome =>
    have hstands : ¬(ending.Refused ∧ r.plugin.auth = .token) := by
      rintro ⟨h, -⟩
      obtain ⟨failure, hfailure, -⟩ := hrefused.mp h
      rw [houtcome] at hfailure
      cases hfailure
    have hsingle : Conduct c context r _ _ := .single _ ending hphase hstands
    rw [houtcome] at hsingle
    simpa using hsingle
  | error failure =>
    have hrefused' : ending.Refused ↔ failure.isUnauthorized = true := by
      simp [hrefused, houtcome]
    by_cases hretry : ending.Refused ∧ r.plugin.auth = .token
    · have hlogin := login_login handle c r.plugin
        ((c.contact context r).run handle s).2
      dsimp only
      rw [retryAfterReauth_of_refused c context (hrefused'.mp hretry.1) hretry.2,
        Program.history_bind, Program.run_bind]
      cases htoken : ((c.login r.plugin).run handle ((c.contact context r).run handle s).2).1 with
      | none =>
        rw [htoken] at hlogin
        simpa using Conduct.lockedOut _ _ ending hphase hretry.1 hretry.2 hlogin
      | some token =>
        rw [htoken] at hlogin
        obtain ⟨last, hsecond, hlast⟩ := contact_phase handle c context
          { r with token := some token }
          ((c.login r.plugin).run handle ((c.contact context r).run handle s).2).2
        rw [requestPhase_token c hretry.2] at hsecond
        rw [← List.append_assoc, hlast]
        exact .repeated _ _ _ ending last token hphase hretry.1 hretry.2 hlogin hsecond
    · have hsingle : Conduct c context r _ _ := .single _ ending hphase hretry
      rw [houtcome] at hsingle
      rw [hrefused'] at hretry
      dsimp only
      rw [retryAfterReauth_of_not c context hretry]
      simpa using hsingle

/-- Whatever the surroundings answer, a request is carried out in at most three phases: its own;
behind a refused token that of a login; and behind a login that brought a token its own once more.
-/
theorem contactWithRetry_conduct {σ : Type} (handle : (a : Action) → σ → a.Answer × σ)
    (c : Client) (context : String) (r : ContactRequest) (s : σ) :
    Conduct c context r ((c.contactWithRetry context r).history handle s)
      ((c.contactWithRetry context r).run handle s).1 := by
  obtain ⟨events, result, s', hhistory, hrun, hconduct⟩ := exists_conduct handle c context r s
  rw [hhistory, hrun]
  exact hconduct

/-- A network where the token `t1` has expired: the plugin refuses it, issues the token `t2`, and
answers the request that carries this one. -/
def expiredToken : Rehearsal where
  replies := [⟨.respond ⟨401, [], ByteArray.empty⟩, 0⟩,
    ⟨.respond ⟨201, [("X-Auth-Token", "t2".toUTF8)], ByteArray.empty⟩, 0⟩,
    ⟨.respond ⟨200, [], ByteArray.empty⟩, 0⟩]
  health := []
  tokens := [("GRF", "t1")]
  calls := []
  waited := 0
  checks := 0

/-- The result of a request on that network, and what it leaves there. -/
def renewedRequest : Except ContactError Outcome × Rehearsal :=
  ((Client.mk "https" .standard).contactWithRetry "get: "
    { plugin := ⟨"GRF", "10.0.0.5", 45001, "admin", "secret", .token⟩
      method := .get
      resource := "/redfish/v1/Systems"
      token := some "t1" }).run Rehearsal.handle expiredToken

-- all three phases: the request, the login, and the request once more
example : (renewedRequest.2.calls.map fun call => (call.2.method, call.2.path, call.2.token)) =
      [(.get, "/ODIM/v1/Systems", some "t1"), (.post, "/ODIM/v1/Sessions", none),
        (.get, "/ODIM/v1/Systems", some "t2")] ∧
    renewedRequest.2.tokens = [("GRF", "t2")] ∧
    renewedRequest.1.toOption.map Outcome.status = some 200 := by
  decide +kernel

end PluginGateway
