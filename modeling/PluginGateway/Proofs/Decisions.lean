import PluginGateway.Command.Report
import PluginGateway.Proofs.Authorization

/-!
# What decides how a command ends

A command that contacts a plugin makes several calls, and one thing among all that is answered
decides how the command ends. `Decided` says for an authorised contact what that is: the answer to
the request itself, unless this refuses a token; the answer to its repetition behind a login; or a
login that brings no token. `Decision.Reported` says what a process has to report then.

The main statements are that every authorised contact is decided and the decision is what its
outcome comes to on the command line (`AuthorizedConduct.exists_decided`), and that nothing else can
be read off the same events (`Decided.unique`).
-/

namespace PluginGateway

/-- What decides how a command ends. -/
inductive Decision where
  /-- Its operation succeeded, and this is to be printed. -/
  | success (output : String)
  /-- No session could be created with a plugin. -/
  | noSession (pluginId : String)
  /-- The probe, asked for the status of a plugin, found it down. -/
  | down (pluginId : String)
  /-- A plugin answered with a status other than 200 and 201. -/
  | refused (response : Response)
  /-- Anything else stood in the way, also that a plugin was not reached for a contact. -/
  | hindered

/-- The text lays out the body of an answer as it came: on lines if its bytes are a JSON document,
and as a JSON string of its text otherwise. -/
structure LaysOut (body : ByteArray) (text : String) : Prop where
  /-- A document is written on lines. -/
  document : ∀ v, Json.parseBytes body = .ok v → text = v.pretty
  /-- Anything else is written as a string. -/
  other : ∀ e, Json.parseBytes body = .error e → text = (Json.string (Text.lossy body)).pretty

/-- What a process reports behind a decision. -/
inductive Decision.Reported : Decision → Report → Prop
  /-- A success is printed. -/
  | success (output : String) : Reported (.success output) ⟨output, none⟩
  /-- There is no session. -/
  | noSession (pluginId : String) :
    Reported (.noSession pluginId) ⟨"", some (.sessionUnavailable pluginId)⟩
  /-- The plugin is down. -/
  | down (pluginId : String) : Reported (.down pluginId) ⟨"", some (.pluginDown pluginId)⟩
  /-- The plugin's own status and body are reported. -/
  | refused (response : Response) (message body : String) (hbody : LaysOut response.body body) :
    Reported (.refused response) ⟨"", some (.plugin response.status message body)⟩
  /-- Something else is reported. -/
  | hindered (e : CommandError) (hcode : e.exitCode = 1) : Reported .hindered ⟨"", some e⟩

/-- What the ending of a request decides: a response with the status 200 or 201 is a success, and
its body in the aggregator's form is shown; any other response is a refusal. -/
def Ending.decision (c : Client) (shown : ByteArray → String) : Ending → Decision
  | answered (.ok response) =>
    if response.status = 200 ∨ response.status = 201 then
      .success (shown (c.conversion.northBody response.body))
    else .refused response
  | answered (.error _) => .hindered
  | unsent _ => .hindered

/-- The events of a request that is carried out, and what decides how it ends. -/
inductive RequestDecided (c : Client) (r : ContactRequest) (shown : ByteArray → String) :
    List Event → Decision → Prop
  /-- The request is not refused, or the plugin knows no tokens: what it ends in stands. -/
  | stands (first : List Event) (ending : Ending) (hfirst : RequestPhase c r first ending)
      (hstands : ¬(ending.Refused ∧ r.plugin.auth = .token)) :
    RequestDecided c r shown first (ending.decision c shown)
  /-- The token is refused, and a login brings no other. -/
  | lockedOut (first login : List Event) (refusal : Ending)
      (hfirst : RequestPhase c r first refusal) (hrefused : refusal.Refused)
      (htoken : r.plugin.auth = .token) (hlogin : Login c r.plugin login none) :
    RequestDecided c r shown (first ++ login) (.noSession r.plugin.id)
  /-- The token is refused, and a login brings another one: what the repetition ends in stands, even
  if the new token is refused as well. -/
  | renewed (first login second : List Event) (refusal ending : Ending) (token : String)
      (hfirst : RequestPhase c r first refusal) (hrefused : refusal.Refused)
      (htoken : r.plugin.auth = .token) (hlogin : Login c r.plugin login (some token))
      (hsecond : Phase c.scheme r.plugin (c.southPath r.resource) (repeatedCall c r token)
        second ending) :
    RequestDecided c r shown (first ++ login ++ second) (ending.decision c shown)

/-- The events of an authorised contact, and what decides how it ends. -/
inductive Decided (c : Client) (r : ContactRequest) (shown : ByteArray → String) :
    List Event → Decision → Prop
  /-- There is no token to give to the request. -/
  | unauthorized (kept? : Option String) (session : List Event)
      (h : Authorization c r kept? session none) :
    Decided c r shown session (.noSession r.plugin.id)
  /-- The request is carried out with its credentials. -/
  | carried (kept? : Option String) (session : List Event) (r' : ContactRequest)
      (h : Authorization c r kept? session (some r')) (events : List Event) (decision : Decision)
      (hrequest : RequestDecided c r' shown events decision) :
    Decided c r shown (session ++ events) decision

variable {c : Client} {r : ContactRequest}

/-! ## Authorised contacts are decided -/

/-- A body as a document is laid out as it came. -/
lemma laysOut_documentOf (body : ByteArray) : LaysOut body (FlowError.documentOf body).pretty := by
  unfold FlowError.documentOf
  constructor
  · intro v hv
    rw [hv]
  · intro e he
    rw [he]

/-- What a request ends in is reported as it decides. -/
lemma Ending.decision_reported (context : String) (shown : ByteArray → String) (ending : Ending) :
    (ending.decision c shown).Reported (.ofResult (((ending.result c context).mapError
      CommandError.ofContact).map fun outcome => shown outcome.body)) := by
  cases ending with
  | unsent fault => exact .hindered _ rfl
  | answered answer =>
    cases answer with
    | error failure => cases failure <;> exact .hindered _ rfl
    | ok response =>
      by_cases hsuccess : response.status = 200 ∨ response.status = 201
      · simp only [decision, result, hsuccess, if_true]
        exact .success _
      · simp only [decision, result, hsuccess, if_false]
        exact .refused response _ _ (laysOut_documentOf response.body)

/-- Every request that is carried out is decided, and its outcome is reported as the decision says.
-/
lemma Conduct.exists_decided {context : String} {events : List Event}
    {outcome? : Except ContactError Outcome} (h : Conduct c context r events outcome?)
    (shown : ByteArray → String) :
    ∃ decision, RequestDecided c r shown events decision ∧ decision.Reported (.ofResult
      ((outcome?.mapError CommandError.ofContact).map fun outcome => shown outcome.body)) := by
  cases h with
  | single events ending hfirst hstands =>
    exact ⟨_, .stands events ending hfirst hstands, ending.decision_reported context shown⟩
  | lockedOut first login refusal hfirst hrefused htoken hlogin =>
    exact ⟨_, .lockedOut first login refusal hfirst hrefused htoken hlogin,
      .noSession r.plugin.id⟩
  | repeated first login second refusal ending token hfirst hrefused htoken hlogin hsecond =>
    exact ⟨_, .renewed first login second refusal ending token hfirst hrefused htoken hlogin
      hsecond, ending.decision_reported context shown⟩

/-- Every authorised contact is decided, and its outcome is reported as the decision says. -/
theorem AuthorizedConduct.exists_decided {context : String} {kept? : Option String}
    {events : List Event} {outcome? : Except ContactError Outcome}
    (h : AuthorizedConduct c context r kept? events outcome?) (shown : ByteArray → String) :
    ∃ decision, Decided c r shown events decision ∧ decision.Reported (.ofResult
      ((outcome?.mapError CommandError.ofContact).map fun outcome => shown outcome.body)) := by
  cases h with
  | unavailable session h => exact ⟨_, .unauthorized kept? events h, .noSession r.plugin.id⟩
  | conducted session r' h events result hconduct =>
    obtain ⟨decision, hdecided, hreported⟩ := hconduct.exists_decided shown
    exact ⟨decision, .carried kept? session r' h events decision hdecided, hreported⟩

/-! ## The events leave one decision -/

namespace Event

variable {plugin : Plugin} {call : Call}

/-- A sending with its answer is one event for each answer. -/
lemma sent_inj {answer answer' : Except SendFailure Response} :
    sent plugin call answer = sent plugin call answer' ↔ answer = answer' := by
  constructor
  · intro h
    injection h
  · rintro rfl
    rfl

/-- A question about health is one event for each answer. -/
lemma checked_inj {alive alive' : Bool} :
    checked plugin alive = checked plugin alive' ↔ alive = alive' := by
  constructor
  · intro h
    injection h
  · rintro rfl
    rfl

/-- Looking a token up is one event for each token. -/
lemma recalled_inj {pluginId : String} {token? token?' : Option String} :
    recalled pluginId token? = recalled pluginId token?' ↔ token? = token?' := by
  constructor
  · intro h
    injection h
  · rintro rfl
    rfl

end Event

/-- No response carries two tokens. -/
lemma Response.Carries.unique {response : Response} {token token' : String}
    (h : response.Carries token) (h' : response.Carries token') : token = token' := by
  rw [← Response.authToken?_eq_some_iff] at h h'
  exact Option.some.inj (h.symm.trans h')

/-- No ending issues two tokens. -/
lemma Ending.Issued.unique {ending : Ending} {token token' : String} (h : ending.Issued token)
    (h' : ending.Issued token') : token = token' := by
  obtain ⟨response, rfl, -, hcarries⟩ := h
  obtain ⟨response', heq, -, hcarries'⟩ := h'
  cases heq
  exact hcarries.unique hcarries'

variable {events events' rest rest' : List Event}

/-- The events of an exchange say where it is over and what was answered. -/
lemma Exchange.unique {plugin : Plugin} {call : Call} {answer answer' : Except SendFailure Response}
    (h : Exchange plugin call events answer) (h' : Exchange plugin call events' answer')
    (heq : events ++ rest = events' ++ rest') : answer = answer' ∧ rest = rest' := by
  -- the first event tells the responses from the silence, and the second one the two ways on
  cases h <;> cases h' <;>
    simp_all [Event.sent_inj, Event.checked_inj]

/-- The events of a phase say where it is over and how it ended. -/
lemma Phase.unique {scheme path : String} {plugin : Plugin} {draft : Url → Call}
    {ending ending' : Ending} (h : Phase scheme plugin path draft events ending)
    (h' : Phase scheme plugin path draft events' ending')
    (heq : events ++ rest = events' ++ rest') : ending = ending' ∧ rest = rest' := by
  cases h with
  | unsent fault hurl =>
    cases h' with
    | unsent fault' hurl' =>
      rw [hurl] at hurl'
      cases hurl'
      exact ⟨rfl, heq⟩
    | exchanged url hurl' =>
      rw [hurl] at hurl'
      cases hurl'
  | exchanged url hurl events answer hexchange =>
    cases h' with
    | unsent fault hurl' =>
      rw [hurl] at hurl'
      cases hurl'
    | exchanged url' hurl' events' answer' hexchange' =>
      rw [hurl] at hurl'
      cases hurl'
      obtain ⟨rfl, hrest⟩ := hexchange.unique hexchange' heq
      exact ⟨rfl, hrest⟩

/-- The events of a login say where it is over and which token it brought. -/
lemma Login.unique {plugin : Plugin} {token? token?' : Option String}
    (h : Login c plugin events token?) (h' : Login c plugin events' token?')
    (heq : events ++ rest = events' ++ rest') : token? = token?' ∧ rest = rest' := by
  cases h with
  | issued events ending hphase token hissued =>
    rw [List.append_assoc] at heq
    cases h' with
    | issued events' ending' hphase' token' hissued' =>
      rw [List.append_assoc] at heq
      obtain ⟨rfl, hrest⟩ := hphase.unique hphase' heq
      exact ⟨congrArg some (hissued.unique hissued'), (List.cons.inj hrest).2⟩
    | failed _ ending' hphase' hnone =>
      obtain ⟨rfl, -⟩ := hphase.unique hphase' heq
      exact absurd hissued (hnone token)
  | failed _ ending hphase hnone =>
    cases h' with
    | issued events' ending' hphase' token' hissued' =>
      rw [List.append_assoc] at heq
      obtain ⟨rfl, -⟩ := hphase.unique hphase' heq
      exact absurd hissued' (hnone token')
    | failed _ ending' hphase' hnone' =>
      exact ⟨rfl, (hphase.unique hphase' heq).2⟩

/-- The events of a session say where it is over and which token was found. -/
lemma Session.unique {plugin : Plugin} {kept? kept?' token? token?' : Option String}
    (h : Session c plugin kept? events token?) (h' : Session c plugin kept?' events' token?')
    (heq : events ++ rest = events' ++ rest') : token? = token?' ∧ rest = rest' := by
  cases h with
  | kept token =>
    cases h' with
    | kept token' =>
      obtain ⟨hrecalled, hrest⟩ := List.cons.inj heq
      exact ⟨Event.recalled_inj.mp hrecalled, hrest⟩
    | opened events' token?' hlogin' =>
      cases Event.recalled_inj.mp (List.cons.inj heq).1
  | opened events token? hlogin =>
    cases h' with
    | kept token' => cases Event.recalled_inj.mp (List.cons.inj heq).1
    | opened events' token?' hlogin' => exact hlogin.unique hlogin' (List.cons.inj heq).2

/-- The events of an authorisation say where it is over and what the request is then. -/
lemma Authorization.unique {kept? kept?' : Option String} {r'? r''? : Option ContactRequest}
    (h : Authorization c r kept? events r'?) (h' : Authorization c r kept?' events' r''?)
    (heq : events ++ rest = events' ++ rest') : r'? = r''? ∧ rest = rest' := by
  cases h with
  | credentials hbasic =>
    cases h' with
    | credentials hbasic' => exact ⟨rfl, heq⟩
    | token htoken => exact absurd htoken hbasic
    | refused htoken => exact absurd htoken hbasic
  | token htoken events token hsession =>
    cases h' with
    | credentials hbasic => exact absurd htoken hbasic
    | token htoken' events' token' hsession' =>
      obtain ⟨heq, hrest⟩ := hsession.unique hsession' heq
      cases heq
      exact ⟨rfl, hrest⟩
    | refused htoken' events' hsession' => cases (hsession.unique hsession' heq).1
  | refused htoken events hsession =>
    cases h' with
    | credentials hbasic => exact absurd htoken hbasic
    | token htoken' events' token' hsession' => cases (hsession.unique hsession' heq).1
    | refused htoken' events' hsession' => exact ⟨rfl, (hsession.unique hsession' heq).2⟩

/-- The events of a request that is carried out leave one decision. -/
lemma RequestDecided.unique {shown : ByteArray → String} {decision decision' : Decision}
    (h : RequestDecided c r shown events decision)
    (h' : RequestDecided c r shown events' decision') (heq : events = events') :
    decision = decision' := by
  cases h with
  | stands _ ending hfirst hstands =>
    rw [← List.append_nil events] at heq
    cases h' with
    | stands _ ending' hfirst' hstands' =>
      rw [← List.append_nil events'] at heq
      rw [(hfirst.unique hfirst' heq).1]
    | lockedOut first login refusal hfirst' hrefused htoken hlogin =>
      obtain ⟨rfl, -⟩ := hfirst.unique hfirst' heq
      exact absurd ⟨hrefused, htoken⟩ hstands
    | renewed first login second refusal ending' token hfirst' hrefused htoken hlogin hsecond =>
      rw [List.append_assoc] at heq
      obtain ⟨rfl, -⟩ := hfirst.unique hfirst' heq
      exact absurd ⟨hrefused, htoken⟩ hstands
  | lockedOut first login refusal hfirst hrefused htoken hlogin =>
    cases h' with
    | stands _ ending' hfirst' hstands' =>
      rw [← List.append_nil events'] at heq
      obtain ⟨rfl, -⟩ := hfirst.unique hfirst' heq
      exact absurd ⟨hrefused, htoken⟩ hstands'
    | lockedOut first' login' refusal' hfirst' hrefused' htoken' hlogin' => rfl
    | renewed first' login' second refusal' ending token hfirst' hrefused' htoken' hlogin'
        hsecond =>
      rw [List.append_assoc] at heq
      obtain ⟨-, hrest⟩ := hfirst.unique hfirst' heq
      rw [← List.append_nil login] at hrest
      cases (hlogin.unique hlogin' hrest).1
  | renewed first login second refusal ending token hfirst hrefused htoken hlogin hsecond =>
    rw [List.append_assoc] at heq
    cases h' with
    | stands _ ending' hfirst' hstands' =>
      rw [← List.append_nil events'] at heq
      obtain ⟨rfl, -⟩ := hfirst.unique hfirst' heq
      exact absurd ⟨hrefused, htoken⟩ hstands'
    | lockedOut first' login' refusal' hfirst' hrefused' htoken' hlogin' =>
      obtain ⟨-, hrest⟩ := hfirst.unique hfirst' heq
      rw [← List.append_nil login'] at hrest
      cases (hlogin.unique hlogin' hrest).1
    | renewed first' login' second' refusal' ending' token' hfirst' hrefused' htoken' hlogin'
        hsecond' =>
      rw [List.append_assoc] at heq
      obtain ⟨-, hrest⟩ := hfirst.unique hfirst' heq
      obtain ⟨htokens, hrest'⟩ := hlogin.unique hlogin' hrest
      cases htokens
      rw [← List.append_nil second, ← List.append_nil second'] at hrest'
      rw [(hsecond.unique hsecond' hrest').1]

/-- The events of an authorised contact leave one decision. -/
theorem Decided.unique {shown : ByteArray → String} {decision decision' : Decision}
    (h : Decided c r shown events decision) (h' : Decided c r shown events' decision')
    (heq : events = events') : decision = decision' := by
  cases h with
  | unauthorized kept? _ h =>
    rw [← List.append_nil events] at heq
    cases h' with
    | unauthorized kept?' _ h' => rfl
    | carried kept?' session' r' h' events' decision' hrequest' => cases (h.unique h' heq).1
  | carried kept? session r' h events decision hrequest =>
    cases h' with
    | unauthorized kept?' _ h' =>
      rw [← List.append_nil events'] at heq
      cases (h.unique h' heq).1
    | carried kept?' session' r'' h' events' decision' hrequest' =>
      obtain ⟨hsame, hrest⟩ := h.unique h' heq
      cases hsame
      exact hrequest.unique hrequest' hrest

end PluginGateway
