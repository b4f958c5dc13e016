import PluginGateway.Proofs.TokenCache
import PluginGateway.Proofs.Woven

/-!
# The actions that operations ask for

`Program.Asks` says of a program that it asks only for operations with a property, whatever is
answered to it. An operation of the gateway asks for calls, for records to be stored, and for other
actions, which are quiet. `Permits` says that a property holds of the quiet actions and of the calls
for certain resources, and that these resources stay such under the changes that a flow makes to a
URL.

The main statement, `Permits.asks_operation`, says that an operation for such a URL asks only for
actions with the property, as long as a media action may store its media resource. It is shown once
for every flow, by going through its parts; which property and which resources are meant is left to
the use.
-/

namespace PluginGateway

namespace Program

variable {Op : Type} {Answer : Op → Type} {α β σ : Type}

/-- Whatever is answered, the program asks only for operations with a property. -/
inductive Asks (P : Op → Prop) : Program Op Answer α → Prop
  /-- The program is over. -/
  | done (a : α) : Asks P (.done a)
  /-- An operation with the property comes first. -/
  | ask (op : Op) (hop : P op) (next : Answer op → Program Op Answer α)
      (h : ∀ answer, Asks P (next answer)) : Asks P (.ask op next)

namespace Asks

variable {P : Op → Prop}

/-- One program after another. -/
theorem bind {x : Program Op Answer α} {f : α → Program Op Answer β} (hx : x.Asks P)
    (hf : ∀ a, (f a).Asks P) : (x.bind f).Asks P := by
  induction hx with
  | done a => exact hf a
  | ask op hop next _ ih => exact .ask op hop _ ih

/-- What the program asks for in a run has the property. -/
theorem forall_history {handle : (op : Op) → σ → Answer op × σ} {x : Program Op Answer α}
    (hx : x.Asks P) (s : σ) : ∀ event ∈ x.history handle s, P event.1 := by
  induction hx generalizing s with
  | done a => exact List.forall_mem_nil _
  | ask op hop next _ ih => exact List.forall_mem_cons.mpr ⟨hop, ih _ _⟩

end Asks

end Program

/-! ## Conversations and flows -/

namespace Program.Asks

variable {P : FlowAction → Prop} {α β : Type}

/-- A single action of a conversation. -/
theorem converse_perform {action : Action} (haction : P (.contact action)) :
    (Flow.converse (Program.perform action)).Asks P :=
  .ask (FlowAction.contact action) haction _ fun answer => .done answer

/-- A flow that has its result without asking for anything. -/
theorem flow_done (result : Except FlowError α) :
    (ExceptT.mk (.done result) : Flow α).run.Asks P := .done result

/-- A flow that asks for a single action. -/
theorem flow_ask {action : FlowAction} (haction : P action) {x : Flow α}
    {result : action.Answer → Except FlowError α}
    (hx : x.run = .ask action fun answer => .done (result answer)) : x.run.Asks P := by
  rw [hx]
  exact .ask action haction _ fun answer => .done _

/-- One flow after another. -/
theorem flow_bind {x : Flow α} {f : α → Flow β} (hx : x.run.Asks P)
    (hf : ∀ a, (f a).run.Asks P) : (x >>= f).run.Asks P := by
  rw [ExceptT.run_bind]
  refine hx.bind fun result => ?_
  cases result with
  | ok a => exact hf a
  | error e => exact .done _

/-- The result of a flow, or its error, as the result. -/
theorem flow_attempt {x : Flow α} (hx : x.run.Asks P) : (Flow.attempt x).run.Asks P :=
  hx.bind fun result => .done (Except.ok result)

/-- A flow with its error replaced. -/
theorem flow_orFail {x : Flow α} {f : FlowError → FlowError} (hx : x.run.Asks P) :
    (x.orFail f).run.Asks P :=
  hx.bind fun result => .done (result.mapError f)

/-- A contact within a flow. -/
theorem flow_contact {x : Conversation (Except ContactError α)}
    (hx : (Flow.converse x).Asks P) : (Flow.contact x).run.Asks P :=
  hx.bind fun result => .done (result.mapError FlowError.ofContact)

end Program.Asks

/-- The action stores a resource. -/
def FlowAction.isStore : FlowAction → Bool
  | .storeResource _ _ _ => true
  | _ => false

/-- A property of actions holds of all that are neither calls nor stores, and of the calls for the
resources allowed. The resource for logins is allowed, and what a flow makes of a URL that is
allowed is allowed again. -/
structure Permits (c : Client) (Allowed : String → Prop) (P : FlowAction → Prop) : Prop where
  /-- Other actions than calls and stores have the property. -/
  quiet : ∀ action : FlowAction, action.isSend = false → action.isStore = false → P action
  /-- The calls for a resource that is allowed have the property. -/
  send : ∀ (r : ContactRequest) (url : Url), Allowed r.resource →
    endpoint c.scheme r.plugin (c.southPath r.resource) = .ok url →
    P (.contact (.send r.plugin (requestCall c r url)))
  /-- Logins are allowed. -/
  login : Allowed loginPath
  /-- The qualifiers of a device may be removed. -/
  strip : ∀ (uuid url : String), Allowed url →
    Allowed (String.ofList (Path.strip uuid.toList url.toList))
  /-- The media resource of an action may be asked for. -/
  media : ∀ url : String, Allowed url → Allowed (mediaUrl url)
  /-- A resource below the account service of a manager may be asked for. -/
  account : ∀ managerId url : String, Allowed url → Allowed (toAccountService managerId url)

/-- The URL that the caller of an operation names, if there is one. -/
def Operation.url? : Operation → Option String
  | .contact _ r | .contactWithRetry _ r | .retryAfterReauth _ r _ => some r.resource
  | .authorize _ | .getToken _ | .login _ => none
  | .device r => some r.url
  | .deviceText _ url | .pluginManager _ url | .manager _ _ url => some url
  | .media _ url _ => some url
  | .readAccount _ url | .createAccount _ url _ | .updateAccount _ url _ => some url
  | .deleteAccount _ url => some url

namespace Permits

variable {g : Aggregator} {Allowed : String → Prop} {P : FlowAction → Prop}
  (h : Permits g.client Allowed P)

include h

/-! ## Contacts -/

section Contacts

variable {r : ContactRequest} (hr : Allowed r.resource)

include hr

/-- A contact. -/
theorem asks_contact (context : String) :
    (Flow.converse (g.client.contact context r)).Asks P := by
  unfold Client.contact
  rw [call_eq]
  cases hurl : endpoint g.client.scheme r.plugin (g.client.southPath r.resource) with
  | error fault => exact .done _
  | ok url =>
    have hsend := h.send r url hr hurl
    simp only [Except.map, Program.bind_eq, converse_bind, Client.sendGuarded]
    refine Program.Asks.bind ?_ fun _ => .done _
    refine (Program.Asks.converse_perform hsend).bind fun answer => ?_
    cases answer with
    | ok response => exact .done _
    | error failure =>
      cases hsilence : failure.isSilence with
      | false =>
        simp only [hsilence, Bool.false_eq_true, if_false]
        exact .done _
      | true =>
        simp only [hsilence, if_true, converse_bind]
        refine (Program.Asks.converse_perform (h.quiet _ rfl rfl)).bind fun alive => ?_
        cases alive with
        | false => exact .done _
        | true => exact Program.Asks.converse_perform hsend

omit hr in
/-- A login. -/
theorem asks_login (plugin : Plugin) : (Flow.converse (g.client.login plugin)).Asks P := by
  have hlogin : Allowed (Client.loginRequest plugin).resource := h.login
  simp only [Client.login, Program.bind_eq, converse_bind]
  refine (h.asks_contact hlogin loginContext).bind fun result => ?_
  cases Client.issuedToken? result with
  | none => exact .done _
  | some token =>
    simp only [converse_bind]
    exact (Program.Asks.converse_perform (h.quiet _ rfl rfl)).bind fun _ => .done _

/-- What follows a failed contact. -/
theorem asks_retryAfterReauth (context : String) (failure : ContactError) :
    (Flow.converse (g.client.retryAfterReauth context r failure)).Asks P := by
  by_cases hrefused : failure.isUnauthorized = true ∧ r.plugin.auth = .token
  · rw [retryAfterReauth_of_refused g.client context hrefused.1 hrefused.2, converse_bind]
    refine (h.asks_login r.plugin).bind fun token? => ?_
    cases token? with
    | none => exact .done _
    | some token =>
      have hrepeated : Allowed { r with token := some token }.resource := hr
      exact h.asks_contact hrepeated context
  · rw [retryAfterReauth_of_not g.client context hrefused]
    exact .done _

/-- A contact that is repeated after a login if the plugin refused the token. -/
theorem asks_contactWithRetry (context : String) :
    (Flow.converse (g.client.contactWithRetry context r)).Asks P := by
  simp only [Client.contactWithRetry, Program.bind_eq, converse_bind]
  refine (h.asks_contact hr context).bind fun result => ?_
  cases result with
  | ok outcome => exact .done _
  | error failure => exact h.asks_retryAfterReauth hr context failure

omit hr

/-- A token, from those kept or from a login. -/
theorem asks_getToken (plugin : Plugin) : (Flow.converse (g.client.getToken plugin)).Asks P := by
  rw [getToken_eq]
  refine .ask (.contact (.recallToken plugin.id)) (h.quiet _ rfl rfl) _ fun token? => ?_
  cases token? with
  | some token => exact .done _
  | none => exact h.asks_login plugin

/-- Credentials for a request. -/
theorem asks_authorize (r : ContactRequest) :
    (Flow.converse (g.client.authorize r)).Asks P := by
  unfold Client.authorize
  cases r.plugin.usesToken with
  | false => exact .done _
  | true =>
    simp only [if_true, Program.bind_eq, converse_bind]
    refine (h.asks_getToken r.plugin).bind fun token? => ?_
    cases token? <;> exact .done _

end Contacts

/-! ## Flows -/

section Flows

/-- An authorised contact within a flow. -/
theorem asks_authorizedContact {r : ContactRequest} (hr : Allowed r.resource) (context : String) :
    (Flow.contact (g.client.authorizedContact context r)).run.Asks P := by
  refine Program.Asks.flow_contact ?_
  by_cases htoken : r.plugin.auth = .token
  · rw [authorizedContact_of_token g.client context htoken, converse_bind]
    refine (h.asks_getToken r.plugin).bind fun token? => ?_
    cases token? with
    | none => exact .done _
    | some token =>
      have hr' : Allowed { r with token := some token }.resource := hr
      exact h.asks_contactWithRetry hr' context
  · have hr' : Allowed { r with basic := some r.plugin.credentials }.resource := hr
    rw [authorizedContact_of_basic g.client context htoken]
    exact h.asks_contactWithRetry hr' context

/-- A request to a device. -/
theorem asks_deviceRequest {r : DeviceRequest} (hr : Allowed r.url) :
    (g.deviceRequest r).run.Asks P := by
  rw [g.deviceRequest_eq]
  refine .flow_bind (.flow_ask (h.quiet (.findTarget r.uuid) rfl rfl) rfl) fun target => ?_
  refine .flow_bind (.flow_ask (h.quiet (.findPlugin target.pluginId) rfl rfl) rfl)
    fun plugin => ?_
  refine .flow_bind ?_ fun outcome => .flow_done _
  unfold Aggregator.deviceContact
  cases g.devicePassword target with
  | ok password =>
    exact h.asks_authorizedContact (r := r.forPlugin plugin target password)
      (h.strip r.uuid r.url hr) r.context
  | error e =>
    exact .flow_bind (.flow_contact (h.asks_authorize (r.bare plugin))) fun _ => .flow_done _

/-- The text of a resource of a device. -/
theorem asks_deviceText (uuid : String) {url : String} (hurl : Allowed url) :
    (g.deviceText uuid url).run.Asks P :=
  .flow_bind (h.asks_deviceRequest (r := { uuid, url }) hurl) fun _ => .flow_done _

/-- A resource of a plugin's manager. -/
theorem asks_pluginManagerResource (managerId : String) {url : String} (hurl : Allowed url) :
    (g.pluginManagerResource managerId url).run.Asks P := by
  rw [g.pluginManagerResource_eq]
  refine .flow_bind (.flow_ask (h.quiet (.findResource _ _) rfl rfl) rfl) fun record => ?_
  split
  · exact .flow_done _
  · refine .flow_bind (.flow_ask (h.quiet (.findPlugin _) rfl rfl) rfl) fun plugin => ?_
    refine .flow_bind (h.asks_authorizedContact (r := managerContact plugin url) hurl _)
      fun outcome => ?_
    unfold managerAnswer
    split
    · exact .flow_done _
    · exact .flow_bind (.flow_ask (h.quiet .now rfl rfl) rfl) fun now => .flow_done _

/-- A resource under a manager. -/
theorem asks_managersResource (managerId : String) (member : Option String) {url : String}
    (hurl : Allowed url) : (g.managersResource managerId member url).run.Asks P := by
  have hfind (table : String) : (Flow.attempt (Flow.findResource table url)).run.Asks P :=
    .flow_attempt (.flow_ask (h.quiet (.findResource table url) rfl rfl) rfl)
  unfold Aggregator.managersResource
  split
  · unfold Aggregator.plainManagerResource
    refine .flow_bind (hfind _) fun found => ?_
    split
    · exact .flow_done _
    · split
      · exact .flow_done _
      · split
        · exact h.asks_pluginManagerResource managerId hurl
        · exact .flow_done _
  · unfold Aggregator.deviceManagerResource
    refine .flow_bind (hfind _) fun found => ?_
    split
    · exact .flow_done _
    · split
      · refine .flow_bind ?_ fun _ => .flow_done _
        unfold Aggregator.fetchedResource
        refine .flow_bind (.flow_orFail (h.asks_deviceText _ hurl)) fun text => ?_
        split <;> exact .flow_done _
      · exact .flow_done _

/-- A media action, which may store its media resource. -/
theorem asks_virtualMediaAction (managerId : String) {url : String} (body : Option Json)
    (hurl : Allowed url)
    (hstore : ∀ record, P (.storeResource virtualMediaTable (mediaUrl url) record)) :
    (g.virtualMediaAction managerId url body).run.Asks P := by
  unfold Aggregator.virtualMediaAction
  refine .flow_bind (.flow_done _) fun checked => .flow_bind (.flow_done _) fun uuid => ?_
  refine .flow_bind (h.asks_deviceRequest hurl) fun response => ?_
  split
  · refine .flow_bind (.flow_attempt ?_) fun _ => .flow_done _
    unfold Aggregator.refreshMedia
    refine .flow_bind (h.asks_deviceText uuid (h.media url hurl)) fun text => ?_
    split
    · exact .flow_done _
    · exact .flow_ask (hstore _) rfl
  · exact .flow_done _

/-- The text of a resource of the account service. -/
theorem asks_accountText (managerId uuid : String) {url : String} (hurl : Allowed url) :
    (g.accountText managerId uuid url).run.Asks P :=
  .flow_orFail (h.asks_deviceText uuid (h.account managerId url hurl))

/-- Reading an account. -/
theorem asks_readRemoteAccount (managerId : String) {url : String} (hurl : Allowed url) :
    (g.readRemoteAccount managerId url).run.Asks P := by
  unfold Aggregator.readRemoteAccount
  refine .flow_bind (.flow_done _) fun uuid => ?_
  refine .flow_bind (h.asks_accountText managerId uuid hurl) fun text => ?_
  split <;> exact .flow_done _

/-- Creating an account. -/
theorem asks_createRemoteAccount (managerId : String) {url : String} (body : Json)
    (hurl : Allowed url) : (g.createRemoteAccount managerId url body).run.Asks P := by
  unfold Aggregator.createRemoteAccount
  refine .flow_bind (.flow_done _) fun checked => .flow_bind (.flow_done _) fun uuid => ?_
  exact .flow_bind (h.asks_deviceRequest (h.account managerId url hurl)) fun _ => .flow_done _

/-- Changing an account. -/
theorem asks_updateRemoteAccount (managerId : String) {url : String} (body : Json)
    (hurl : Allowed url) : (g.updateRemoteAccount managerId url body).run.Asks P := by
  unfold Aggregator.updateRemoteAccount
  refine .flow_bind (.flow_done _) fun checked => .flow_bind (.flow_done _) fun uuid => ?_
  refine .flow_bind (h.asks_deviceRequest (h.account managerId url hurl)) fun response => ?_
  split
  · exact .flow_bind (h.asks_accountText managerId uuid hurl) fun _ => .flow_done _
  · exact .flow_done _

/-- Deleting an account. -/
theorem asks_deleteRemoteAccount (managerId : String) {url : String} (hurl : Allowed url) :
    (g.deleteRemoteAccount managerId url).run.Asks P := by
  unfold Aggregator.deleteRemoteAccount
  refine .flow_bind (.flow_done _) fun uuid => ?_
  refine .flow_bind (h.asks_deviceRequest (h.account managerId url hurl)) fun response => ?_
  split <;> exact .flow_done _

end Flows

/-- An operation whose URL is allowed asks only for actions with the property, if a media action may
store its media resource. -/
theorem asks_operation (operation : Operation)
    (hurl : ∀ url, operation.url? = some url → Allowed url)
    (hstore : ∀ managerId url body, operation = .media managerId url body →
      ∀ record, P (.storeResource virtualMediaTable (mediaUrl url) record)) :
    (operation.program g).Asks P := by
  have hdone {α : Type} {x : FlowProgram α} (hx : x.Asks P) :
      (x.bind fun _ => Program.done ()).Asks P := hx.bind fun _ => .done ()
  cases operation with
  | contact context r => exact hdone (h.asks_contact (hurl _ rfl) context)
  | contactWithRetry context r => exact hdone (h.asks_contactWithRetry (hurl _ rfl) context)
  | retryAfterReauth context r failure =>
    exact hdone (h.asks_retryAfterReauth (hurl _ rfl) context failure)
  | authorize r => exact hdone (h.asks_authorize r)
  | getToken plugin => exact hdone (h.asks_getToken plugin)
  | login plugin => exact hdone (h.asks_login plugin)
  | device r => exact hdone (h.asks_deviceRequest (hurl _ rfl))
  | deviceText uuid url => exact hdone (h.asks_deviceText uuid (hurl _ rfl))
  | pluginManager managerId url =>
    exact hdone (h.asks_pluginManagerResource managerId (hurl _ rfl))
  | manager managerId member url =>
    exact hdone (h.asks_managersResource managerId member (hurl _ rfl))
  | media managerId url body =>
    exact hdone (h.asks_virtualMediaAction managerId body (hurl _ rfl) (hstore _ _ _ rfl))
  | readAccount managerId url => exact hdone (h.asks_readRemoteAccount managerId (hurl _ rfl))
  | createAccount managerId url body =>
    exact hdone (h.asks_createRemoteAccount managerId body (hurl _ rfl))
  | updateAccount managerId url body =>
    exact hdone (h.asks_updateRemoteAccount managerId body (hurl _ rfl))
  | deleteAccount managerId url =>
    exact hdone (h.asks_deleteRemoteAccount managerId (hurl _ rfl))

end Permits

end PluginGateway
