import PluginGateway.Proofs.Authorization
import PluginGateway.Proofs.Composed

/-!
# Flows woven from authorised contacts

Every resource flow comes down to questions to the inventory and the clock and to authorised
contacts with plugins that the inventory knows. `Woven` says so of a program, and is shown for each
flow once. What holds of every authorised contact can then be carried over to all flows by one
induction; in particular a woven program is composed of quiet actions and logins
(`Composed.of_woven`).
-/

namespace PluginGateway

/-- The action is part of a contact. -/
def FlowAction.isContact : FlowAction → Bool
  | .contact _ => true
  | _ => false

/-- Tokens are kept in contacts only. -/
lemma FlowAction.keepsToken_of_not {action : FlowAction} (h : action.isContact = false) :
    action.keepsToken = false := by
  cases action with
  | contact action => cases h
  | _ => rfl

/-- The program asks the inventory and the clock, authorises requests and makes authorised contacts,
and does nothing else. Its plugins are known if those found in the inventory are. -/
inductive Woven (c : Client) (Known : Plugin → Prop) {α : Type} : FlowProgram α → Prop
  /-- The program is over. -/
  | done (a : α) : Woven c Known (.done a)
  /-- A question to the inventory or the clock comes first. -/
  | ask (action : FlowAction) (haction : action.isContact = false)
      (next : action.Answer → FlowProgram α)
      (h : ∀ answer, (∀ id plugin, (⟨action, answer⟩ : FlowEvent) = ⟨.findPlugin id, .ok plugin⟩ →
        Known plugin) → Woven c Known (next answer)) :
    Woven c Known (.ask action next)
  /-- A request is authorised first. -/
  | authorize (r : ContactRequest) (hknown : Known r.plugin)
      (next : Except ContactError ContactRequest → FlowProgram α)
      (h : ∀ result, Woven c Known (next result)) :
    Woven c Known ((Flow.converse (c.authorize r)).bind next)
  /-- An authorised contact is made first. -/
  | contact (context : String) (r : ContactRequest) (hknown : Known r.plugin)
      (next : Except ContactError Outcome → FlowProgram α)
      (h : ∀ result, Woven c Known (next result)) :
    Woven c Known ((Flow.converse (c.authorizedContact context r)).bind next)

variable {α β : Type}

/-! ## Contacts within flows -/

/-- One contact after another, within a flow, is one conversation. -/
lemma flow_contact_bind_contact (x : Conversation (Except ContactError α))
    (f : α → Conversation (Except ContactError β)) :
    (Flow.contact x >>= fun a => Flow.contact (f a)) =
      Flow.contact (x.bind (Conversation.onSuccess f)) := by
  refine ExceptT.ext ?_
  rw [ExceptT.run_bind]
  simp only [Flow.contact, ExceptT.run_mk, Program.bind_eq, converse_bind, Program.bind_bind]
  refine congrArg _ (funext fun result => ?_)
  cases result <;> rfl

/-- A flow that has its result hands it on. -/
lemma flow_ok_bind (a : α) (f : α → Flow β) : (ExceptT.mk (.done (.ok a)) : Flow α) >>= f = f a :=
  rfl

/-- A flow that has failed does not go on. -/
lemma flow_error_bind (e : FlowError) (f : α → Flow β) :
    (ExceptT.mk (.done (.error e)) : Flow α) >>= f = throw e :=
  rfl

/-- The request that a request to a device makes of its plugin, before it carries a document. -/
def DeviceRequest.bare (r : DeviceRequest) (plugin : Plugin) : ContactRequest where
  plugin := plugin
  method := r.method
  resource := String.ofList (Path.strip r.uuid.toList r.url.toList)

/-- The request that a request to a device makes of its plugin. -/
def DeviceRequest.forPlugin (r : DeviceRequest) (plugin : Plugin) (target : Target)
    (password : String) : ContactRequest :=
  { r.bare plugin with body := some (deviceInfo target password r.body) }

/-- What a request to a device does once the device and its plugin are found. -/
def Aggregator.deviceContact (g : Aggregator) (r : DeviceRequest) (target : Target)
    (plugin : Plugin) : Flow Outcome :=
  match g.devicePassword target with
  | .ok password =>
    Flow.contact (g.client.authorizedContact r.context (r.forPlugin plugin target password))
  | .error e => do
    let _ ← Flow.contact (g.client.authorize (r.bare plugin))
    throw e

/-- The answer of a device, out of what its plugin answered. -/
def DeviceRequest.answer (r : DeviceRequest) (outcome : Outcome) : DeviceResponse :=
  ⟨outcome.status, String.ofList (Path.qualifyLinks r.uuid.toList outcome.text.toList)⟩

/-- A request to a device makes one authorised contact, or none if there is no password. -/
lemma Aggregator.deviceRequest_eq (g : Aggregator) (r : DeviceRequest) :
    g.deviceRequest r = (do
      let target ← Flow.findTarget r.uuid
      let plugin ← Flow.findPlugin target.pluginId
      let outcome ← g.deviceContact r target plugin
      return r.answer outcome) := by
  unfold Aggregator.deviceRequest
  refine congrArg _ (funext fun target => congrArg _ (funext fun plugin => ?_))
  have hbare :
      g.authorized plugin r.method (String.ofList (Path.strip r.uuid.toList r.url.toList)) =
        Flow.contact (g.client.authorize (r.bare plugin)) := rfl
  unfold Aggregator.deviceContact
  dsimp only
  rw [hbare]
  cases g.devicePassword target with
  | error e =>
    dsimp only
    rw [bind_assoc]
    simp only [flow_error_bind]
    rfl
  | ok password =>
    dsimp only [DeviceRequest.forPlugin]
    rw [authorizedContact_body, ← flow_contact_bind_contact, bind_assoc]
    simp only [flow_ok_bind]
    rfl

/-- What a resource of a plugin's manager is asked for. -/
def managerContact (plugin : Plugin) (url : String) : ContactRequest where
  plugin := plugin
  method := .get
  resource := url

/-- What was being done when a plugin was asked for a resource of its manager. -/
def managerContext (url : String) : String := "error while getting the details " ++ url ++ ": "

/-- A resource of a plugin's manager, out of what the plugin answered. -/
def managerAnswer (record : Json) (outcome : Outcome) : Flow Json :=
  match outcome.json with
  | .error e => throw (.internal e.message)
  | .ok body => do
    let now ← Flow.now
    ExceptT.mk (.done (fillManager record now body))

/-- Reading a resource of a plugin's manager makes one authorised contact. -/
lemma Aggregator.pluginManagerResource_eq (g : Aggregator) (managerId url : String) :
    g.pluginManagerResource managerId url = (do
      let record ← Flow.findResource Inventory.managersTable ("/redfish/v1/Managers/" ++ managerId)
      match (record.get? "Name").bind Json.string? with
      | none => throw (.notFound "Plugin" managerId)
      | some pluginId =>
        let plugin ← Flow.findPlugin pluginId
        let outcome ← Flow.contact
          (g.client.authorizedContact (managerContext url) (managerContact plugin url))
        managerAnswer record outcome) := by
  unfold Aggregator.pluginManagerResource
  refine congrArg _ (funext fun record => ?_)
  cases (record.get? "Name").bind Json.string? with
  | none => rfl
  | some pluginId =>
    dsimp only
    refine congrArg _ (funext fun plugin => ?_)
    rw [Client.authorizedContact, ← flow_contact_bind_contact, bind_assoc]
    rfl

namespace Woven

variable {c : Client} {Known : Plugin → Prop}

/-! ## Programs and flows -/

/-- One woven program after another. -/
theorem bind {x : FlowProgram α} {f : α → FlowProgram β} (hx : Woven c Known x)
    (hf : ∀ a, Woven c Known (f a)) : Woven c Known (x.bind f) := by
  induction hx with
  | done a => exact hf a
  | ask action haction next _ ih => exact .ask action haction _ ih
  | authorize r hknown next _ ih =>
    rw [Program.bind_bind]
    exact .authorize r hknown _ ih
  | contact context r hknown next _ ih =>
    rw [Program.bind_bind]
    exact .contact context r hknown _ ih

/-- One woven flow after another. -/
theorem flow_bind {x : Flow α} {f : α → Flow β} (hx : Woven c Known x.run)
    (hf : ∀ a, Woven c Known (f a).run) : Woven c Known (x >>= f).run := by
  rw [ExceptT.run_bind]
  refine hx.bind fun result => ?_
  cases result with
  | ok a => exact hf a
  | error e => exact .done _

/-- A flow that has its result without asking for anything. -/
theorem flow_done (result : Except FlowError α) :
    Woven c Known (ExceptT.mk (.done result) : Flow α).run := .done result

/-- A flow that asks the inventory or the clock once. -/
theorem flow_ask (action : FlowAction) (haction : action.isContact = false) {x : Flow α}
    {result : action.Answer → Except FlowError α}
    (hx : x.run = .ask action fun answer => .done (result answer)) : Woven c Known x.run := by
  rw [hx]
  exact .ask action haction _ fun answer _ => .done _

/-- A flow that goes on with a plugin of the inventory. -/
theorem flow_findPlugin {id : String} {f : Plugin → Flow β}
    (hf : ∀ plugin, Known plugin → Woven c Known (f plugin).run) :
    Woven c Known (Flow.findPlugin id >>= f).run := by
  rw [ExceptT.run_bind]
  refine .ask (.findPlugin id) rfl _ fun answer hanswer => ?_
  cases answer with
  | ok plugin => exact hf plugin (hanswer id plugin rfl)
  | error e => exact .done _

/-- A flow that makes an authorised contact. -/
theorem flow_contact {context : String} {r : ContactRequest} (hknown : Known r.plugin) :
    Woven c Known (Flow.contact (c.authorizedContact context r)).run :=
  .contact context r hknown _ fun result => .done (result.mapError FlowError.ofContact)

/-- A flow that authorises a request. -/
theorem flow_authorize {r : ContactRequest} (hknown : Known r.plugin) :
    Woven c Known (Flow.contact (c.authorize r)).run :=
  .authorize r hknown _ fun result => .done (result.mapError FlowError.ofContact)

/-- The result of a flow, or its error, as the result. -/
theorem flow_attempt {x : Flow α} (hx : Woven c Known x.run) :
    Woven c Known (Flow.attempt x).run :=
  hx.bind fun result => .done (Except.ok result)

/-- A flow with its error replaced. -/
theorem flow_orFail {x : Flow α} {f : FlowError → FlowError} (hx : Woven c Known x.run) :
    Woven c Known (x.orFail f).run :=
  hx.bind fun result => .done (result.mapError f)

/-! ## The resource flows -/

section Flows

variable (g : Aggregator)

/-- A request to a device. -/
theorem deviceRequest (r : DeviceRequest) : Woven g.client Known (g.deviceRequest r).run := by
  rw [g.deviceRequest_eq]
  refine flow_bind (flow_ask (.findTarget r.uuid) rfl rfl) fun target => ?_
  refine flow_findPlugin fun plugin hplugin => ?_
  refine flow_bind ?_ fun outcome => flow_done _
  unfold Aggregator.deviceContact
  cases g.devicePassword target with
  | ok password => exact flow_contact hplugin
  | error e => exact flow_bind (flow_authorize hplugin) fun _ => flow_done _

/-- The text of a resource of a device. -/
theorem deviceText (uuid url : String) : Woven g.client Known (g.deviceText uuid url).run :=
  flow_bind (deviceRequest g _) fun _ => flow_done _

/-- A resource of a plugin's manager. -/
theorem pluginManagerResource (managerId url : String) :
    Woven g.client Known (g.pluginManagerResource managerId url).run := by
  rw [g.pluginManagerResource_eq]
  refine flow_bind (flow_ask (.findResource _ _) rfl rfl) fun record => ?_
  split
  · exact flow_done _
  · refine flow_findPlugin fun plugin hplugin => ?_
    refine flow_bind (flow_contact hplugin) fun outcome => ?_
    unfold managerAnswer
    split
    · exact flow_done _
    · exact flow_bind (flow_ask (.now) rfl rfl) fun now => flow_done _

/-- A resource under a manager without a device behind it. -/
theorem plainManagerResource (managerId table url : String) :
    Woven g.client Known (g.plainManagerResource managerId table url).run := by
  unfold Aggregator.plainManagerResource
  refine flow_bind (flow_attempt (flow_ask (.findResource table url) rfl rfl))
    fun found => ?_
  split
  · exact flow_done _
  · split
    · exact flow_done _
    · split
      · exact pluginManagerResource g managerId url
      · exact flow_done _

/-- A resource as read from the device of a manager. -/
theorem fetchedResource (managerId uuid table url : String) :
    Woven g.client Known (g.fetchedResource managerId uuid table url).run := by
  unfold Aggregator.fetchedResource
  refine flow_bind (flow_orFail (deviceText g uuid url)) fun text => ?_
  split
  · exact flow_done _
  · exact flow_done _

/-- A resource under a manager. -/
theorem managersResource (managerId : String) (member : Option String) (url : String) :
    Woven g.client Known (g.managersResource managerId member url).run := by
  unfold Aggregator.managersResource
  split
  · exact plainManagerResource g _ _ _
  · unfold Aggregator.deviceManagerResource
    refine flow_bind (flow_attempt (flow_ask (.findResource _ url) rfl rfl))
      fun found => ?_
    split
    · exact flow_done _
    · split
      · exact flow_bind (fetchedResource g _ _ _ _) fun _ => flow_done _
      · exact flow_done _

/-- Reading a media resource again. -/
theorem refreshMedia (uuid url : String) : Woven g.client Known (g.refreshMedia uuid url).run := by
  unfold Aggregator.refreshMedia
  refine flow_bind (deviceText g _ _) fun text => ?_
  split
  · exact flow_done _
  · exact flow_ask (.storeResource _ _ _) rfl rfl

/-- A media action. -/
theorem virtualMediaAction (managerId url : String) (body : Option Json) :
    Woven g.client Known (g.virtualMediaAction managerId url body).run := by
  unfold Aggregator.virtualMediaAction
  refine flow_bind (flow_done _) fun checked => flow_bind (flow_done _) fun uuid => ?_
  refine flow_bind (deviceRequest g _) fun response => ?_
  split
  · exact flow_bind (flow_attempt (refreshMedia g uuid _)) fun _ => flow_done _
  · exact flow_done _

/-- The text of a resource of the account service. -/
theorem accountText (managerId uuid url : String) :
    Woven g.client Known (g.accountText managerId uuid url).run :=
  flow_orFail (deviceText g _ _)

/-- Reading an account. -/
theorem readRemoteAccount (managerId url : String) :
    Woven g.client Known (g.readRemoteAccount managerId url).run := by
  unfold Aggregator.readRemoteAccount
  refine flow_bind (flow_done _) fun uuid => flow_bind (accountText g _ _ _) fun text => ?_
  split
  · exact flow_done _
  · exact flow_done _

/-- Creating an account. -/
theorem createRemoteAccount (managerId url : String) (body : Json) :
    Woven g.client Known (g.createRemoteAccount managerId url body).run := by
  unfold Aggregator.createRemoteAccount
  refine flow_bind (flow_done _) fun checked => flow_bind (flow_done _) fun uuid => ?_
  exact flow_bind (deviceRequest g _) fun _ => flow_done _

/-- Changing an account. -/
theorem updateRemoteAccount (managerId url : String) (body : Json) :
    Woven g.client Known (g.updateRemoteAccount managerId url body).run := by
  unfold Aggregator.updateRemoteAccount
  refine flow_bind (flow_done _) fun checked => flow_bind (flow_done _) fun uuid => ?_
  refine flow_bind (deviceRequest g _) fun response => ?_
  split
  · exact flow_bind (accountText g _ _ _) fun _ => flow_done _
  · exact flow_done _

/-- Deleting an account. -/
theorem deleteRemoteAccount (managerId url : String) :
    Woven g.client Known (g.deleteRemoteAccount managerId url).run := by
  unfold Aggregator.deleteRemoteAccount
  refine flow_bind (flow_done _) fun uuid => flow_bind (deviceRequest g _) fun response => ?_
  split
  · exact flow_done _
  · exact flow_done _

end Flows

end Woven

/-- A woven program is composed of quiet actions and logins, if all actions are quiet but the
keeping of a token, and logins are allowed at the plugins that are known and use tokens. -/
theorem Composed.of_woven {c : Client} {D : Discipline} {Known : Plugin → Prop}
    (hquiet : ∀ action : FlowAction, action.keepsToken = false → D.Quiet action)
    (hknown : ∀ id plugin, D.Known (.findPlugin id) (.ok plugin) → Known plugin)
    (hwho : ∀ plugin, Known plugin → plugin.auth = .token → D.Who plugin)
    {x : FlowProgram α} (h : Woven c Known x) : Composed c D (fun _ => True) x := by
  have hquiet' : ∀ action : FlowAction, action.isSend = false → action.keepsToken = false →
      D.Quiet action := fun action _ h => hquiet action h
  induction h with
  | done a => exact .done a trivial
  | ask action haction next _ ih =>
    have hkeeps := FlowAction.keepsToken_of_not haction
    refine .ask action (hquiet action hkeeps) next fun answer hanswer => ih answer ?_
    intro id plugin hevent
    cases hevent
    exact hknown id plugin hanswer
  | authorize r hr next _ ih =>
    exact (converse_authorize hquiet' (hwho r.plugin hr)).bind fun result _ => ih result
  | contact context r hr next _ ih =>
    refine Composed.bind ?_ fun result (_ : True) => ih result
    rw [Client.authorizedContact, converse_bind]
    refine (converse_authorize hquiet' (hwho r.plugin hr)).bind fun result hresult => ?_
    cases result with
    | error failure => exact .done _ trivial
    | ok r' =>
      obtain ⟨token?, basic?, rfl⟩ := hresult r' rfl
      have hcontact : Composed c D _ (Flow.converse
          (c.contactWithRetry context { r with token := token?, basic := basic? })) :=
        converse_contactWithRetry hquiet' (fun _ _ _ => hquiet _ rfl) (hwho r.plugin hr)
      exact hcontact.mono fun _ _ => trivial

end PluginGateway
