import PluginGateway.Proofs.Woven
import PluginGateway.Resource.Rehearsal

/-!
# What happens to kept session tokens

Session tokens are kept from one operation to the next. An `Operation` is any of the things that a
caller can have done: a contact, a login, a request for credentials, a flow over resources. The main
statement, `run_tokens`, is about runs of operations of any length, from any kept tokens and against
any prepared answers: each operation logs in a number of times, and what is kept for a plugin after
it is the token of its last successful login for a plugin of that name, or what was kept before if
there was none.
-/

namespace PluginGateway

/-- Something that a caller can have done. -/
inductive Operation where
  /-- A contact, without a repetition. -/
  | contact (context : String) (r : ContactRequest)
  /-- A contact, repeated after a login if the plugin refuses the token. -/
  | contactWithRetry (context : String) (r : ContactRequest)
  /-- What follows a failed contact. -/
  | retryAfterReauth (context : String) (r : ContactRequest) (failure : ContactError)
  /-- Credentials for a request. -/
  | authorize (r : ContactRequest)
  /-- A token for a plugin, from those kept or from a login. -/
  | getToken (plugin : Plugin)
  /-- A login. -/
  | login (plugin : Plugin)
  /-- A request to a device. -/
  | device (r : DeviceRequest)
  /-- The text of a resource of a device. -/
  | deviceText (uuid url : String)
  /-- A resource of a plugin's manager. -/
  | pluginManager (managerId url : String)
  /-- A resource under a manager. -/
  | manager (managerId : String) (member : Option String) (url : String)
  /-- A media action. -/
  | media (managerId url : String) (body : Option Json)
  /-- Reading an account. -/
  | readAccount (managerId url : String)
  /-- Creating an account. -/
  | createAccount (managerId url : String) (body : Json)
  /-- Changing an account. -/
  | updateAccount (managerId url : String) (body : Json)
  /-- Deleting an account. -/
  | deleteAccount (managerId url : String)

namespace Operation

/-- The operation as a program, its result left aside. -/
def program (g : Aggregator) : Operation → FlowProgram Unit
  | contact context r => (Flow.converse (g.client.contact context r)).bind fun _ => .done ()
  | contactWithRetry context r =>
    (Flow.converse (g.client.contactWithRetry context r)).bind fun _ => .done ()
  | retryAfterReauth context r failure =>
    (Flow.converse (g.client.retryAfterReauth context r failure)).bind fun _ => .done ()
  | authorize r => (Flow.converse (g.client.authorize r)).bind fun _ => .done ()
  | getToken plugin => (Flow.converse (g.client.getToken plugin)).bind fun _ => .done ()
  | login plugin => (Flow.converse (g.client.login plugin)).bind fun _ => .done ()
  | device r => (g.deviceRequest r).run.bind fun _ => .done ()
  | deviceText uuid url => (g.deviceText uuid url).run.bind fun _ => .done ()
  | pluginManager managerId url =>
    (g.pluginManagerResource managerId url).run.bind fun _ => .done ()
  | manager managerId member url =>
    (g.managersResource managerId member url).run.bind fun _ => .done ()
  | media managerId url body => (g.virtualMediaAction managerId url body).run.bind fun _ => .done ()
  | readAccount managerId url => (g.readRemoteAccount managerId url).run.bind fun _ => .done ()
  | createAccount managerId url body =>
    (g.createRemoteAccount managerId url body).run.bind fun _ => .done ()
  | updateAccount managerId url body =>
    (g.updateRemoteAccount managerId url body).run.bind fun _ => .done ()
  | deleteAccount managerId url => (g.deleteRemoteAccount managerId url).run.bind fun _ => .done ()

/-- The plugins that the operation may log in to, given those in the inventory: one that is named,
if a session with it is what the caller asks for; otherwise the plugin of the request, or any plugin
of the inventory for a flow, and only if it uses tokens. -/
def MayLogIn (plugins : List (String × Plugin)) : Operation → Plugin → Prop
  | getToken named, plugin | login named, plugin => plugin = named
  | contact _ _, _ => False
  | contactWithRetry _ r, plugin | retryAfterReauth _ r _, plugin | authorize r, plugin =>
    plugin = r.plugin ∧ plugin.auth = .token
  | _, plugin => plugin ∈ plugins.map Prod.snd ∧ plugin.auth = .token

/-- The discipline of an operation with the plugins of an inventory: all but the keeping of a token
is quiet. -/
def discipline (plugins : List (String × Plugin)) (operation : Operation) : Discipline where
  Quiet action := action.keepsToken = false
  Who := operation.MayLogIn plugins
  Known
    | .findPlugin _, answer => ∀ plugin, answer = .ok plugin → plugin ∈ plugins.map Prod.snd
    | _, _ => True

/-- The operation is a flow over resources. -/
def isFlow : Operation → Bool
  | contact _ _ | contactWithRetry _ _ | retryAfterReauth _ _ _ => false
  | authorize _ | getToken _ | login _ => false
  | _ => true

/-- A flow over resources is woven from authorised contacts. -/
lemma woven (g : Aggregator) {Known : Plugin → Prop} {operation : Operation}
    (h : operation.isFlow = true) : Woven g.client Known (operation.program g) := by
  have hdone : ∀ {α : Type} {x : FlowProgram α}, Woven g.client Known x →
      Woven g.client Known (x.bind fun _ => .done ()) :=
    fun hx => hx.bind fun _ => .done ()
  cases operation with
  | contact context r => cases h
  | contactWithRetry context r => cases h
  | retryAfterReauth context r failure => cases h
  | authorize r => cases h
  | getToken plugin => cases h
  | login plugin => cases h
  | device r => exact hdone (Woven.deviceRequest g r)
  | deviceText uuid url => exact hdone (Woven.deviceText g uuid url)
  | pluginManager managerId url => exact hdone (Woven.pluginManagerResource g managerId url)
  | manager managerId member url => exact hdone (Woven.managersResource g managerId member url)
  | media managerId url body => exact hdone (Woven.virtualMediaAction g managerId url body)
  | readAccount managerId url => exact hdone (Woven.readRemoteAccount g managerId url)
  | createAccount managerId url body =>
    exact hdone (Woven.createRemoteAccount g managerId url body)
  | updateAccount managerId url body =>
    exact hdone (Woven.updateRemoteAccount g managerId url body)
  | deleteAccount managerId url => exact hdone (Woven.deleteRemoteAccount g managerId url)

/-- A flow may log in to any plugin of the inventory that uses tokens. -/
lemma mayLogIn_of_isFlow {plugins : List (String × Plugin)} {operation : Operation}
    (h : operation.isFlow = true) {plugin : Plugin} (hmem : plugin ∈ plugins.map Prod.snd)
    (htoken : plugin.auth = .token) : operation.MayLogIn plugins plugin := by
  cases operation <;> first | exact ⟨hmem, htoken⟩ | cases h

/-- An operation changes sessions by logins only. -/
lemma composed (g : Aggregator) (plugins : List (String × Plugin)) (operation : Operation) :
    Composed g.client (operation.discipline plugins) (fun _ => True) (operation.program g) := by
  have hdone : ∀ {α : Type} {P : α → Prop} {x : FlowProgram α},
      Composed g.client (operation.discipline plugins) P x →
        Composed g.client (operation.discipline plugins) (fun _ => True)
          (x.bind fun _ => .done ()) :=
    fun h => h.bind fun _ _ => .done () trivial
  have hquiet : ∀ action : FlowAction, action.isSend = false → action.keepsToken = false →
      (operation.discipline plugins).Quiet action := fun _ _ h => h
  have hflow : operation.isFlow = true →
      Composed g.client (operation.discipline plugins) (fun _ => True) (operation.program g) := by
    intro h
    have hwoven : Woven g.client (· ∈ plugins.map Prod.snd) (operation.program g) := woven g h
    refine Composed.of_woven (fun _ h => h) ?_ ?_ hwoven
    · intro id plugin hplugin
      exact hplugin plugin rfl
    · intro plugin hmem htoken
      exact mayLogIn_of_isFlow h hmem htoken
  cases operation with
  | contact context r => exact hdone (Composed.converse_contact hquiet fun _ _ => rfl)
  | contactWithRetry context r =>
    exact hdone (Composed.converse_contactWithRetry hquiet (fun _ _ _ => rfl) fun h => ⟨rfl, h⟩)
  | retryAfterReauth context r failure =>
    exact hdone (Composed.converse_retryAfterReauth hquiet (fun _ _ _ => rfl) fun h => ⟨rfl, h⟩)
  | authorize r => exact hdone (Composed.converse_authorize hquiet fun h => ⟨rfl, h⟩)
  | getToken plugin => exact hdone (Composed.converse_getToken hquiet rfl)
  | login plugin => exact hdone (Composed.converse_login rfl)
  | _ => exact hflow rfl

end Operation

/-! ## The tokens kept after a history -/

/-- The tokens kept after an event. -/
def keepEvent (tokens : List (String × String)) : FlowEvent → List (String × String)
  | ⟨.contact (.storeToken id token), _⟩ => Keyed.put id token tokens
  | _ => tokens

/-- The tokens kept after a login that brought a token or none. -/
def keepLogin (tokens : List (String × String)) (login : Plugin × Option String) :
    List (String × String) :=
  match login.2 with
  | some token => Keyed.put login.1.id token tokens
  | none => tokens

/-- The token of the last login that brought one for a plugin of the name given. -/
def lastToken (id : String) (logins : List (Plugin × Option String)) : Option String :=
  logins.reverse.findSome? fun login => if login.1.id = id then login.2 else none

/-- What an action does to the tokens kept. -/
lemma tokens_handle (action : FlowAction) (w : World) :
    (World.handle action w).2.network.tokens =
      keepEvent w.network.tokens ⟨action, (World.handle action w).1⟩ := by
  cases action with
  | contact action =>
    cases action with
    | sendWithin limit plugin call =>
      simp only [World.handle, Rehearsal.handle, keepEvent]
      split <;> rfl
    | send plugin call => rfl
    | wait duration => rfl
    | checkHealth plugin => rfl
    | recallToken id => rfl
    | storeToken id token => rfl
  | findTarget uuid => rfl
  | findPlugin id => rfl
  | findResource table url => rfl
  | storeResource table url record => rfl
  | now => rfl

/-- The tokens kept after a run are those that its history keeps. -/
lemma tokens_run {α : Type} (x : FlowProgram α) (w : World) :
    (x.run World.handle w).2.network.tokens =
      (x.history World.handle w).foldl keepEvent w.network.tokens := by
  induction x generalizing w with
  | done a => rfl
  | ask action next ih =>
    have h := ih (World.handle action w).1 (World.handle action w).2
    rw [tokens_handle] at h
    exact h

/-- An event that keeps no token leaves the tokens alone. -/
lemma keepEvent_of_not {event : FlowEvent} (h : event.1.keepsToken = false)
    (tokens : List (String × String)) : keepEvent tokens event = tokens := by
  unfold keepEvent
  split
  · cases h
  · rfl

/-- No event of an exchange keeps a token. -/
lemma Exchange.foldl_keepEvent {plugin : Plugin} {call : Call} {events : List Event}
    {answer : Except SendFailure Response} (h : Exchange plugin call events answer)
    (tokens : List (String × String)) :
    (events.map Event.inFlow).foldl keepEvent tokens = tokens := by
  cases h <;> rfl

/-- No event of a phase keeps a token. -/
lemma Phase.foldl_keepEvent {scheme : String} {plugin : Plugin} {path : String} {draft : Url → Call}
    {events : List Event} {ending : Ending} (h : Phase scheme plugin path draft events ending)
    (tokens : List (String × String)) :
    (events.map Event.inFlow).foldl keepEvent tokens = tokens := by
  cases h with
  | unsent fault hurl => rfl
  | exchanged url hurl events answer hexchange => exact hexchange.foldl_keepEvent tokens

/-- The events of a login keep the token that it brought. -/
lemma Login.foldl_keepEvent {c : Client} {plugin : Plugin} {events : List Event}
    {token? : Option String} (h : Login c plugin events token?) (tokens : List (String × String)) :
    (events.map Event.inFlow).foldl keepEvent tokens = keepLogin tokens (plugin, token?) := by
  cases h with
  | issued events ending hphase token hissued =>
    rw [List.map_append, List.foldl_append, hphase.foldl_keepEvent]
    rfl
  | failed events ending hphase hnone => exact hphase.foldl_keepEvent tokens

/-- In a history that keeps tokens by logins only, the logins say what is kept. -/
lemma Punctuated.foldl_keepEvent {c : Client} {D : Discipline}
    (hquiet : ∀ action, D.Quiet action → action.keepsToken = false) {events : List FlowEvent}
    {logins : List (Plugin × Option String)} (h : Punctuated c D events logins)
    (tokens : List (String × String)) :
    events.foldl keepEvent tokens = logins.foldl keepLogin tokens := by
  induction h generalizing tokens with
  | nil => rfl
  | quiet event hevent _ ih => rw [List.foldl_cons, keepEvent_of_not (hquiet _ hevent), ih]
  | login plugin hwho events token? hlogin _ ih =>
    rw [List.foldl_append, hlogin.foldl_keepEvent, List.foldl_cons, ih]

/-- The plugins of the logins of a punctuated history are those given. -/
lemma Punctuated.forall_logins {c : Client} {D : Discipline} {events : List FlowEvent}
    {logins : List (Plugin × Option String)} (h : Punctuated c D events logins) :
    ∀ login ∈ logins, D.Who login.1 := by
  induction h with
  | nil => exact nofun
  | quiet _ _ _ ih => exact ih
  | login plugin hwho _ _ _ _ ih =>
    rintro login (_ | ⟨_, hlogin⟩)
    · exact hwho
    · exact ih login hlogin

/-- The last token of some logins, of which one comes first. -/
lemma lastToken_cons (id : String) (login : Plugin × Option String)
    (logins : List (Plugin × Option String)) :
    lastToken id (login :: logins) =
      (lastToken id logins).or (if login.1.id = id then login.2 else none) := by
  simp [lastToken, List.findSome?_append]

/-- The last token of logins in two stretches. -/
lemma lastToken_append (id : String) (earlier later : List (Plugin × Option String)) :
    lastToken id (earlier ++ later) = (lastToken id later).or (lastToken id earlier) := by
  simp [lastToken, List.findSome?_append]

/-- What is kept for a name after some logins: the token of the last of them that brought one, or
what was kept before. -/
lemma lookup_foldl_keepLogin (id : String) (logins : List (Plugin × Option String))
    (tokens : List (String × String)) :
    (logins.foldl keepLogin tokens).lookup id = (lastToken id logins).or (tokens.lookup id) := by
  induction logins generalizing tokens with
  | nil => rfl
  | cons login rest ih =>
    have hfirst : (keepLogin tokens login).lookup id =
        (if login.1.id = id then login.2 else none).or (tokens.lookup id) := by
      obtain ⟨plugin, token?⟩ := login
      cases token? with
      | none => simp [keepLogin]
      | some token =>
        by_cases hid : plugin.id = id
        · subst hid
          simp [keepLogin, Keyed.lookup_put_self]
        · simp [keepLogin, hid, Keyed.lookup_put_of_ne (Ne.symm hid)]
    rw [List.foldl_cons, ih, hfirst, lastToken_cons, Option.or_assoc]

/-- Logins that brought no token change nothing. -/
lemma foldl_keepLogin_of_failed {logins : List (Plugin × Option String)}
    (h : ∀ login ∈ logins, login.2 = none) (tokens : List (String × String)) :
    logins.foldl keepLogin tokens = tokens := by
  induction logins with
  | nil => rfl
  | cons login rest ih =>
    have hfirst : login.2 = none := h login List.mem_cons_self
    rw [List.foldl_cons, keepLogin, hfirst]
    exact ih fun l hl => h l (List.mem_cons_of_mem _ hl)

/-! ## Runs -/

/-- The world after an operation. -/
def Operation.perform (g : Aggregator) (operation : Operation) (w : World) : World :=
  ((operation.program g).run World.handle w).2

/-- The world after operations one after another. -/
def performAll (w : World) (steps : List (Aggregator × Operation)) : World :=
  steps.foldl (fun w step => step.2.perform step.1 w) w

/-- What one operation does to the tokens kept, by the logins among its actions. -/
structure TokenStep (g : Aggregator) (operation : Operation) (w w' : World)
    (logins : List (Plugin × Option String)) : Prop where
  /-- The logins are those of the operation's history, in which a token is kept nowhere else. -/
  history : Punctuated g.client (operation.discipline w.inventory.plugins)
    ((operation.program g).history World.handle w) logins
  /-- Only a session that was asked for may be one with a plugin without tokens. -/
  plugins : ∀ login ∈ logins, operation.MayLogIn w.inventory.plugins login.1
  /-- A login that is asked for is made, once. -/
  asked : ∀ plugin, operation = .login plugin → logins.map Prod.fst = [plugin]
  /-- What is kept under a name is the token of the last login there that brought one, and
  otherwise what was kept before. -/
  kept : ∀ id, w'.network.tokens.lookup id =
    (lastToken id logins).or (w.network.tokens.lookup id)
  /-- No entry is removed. -/
  remains : ∀ id, (w.network.tokens.lookup id).isSome → (w'.network.tokens.lookup id).isSome
  /-- Failed logins change nothing at all. -/
  failed : (∀ login ∈ logins, login.2 = none) → w'.network.tokens = w.network.tokens

/-- A run of operations, with the logins in each. -/
inductive TokenRun : World → List (Aggregator × Operation) →
    List (List (Plugin × Option String)) → World → Prop
  /-- The run is over. -/
  | nil (w : World) : TokenRun w [] [] w
  /-- An operation comes first. -/
  | cons (g : Aggregator) (operation : Operation) {w w' : World}
      {steps : List (Aggregator × Operation)} {logins : List (Plugin × Option String)}
      {later : List (List (Plugin × Option String))}
      (h : TokenStep g operation w (operation.perform g w) logins)
      (hrest : TokenRun (operation.perform g w) steps later w') :
    TokenRun w ((g, operation) :: steps) (logins :: later) w'

/-- Only plugins of the inventory are found. -/
lemma mem_of_findPlugin {i : Inventory} {id : String} {plugin : Plugin}
    (h : i.findPlugin id = .ok plugin) : plugin ∈ i.plugins.map Prod.snd := by
  unfold Inventory.findPlugin at h
  split at h
  · next p hp =>
    obtain rfl := Except.ok.inj h
    obtain ⟨earlier, later, hplugins, -⟩ := List.lookup_eq_some_iff.mp hp
    simp [hplugins]
  · cases h

/-- The plugins of the inventory stay as they are. -/
lemma plugins_handle (action : FlowAction) (w : World) :
    (World.handle action w).2.inventory.plugins = w.inventory.plugins := by
  cases action with
  | storeResource table url record =>
    simp only [World.handle, Inventory.storeResource]
    split <;> rfl
  | contact action => rfl
  | findTarget uuid => rfl
  | findPlugin id => rfl
  | findResource table url => rfl
  | now => rfl

/-- The history of an operation is punctuated by its logins, and a login that is asked for is the
only one. -/
lemma Operation.exists_punctuated (g : Aggregator) (operation : Operation) (w : World) :
    ∃ logins, Punctuated g.client (operation.discipline w.inventory.plugins)
        ((operation.program g).history World.handle w) logins ∧
      ∀ plugin, operation = .login plugin → logins.map Prod.fst = [plugin] := by
  by_cases hlogin : ∃ plugin, operation = .login plugin
  · obtain ⟨plugin, rfl⟩ := hlogin
    have hpunctuated := Punctuated.login
      (D := (Operation.login plugin).discipline w.inventory.plugins) plugin rfl _ _
      (login_login (withinFlow World.handle) g.client plugin w) .nil
    refine ⟨[(plugin, ((g.client.login plugin).run (withinFlow World.handle) w).1)], ?_, ?_⟩
    · rw [← history_converse] at hpunctuated
      simpa only [Operation.program, Program.history_bind, Program.history_done] using hpunctuated
    · rintro plugin' h
      cases h
      rfl
  · have hanswer (action : FlowAction) (w' : World)
        (hw' : w'.inventory.plugins = w.inventory.plugins) :
        (operation.discipline w.inventory.plugins).Known action (World.handle action w').1 := by
      cases action with
      | findPlugin id => exact fun plugin h => hw' ▸ mem_of_findPlugin h
      | _ => trivial
    obtain ⟨logins, hpunctuated⟩ := (operation.composed g w.inventory.plugins).punctuated _ hanswer
      (fun action w' hw' => (plugins_handle action w').trans hw') rfl
    exact ⟨logins, hpunctuated, fun plugin h => absurd ⟨plugin, h⟩ hlogin⟩

/-- An operation keeps tokens as its logins say. -/
lemma exists_tokenStep (g : Aggregator) (operation : Operation) (w : World) :
    ∃ logins, TokenStep g operation w (operation.perform g w) logins := by
  obtain ⟨logins, hhistory, hasked⟩ := operation.exists_punctuated g w
  have htokens : (operation.perform g w).network.tokens =
      logins.foldl keepLogin w.network.tokens := by
    rw [Operation.perform, tokens_run, hhistory.foldl_keepEvent fun _ h => h]
  have hkept (id : String) : (operation.perform g w).network.tokens.lookup id =
      (lastToken id logins).or (w.network.tokens.lookup id) := by
    rw [htokens, lookup_foldl_keepLogin]
  refine ⟨logins, hhistory, hhistory.forall_logins, hasked, hkept, ?_, ?_⟩
  · intro id hid
    rw [hkept, Option.isSome_or, hid, Bool.or_true]
  · intro hfailed
    rw [htokens, foldl_keepLogin_of_failed hfailed]

/-- In a run of operations, from any kept tokens and against any answers, a token is kept only by a
login that brought it: each operation changes the entries of the plugins that it logged in to, and
in the end the token of the last such login of the run is kept for a name, or what was kept at the
start if there was none. -/
theorem run_tokens (w : World) (steps : List (Aggregator × Operation)) :
    ∃ logins, TokenRun w steps logins (performAll w steps) ∧
      (∀ id, (performAll w steps).network.tokens.lookup id =
        (lastToken id logins.flatten).or (w.network.tokens.lookup id)) := by
  induction steps generalizing w with
  | nil => exact ⟨[], .nil w, fun id => rfl⟩
  | cons step rest ih =>
    obtain ⟨g, operation⟩ := step
    obtain ⟨logins, hstep⟩ := exists_tokenStep g operation w
    obtain ⟨later, hrun, hkept⟩ := ih (operation.perform g w)
    refine ⟨logins :: later, .cons g operation hstep hrun, fun id => ?_⟩
    calc (performAll w ((g, operation) :: rest)).network.tokens.lookup id
        = (lastToken id later.flatten).or
            ((operation.perform g w).network.tokens.lookup id) := hkept id
      _ = (lastToken id later.flatten).or
            ((lastToken id logins).or (w.network.tokens.lookup id)) := by rw [hstep.kept]
      _ = (lastToken id (logins :: later).flatten).or (w.network.tokens.lookup id) := by
          rw [List.flatten_cons, lastToken_append, Option.or_assoc]

end PluginGateway
