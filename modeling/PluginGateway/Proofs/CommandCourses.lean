import PluginGateway.Proofs.Decisions
import PluginGateway.Proofs.DeviceConduct

/-!
# The courses of commands

A command looks up what it is about, asks the plugin, and reports. `Command.Course` goes through the
ways in which this can happen and says of each what decides how the command ends: what is said about
the request, a look-up, a login, the probe, or the contact with the plugin.

The main statement, `Command.Course.unique`, says that what happened leaves one decision.
-/

namespace PluginGateway

/-! ## The courses -/

/-- No request can be made of what is said about it: the method is none, or the document is none. -/
def RequestOptions.Unreadable (o : RequestOptions) : Prop :=
  Method.ofName? (String.ofList (Text.upperAscii o.method.toList)) = none ∨
    ∃ data e, o.data = some data ∧ Json.parse data = .error e

/-- A course that begins with what is said about a request. -/
inductive WithOptions (o : RequestOptions)
    (Course : Method → Option Json → List FlowEvent → Decision → Prop) :
    List FlowEvent → Decision → Prop
  /-- No request can be made of it: nothing is done. -/
  | unreadable (h : o.Unreadable) : WithOptions o Course [] .hindered
  /-- A request is made of it. -/
  | readable (method : Method) (body : Option Json) (h : o.read = .ok (method, body))
      (events : List FlowEvent) (decision : Decision)
      (hcourse : Course method body events decision) : WithOptions o Course events decision

/-- A course that begins with the look-up of a device. -/
inductive WithTarget (uuid : String) (Course : Target → List FlowEvent → Decision → Prop) :
    List FlowEvent → Decision → Prop
  /-- The device is not known. -/
  | unknown :
      WithTarget uuid Course [⟨.findTarget uuid, .error (.notFound "Target" uuid)⟩] .hindered
  /-- The device is known. -/
  | known (target : Target) (events : List FlowEvent) (decision : Decision)
      (hcourse : Course target events decision) :
    WithTarget uuid Course (⟨.findTarget uuid, .ok target⟩ :: events) decision

/-- A course that begins with the look-up of a plugin, to which all that follows is addressed. -/
inductive WithPlugin (id : String) (Course : Plugin → List Event → Decision → Prop) :
    List FlowEvent → Decision → Prop
  /-- The plugin is not known. -/
  | unknown : WithPlugin id Course [⟨.findPlugin id, .error (.notFound "Plugin" id)⟩] .hindered
  /-- The plugin is known. -/
  | known (plugin : Plugin) (events : List Event) (decision : Decision)
      (hcourse : Course plugin events decision) :
    WithPlugin id Course (⟨.findPlugin id, .ok plugin⟩ :: events.map Event.inFlow) decision

/-- The course of creating a session with a plugin. -/
inductive LoginCourse (c : Client) (id : String) (plugin : Plugin) : List Event → Decision → Prop
  /-- The login brings a token. -/
  | created (events : List Event) (token : String) (h : Login c plugin events (some token)) :
    LoginCourse c id plugin events
      (.success ("Session created with plugin " ++ id ++ " (token cached)\n"))
  /-- The login brings none. -/
  | failed (events : List Event) (h : Login c plugin events none) :
    LoginCourse c id plugin events (.noSession plugin.id)

/-- The course of asking a plugin whether it is alive. -/
inductive StatusCourse (id : String) (plugin : Plugin) : List Event → Decision → Prop
  /-- The probe finds the plugin alive. -/
  | alive : StatusCourse id plugin [.checked plugin true] (.success (id ++ ": alive\n"))
  /-- The probe finds the plugin down. -/
  | down : StatusCourse id plugin [.checked plugin false] (.down plugin.id)

/-- The course of a request for a device, once the device and its plugin are known: an authorised
contact, with the links of the device qualified in what is printed. -/
def DeviceCourse (g : Aggregator) (r : DeviceRequest) (target : Target) (plugin : Plugin)
    (events : List Event) (decision : Decision) : Prop :=
  ∃ password, g.Decrypts target password ∧ Decided g.client (r.forPlugin plugin target password)
    (fun body => printed (String.ofList (Path.qualifyLinks r.uuid.toList (Text.lossy body).toList)))
    events decision

/-- What happens when a command is carried out, and what decides how it ends. -/
def Command.Course (g : Aggregator) : Command → List FlowEvent → Decision → Prop
  | login id => WithPlugin id (LoginCourse g.client id)
  | status id => WithPlugin id (StatusCourse id)
  | contact id path o => WithOptions o fun method body => WithPlugin id fun plugin =>
    Decided g.client { plugin, method, resource := path, body } fun body =>
      printed (Text.lossy body)
  | device uuid url o => WithOptions o fun method body => WithTarget uuid fun target =>
    WithPlugin target.pluginId (DeviceCourse g { uuid, url, method, body } target)
  | configPath => fun _ _ => False

/-! ## One decision for each course -/

/-- Events of a conversation are told apart within a flow. -/
lemma Event.inFlow_injective : Function.Injective Event.inFlow := by
  rintro ⟨action, answer⟩ ⟨action', answer'⟩ h
  cases h
  rfl

section Unique

variable {events : List FlowEvent} {decision decision' : Decision}

/-- What is said about a request either can be read or cannot. -/
lemma RequestOptions.not_unreadable {o : RequestOptions} {method : Method} {body : Option Json}
    (h : o.read = .ok (method, body)) : ¬o.Unreadable := by
  rintro (hmethod | ⟨data, e, hdata, hparse⟩)
  · simp [read, hmethod] at h
  · unfold read at h
    split at h
    · cases h
    · simp [hdata, hparse] at h

/-- Courses that leave one decision do so behind what is said about a request. -/
lemma WithOptions.unique {o : RequestOptions}
    {Course : Method → Option Json → List FlowEvent → Decision → Prop}
    (h : WithOptions o Course events decision) (h' : WithOptions o Course events decision')
    (hunique : ∀ method body events, Course method body events decision →
      Course method body events decision' → decision = decision') :
    decision = decision' := by
  cases h with
  | unreadable h =>
    cases h' with
    | unreadable => rfl
    | readable method body hread => exact absurd h (RequestOptions.not_unreadable hread)
  | readable method body hread _ _ hcourse =>
    cases h' with
    | unreadable h => exact absurd h (RequestOptions.not_unreadable hread)
    | readable method' body' hread' _ _ hcourse' =>
      rw [hread] at hread'
      cases hread'
      exact hunique _ _ _ hcourse hcourse'

/-- Courses that leave one decision do so behind the look-up of a device. -/
lemma WithTarget.unique {uuid : String} {Course : Target → List FlowEvent → Decision → Prop}
    (h : WithTarget uuid Course events decision) (h' : WithTarget uuid Course events decision')
    (hunique : ∀ target events, Course target events decision → Course target events decision' →
      decision = decision') : decision = decision' := by
  cases h with
  | unknown =>
    cases h' with
    | unknown => rfl
  | known target events _ hcourse =>
    cases h' with
    | known _ _ _ hcourse' => exact hunique _ _ hcourse hcourse'

/-- Courses that leave one decision do so behind the look-up of a plugin. -/
lemma WithPlugin.unique {id : String} {Course : Plugin → List Event → Decision → Prop}
    (h : WithPlugin id Course events decision) (h' : WithPlugin id Course events decision')
    (hunique : ∀ plugin events, Course plugin events decision → Course plugin events decision' →
      decision = decision') : decision = decision' := by
  generalize hevents : events = events' at h'
  cases h with
  | unknown =>
    cases h' with
    | unknown => rfl
    | known => cases (List.cons.inj hevents).1
  | known plugin events _ hcourse =>
    cases h' with
    | unknown => cases (List.cons.inj hevents).1
    | known plugin' events' _ hcourse' =>
      obtain ⟨hfound, hrest⟩ := List.cons.inj hevents
      obtain rfl := Event.inFlow_injective.list_map hrest
      cases hfound
      exact hunique _ _ hcourse hcourse'

/-- A login leaves one decision. -/
lemma LoginCourse.unique {c : Client} {id : String} {plugin : Plugin} {events : List Event}
    (h : LoginCourse c id plugin events decision) (h' : LoginCourse c id plugin events decision') :
    decision = decision' := by
  cases h with
  | created token hlogin =>
    cases h' with
    | created => rfl
    | failed hlogin' => cases (hlogin.unique hlogin' (rfl : events ++ [] = events ++ [])).1
  | failed hlogin =>
    cases h' with
    | created token hlogin' => cases (hlogin.unique hlogin' (rfl : events ++ [] = events ++ [])).1
    | failed => rfl

/-- A look at the status leaves one decision. -/
lemma StatusCourse.unique {id : String} {plugin : Plugin} {events : List Event}
    (h : StatusCourse id plugin events decision) (h' : StatusCourse id plugin events decision') :
    decision = decision' := by
  generalize hevents : events = events' at h'
  cases h <;> cases h' <;> first | rfl | cases Event.checked_inj.mp (List.cons.inj hevents).1

/-- A request for a device leaves one decision. -/
lemma DeviceCourse.unique {g : Aggregator} {r : DeviceRequest} {target : Target} {plugin : Plugin}
    {events : List Event} (h : DeviceCourse g r target plugin events decision)
    (h' : DeviceCourse g r target plugin events decision') : decision = decision' := by
  obtain ⟨password, hpassword, hdecided⟩ := h
  obtain ⟨password', hpassword', hdecided'⟩ := h'
  have hsame := devicePassword_of_decrypts hpassword
  rw [devicePassword_of_decrypts hpassword'] at hsame
  cases hsame
  exact hdecided.unique hdecided' rfl

/-- What happened leaves one decision. -/
theorem Command.Course.unique {g : Aggregator} {command : Command}
    (h : command.Course g events decision) (h' : command.Course g events decision') :
    decision = decision' := by
  cases command with
  | login id => exact WithPlugin.unique h h' fun _ _ => LoginCourse.unique
  | status id => exact WithPlugin.unique h h' fun _ _ => StatusCourse.unique
  | contact id path o =>
    refine WithOptions.unique h h' fun method body events h h' => ?_
    exact WithPlugin.unique h h' fun _ _ h h' => h.unique h' rfl
  | device uuid url o =>
    refine WithOptions.unique h h' fun method body events h h' => ?_
    refine WithTarget.unique h h' fun target events h h' => ?_
    exact WithPlugin.unique h h' fun _ _ => DeviceCourse.unique
  | configPath => exact h.elim

end Unique

end PluginGateway
