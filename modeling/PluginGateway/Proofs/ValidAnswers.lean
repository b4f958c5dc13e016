import PluginGateway.Proofs.Composed
import PluginGateway.Proofs.Respelled
import PluginGateway.Resource.Rehearsal

/-!
# Valid documents stay valid

What a plugin answers is a document; what the aggregator makes of it by putting paths into its own
form, qualifying the links of a device, and moving an account service below a manager is still a
document, and has the same tokens but for the contents of strings. So a flow that reads the answer
of a device as a document does not fail there, if the device answered a document.

Identifiers are put into strings as they are, so their characters must need no escape. Characters
that end no run and are no control characters are such (`Path.unescaped_of_endsRun`).
-/

namespace PluginGateway

open PluginGateway.Path PluginGateway.Json

/-! ## The rewrites -/

/-- The second text is a document with the tokens of the first one but for the contents of strings:
its numbers, literals, brackets and separators are written as they were. -/
structure SameTokens (text text' : String) : Prop where
  /-- Outside of strings the texts are the same, character by character. -/
  respelled : Respelled text.toList text'.toList
  /-- The tokens that are read are the same but for the contents of strings. -/
  outline_eq : outline text'.toList = outline text.toList
  /-- The second text is a document. -/
  document : ∃ v, Json.parse text' = .ok v

/-- A respelling of a document has its tokens. -/
lemma sameTokens_of_respelled {text text' : String} (h : Respelled text.toList text'.toList)
    {v : Json} (hv : Json.parse text = .ok v) : SameTokens text text' :=
  have houtline := h.outline_eq (none_not_mem_of_ofLexemes (parse_eq_ok.mp hv))
  ⟨h, houtline, exists_parse_of_outline houtline hv⟩

/-- A document is respelled by itself. -/
lemma respelled_of_parse {text : String} {v : Json} (h : Json.parse text = .ok v) :
    Respelled text.toList text.toList :=
  respelled_self (none_not_mem_of_ofLexemes (parse_eq_ok.mp h))

/-- The default rule for answers. -/
lemma harmless_standard : Harmless Conversion.standard.north.replace? := by
  refine harmless_table fun r hr => ?_
  have hrules : Conversion.standard.north.rules =
      [⟨"ODIM".toList, [], ["redfish".toList]⟩] := by decide
  rw [hrules, List.mem_singleton] at hr
  subst hr
  exact ⟨by simp [BeginsEscape], by decide, by decide⟩

/-- The rule that moves an account service below a manager. -/
def accountRule (managerId : String) : Rule :=
  ⟨"v1".toList, ["AccountService".toList],
    properSegments ("v1/Managers/" ++ managerId ++ "/" ++ remoteAccountService).toList⟩

/-- The account service is moved by its rule. -/
lemma toRemoteAccountService_toList (managerId text : String) :
    (toRemoteAccountService managerId text).toList =
      replaceRuns (Table.replace? ⟨[accountRule managerId]⟩) text.toList := by
  rw [toRemoteAccountService, String.toList_ofList]
  rfl

/-- The rule that moves an account service is harmless, if the identifier of the manager is. -/
lemma harmless_account {managerId : String} (h : IsPlain managerId.toList) :
    Harmless (Table.replace? ⟨[accountRule managerId]⟩) := by
  refine harmless_table fun r hr => ?_
  rw [List.mem_singleton] at hr
  subst hr
  have htext : ("v1/Managers/" ++ managerId ++ "/" ++ remoteAccountService).toList =
      "v1/Managers/".toList ++ managerId.toList ++ "/RemoteAccountService".toList := by
    simp [remoteAccountService]
  refine ⟨by simp [accountRule, BeginsEscape], ?_, fun s hs c hc => ?_⟩
  · have hfirst : properSegments ("v1".toList ++
        '/' :: ("Managers/".toList ++ managerId.toList ++ "/RemoteAccountService".toList)) =
        "v1".toList :: properSegments
          ("Managers/".toList ++ managerId.toList ++ "/RemoteAccountService".toList) := by
      rw [properSegments, segments, Text.split_append_cons (by decide)]
      rfl
    rw [accountRule, htext]
    exact hfirst ▸ List.cons_ne_nil _ _
  · have hmem := mem_of_mem_segments (List.mem_of_mem_filter hs) hc
    rw [htext] at hmem
    rcases List.mem_append.mp hmem with hmem | hmem
    · rcases List.mem_append.mp hmem with hmem | hmem
      · have hfixed : IsPlain "v1/Managers/".toList := by decide
        exact hfixed c hmem
      · exact h c hmem
    · have hfixed : IsPlain "/RemoteAccountService".toList := by decide
      exact hfixed c hmem

/-- A body that is a document is a text that is a document. -/
lemma exists_text_of_parseBytes {body : ByteArray} {v : Json} (h : Json.parseBytes body = .ok v) :
    ∃ text, String.fromUTF8? body = some text ∧ Json.parse text = .ok v := by
  unfold Json.parseBytes at h
  split at h
  · next text htext => exact ⟨text, htext, h⟩
  · cases h

/-- What becomes of a plugin's body as an answer for a device, and of that as an answer for a
manager's account service. -/
theorem sameTokens_of_parseBytes {body : ByteArray} {v : Json} (h : Json.parseBytes body = .ok v)
    {uuid managerId : String} (huuid : IsPlain uuid.toList)
    (hmanager : IsPlain managerId.toList) :
    (∃ v', Json.parseBytes (Conversion.standard.northBody body) = .ok v') ∧
      SameTokens (Text.lossy body) (Text.lossy (Conversion.standard.northBody body)) ∧
      SameTokens (Text.lossy body) (String.ofList (qualifyLinks uuid.toList
        (Text.lossy (Conversion.standard.northBody body)).toList)) ∧
      SameTokens (Text.lossy body) (toRemoteAccountService managerId
        (String.ofList (qualifyLinks uuid.toList
          (Text.lossy (Conversion.standard.northBody body)).toList))) := by
  obtain ⟨text, htext, hparse⟩ := exists_text_of_parseBytes h
  have hnorth := fromUTF8?_northBody Conversion.standard htext
  rw [lossy_of_fromUTF8? htext, lossy_of_fromUTF8? hnorth, String.toList_ofList]
  have hconverted := (respelled_of_parse hparse).replaceRuns harmless_standard
  have hqualified := hconverted.replaceRuns (harmless_qualifyPath? huuid)
  have hmoved := hqualified.replaceRuns (harmless_account hmanager)
  have hsame {chars : List Char} (hchars : Respelled text.toList chars) :
      SameTokens text (String.ofList chars) := by
    refine sameTokens_of_respelled ?_ hparse
    rwa [String.toList_ofList]
  refine ⟨?_, hsame hconverted, hsame hqualified, ?_⟩
  · obtain ⟨v', hv'⟩ := (hsame hconverted).document
    exact ⟨v', by rw [Json.parseBytes, hnorth]; exact hv'⟩
  · have haccount := toRemoteAccountService_toList managerId (String.ofList
      (replaceRuns (qualifyPath? uuid.toList)
        (replaceRuns Conversion.standard.north.replace? text.toList)))
    rw [String.toList_ofList] at haccount
    refine sameTokens_of_respelled ?_ hparse
    rw [qualifyLinks, haccount]
    exact hmoved

/-! ## Flows that read answers -/

/-- If the event is a response to a call for a device and reports success, it is a document. -/
def ValidAnswer (event : FlowEvent) : Prop :=
  ∀ plugin call response, event = ⟨.contact (.send plugin call), .ok response⟩ →
    call.IsForDevice → response.isSuccess = true → ∃ v, Json.parseBytes response.body = .ok v

/-- Devices answer documents. -/
def validAnswers : Discipline where
  Quiet _ := True
  Who _ := True
  Known action answer := ValidAnswer ⟨action, answer⟩

/-- The text is what is made of a document as an answer for a device. -/
def FromDocument (uuid text : String) : Prop :=
  ∃ body v, Json.parseBytes body = .ok v ∧
    text = String.ofList (qualifyLinks uuid.toList
      (Text.lossy (Conversion.standard.northBody body)).toList)

section Flows

variable {g : Aggregator} (hg : g.client.conversion = .standard)

include hg

/-- What is answered to a request for a device is made of a document. -/
lemma composed_deviceRequest (r : DeviceRequest) :
    Composed g.client validAnswers (OnSuccess fun answer => FromDocument r.uuid answer.body)
      (g.deviceRequest r).run := by
  have hcomposed := Composed.flow_deviceRequest (g := g) (D := validAnswers) (r := r)
    (fun _ _ _ => trivial) (fun _ _ _ _ => trivial) fun _ _ _ _ _ _ => trivial
  refine hcomposed.mono fun result hresult answer hanswer => ?_
  obtain ⟨plugin, call, response, hdevice, hknown, hsuccess, rfl⟩ := hresult answer hanswer
  obtain ⟨v, hv⟩ := hknown plugin call response rfl hdevice hsuccess
  exact ⟨response.body, v, hv, by rw [hg]⟩

/-- The text of a resource of a device is made of a document. -/
lemma composed_deviceText (uuid url : String) :
    Composed g.client validAnswers (OnSuccess (FromDocument uuid)) (g.deviceText uuid url).run :=
  Composed.flow_bind (composed_deviceRequest hg { uuid, url }) fun _ hanswer =>
    Composed.flow_done fun _ h => Except.ok.inj h ▸ hanswer

end Flows

variable {α β σ : Type} {handle : (action : FlowAction) → σ → action.Answer × σ}

/-- The identifier of a device is part of that of its manager. -/
lemma mem_of_deviceOfManager {managerId uuid : String}
    (h : deviceOfManager managerId = .ok uuid) {c : Char} (hc : c ∈ uuid.toList) :
    c ∈ managerId.toList := by
  unfold deviceOfManager splitManagerId? at h
  simp only at h
  split at h
  · next hsplit =>
    split at hsplit
    · cases hsplit
      cases h
      rw [String.toList_ofList] at hc
      exact (List.takeWhile_prefix _).subset hc
    · cases hsplit
  · cases h

/-- What is made of a document as an answer for a device is a document, below a manager, too. -/
lemma exists_parse_of_fromDocument {uuid text : String} (h : FromDocument uuid text)
    (huuid : IsPlain uuid.toList) :
    (∃ v, Json.parse text = .ok v) ∧
      ∀ managerId : String, (IsPlain managerId.toList) →
        ∃ v, Json.parse (toRemoteAccountService managerId text) = .ok v := by
  obtain ⟨body, v, hbody, rfl⟩ := h
  refine ⟨?_, fun managerId hmanager => ?_⟩
  · obtain ⟨-, -, hdevice, -⟩ := sameTokens_of_parseBytes hbody huuid huuid
    exact hdevice.document
  · obtain ⟨-, -, -, haccount⟩ := sameTokens_of_parseBytes hbody huuid hmanager
    exact haccount.document

/-- A media resource is read back if its text is made of a document. -/
lemma run_refreshMedia {g : Aggregator} {uuid url text : String} {s s' : σ}
    (htext : (g.deviceText uuid url).run.run handle s = (.ok text, s'))
    (hparse : ∃ v, Json.parse text = .ok v) :
    ∃ record, (g.refreshMedia uuid url).run.run handle s =
      handle (.storeResource virtualMediaTable url record) s' := by
  obtain ⟨record, hrecord⟩ := hparse
  refine ⟨record, ?_⟩
  rw [Aggregator.refreshMedia, run_flow_bind htext, hrecord]
  rfl

/-- The device of a manager is found without asking for anything. -/
lemma run_deviceOfManager {managerId owner : String} (h : deviceOfManager managerId = .ok owner)
    (s : σ) :
    (ExceptT.mk (.done (deviceOfManager managerId)) : Flow String).run.run handle s =
      (.ok owner, s) := congrArg (·, s) h

/-- An account is read if its text is made of a document. -/
lemma run_readRemoteAccount {g : Aggregator} {managerId owner url text : String} {s s' : σ}
    (howner : deviceOfManager managerId = .ok owner)
    (htext : (g.accountText managerId owner url).run.run handle s = (.ok text, s'))
    (hparse : ∃ v, Json.parse (toRemoteAccountService managerId text) = .ok v) :
    ∃ v, (g.readRemoteAccount managerId url).run.run handle s = (.ok v, s') := by
  obtain ⟨v, hv⟩ := hparse
  refine ⟨v, ?_⟩
  rw [Aggregator.readRemoteAccount, run_flow_bind (run_deviceOfManager howner s),
    run_flow_bind htext, hv]
  rfl

/-- Valid documents stay valid. Let the characters of a device's and a manager's identifier need no
escape. If a plugin's body is a document, then so are the body with its paths in the aggregator's
form, that with the links of the device qualified, and that with the account service moved below the
manager; and all have the tokens of the body but for the contents of strings, outside of which not a
character changes. So whatever the surroundings do, as long as devices answer documents an answer for
the device is a document, a media resource that was read is stored, and an account that was read is
answered. -/
theorem valid_documents_stay_valid {uuid managerId : String}
    (huuid : IsPlain uuid.toList) (hmanager : IsPlain managerId.toList) :
    (∀ body v, Json.parseBytes body = .ok v →
      (∃ v', Json.parseBytes (Conversion.standard.northBody body) = .ok v') ∧
      SameTokens (Text.lossy body) (Text.lossy (Conversion.standard.northBody body)) ∧
      SameTokens (Text.lossy body) (String.ofList (qualifyLinks uuid.toList
        (Text.lossy (Conversion.standard.northBody body)).toList)) ∧
      SameTokens (Text.lossy body) (toRemoteAccountService managerId
        (String.ofList (qualifyLinks uuid.toList
          (Text.lossy (Conversion.standard.northBody body)).toList)))) ∧
    ∀ g : Aggregator, g.client.conversion = .standard →
    ∀ {σ : Type} (handle : (action : FlowAction) → σ → action.Answer × σ) (s : σ),
      (∀ r answer, r.uuid = uuid →
        (∀ event ∈ (g.deviceRequest r).run.history handle s, ValidAnswer event) →
        ((g.deviceRequest r).run.run handle s).1 = .ok answer → ∃ v, answer.json = .ok v) ∧
      (∀ url text s', (∀ event ∈ (g.refreshMedia uuid url).run.history handle s,
          ValidAnswer event) →
        (g.deviceText uuid url).run.run handle s = (.ok text, s') →
        ∃ record, (g.refreshMedia uuid url).run.run handle s =
          handle (.storeResource virtualMediaTable url record) s') ∧
      (∀ owner url text s', deviceOfManager managerId = .ok owner →
        (∀ event ∈ (g.readRemoteAccount managerId url).run.history handle s,
          ValidAnswer event) →
        (g.accountText managerId owner url).run.run handle s = (.ok text, s') →
        ∃ v, (g.readRemoteAccount managerId url).run.run handle s = (.ok v, s')) := by
  refine ⟨fun body v h => sameTokens_of_parseBytes h huuid hmanager,
    fun g hg σ handle s => ⟨?device, ?media, ?account⟩⟩
  case device =>
    rintro r answer rfl hvalid hanswer
    have hdocument := (composed_deviceRequest hg r).run_post hvalid answer hanswer
    obtain ⟨⟨v, hv⟩, -⟩ := exists_parse_of_fromDocument hdocument huuid
    exact ⟨v, by rw [DeviceResponse.json, hv]⟩
  case media =>
    intro url text s' hvalid htext
    have hdocument := (composed_deviceText hg uuid url).run_post
      (fun event hevent => hvalid event (mem_history_flow_bind hevent)) text (by rw [htext])
    exact run_refreshMedia htext (exists_parse_of_fromDocument hdocument huuid).1
  case account =>
    intro owner url text s' howner hvalid htext
    have hcomposed : Composed g.client validAnswers (OnSuccess (FromDocument owner))
        (g.accountText managerId owner url).run :=
      Composed.flow_orFail (composed_deviceText hg owner (toAccountService managerId url))
    have hread : ∀ event ∈ (g.accountText managerId owner url).run.history handle s,
        ValidAnswer event := by
      intro event hevent
      refine hvalid event ?_
      rw [Aggregator.readRemoteAccount]
      exact mem_history_flow_bind_of_run (run_deviceOfManager howner s)
        (mem_history_flow_bind hevent)
    have hdocument := hcomposed.run_post hread text (by rw [htext])
    have howner' : IsPlain owner.toList := fun c hc =>
      hmanager c (mem_of_deviceOfManager howner hc)
    exact run_readRemoteAccount howner htext
      ((exists_parse_of_fromDocument hdocument howner').2 managerId hmanager)

/-! ## Rehearsed answers -/

/-- What is prepared to be answered in a world are documents. -/
def World.Answers (w : World) : Prop :=
  ∀ reply ∈ w.network.replies, ∀ response, reply.reaction = .respond response →
    ∃ v, Json.parseBytes response.body = .ok v

/-- An action uses up at most one of the replies that are prepared. -/
lemma World.replies_handle (action : FlowAction) (w : World) :
    (World.handle action w).2.network.replies = w.network.replies ∨
      (World.handle action w).2.network.replies = w.network.replies.tail := by
  cases action with
  | contact action =>
    cases action with
    | send plugin call => exact .inr rfl
    | sendWithin limit plugin call =>
      simp only [World.handle, Rehearsal.handle]
      split <;> exact .inr rfl
    | wait duration => exact .inl rfl
    | checkHealth plugin => exact .inl rfl
    | recallToken pluginId => exact .inl rfl
    | storeToken pluginId token => exact .inl rfl
  | findTarget uuid => exact .inl rfl
  | findPlugin id => exact .inl rfl
  | findResource table url => exact .inl rfl
  | storeResource table url record => exact .inl rfl
  | now => exact .inl rfl

/-- A response in a world is the one that was prepared next. -/
lemma World.prepared_handle {action : FlowAction} {w : World} {plugin : Plugin} {call : Call}
    {response : Response} (hevent : (⟨action, (World.handle action w).1⟩ : FlowEvent) =
      ⟨.contact (.send plugin call), .ok response⟩) :
    ∃ reply ∈ w.network.replies, reply.reaction = .respond response := by
  have haction : action = .contact (.send plugin call) := congrArg Sigma.fst hevent
  subst haction
  have hresult : w.network.nextReply.reaction.result call = .ok response :=
    eq_of_heq (Sigma.mk.inj hevent).2
  have hreaction : w.network.nextReply.reaction = .respond response := by
    cases hreaction : w.network.nextReply.reaction with
    | respond response' =>
      rw [hreaction] at hresult
      exact congrArg Reaction.respond (Except.ok.inj hresult)
    | unreachable reason => rw [hreaction] at hresult; cases hresult
    | bodyRead reason => rw [hreaction] at hresult; cases hresult
    | transport cause => rw [hreaction] at hresult; cases hresult
  refine ⟨w.network.nextReply, ?_, hreaction⟩
  unfold Rehearsal.nextReply at hreaction ⊢
  cases hreplies : w.network.replies with
  | nil =>
    rw [hreplies] at hreaction
    cases hreaction
  | cons reply rest => exact List.mem_cons_self

/-- A response in a world is one that was prepared. -/
theorem World.prepared {w : World} (x : FlowProgram α) {plugin : Plugin} {call : Call}
    {response : Response}
    (h : ⟨.contact (.send plugin call), .ok response⟩ ∈ x.history World.handle w) :
    ∃ reply ∈ w.network.replies, reply.reaction = .respond response := by
  induction x generalizing w with
  | done a => cases h
  | ask action next ih =>
    rcases List.mem_cons.mp h with hevent | hlater
    · exact World.prepared_handle hevent.symm
    · obtain ⟨reply, hreply, hreaction⟩ := ih _ hlater
      refine ⟨reply, ?_, hreaction⟩
      rcases World.replies_handle action w with hsame | htail
      · exact hsame ▸ hreply
      · exact List.mem_of_mem_tail (htail ▸ hreply)

/-- In a world in which documents are prepared, devices answer documents. -/
theorem World.validAnswers {w : World} (hw : w.Answers) (x : FlowProgram α) :
    ∀ event ∈ x.history World.handle w, ValidAnswer event := by
  rintro event hevent plugin call response rfl - -
  obtain ⟨reply, hreply, hreaction⟩ := World.prepared x hevent
  exact hw reply hreply response hreaction

/-- A document in which a plugin names a system, with an escape in front of a path. -/
def systemDocument : String :=
  "\x7b\"@odata.id\":\"/ODIM/v1/Systems/1\",\"Note\":\"\\u0041/ODIM\",\"Power\":-2.5e3\x7d"

example : String.ofList (qualifyLinks "6d4a".toList
      (Text.lossy (Conversion.standard.northBody systemDocument.toUTF8)).toList) =
    "\x7b\"@odata.id\":\"/redfish/v1/Systems/6d4a:1\",\"Note\":\"\\u0041/redfish\"," ++
      "\"Power\":-2.5e3\x7d" := by
  decide +kernel

/-- A world of one device, behind a plugin that takes credentials and answers the document. -/
def answeringDevice : World where
  network := ⟨[⟨.respond ⟨200, [], systemDocument.toUTF8⟩, 0⟩], [true], [], [], 0, 0⟩
  inventory := (Inventory.empty.insertPlugin
    ⟨"GRF", "10.0.0.1", 45001, "admin", "secret", .basic⟩).insertTarget
      ⟨"6d4a", "GRF", "10.0.0.2", "root", "calvin".toUTF8⟩
  clock := "now"

/-- The answer for that device is a document. -/
theorem valid_documents_stay_valid_of_system :
    SameTokens (Text.lossy systemDocument.toUTF8) (toRemoteAccountService "6d4a:1"
        (String.ofList (qualifyLinks "6d4a".toList
          (Text.lossy (Conversion.standard.northBody systemDocument.toUTF8)).toList))) ∧
      ∃ answer v, (((Aggregator.mk ⟨"https", .standard⟩ .ok none).deviceRequest
          { uuid := "6d4a", url := "/redfish/v1/Systems/6d4a:1" }).run.run
            World.handle answeringDevice).1 = .ok answer ∧ answer.json = .ok v := by
  have huuid : IsPlain "6d4a".toList := by decide
  have hmanager : IsPlain "6d4a:1".toList := by decide
  have hstays := valid_documents_stay_valid huuid hmanager
  obtain ⟨v, hdocument⟩ : ∃ v, Json.parseBytes systemDocument.toUTF8 = .ok v :=
    exists_ok_of_isOk (by decide +kernel)
  obtain ⟨answer, hanswer⟩ : ∃ answer, (((Aggregator.mk ⟨"https", .standard⟩ .ok none).deviceRequest
      { uuid := "6d4a", url := "/redfish/v1/Systems/6d4a:1" }).run.run
        World.handle answeringDevice).1 = .ok answer :=
    exists_ok_of_isOk (by decide +kernel)
  have hworld : answeringDevice.Answers := by
    intro reply hreply response hresponse
    rw [List.mem_singleton.mp hreply] at hresponse
    cases hresponse
    exact ⟨v, hdocument⟩
  obtain ⟨-, -, -, haccount⟩ := hstays.1 systemDocument.toUTF8 v hdocument
  obtain ⟨v', hv'⟩ := (hstays.2 ⟨⟨"https", .standard⟩, .ok, none⟩ rfl World.handle
    answeringDevice).1 _ answer rfl (World.validAnswers hworld _) hanswer
  exact ⟨haccount, answer, v', hanswer, hv'⟩

end PluginGateway
