import PluginGateway.Contact.Rehearsal
import PluginGateway.Proofs.Exchange

/-!
# What the errors of a contact name

A contact is given the name of what is being done, and its errors are to begin with it. `wording` is
what is said of an answer that is no success, apart from that name.

The main statement, `contact_failure`, goes through the ways in which a contact can fail. Whatever
was sent, be it once or twice, the error begins with the name and goes on with what is said of the
last answer. If nothing could be sent because the endpoint is no URL, the error names the fault of
the URL alone; `contact_failure_of_bareAddress` is a contact that fails so.
-/

namespace PluginGateway

/-- The answer is a response that reports success. -/
def Succeeds (answer : Except SendFailure Response) : Prop :=
  ∃ response, answer = .ok response ∧ (response.status = 200 ∨ response.status = 201)

/-- What is said of a sending that failed, without saying what was being done. -/
def SendFailure.wording : SendFailure → String
  | transport cause => cause
  | unreachable endpoint reason => "plugin unreachable at " ++ endpoint ++ ": " ++ reason
  | bodyRead reason => "error while trying to read response body: " ++ reason

/-- What is said of an answer that is no success, without saying what was being done. -/
def wording : Except SendFailure Response → String
  | .error failure => failure.wording
  | .ok response => "plugin returned HTTP " ++ toString response.status

/-- The error of a sending that failed begins with what was being done. -/
lemma ContactError.message_ofSendFailure (context : String) (failure : SendFailure) :
    (ofSendFailure context failure).message = context ++ failure.wording := by
  cases failure with
  | transport cause => rfl
  | unreachable endpoint reason =>
    show context ++ "plugin unreachable at " ++ endpoint ++ ": " ++ reason =
      context ++ ("plugin unreachable at " ++ endpoint ++ ": " ++ reason)
    simp only [String.append_assoc]
  | bodyRead reason =>
    show context ++ "error while trying to read response body: " ++ reason =
      context ++ ("error while trying to read response body: " ++ reason)
    rw [String.append_assoc]

/-- The error of a plugin that answered without success begins with what was being done. -/
lemma ContactError.message_rejected (context : String) (response : Response) :
    (rejected context response.status response.body).message =
      context ++ wording (.ok response) := by
  show context ++ "plugin returned HTTP " ++ toString response.status =
    context ++ ("plugin returned HTTP " ++ toString response.status)
  rw [String.append_assoc]

namespace Ending

variable {c : Client} {context : String} {answer : Except SendFailure Response} {e : ContactError}

/-- An answer that amounts to an error is no success. -/
lemma not_succeeds_of_result (h : (answered answer).result c context = .error e) :
    ¬Succeeds answer := by
  rintro ⟨response, rfl, hstatus⟩
  rw [result, if_pos hstatus] at h
  cases h

/-- The error that an answer amounts to begins with what was being done. -/
lemma message_of_result (h : (answered answer).result c context = .error e) :
    e.message = context ++ wording answer := by
  cases answer with
  | error failure =>
    obtain rfl := Except.error.inj h
    exact ContactError.message_ofSendFailure context failure
  | ok response =>
    have hstatus : ¬(response.status = 200 ∨ response.status = 201) := fun hstatus =>
      not_succeeds_of_result h ⟨response, rfl, hstatus⟩
    rw [result, if_neg hstatus] at h
    obtain rfl := Except.error.inj h
    exact ContactError.message_rejected context response

end Ending

/-- However a contact fails, one of two things is the case. Either its call was sent, and its error
begins with what was being done and goes on with what is said of the answer, that of the second
sending if there were two. Or its endpoint is no URL, nothing was sent, nobody was asked for the
plugin's health, and the error says what is wrong with the URL and no more. -/
theorem contact_failure {σ : Type} (handle : (a : Action) → σ → a.Answer × σ) (c : Client)
    (context : String) (r : ContactRequest) (s : σ) {e : ContactError}
    (h : ((c.contact context r).run handle s).1 = .error e) :
    (∃ url answer, endpoint c.scheme r.plugin (c.southPath r.resource) = .ok url ∧
        Exchange r.plugin (requestCall c r url) ((c.contact context r).history handle s) answer ∧
        ¬Succeeds answer ∧ e.message = context ++ wording answer) ∨
      ∃ fault, endpoint c.scheme r.plugin (c.southPath r.resource) = .error fault ∧
        (c.contact context r).history handle s = [] ∧ e = .invalidUrl fault ∧
        e.message = "Invalid URL: " ++ fault.message := by
  obtain ⟨ending, hphase, hresult⟩ := contact_phase handle c context r s
  rw [h] at hresult
  generalize (c.contact context r).history handle s = events at hphase ⊢
  cases hphase with
  | unsent fault hurl =>
    obtain rfl := Except.error.inj hresult
    exact .inr ⟨fault, hurl, rfl, rfl, rfl⟩
  | exchanged url hurl events answer hexchange =>
    exact .inl ⟨url, answer, hurl, hexchange, Ending.not_succeeds_of_result hresult.symm,
      Ending.message_of_result hresult.symm⟩

/-- A client of plugins that are reached over a secured connection. -/
def securedClient : Client := ⟨"https", .standard⟩

/-- A request of a plugin at a host. -/
def readingAt (host : String) : ContactRequest where
  plugin := ⟨"GRF", host, 45001, "admin", "secret", .token⟩
  method := .get
  resource := "/redfish/v1"

/-- A plugin that is silent first, found alive, and then busy. -/
def brieflySilent : Rehearsal :=
  ⟨[⟨.unreachable "connection refused", 0⟩, ⟨.respond ⟨503, [], .empty⟩, 0⟩], [true], [], [], 0, 0⟩

/-- The error of a call that was repeated says what was being done. -/
theorem contact_failure_of_brieflySilent :
    ∃ e url answer,
      ((securedClient.contact "get: " (readingAt "10.0.0.1")).run Rehearsal.handle
        brieflySilent).1 = .error e ∧
      Exchange (readingAt "10.0.0.1").plugin
        (requestCall securedClient (readingAt "10.0.0.1") url)
        ((securedClient.contact "get: " (readingAt "10.0.0.1")).history Rehearsal.handle
          brieflySilent) answer ∧
      e.message = "get: " ++ wording answer := by
  have hfails : ((securedClient.contact "get: " (readingAt "10.0.0.1")).run Rehearsal.handle
      brieflySilent).1.isOk = false := by
    decide +kernel
  cases hrun : ((securedClient.contact "get: " (readingAt "10.0.0.1")).run Rehearsal.handle
      brieflySilent).1 with
  | ok outcome =>
    rw [hrun] at hfails
    cases hfails
  | error e =>
    rcases contact_failure Rehearsal.handle securedClient "get: " (readingAt "10.0.0.1")
      brieflySilent hrun with ⟨url, answer, -, hexchange, -, hmessage⟩ | ⟨fault, hurl, -⟩
    · exact ⟨e, url, answer, rfl, hexchange, hmessage⟩
    · have hparses : (endpoint securedClient.scheme (readingAt "10.0.0.1").plugin
          (securedClient.southPath (readingAt "10.0.0.1").resource)).isOk = true := by
        decide +kernel
      rw [hurl] at hparses
      cases hparses

/-- The error of a contact with a plugin whose address is written without brackets does not say what
was being done. -/
theorem contact_failure_of_bareAddress :
    ∃ e, ((securedClient.contact "get: " (readingAt "::1")).run Rehearsal.handle
        brieflySilent).1 = .error e ∧ ¬"get: ".toList <+: e.message.toList := by
  have hurl : endpoint securedClient.scheme (readingAt "::1").plugin
      (securedClient.southPath (readingAt "::1").resource) = .error .emptyHost := by
    decide +kernel
  have hrun : ((securedClient.contact "get: " (readingAt "::1")).run Rehearsal.handle
      brieflySilent).1 = .error (.invalidUrl .emptyHost) := by
    rw [contact_of_error hurl]
    rfl
  have hmessage : ¬"get: ".toList <+: "Invalid URL: empty host".toList := by decide
  exact ⟨_, hrun, hmessage⟩

end PluginGateway
