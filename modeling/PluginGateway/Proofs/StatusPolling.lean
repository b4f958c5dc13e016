import Mathlib.Algebra.Order.BigOperators.Group.List
import Mathlib.Algebra.Order.Ring.Nat
import PluginGateway.Contact.Probe
import PluginGateway.Contact.Rehearsal
import PluginGateway.Proofs.Exchange
import PluginGateway.Proofs.UrlPaths

/-!
# How the status of a plugin is polled

A probe asks a plugin for its status until an attempt shows life, or until no attempt is left.
`Polled` says how many attempts that makes, given which of them show life, and `Polling` says what
the probe does in so many attempts: the calls, the pauses between them, the verdict, and the time
that passes.

The main statement, `isAlive_polling`, says that every probe whose status resource is a URL goes so,
whatever replies are prepared for it and however late they come.
-/

namespace PluginGateway

/-! ## Replies in time -/

/-- The reply to a call, counted from zero; behind the last reply that is prepared nobody answers.
-/
def Rehearsal.reply (s : Rehearsal) (i : Nat) : Reply := s.replies.getD i exhausted

namespace Reply

/-- What comes back for a call within a time limit. -/
def within (r : Reply) (limit : Nat) (call : Call) : Option (Except SendFailure Response) :=
  if r.delay ≤ limit then some (r.reaction.result call) else none

/-- The plugin answers within a time limit, with a status of the two hundreds. -/
def ShowsLife (r : Reply) (limit : Nat) : Prop :=
  r.delay ≤ limit ∧ ∃ response, r.reaction = .respond response ∧
    200 ≤ response.status ∧ response.status < 300

/-- An attempt shows life exactly if the plugin answers it in time with success. -/
theorem showsLife_within_iff (r : Reply) (limit : Nat) (call : Call) :
    Probe.showsLife (r.within limit call) = true ↔ r.ShowsLife limit := by
  obtain ⟨reaction, delay⟩ := r
  by_cases hdelay : delay ≤ limit
  · cases reaction with
    | respond response =>
      simp [within, ShowsLife, hdelay, Probe.showsLife, Reaction.result]
    | unreachable reason => simp [within, ShowsLife, hdelay, Probe.showsLife, Reaction.result]
    | bodyRead reason => simp [within, ShowsLife, hdelay, Probe.showsLife, Reaction.result]
    | transport cause => simp [within, ShowsLife, hdelay, Probe.showsLife, Reaction.result]
  · simp [within, ShowsLife, hdelay, Probe.showsLife]

end Reply

namespace Event

/-- A call was sent, and an answer waited for so long. -/
def asked (limit : Nat) (plugin : Plugin) (call : Call)
    (answer : Option (Except SendFailure Response)) : Event :=
  ⟨.sendWithin limit plugin call, answer⟩

/-- So much time was let pass. -/
def paused (duration : Nat) : Event := ⟨.wait duration, ()⟩

end Event

namespace Probe

/-- How many attempts are made of those allowed, and the verdict, given which attempts show life:
the first one that does is the last one made, and without one all that are allowed are made. -/
inductive Polled (Lives : Nat → Prop) (allowed : Nat) : Nat → Bool → Prop
  /-- An attempt shows life, and none before it does. -/
  | alive (i : Nat) (hi : i < allowed) (hlives : Lives i) (hfirst : ∀ j < i, ¬Lives j) :
    Polled Lives allowed (i + 1) true
  /-- No attempt shows life. -/
  | dead (hnone : ∀ j < allowed, ¬Lives j) : Polled Lives allowed allowed false

/-- The call for the status of a plugin at an endpoint: its own user name and password are sent
along whichever way it authenticates its callers, and neither a token nor a document. -/
def statusCall (plugin : Plugin) (url : Url) : Call where
  method := .get
  url := url
  path := "/ODIM/v1/Status"
  token := none
  basic := some ⟨plugin.username, plugin.password⟩
  body := none

/-- What a probe does in a number of attempts, of those allowed: the events, the verdict, and the
state that is left of the rehearsal. -/
structure Polling (policy : PollingPolicy) (plugin : Plugin) (call : Call) (allowed : Nat)
    (s : Rehearsal) (k : Nat) (events : List Event) (alive : Bool) (s' : Rehearsal) : Prop where
  /-- The attempts end with the first one that is answered in time with success. -/
  verdict : Polled (fun i => (s.reply i).ShowsLife policy.timeout) allowed k alive
  /-- The call is sent once in each attempt, with a pause between two attempts. -/
  events : events = ((List.range k).map fun i => Event.asked policy.timeout plugin call
    ((s.reply i).within policy.timeout call)).intersperse (.paused policy.interval)
  /-- The attempts use up as many replies. Each takes as long as its reply, but no longer than an
  answer is waited for. -/
  state : s' = { s with
    replies := s.replies.drop k
    calls := s.calls ++ List.replicate k (plugin, call)
    waited := s.waited + (((List.range k).map fun i => min (s.reply i).delay policy.timeout).sum +
      (k - 1) * policy.interval) }

/-! ## One attempt -/

section Attempts

variable (p : Probe) {plugin : Plugin} {url : Url}
  (hurl : endpoint p.scheme plugin "/ODIM/v1/Status" = .ok url) (s : Rehearsal)

include hurl

/-- One attempt sends one call, and takes as long as its reply or as an answer is waited for. -/
theorem run_once :
    (p.once plugin).history Rehearsal.handle s =
        [Event.asked p.policy.timeout plugin (statusCall plugin url)
          ((s.reply 0).within p.policy.timeout (statusCall plugin url))] ∧
      (p.once plugin).run Rehearsal.handle s =
        (showsLife ((s.reply 0).within p.policy.timeout (statusCall plugin url)),
          s.sent plugin (statusCall plugin url) (min (s.reply 0).delay p.policy.timeout)) := by
  have hcall : p.call plugin = .ok (statusCall plugin url) := by
    simp only [call, statusPath, hurl]
    rfl
  have hnext : s.nextReply = s.reply 0 := by
    rw [Rehearsal.nextReply, Rehearsal.reply]
    cases s.replies <;> rfl
  have hhandle : Rehearsal.handle (.sendWithin p.policy.timeout plugin (statusCall plugin url)) s =
      ((s.reply 0).within p.policy.timeout (statusCall plugin url),
        s.sent plugin (statusCall plugin url) (min (s.reply 0).delay p.policy.timeout)) := by
    simp only [Rehearsal.handle, hnext, Reply.within]
    by_cases hdelay : (s.reply 0).delay ≤ p.policy.timeout
    · simp only [hdelay, if_true, min_eq_left]
    · simp only [hdelay, if_false, min_eq_right (Nat.le_of_not_le hdelay)]
  simp only [once, hcall, Conversation.sendWithin, Program.bind_eq, Program.history_bind,
    Program.run_bind, Program.history_perform, Program.run_perform, Program.pure_eq,
    Program.history_done, Program.run_done, List.append_nil, hhandle]
  exact ⟨rfl, trivial⟩

end Attempts

/-! ## Attempts one after another -/

/-- What is counted up to a number begins at zero and goes on one further. -/
theorem map_range_succ {α : Type} (f : Nat → α) (n : Nat) :
    (List.range (n + 1)).map f = f 0 :: (List.range n).map fun i => f (i + 1) := by
  rw [List.range_succ_eq_map, List.map_cons, List.map_map]
  rfl

section Polling

variable {policy : PollingPolicy} {plugin : Plugin} {call : Call} {allowed k : Nat}
  {s later s' : Rehearsal} {events : List Event} {alive : Bool}

/-- At least one attempt is made, if any is allowed. -/
theorem Polled.pos {Lives : Nat → Prop} (h : Polled Lives allowed k alive)
    (hallowed : 0 < allowed) : 0 < k := by
  cases h with
  | alive i hi hlives hfirst => exact Nat.succ_pos i
  | dead hnone => exact hallowed

/-- An attempt that shows no life comes before the others. -/
theorem Polled.again {Lives Later : Nat → Prop} (hdead : ¬Lives 0)
    (hlater : ∀ i, Later i ↔ Lives (i + 1)) (h : Polled Later allowed k alive) :
    Polled Lives (allowed + 1) (k + 1) alive := by
  have hbefore {n : Nat} (hnone : ∀ j < n, ¬Later j) : ∀ j < n + 1, ¬Lives j := by
    intro j hj
    cases j with
    | zero => exact hdead
    | succ j => exact fun hlives => hnone j (by omega) ((hlater j).mpr hlives)
  cases h with
  | alive i hi hlives hfirst =>
    exact .alive (i + 1) (by omega) ((hlater i).mp hlives) (hbefore hfirst)
  | dead hnone => exact .dead (hbefore hnone)

/-- The first attempt is the only one if it shows life. -/
theorem Polled.first {Lives : Nat → Prop} (hallowed : 0 < allowed) (hlives : Lives 0) :
    Polled Lives allowed 1 true :=
  .alive 0 hallowed hlives fun j hj => absurd hj (Nat.not_lt_zero j)

/-- The first attempt is the only one if no other is allowed. -/
theorem Polled.only {Lives : Nat → Prop} (hdead : ¬Lives 0) : Polled Lives 1 1 false := by
  refine .dead fun j hj => ?_
  obtain rfl : j = 0 := by omega
  exact hdead

/-- What a single attempt does. -/
theorem Polling.single
    (hverdict : Polled (fun i => (s.reply i).ShowsLife policy.timeout) allowed 1 alive) :
    Polling policy plugin call allowed s 1
      [Event.asked policy.timeout plugin call ((s.reply 0).within policy.timeout call)] alive
      (s.sent plugin call (min (s.reply 0).delay policy.timeout)) where
  verdict := hverdict
  events := rfl
  state := by simp [Rehearsal.sent]

/-- An attempt that shows no life comes before the others, with a pause behind it. -/
theorem Polling.again (hallowed : 0 < allowed) (hdead : ¬(s.reply 0).ShowsLife policy.timeout)
    (hlater : later = { s.sent plugin call (min (s.reply 0).delay policy.timeout) with
      waited := s.waited + min (s.reply 0).delay policy.timeout + policy.interval })
    (h : Polling policy plugin call allowed later k events alive s') :
    Polling policy plugin call (allowed + 1) s (k + 1)
      (Event.asked policy.timeout plugin call ((s.reply 0).within policy.timeout call) ::
        Event.paused policy.interval :: events) alive s' := by
  have hreply : ∀ i, later.reply i = s.reply (i + 1) := by
    intro i
    rw [hlater]
    show s.replies.tail.getD i Rehearsal.exhausted = s.replies.getD (i + 1) Rehearsal.exhausted
    cases s.replies <;> rfl
  have hpos : 0 < k := h.verdict.pos hallowed
  obtain ⟨m, rfl⟩ : ∃ m, k = m + 1 := ⟨k - 1, by omega⟩
  refine ⟨h.verdict.again hdead fun i => by rw [hreply], ?_, ?_⟩
  · have hevents := h.events
    simp only [hreply] at hevents
    rw [hevents, map_range_succ _ (m + 1), map_range_succ _ m]
    rfl
  · have hstate := h.state
    simp only [hreply] at hstate
    rw [hstate, hlater, map_range_succ _ (m + 1), List.sum_cons]
    simp only [Rehearsal.sent, Rehearsal.mk.injEq]
    refine ⟨?_, trivial, trivial, ?_, ?_, trivial⟩
    · cases s.replies <;> rfl
    · rw [List.replicate_succ (n := m + 1), List.append_assoc]
      rfl
    · have hpauses : (m + 1 + 1 - 1) * policy.interval = m * policy.interval + policy.interval :=
        Nat.succ_mul m policy.interval
      have hrest : m + 1 - 1 = m := rfl
      rw [hpauses, hrest]
      omega

end Polling

section Attempts

variable (p : Probe) {plugin : Plugin} {url : Url}
  (hurl : endpoint p.scheme plugin "/ODIM/v1/Status" = .ok url)

include hurl

/-- One attempt, and up to so many further ones. -/
theorem attempts_polling (further : Nat) (s : Rehearsal) :
    ∃ k, Polling p.policy plugin (statusCall plugin url) (further + 1) s k
      ((p.attempts plugin further).history Rehearsal.handle s)
      ((p.attempts plugin further).run Rehearsal.handle s).1
      ((p.attempts plugin further).run Rehearsal.handle s).2 := by
  induction further generalizing s with
  | zero =>
    obtain ⟨hhistory, hrun⟩ := run_once p hurl s
    have hlives := (s.reply 0).showsLife_within_iff p.policy.timeout (statusCall plugin url)
    refine ⟨1, ?_⟩
    rw [attempts, hhistory, hrun]
    refine .single ?_
    cases hlife : showsLife ((s.reply 0).within p.policy.timeout (statusCall plugin url)) with
    | true => exact .first Nat.one_pos (hlives.mp hlife)
    | false => exact .only fun h => Bool.false_ne_true (hlife.symm.trans (hlives.mpr h))
  | succ further ih =>
    obtain ⟨hhistory, hrun⟩ := run_once p hurl s
    have hlives := (s.reply 0).showsLife_within_iff p.policy.timeout (statusCall plugin url)
    cases hlife : showsLife ((s.reply 0).within p.policy.timeout (statusCall plugin url)) with
    | true =>
      have hsingle : Polling p.policy plugin (statusCall plugin url) (further + 2) s 1 _ true _ :=
        .single (.first (Nat.succ_pos _) (hlives.mp hlife))
      simp only [attempts, Program.bind_eq, Program.history_bind, Program.run_bind, hhistory, hrun,
        hlife, if_true]
      exact ⟨1, hsingle⟩
    | false =>
      have hdead : ¬(s.reply 0).ShowsLife p.policy.timeout := fun h =>
        Bool.false_ne_true (hlife.symm.trans (hlives.mpr h))
      obtain ⟨k, hrest⟩ := ih _
      have hagain := Polling.again (Nat.succ_pos further) hdead rfl hrest
      simp only [attempts, Program.bind_eq, Program.history_bind, Program.run_bind, hhistory, hrun,
        hlife, Bool.false_eq_true, if_false, Conversation.wait, Program.history_perform,
        Program.run_perform]
      exact ⟨k + 1, hagain⟩

end Attempts

/-! ## A whole probe -/

/-- The attempts take no longer than an answer is waited for in each of them and the pauses between
them. -/
theorem Polling.waited_le {policy : PollingPolicy} {plugin : Plugin} {call : Call}
    {allowed k : Nat} {s s' : Rehearsal} {events : List Event} {alive : Bool}
    (h : Polling policy plugin call allowed s k events alive s') :
    s'.waited ≤ s.waited + (k * policy.timeout + (k - 1) * policy.interval) := by
  have hattempts :
      ((List.range k).map fun i => min (s.reply i).delay policy.timeout).sum ≤
        k * policy.timeout := by
    have hmin : ∀ t ∈ (List.range k).map fun i => min (s.reply i).delay policy.timeout,
        t ≤ policy.timeout := by
      intro t ht
      obtain ⟨i, -, rfl⟩ := List.mem_map.mp ht
      exact Nat.min_le_right _ _
    simpa using List.sum_le_card_nsmul _ _ hmin
  rw [h.state]
  dsimp only
  omega

/-- The status resource is the path of its endpoint, if the scheme is written as one and the host of
the plugin holds nothing behind which a path begins or ends. -/
theorem endpoint_statusPath {scheme : String} {plugin : Plugin} {url : Url}
    (hurl : endpoint scheme plugin statusPath = .ok url)
    (hscheme : ∀ c ∈ scheme.toList, Url.inScheme c = true)
    (hhost : ∀ c ∈ plugin.ip.toList, Url.endsAuthority .special c = false) :
    url.path = statusPath.toList ∧ url.query = none ∧ url.fragment = none := by
  have hsettled : Url.Settled statusPath.toList :=
    { head := rfl
      ending := by decide
      kept := by decide
      tail := by decide +kernel
      host := fun kind => by cases kind <;> decide +kernel
      file := by decide +kernel }
  obtain ⟨front, d, hdigits⟩ : ∃ front d, Nat.toDigits 10 plugin.port.toNat = front ++ [d] :=
    (List.eq_nil_or_concat' _).resolve_left Nat.toDigits_ne_nil
  have hdigit : ∀ c ∈ front ++ [d], c.isDigit = true := fun c hc =>
    Nat.isDigit_of_mem_toDigits (by decide) (by decide) (hdigits ▸ hc)
  have htext : (endpointText scheme plugin statusPath).toList =
      scheme.toList ++ ':' :: '/' :: '/' ::
        (plugin.ip.toList ++ ':' :: front ++ [d] ++ statusPath.toList) := by
    have hmark : "://".toList = [':', '/', '/'] := rfl
    have hcolon : ":".toList = [':'] := rfl
    have hport : (toString plugin.port.toNat).toList = front ++ [d] := by
      rw [Nat.toString_eq_ofList_toDigits, String.toList_ofList, hdigits]
    simp only [endpointText, String.toList_append, hmark, hcolon, hport, List.append_assoc,
      List.cons_append, List.nil_append]
  rw [endpoint, htext] at hurl
  refine Url.parse_path hsettled hscheme (fun c hc => ?_)
    (hdigit d (List.mem_append_right _ List.mem_cons_self)) hurl
  rcases List.mem_append.mp hc with hc | hc
  · exact hhost c hc
  · rcases List.mem_cons.mp hc with rfl | hc
    · decide
    · exact (Url.marks_of_isDigit (hdigit c (List.mem_append_left _ hc))).2.2.2 .special

/-- A probe of a plugin whose status resource is a URL makes one attempt after another, whatever
replies are prepared and however late they come: the first attempt that is answered in time with
success is the last one and the plugin is alive, and it is not if none of those allowed is. One is
allowed in any case. Each attempt sends one call, which is the same whatever the scheme of
authentication; it asks for the status resource, and that is all of the path in the endpoint of a
plugin whose host holds no mark at which one ends. A pause comes between two attempts, and so the
time that passes is bounded by that of the attempts and of the pauses between them. -/
theorem isAlive_polling (p : Probe) {plugin : Plugin} {url : Url}
    (hurl : endpoint p.scheme plugin "/ODIM/v1/Status" = .ok url) (s : Rehearsal) :
    ∃ k, Polling p.policy plugin (statusCall plugin url) (max 1 p.policy.attempts) s k
        ((p.isAlive plugin).history Rehearsal.handle s)
        ((p.isAlive plugin).run Rehearsal.handle s).1
        ((p.isAlive plugin).run Rehearsal.handle s).2 ∧
      ((p.isAlive plugin).run Rehearsal.handle s).2.waited ≤
        s.waited + (k * p.policy.timeout + (k - 1) * p.policy.interval) ∧
      ((∀ c ∈ p.scheme.toList, Url.inScheme c = true) →
        (∀ c ∈ plugin.ip.toList, Url.endsAuthority .special c = false) →
        url.path = "/ODIM/v1/Status".toList ∧ url.query = none ∧ url.fragment = none) := by
  have hallowed : p.policy.attempts - 1 + 1 = max 1 p.policy.attempts := by omega
  obtain ⟨k, hpolling⟩ := attempts_polling p hurl (p.policy.attempts - 1) s
  rw [hallowed] at hpolling
  exact ⟨k, hpolling, hpolling.waited_le, endpoint_statusPath hurl⟩

/-- A plugin that expects a token from those who call it. -/
def guardedPlugin : Plugin := ⟨"GRF", "10.0.0.1", 45001, "admin", "secret", .token⟩

/-- Replies of a plugin that is slow to begin with, then busy, and then alive. -/
def slowStart : Rehearsal :=
  ⟨[⟨.respond ⟨200, [], .empty⟩, 3001⟩, ⟨.respond ⟨503, [], .empty⟩, 5⟩,
      ⟨.respond ⟨204, [], .empty⟩, 3000⟩],
    [], [], [], 0, 0⟩

/-- A success that comes too late is none, and neither is an answer that says otherwise: the third
of four attempts shows life. -/
theorem isAlive_polling_of_slowStart :
    ∃ url, endpoint "https" guardedPlugin "/ODIM/v1/Status" = .ok url ∧
      (((Probe.mk "https" ⟨4, 1000, 3000⟩).isAlive guardedPlugin).run Rehearsal.handle
        slowStart).1 = true ∧
      (((Probe.mk "https" ⟨4, 1000, 3000⟩).isAlive guardedPlugin).run Rehearsal.handle
        slowStart).2.waited = 8005 ∧
      ∃ k, Polling ⟨4, 1000, 3000⟩ guardedPlugin (statusCall guardedPlugin url) 4 slowStart k
        (((Probe.mk "https" ⟨4, 1000, 3000⟩).isAlive guardedPlugin).history Rehearsal.handle
          slowStart)
        (((Probe.mk "https" ⟨4, 1000, 3000⟩).isAlive guardedPlugin).run Rehearsal.handle
          slowStart).1
        (((Probe.mk "https" ⟨4, 1000, 3000⟩).isAlive guardedPlugin).run Rehearsal.handle
          slowStart).2 := by
  have hurl : endpoint "https" guardedPlugin "/ODIM/v1/Status" =
      .ok ⟨"https".toList, some ⟨[], .ipv4 167772161, some 45001⟩, "/ODIM/v1/Status".toList, none,
        none⟩ := by
    decide +kernel
  obtain ⟨k, hpolling, -⟩ := isAlive_polling ⟨"https", ⟨4, 1000, 3000⟩⟩ hurl slowStart
  exact ⟨_, hurl, by decide +kernel, by decide +kernel, k, hpolling⟩

end Probe

end PluginGateway
