import PluginGateway.Proofs.AskedActions
import PluginGateway.Proofs.LinkRoundTrip
import PluginGateway.Proofs.TableOrder
import PluginGateway.Proofs.UrlAuthority

/-!
# Calls stay with their plugin

The path of a call is written behind the address of its plugin without anything between them. All
that is done to a path before, the tables of the conversion, the removal of qualifiers, the moves of
an account service and the way from an action to its media resource, keeps the slash at its head or
leaves nothing in front of the query: the path still follows an address as `Url.Follows` says.

The main statement, `calls_stay`, says that every call that is sent in an operation for a URL that
begins with a slash goes to an endpoint that is spelled by the address of its plugin and such a
path, and so has the host, the port and the user information of that address.
-/

namespace PluginGateway

open PluginGateway.Path

/-- The address of a plugin, in writing. -/
def addressText (scheme : String) (plugin : Plugin) : String :=
  scheme ++ "://" ++ plugin.ip ++ ":" ++ toString plugin.port.toNat

/-- A character that ends the authority in any URL. -/
def endsAddress (c : Char) : Bool := c == '/' || c == '?' || c == '#'

/-- A call goes to its plugin: its endpoint is spelled by the address of the plugin and a path that
is no part of the authority. -/
structure Call.StaysWith (scheme : String) (plugin : Plugin) (call : Call) : Prop where
  /-- The path is nothing, or begins with a slash or with the mark of a query or fragment. -/
  follows : call.path = "" ∨ call.path.toList.head? = some '/' ∨
    call.path.toList.head? = some '?' ∨ call.path.toList.head? = some '#'
  /-- The endpoint is spelled by the address of the plugin with the path behind it. -/
  endpoint : Url.parse (addressText scheme plugin ++ call.path).toList = .ok call.url
  /-- Up to what ends an authority, the text behind the scheme is that of the address. -/
  text : (plugin.ip ++ ":" ++ toString plugin.port.toNat ++ call.path).toList.takeWhile
      (fun c => !endsAddress c) =
    (plugin.ip ++ ":" ++ toString plugin.port.toNat).toList.takeWhile fun c => !endsAddress c
  /-- The endpoint has the scheme, the user information, the host and the port that the address
  spells. Files are left aside, since one on a drive has no host. -/
  authority : Url.kindOf call.url.scheme ≠ .file →
    ∃ address, Url.parse (addressText scheme plugin).toList = .ok address ∧
      call.url.scheme = address.scheme ∧ call.url.authority = address.authority

/-! ## Paths that follow an address -/

/-- A path follows an address exactly if its first segment is empty. -/
lemma follows_iff {p : List Char} :
    Url.Follows p ↔ ∃ more, segments (beforeTail p) = [] :: more := by
  cases p with
  | nil => exact ⟨fun _ => ⟨[], rfl⟩, fun _ => nofun⟩
  | cons c rest =>
    have hhead : Url.Follows (c :: rest) ↔ c = '/' ∨ opensTail c = true := by
      simp [Url.Follows, opensTail]
    rw [hhead, beforeTail]
    by_cases htail : opensTail c = true
    · simp [htail, segments, Text.split]
    · rw [List.takeWhile_cons_of_pos (by simpa using htail), segments, Text.split]
      cases hrest : Text.split '/' (rest.takeWhile fun c => !opensTail c) with
      | nil => exact absurd hrest (Text.split_ne_nil '/' _)
      | cons s more =>
        by_cases hc : c = '/' <;> simp [hc, htail]

/-- A path whose first segment is empty follows an address, whatever tail it has. -/
lemma follows_joined_append (p : List Char) (more : List Segment) :
    Url.Follows (joined ([] :: more) ++ tail p) := by
  cases more with
  | nil =>
    intro c hc
    -- the tail of a text begins with the mark that opens it
    have hopens : opensTail c = true := by
      cases htail : tail p with
      | nil => simp [joined, Text.join, htail] at hc
      | cons d rest =>
        obtain rfl : d = c := by simpa [joined, Text.join, htail] using hc
        have hhead := List.head?_dropWhile_not (fun c => !opensTail c) p
        rw [← tail, htail] at hhead
        simpa using hhead
    have hmark : c = '?' ∨ c = '#' := by simpa [opensTail] using hopens
    exact .inr hmark
  | cons s more =>
    rw [joined, Text.join_nil_cons]
    rintro c ⟨⟩
    exact .inl rfl

/-- A text at the head of one that follows an address follows it as well. -/
lemma follows_of_prefix {p q : List Char} (h : p <+: q) (hq : Url.Follows q) : Url.Follows p := by
  obtain ⟨rest, rfl⟩ := h
  cases p with
  | nil => exact nofun
  | cons c p => exact fun d hd => hq d hd

/-- No source run begins with an empty segment. -/
lemma first_ne_nil_of_ofPair? {pair : List Char × List Char} {r : Rule}
    (h : Rule.ofPair? pair = some r) : r.first ≠ [] := by
  have hfirst : r.first ∈ properSegments pair.1 :=
    Table.source_of_ofPair? h ▸ List.mem_cons_self
  simpa using (List.mem_filter.mp hfirst).2

/-- A table leaves a path behind an address. -/
lemma follows_apply (pairs : List (List Char × List Char)) {p : List Char} (hp : Url.Follows p) :
    Url.Follows ((Table.ofPairs pairs).apply p) := by
  obtain ⟨more, hmore⟩ := follows_iff.mp hp
  have hrule : (Table.ofPairs pairs).ruleAt? ([] :: more) = none := by
    refine List.find?_eq_none.mpr fun r hr => ?_
    obtain ⟨pair, -, hpair⟩ := List.mem_filterMap.mp ((Table.rules_perm pairs).mem_iff.mp hr)
    simp [Rule.Matches, Rule.source, first_ne_nil_of_ofPair? hpair]
  rw [Table.apply, Table.replace?, Table.replaceSegments?, hmore, Table.replaceFrom?, hrule]
  cases (Table.ofPairs pairs).replaceFrom? 0 more with
  | none => exact hp
  | some path => exact follows_joined_append p path

/-- Removing qualifiers leaves a path behind an address. -/
lemma follows_strip (uuid : List Char) {p : List Char} (hp : Url.Follows p) :
    Url.Follows (strip uuid p) := by
  obtain ⟨more, hmore⟩ := follows_iff.mp hp
  have hfirst : stripSegment (qualifier uuid) [] = [] := by
    unfold stripSegment
    split <;> simp
  rw [strip, hmore, List.map_cons, hfirst]
  exact follows_joined_append p _

/-- The URL of a media resource stands at the head of that of its action. -/
lemma mediaUrl_begins (url : String) : (mediaUrl url).toList <+: url.toList := by
  have htrimmed : trimSlashes url.toList <+: url.toList := by
    have hsuffix := List.dropWhile_suffix (fun c => decide (c = '/')) (l := url.toList.reverse)
    simpa [trimSlashes] using List.reverse_prefix.mpr hsuffix
  have hending (ending : List Char) {s : List Char}
      (h : withoutEnding? ending (trimSlashes url.toList) = some s) :
      s <+: trimSlashes url.toList := by
    unfold withoutEnding? at h
    split at h
    · exact Option.some.inj h ▸ List.take_prefix _ _
    · cases h
  refine List.IsPrefix.trans ?_ htrimmed
  rw [mediaUrl, String.toList_ofList]
  dsimp only
  cases hinsert : withoutEnding? ("/Actions/" ++ insertMediaAction).toList
      (trimSlashes url.toList) with
  | some s => exact hending _ hinsert
  | none =>
    cases heject : withoutEnding? ("/Actions/" ++ ejectMediaAction).toList
        (trimSlashes url.toList) with
    | some s => exact hending _ heject
    | none => exact List.prefix_rfl

/-! ## The calls of operations -/

/-- The address of a plugin ends in a digit of its port, and holds a colon. -/
lemma exists_addressText_eq (scheme : String) (plugin : Plugin) :
    ∃ x d, (addressText scheme plugin).toList = x ++ [d] ∧ ':' ∈ x ∧ d.isDigit = true := by
  have hport : (toString plugin.port.toNat).toList = Nat.toDigits 10 plugin.port.toNat := by
    rw [Nat.toString_eq_ofList_toDigits, String.toList_ofList]
  obtain ⟨front, d, hdigits⟩ :=
    (List.eq_nil_or_concat' _).resolve_left (Nat.toDigits_ne_nil (n := plugin.port.toNat) (b := 10))
  refine ⟨(scheme ++ "://" ++ plugin.ip ++ ":").toList ++ front, d, ?_, ?_, ?_⟩
  · rw [addressText, String.toList_append, hport, hdigits, List.append_assoc]
  · simp
  · have hd : d ∈ Nat.toDigits 10 plugin.port.toNat := by simp [hdigits]
    exact Nat.isDigit_of_mem_toDigits (by decide) (by decide) hd

/-- A call at the endpoint of a path that follows an address stays with its plugin. -/
lemma staysWith_of_follows {scheme : String} {plugin : Plugin} {call : Call}
    (hfollows : Url.Follows call.path.toList)
    (hendpoint : endpoint scheme plugin call.path = .ok call.url) :
    call.StaysWith scheme plugin where
  follows := by
    cases hpath : call.path.toList with
    | nil => exact .inl (String.toList_eq_nil_iff.mp hpath)
    | cons c rest =>
      rw [hpath] at hfollows
      simpa using .inr (hfollows c rfl)
  endpoint := hendpoint
  text := by
    rw [String.toList_append, List.takeWhile_append]
    split
    · next hall =>
      have hnone : call.path.toList.takeWhile (fun c => !endsAddress c) = [] := by
        cases hpath : call.path.toList with
        | nil => rfl
        | cons c rest =>
          have hends : endsAddress c = true := by
            rw [hpath] at hfollows
            simpa [endsAddress, or_assoc] using hfollows c rfl
          simp [hends]
      rw [hnone, List.append_nil]
      exact ((List.takeWhile_prefix _).eq_of_length hall).symm
    · rfl
  authority := by
    intro hfile
    obtain ⟨x, d, haddress, hcolon, hd⟩ := exists_addressText_eq scheme plugin
    have htext : (addressText scheme plugin ++ call.path).toList =
        x ++ d :: call.path.toList := by
      rw [String.toList_append, haddress, List.append_assoc, List.singleton_append]
    have hurl : Url.parse (x ++ d :: call.path.toList) = .ok call.url := htext ▸ hendpoint
    rw [haddress]
    exact Url.parse_append hcolon hd hfollows hurl hfile

/-- Calls for resources behind an address stay with their plugins. -/
lemma permits_staysWith {c : Client} {north south : List (List Char × List Char)}
    (hc : c.conversion = .ofPairs north south) :
    Permits c (fun url => Url.Follows url.toList) fun action =>
      ∀ plugin call, action = .contact (.send plugin call) → call.StaysWith c.scheme plugin where
  quiet := by
    rintro action hsend - plugin call rfl
    cases hsend
  send := by
    rintro r url hr hurl plugin call ⟨⟩
    refine staysWith_of_follows ?_ hurl
    show Url.Follows (c.southPath r.resource).toList
    rw [Client.southPath, String.toList_ofList, hc]
    exact follows_apply south hr
  login := fun c hc => .inl (Option.some.inj hc).symm
  strip := by
    intro uuid url hurl
    rw [String.toList_ofList]
    exact follows_strip uuid.toList hurl
  media := fun url hurl => follows_of_prefix (mediaUrl_begins url) hurl
  account := by
    intro managerId url hurl
    rw [toAccountService, String.toList_ofList]
    exact follows_apply _ hurl

/-- Whatever the scheme, the plugins, the tables of the conversion, the identifiers and the answers
are, an operation for a URL that begins with a slash sends all its calls, those of logins included,
to endpoints that are spelled by the address of the plugin and either nothing or a text that begins
with a slash or with the mark of a query or fragment; so the calls go to the host and port of the
plugin, with the user information of its address. -/
theorem calls_stay (g : Aggregator) {north south : List (List Char × List Char)}
    (hg : g.client.conversion = .ofPairs north south) (operation : Operation)
    (hurl : ∀ url, operation.url? = some url → url.toList.head? = some '/') {σ : Type}
    (handle : (action : FlowAction) → σ → action.Answer × σ) (s : σ) :
    ∀ event ∈ (operation.program g).history handle s, ∀ plugin call,
      event.1 = .contact (.send plugin call) → call.StaysWith g.client.scheme plugin := by
  have hfollows : ∀ url, operation.url? = some url → Url.Follows url.toList := by
    intro url h c hc
    exact .inl (Option.some.inj (hc.symm.trans (hurl url h)))
  exact ((permits_staysWith hg).asks_operation operation hfollows
    fun _ _ _ _ _ _ _ h => nomatch h).forall_history s

/-- A table that drops the first segment of a path keeps the slash in front of the second one. -/
theorem calls_stay_of_dropped :
    (((Operation.device { uuid := "6d4a", url := "/redfish/v1/Systems/6d4a:1" }).perform
        ⟨⟨"https", .ofPairs [] [("redfish".toList, [])]⟩, .ok, none⟩
        loneDevice).network.calls.map fun call => call.2.path) =
        ["/v1/Systems/1", "/v1/Systems/1"] ∧
      ∀ event ∈ ((Operation.device { uuid := "6d4a", url := "/redfish/v1/Systems/6d4a:1" }).program
          ⟨⟨"https", .ofPairs [] [("redfish".toList, [])]⟩, .ok, none⟩).history
            World.handle loneDevice,
        ∀ plugin call, event.1 = .contact (.send plugin call) → call.StaysWith "https" plugin := by
  refine ⟨by decide +kernel, calls_stay ⟨⟨"https", .ofPairs [] [("redfish".toList, [])]⟩, .ok, none⟩
    rfl _ ?_ World.handle loneDevice⟩
  rintro url ⟨⟩
  decide

end PluginGateway
