import PluginGateway.Proofs.ManagerReads

/-!
# Reads behind a media action

A media action keeps the media resource under a table and a URL that it finds by taking known
endings off the URL of the action; a read finds table and URL by counting the segments of the URL of
the resource. Both come to the same for every URL that is put together from a base, the name of the
table and that of a medium (`mediaUrl_mediaActionUrl`, `resourceTable_mediaResourceUrl`).

The main statement, `managersResource_media`, says that a read behind a media action therefore has
the state that was read from the device behind the action, and asks for nothing but the store.
-/

namespace PluginGateway

/-- The URL of a media resource. -/
def mediaResourceUrl (base media : String) : String := base ++ "/VirtualMedia/" ++ media

/-- The URL of an action of a media resource, with so many slashes behind it. -/
def mediaActionUrl (base media action : String) (slashes : Nat) : String :=
  mediaResourceUrl base media ++ "/Actions/" ++ action ++
    String.ofList (List.replicate slashes '/')

/-! ## The URL of an action -/

/-- Slashes behind a text that does not end in one are trimmed, and nothing else. -/
lemma trimSlashes_append_replicate {s : List Char} (hs : s.getLast? ≠ some '/') (n : Nat) :
    trimSlashes (s ++ List.replicate n '/') = s := by
  have hslashes : ∀ c ∈ List.replicate n '/', decide (c = '/') = true := by
    intro c hc
    simpa using List.eq_of_mem_replicate hc
  have hkept : s.reverse.dropWhile (· = '/') = s.reverse := by
    cases hlast : s.reverse with
    | nil => rfl
    | cons c rest =>
      have hc : c ≠ '/' := by
        rintro rfl
        exact hs (by rw [← List.head?_reverse, hlast]; rfl)
      exact List.dropWhile_cons_of_neg (by simpa using hc)
  rw [trimSlashes, List.reverse_append, List.reverse_replicate,
    List.dropWhile_append_of_pos hslashes, hkept, List.reverse_reverse]

/-- The ending of a text is taken off. -/
lemma withoutEnding?_append (s ending : List Char) :
    withoutEnding? ending (s ++ ending) = some s := by
  simp [withoutEnding?]

/-- A text that does not end so is left alone. -/
lemma withoutEnding?_of_not_suffix {s ending : List Char} (h : ¬ending <:+ s) :
    withoutEnding? ending s = none := by
  simp [withoutEnding?, h]

/-- The media resource of an action is the one that its URL was made from. -/
lemma mediaUrl_mediaActionUrl (base media : String) {action : String}
    (haction : action = insertMediaAction ∨ action = ejectMediaAction) (slashes : Nat) :
    mediaUrl (mediaActionUrl base media action slashes) = mediaResourceUrl base media := by
  have hlast : ((mediaResourceUrl base media).toList ++ ("/Actions/" ++ action).toList).getLast? ≠
      some '/' := by
    rcases haction with rfl | rfl <;> simp [List.getLast?_append, insertMediaAction,
      ejectMediaAction]
  have hurl : (mediaActionUrl base media action slashes).toList =
      ((mediaResourceUrl base media).toList ++ ("/Actions/" ++ action).toList) ++
        List.replicate slashes '/' := by
    simp [mediaActionUrl]
  refine String.toList_injective ?_
  rw [mediaUrl, String.toList_ofList, hurl, trimSlashes_append_replicate hlast]
  dsimp only
  rcases haction with rfl | rfl
  · rw [withoutEnding?_append, Option.some_or, Option.getD_some]
  · -- an ending for the other action would be longer and end in the one that is there
    have hother : ¬("/Actions/" ++ insertMediaAction).toList <:+
        (mediaResourceUrl base media).toList ++ ("/Actions/" ++ ejectMediaAction).toList := by
      intro h
      have hends := List.suffix_of_suffix_length_le
        (List.suffix_append (mediaResourceUrl base media).toList
          ("/Actions/" ++ ejectMediaAction).toList) h (by decide)
      exact absurd hends (by decide)
    rw [withoutEnding?_of_not_suffix hother, withoutEnding?_append, Option.none_or,
      Option.getD_some]

/-! ## The table of a media resource -/

/-- The pieces of two texts with a separator between them are those of the one and of the other. -/
lemma split_append_separator (sep : Char) (s t : List Char) :
    Text.split sep (s ++ sep :: t) = Text.split sep s ++ Text.split sep t := by
  induction s with
  | nil => exact Text.split_append_cons List.not_mem_nil t
  | cons c rest ih =>
    obtain ⟨piece, pieces, hpieces⟩ := List.exists_cons_of_ne_nil (Text.split_ne_nil sep rest)
    rw [List.cons_append, Text.split, ih, Text.split, hpieces]
    by_cases hc : c = sep
    · simp only [List.cons_append, hc, if_true]
    · simp only [List.cons_append, hc, if_false]

/-- A media resource is kept in the table of media. -/
lemma resourceTable_mediaResourceUrl (base : String) {media : String}
    (hmedia : media.toList ≠ []) (hslashless : '/' ∉ media.toList) :
    resourceTable (mediaResourceUrl base media) true = virtualMediaTable := by
  have hurl : (mediaResourceUrl base media).toList =
      base.toList ++ '/' :: ("VirtualMedia".toList ++ '/' :: media.toList) := by
    simp [mediaResourceUrl]
  have hlast : (mediaResourceUrl base media).toList.getLast? ≠ some '/' := by
    intro h
    obtain ⟨front, last, hfront⟩ := (List.eq_nil_or_concat media.toList).resolve_left hmedia
    have hends : (mediaResourceUrl base media).toList =
        base.toList ++ '/' :: ("VirtualMedia".toList ++ '/' :: front) ++ [last] := by
      simp [hurl, hfront]
    rw [hends, List.getLast?_concat] at h
    obtain rfl : last = '/' := Option.some.inj h
    exact hslashless (by simp [hfront])
  have htrim := trimSlashes_append_replicate hlast 0
  rw [List.replicate_zero, List.append_nil, hurl] at htrim
  have hsegments : (urlSegments (mediaResourceUrl base media)).reverse =
      media :: virtualMediaTable :: ((Text.split '/' base.toList).map String.ofList).reverse := by
    rw [urlSegments, hurl, htrim, split_append_separator, Text.split_append_cons (by decide),
      Text.split_of_not_mem hslashless]
    simp [virtualMediaTable]
  rw [resourceTable, hsegments]
  rfl

/-! ## Reads of a stored resource -/

/-- A manager with a device is taken apart into that device and a local name. -/
lemma exists_splitManagerId?_of_deviceOfManager {managerId uuid : String}
    (h : deviceOfManager managerId = .ok uuid) :
    ∃ localName, splitManagerId? managerId = some (uuid, localName) := by
  unfold deviceOfManager at h
  split at h
  next uuid' localName hsplit =>
    obtain rfl : uuid' = uuid := Except.ok.inj h
    exact ⟨localName, hsplit⟩
  next => cases h

/-- A record that is stored under the manager of a device is the result of a read, stamped with the
type of its table, and nothing else is asked for. -/
lemma managersResource_of_found {w : World} (g : Aggregator) {managerId uuid localName : String}
    (hsplit : splitManagerId? managerId = some (uuid, localName)) {url : String}
    (member : Option String) {record : Json}
    (hfound : w.inventory.findResource (resourceTable url member.isSome) url = .ok record) :
    ∃ record', (g.managersResource managerId member url).run.history World.handle w =
        [⟨.findResource (resourceTable url member.isSome) url, .ok record⟩] ∧
      (g.managersResource managerId member url).run.run World.handle w = (.ok record', w) ∧
      Stamped (resourceTable url member.isSome) record record' := by
  have hhandle : World.handle (.findResource (resourceTable url member.isSome) url) w =
      (.ok record, w) := congrArg (·, w) hfound
  have hmanager := isManagerOf_of_splitManagerId? hsplit
  obtain ⟨events, hhistory, hrun⟩ := deviceManagerResource_run World.handle g managerId
    (resourceTable url member.isSome) url hmanager w
  have hsame : g.managersResource managerId member url =
      g.deviceManagerResource managerId uuid (resourceTable url member.isSome) url := by
    rw [Aggregator.managersResource, hsplit]
  rw [hhandle] at hhistory hrun
  rw [hsame, hhistory]
  generalize (g.deviceManagerResource managerId uuid (resourceTable url member.isSome) url).run.run
    World.handle w = result at hrun
  cases hrun with
  | stored hplain =>
    obtain ⟨localName, rfl⟩ := hmanager.eq_managerIdOf
    exact absurd (by simp [managerIdOf]) hplain
  | storedOfDevice uuid huuid record record' hstamped => exact ⟨record', rfl, rfl, hstamped⟩

/-- A document that is stamped as a medium has the type of media if it is an object, and else it
stays as it was. -/
lemma Stamped.of_virtualMediaTable {v v' : Json} (h : Stamped virtualMediaTable v v') :
    (∀ fields, v = .object fields → ∃ fields', v' = .object fields' ∧
      TypeGiven "#VirtualMedia.v1_3_0.VirtualMedia" fields fields') ∧
    (v.isObject = false → v' = v) := by
  have hmedia : odataTypes.lookup virtualMediaTable = some "#VirtualMedia.v1_3_0.VirtualMedia" := by
    decide
  cases h with
  | typed type htype fields fields' hfields =>
    obtain rfl : "#VirtualMedia.v1_3_0.VirtualMedia" = type :=
      Option.some.inj (hmedia.symm.trans htype)
    refine ⟨?_, nofun⟩
    rintro _ ⟨⟩
    exact ⟨fields', rfl, hfields⟩
  | other record hrecord =>
    refine ⟨?_, fun _ => rfl⟩
    rintro fields rfl
    cases hrecord
  | unknown record htable =>
    rw [hmedia] at htable
    cases htable

/-! ## Reads behind an action -/

/-- A media action is answered with 200, and the media resource that is read from the device behind
it is a document that the store takes. If that store can be read there, a read of the media resource
under the manager then looks into the store and does nothing else: it sends nothing, changes
nothing, and its result is the document, with the type of media if it is an object and with every
other field as read. The URL of the media resource may begin in any way, its own name is anything
but empty and without slashes, and any number of slashes may be behind the URL of the action. -/
theorem managersResource_media {w : World} {g : Aggregator} {managerId base media action : String}
    {slashes : Nat} {body : Option Json} {answer : DeviceResponse} {v : Json}
    (hmedia : media.toList ≠ []) (hslashless : '/' ∉ media.toList)
    (haction : action = insertMediaAction ∨ action = ejectMediaAction)
    (hrun : MediaIn w g managerId (mediaActionUrl base media action slashes) body (.ok answer)
      (some v))
    (hreadable : w.inventory.readFault virtualMediaTable (mediaResourceUrl base media) = none)
    (member : String) :
    let w' :=
      (Operation.media managerId (mediaActionUrl base media action slashes) body).perform g w
    (g.managersResource managerId (some member) (mediaResourceUrl base media)).run.history
        World.handle w' =
      [⟨.findResource virtualMediaTable (mediaResourceUrl base media), .ok v⟩] ∧
    ∃ v', (g.managersResource managerId (some member) (mediaResourceUrl base media)).run.run
        World.handle w' = (.ok v', w') ∧
      (∀ fields, v = .object fields → ∃ fields', v' = .object fields' ∧
        TypeGiven "#VirtualMedia.v1_3_0.VirtualMedia" fields fields') ∧
      (v.isObject = false → v' = v) := by
  intro w'
  obtain ⟨uuid, huuid⟩ := hrun.2.exists_device
  obtain ⟨localName, hsplit⟩ := exists_splitManagerId?_of_deviceOfManager huuid
  have htable := resourceTable_mediaResourceUrl base hmedia hslashless
  have hfound : w'.inventory.findResource virtualMediaTable (mediaResourceUrl base media) =
      .ok v := by
    rw [hrun.inventory_perform, mediaUrl_mediaActionUrl base media haction slashes]
    exact w.inventory.findResource_insertResource_self _ _ v hreadable
  obtain ⟨v', hhistory, hresult, hstamped⟩ := managersResource_of_found g hsplit (some member)
    (htable.symm ▸ hfound)
  rw [Option.isSome_some, htable] at hhistory hstamped
  exact ⟨hhistory, v', hresult, hstamped.of_virtualMediaTable⟩

/-- A world of one device behind one plugin, which takes an action and then shows a medium. -/
def mediaDevice : World where
  network := ⟨[⟨.respond ⟨200, [], "".toUTF8⟩, 0⟩,
    ⟨.respond ⟨200, [], "\x7b\"Id\":2\x7d".toUTF8⟩, 0⟩], [true], [], [], 0, 0⟩
  inventory := Path.loneDevice.inventory
  clock := "now"

/-- The ejection of that medium. -/
def mediaEjection : Operation :=
  .media "6d4a:1" (mediaActionUrl "/redfish" "Cd" ejectMediaAction 2) none

/-- Behind the ejection of that medium, its state is read from the store. -/
theorem managersResource_media_of_ejection :
    ∃ answer v v', v.compact = "\x7b\"Id\":2\x7d" ∧
      MediaIn mediaDevice ⟨⟨"https", .standard⟩, .ok, none⟩ "6d4a:1"
        (mediaActionUrl "/redfish" "Cd" ejectMediaAction 2) none (.ok answer) (some v) ∧
      ((Aggregator.mk ⟨"https", .standard⟩ .ok none).managersResource "6d4a:1" (some "Cd")
          (mediaResourceUrl "/redfish" "Cd")).run.run World.handle
          (mediaEjection.perform ⟨⟨"https", .standard⟩, .ok, none⟩ mediaDevice) =
        (.ok v', mediaEjection.perform ⟨⟨"https", .standard⟩, .ok, none⟩ mediaDevice) := by
  obtain ⟨result, record?, hmedia, hinventory⟩ :=
    Operation.inventory_of_media ⟨⟨"https", .standard⟩, .ok, none⟩ "6d4a:1"
      (mediaActionUrl "/redfish" "Cd" ejectMediaAction 2) none mediaDevice
  have hstored : ((mediaEjection.perform ⟨⟨"https", .standard⟩, .ok, none⟩
      mediaDevice).inventory.resources.lookup (virtualMediaTable,
        mediaUrl (mediaActionUrl "/redfish" "Cd" ejectMediaAction 2))).map Json.compact =
      some "\x7b\"Id\":2\x7d" := by
    decide +kernel
  rw [mediaEjection, hinventory] at hstored
  cases record? with
  | none => cases hstored
  | some v =>
    have hv : v.compact = "\x7b\"Id\":2\x7d" := by
      rw [Inventory.withMedia, Inventory.insertResource, Keyed.lookup_put_self] at hstored
      exact Option.some.inj hstored
    obtain ⟨answer, rfl, -⟩ := hmedia.2.exists_answer
    obtain ⟨-, v', hread, -⟩ :=
      managersResource_media (by decide) (by decide) (.inr rfl) hmedia rfl "Cd"
    exact ⟨answer, v, v', hv, hmedia, hread⟩

end PluginGateway
