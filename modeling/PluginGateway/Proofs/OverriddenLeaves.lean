import PluginGateway.Proofs.Overrides
import PluginGateway.Proofs.RecordFields
import PluginGateway.Proofs.VariableNames

/-!
# Leaves of a configuration overridden by a variable

Every plugin and every device of a configuration has its settings, its leaves: `Config.leaves` lists
them with the keys that lead there, what may stand there, and the configuration with the leaf
replaced.

The main statement, `Config.load_overridden`, says that a variable whose name spells the keys of a
leaf and whose value can be read as the leaf's replaces this leaf in what is loaded, and nothing
else. A name spells no capital letters, so it leads past an entry whose key has some:
`Config.load_misspelled` shows a configuration that cannot be loaded any more.
-/

namespace PluginGateway

open Extract Setting

/-! ## Leaves -/

namespace Extract

variable {α : Type} {x : Extract α}

/-- No table stands for a value. -/
def Plain (x : Extract α) : Prop := ∀ entries a, x (.table entries) ≠ .ok a

/-- What stands for a value is no table. -/
lemma Plain.ne_table (h : Plain x) {s : Setting} {a : α} (hs : x s = .ok a)
    (entries : List (String × Setting)) : s ≠ .table entries := by
  rintro rfl
  exact h entries a hs

/-- No table is a text. -/
lemma plain_text : Plain text := fun entries a h => by cases h

/-- No table is a number. -/
lemma plain_natural (bits : Nat) : Plain (natural bits) := fun entries a h => by cases h

/-- No table is a value that may be missing, if none is a value. -/
lemma Plain.optional (h : Plain x) : Plain (optional x) := fun entries _ ha => by
  obtain ⟨a, hx, -⟩ := map_eq_ok_iff.mp ha
  exact h entries a hx

end Extract

/-- A leaf of a record: the keys that lead to it, what may stand there, and the record with the leaf
replaced. -/
structure Leaf (α : Type) where
  /-- The keys, outermost first. -/
  path : List String
  /-- What may stand there. -/
  Value : Type
  /-- What a setting stands for. -/
  read : Extract Value
  /-- There is nothing below the leaf. -/
  plain : read.Plain
  /-- The record with the leaf replaced. -/
  write : Value → α → α

/-- The port of a plugin. -/
def PluginEntry.portLeaf : Leaf PluginEntry :=
  ⟨["port"], Nat, natural 16, plain_natural 16, fun v e => { e with port := v.toUInt16 }⟩

/-- The leaves of what is said of a plugin. -/
def PluginEntry.leaves : List (Leaf PluginEntry) :=
  [⟨["ip"], String, text, plain_text, fun v e => { e with ip := v }⟩,
    portLeaf,
    ⟨["username"], String, text, plain_text, fun v e => { e with username := v }⟩,
    ⟨["password"], Option String, optional text, plain_text.optional,
      fun v e => { e with password := v }⟩,
    ⟨["password_env"], Option String, optional text, plain_text.optional,
      fun v e => { e with passwordEnv := v }⟩,
    ⟨["preferred_auth_type"], String, text, plain_text, fun v e => { e with authName := v }⟩]

/-- The leaves of what is said of a device. -/
def TargetEntry.leaves : List (Leaf TargetEntry) :=
  [⟨["plugin_id"], String, text, plain_text, fun v e => { e with pluginId := v }⟩,
    ⟨["manager_address"], String, text, plain_text, fun v e => { e with managerAddress := v }⟩,
    ⟨["username"], String, text, plain_text, fun v e => { e with username := v }⟩,
    ⟨["password"], Option String, optional text, plain_text.optional,
      fun v e => { e with password := v }⟩,
    ⟨["password_env"], Option String, optional text, plain_text.optional,
      fun v e => { e with passwordEnv := v }⟩]

/-- A leaf of what is said of a plugin, as a leaf of the configuration. -/
def Leaf.ofPlugin (id : String) (leaf : Leaf PluginEntry) : Leaf Config where
  path := "plugins" :: id :: leaf.path
  Value := leaf.Value
  read := leaf.read
  plain := leaf.plain
  write v c := { c with plugins := Keyed.modify id (leaf.write v) c.plugins }

/-- A leaf of what is said of a device, as a leaf of the configuration. -/
def Leaf.ofTarget (uuid : String) (leaf : Leaf TargetEntry) : Leaf Config where
  path := "targets" :: uuid :: leaf.path
  Value := leaf.Value
  read := leaf.read
  plain := leaf.plain
  write v c := { c with targets := Keyed.modify uuid (leaf.write v) c.targets }

/-- The leaves of the plugins and devices of a configuration, each with the name of the plugin or
the identifier of the device. -/
def Config.leaves (c : Config) : List (String × Leaf Config) :=
  (c.plugins.flatMap fun e => PluginEntry.leaves.map fun leaf => (e.1, leaf.ofPlugin e.1)) ++
    c.targets.flatMap fun e => TargetEntry.leaves.map fun leaf => (e.1, leaf.ofTarget e.1)

/-- What some keys lead to in a tree of settings. -/
def Setting.find? : List String → Setting → Option Setting
  | [], s => some s
  | key :: path, .table entries => (entries.lookup key).bind (find? path)
  | _ :: _, _ => none

/-! ## Leaves of plugins and devices -/

namespace PluginEntry

variable {entries : List (String × Setting)} {e : PluginEntry}

/-- What is said of a plugin is what the fields of a table say. -/
lemma ofSetting_eq_ok_iff :
    ofSetting (.table entries) = .ok e ↔
      ∃ ip port username password? passwordEnv? authName?,
        (Source.named entries).field 0 "ip" text = .ok (some ip) ∧
        (Source.named entries).field 1 "port" (natural 16) = .ok (some port) ∧
        (Source.named entries).field 2 "username" text = .ok (some username) ∧
        (Source.named entries).field 3 "password" (optional text) = .ok password? ∧
        (Source.named entries).field 4 "password_env" (optional text) = .ok passwordEnv? ∧
        (Source.named entries).field 5 "preferred_auth_type" text = .ok authName? ∧
        e = ⟨ip, port.toUInt16, username, password?.getD none, passwordEnv?.getD none,
          authName?.getD AuthScheme.basic.name⟩ := by
  rw [ofSetting, Extract.record]
  simp only [bind_eq_ok_iff, Source.check_eq_ok_iff, Source.required_eq_ok_iff, Source.spared_named,
    List.forall_mem_cons, Source.faultOf_eq_none_iff, pure, Except.pure, Except.ok.injEq]
  constructor
  · rintro ⟨-, -, _, hip, ip, rfl, _, hport, port, rfl, _, husername, username, rfl, password?,
      hpassword, _, rfl, passwordEnv?, hpasswordEnv, _, rfl, authName?, hauthName, rfl⟩
    exact ⟨ip, port, username, password?, passwordEnv?, authName?, hip, hport, husername, hpassword,
      hpasswordEnv, hauthName, rfl⟩
  · rintro ⟨ip, port, username, password?, passwordEnv?, authName?, hip, hport, husername,
      hpassword, hpasswordEnv, hauthName, rfl⟩
    exact ⟨(), ⟨⟨_, hip⟩, ⟨_, hport⟩, ⟨_, husername⟩, ⟨_, hpassword⟩, ⟨_, hpasswordEnv⟩,
      ⟨_, hauthName⟩, List.forall_mem_nil _⟩, _, hip, ip, rfl, _, hport, port, rfl, _, husername,
      username, rfl, password?, hpassword, _, rfl, passwordEnv?, hpasswordEnv, _, rfl, authName?,
      hauthName, rfl⟩

/-- One key leads to a leaf, and a name can spell it. -/
lemma exists_path {leaf : Leaf PluginEntry} (hleaf : leaf ∈ leaves) :
    ∃ name, leaf.path = [name] ∧ Environment.Spellable name := by
  simp only [leaves, List.mem_cons, List.not_mem_nil, or_false] at hleaf
  rcases hleaf with rfl | rfl | rfl | rfl | rfl | rfl <;> exact ⟨_, rfl, by decide⟩

/-- A leaf overridden in a table is the leaf replaced in what the table says. -/
lemma ofSetting_override (h : ofSetting (.table entries) = .ok e) {leaf : Leaf PluginEntry}
    (hleaf : leaf ∈ leaves) {s : Setting} {value : leaf.Value} (hs : leaf.read s = .ok value) :
    ofSetting (overlaid (some (.table entries)) (Environment.nested leaf.path s)) =
      .ok (leaf.write value e) := by
  have hplain := leaf.plain.ne_table hs
  obtain ⟨ip, port, username, password?, passwordEnv?, authName?, hip, hport, husername, hpassword,
    hpasswordEnv, hauthName, rfl⟩ := ofSetting_eq_ok_iff.mp h
  simp only [leaves, portLeaf, List.mem_cons, List.not_mem_nil, or_false] at hleaf
  rcases hleaf with rfl | rfl | rfl | rfl | rfl | rfl <;>
  · rw [overlaid_nested_cons, Environment.nested, overlaid_of_plain hplain, entriesOf,
      ofSetting_eq_ok_iff]
    simp (disch := decide) only [Source.field_place_self hs, Source.field_place_of_ne, hip, hport,
      husername, hpassword, hpasswordEnv, hauthName]
    exact ⟨_, _, _, _, _, _, rfl, rfl, rfl, rfl, rfl, rfl, rfl⟩

end PluginEntry

namespace TargetEntry

variable {entries : List (String × Setting)} {e : TargetEntry}

/-- What is said of a device is what the fields of a table say. -/
lemma ofSetting_eq_ok_iff :
    ofSetting (.table entries) = .ok e ↔
      ∃ pluginId managerAddress username password? passwordEnv?,
        (Source.named entries).field 0 "plugin_id" text = .ok (some pluginId) ∧
        (Source.named entries).field 1 "manager_address" text = .ok (some managerAddress) ∧
        (Source.named entries).field 2 "username" text = .ok (some username) ∧
        (Source.named entries).field 3 "password" (optional text) = .ok password? ∧
        (Source.named entries).field 4 "password_env" (optional text) = .ok passwordEnv? ∧
        e = ⟨pluginId, managerAddress, username, password?.getD none, passwordEnv?.getD none⟩ := by
  rw [ofSetting, Extract.record]
  simp only [bind_eq_ok_iff, Source.check_eq_ok_iff, Source.required_eq_ok_iff, Source.spared_named,
    List.forall_mem_cons, Source.faultOf_eq_none_iff, pure, Except.pure, Except.ok.injEq]
  constructor
  · rintro ⟨-, -, _, hpluginId, pluginId, rfl, _, haddress, managerAddress, rfl, _, husername,
      username, rfl, password?, hpassword, _, rfl, passwordEnv?, hpasswordEnv, _, rfl, rfl⟩
    exact ⟨pluginId, managerAddress, username, password?, passwordEnv?, hpluginId, haddress,
      husername, hpassword, hpasswordEnv, rfl⟩
  · rintro ⟨pluginId, managerAddress, username, password?, passwordEnv?, hpluginId, haddress,
      husername, hpassword, hpasswordEnv, rfl⟩
    exact ⟨(), ⟨⟨_, hpluginId⟩, ⟨_, haddress⟩, ⟨_, husername⟩, ⟨_, hpassword⟩, ⟨_, hpasswordEnv⟩,
      List.forall_mem_nil _⟩, _, hpluginId, pluginId, rfl, _, haddress, managerAddress, rfl, _,
      husername, username, rfl, password?, hpassword, _, rfl, passwordEnv?, hpasswordEnv, _, rfl,
      rfl⟩

/-- One key leads to a leaf, and a name can spell it. -/
lemma exists_path {leaf : Leaf TargetEntry} (hleaf : leaf ∈ leaves) :
    ∃ name, leaf.path = [name] ∧ Environment.Spellable name := by
  simp only [leaves, List.mem_cons, List.not_mem_nil, or_false] at hleaf
  rcases hleaf with rfl | rfl | rfl | rfl | rfl <;> exact ⟨_, rfl, by decide⟩

/-- A leaf overridden in a table is the leaf replaced in what the table says. -/
lemma ofSetting_override (h : ofSetting (.table entries) = .ok e) {leaf : Leaf TargetEntry}
    (hleaf : leaf ∈ leaves) {s : Setting} {value : leaf.Value} (hs : leaf.read s = .ok value) :
    ofSetting (overlaid (some (.table entries)) (Environment.nested leaf.path s)) =
      .ok (leaf.write value e) := by
  have hplain := leaf.plain.ne_table hs
  obtain ⟨pluginId, managerAddress, username, password?, passwordEnv?, hpluginId, haddress,
    husername, hpassword, hpasswordEnv, rfl⟩ := ofSetting_eq_ok_iff.mp h
  simp only [leaves, List.mem_cons, List.not_mem_nil, or_false] at hleaf
  rcases hleaf with rfl | rfl | rfl | rfl | rfl <;>
  · rw [overlaid_nested_cons, Environment.nested, overlaid_of_plain hplain, entriesOf,
      ofSetting_eq_ok_iff]
    simp (disch := decide) only [Source.field_place_self hs, Source.field_place_of_ne, hpluginId,
      haddress, husername, hpassword, hpasswordEnv]
    exact ⟨_, _, _, _, _, rfl, rfl, rfl, rfl, rfl, rfl⟩

end TargetEntry

/-! ## Leaves of a configuration -/

/-- A leaf overridden in an entry of a group is the leaf replaced in the value of the entry, if the
entry is no list. -/
lemma field_override {α : Type} {x : Extract α}
    (hrecord : ∀ s a, x s = .ok a → (∃ entries, s = .table entries) ∨ ∃ items, s = .list items)
    {entries : List (String × Setting)} (hordered : Ordered (.table entries)) {place : Nat}
    {group : String} {values : List (String × α)}
    (hfield : (Source.named entries).field place group (tableOf x) = .ok (some values))
    {key : String} {a : α} (hmem : (key, a) ∈ values)
    (hlist : ∀ items, find? [group, key] (.table entries) ≠ some (.list items)) {leaf : Leaf α}
    {s : Setting} {value : leaf.Value} (hpath : ∃ name, leaf.path = [name])
    (hleaf : ∀ fields, x (.table fields) = .ok a →
      x (overlaid (some (.table fields)) (Environment.nested leaf.path s)) =
        .ok (leaf.write value a)) :
    ThroughTables (group :: key :: leaf.path) (some (.table entries)) ∧
      ∃ t, overlaid (some (.table entries)) (Environment.nested (group :: key :: leaf.path) s) =
          .table (Setting.place group t entries) ∧
        tableOf x t = .ok (Keyed.modify key (leaf.write value) values) := by
  obtain ⟨table, hgroup, htable⟩ := Source.exists_of_field hfield
  have htableOrdered : Ordered table := hordered.of_lookup hgroup
  cases table with
  | table items =>
    have hkeys : Rising items := (ordered_table_iff.mp htableOrdered).1
    have hvalues : Extract.entries x items = .ok values := htable
    obtain ⟨t, ht, ha⟩ := exists_of_mem_gives (entries_eq_ok_iff.mp hvalues) hmem
    have hlookup : items.lookup key = some t := (Keyed.lookup_eq_some_iff hkeys.nodup).mpr ht
    rcases hrecord t a ha with ⟨fields, rfl⟩ | ⟨listed, rfl⟩
    · obtain ⟨name, hname⟩ := hpath
      constructor
      · rw [hname]
        exact ⟨entries, rfl, items, hgroup, fields, hlookup, trivial⟩
      · refine ⟨_, overlaid_nested_cons _ _ _ _, ?_⟩
        rw [entriesOf, hgroup, overlaid_nested_cons, entriesOf, hlookup]
        exact entries_place hkeys hvalues hlookup ha (hleaf fields ha)
    · exact absurd (by simp [find?, hgroup, hlookup]) (hlist listed)
  | _ => cases htable

namespace Config

variable {entries : List (String × Setting)} {c : Config}

/-- A configuration is what the fields of a table say. -/
lemma ofSetting_eq_ok_iff :
    ofSetting (.table entries) = .ok c ↔ ∃ transport? conversion? polling? plugins? targets?,
      (Source.named entries).field 0 "transport" TransportSection.ofSetting = .ok transport? ∧
      (Source.named entries).field 1 "url_translation" ConversionSection.ofSetting =
        .ok conversion? ∧
      (Source.named entries).field 2 "plugin_status_polling" PollingSection.ofSetting =
        .ok polling? ∧
      (Source.named entries).field 3 "plugins" (tableOf PluginEntry.ofSetting) = .ok plugins? ∧
      (Source.named entries).field 4 "targets" (tableOf TargetEntry.ofSetting) = .ok targets? ∧
      c = ⟨transport?.getD {}, conversion?.getD {}, polling?.getD {}, plugins?.getD [],
        targets?.getD []⟩ := by
  rw [ofSetting, Extract.record]
  simp only [bind_eq_ok_iff, Source.check_eq_ok_iff, List.forall_mem_cons,
    Source.faultOf_eq_none_iff, pure, Except.pure, Except.ok.injEq]
  constructor
  · rintro ⟨-, -, transport?, ht, conversion?, hc, polling?, hp, plugins?, hpl, targets?, htg, rfl⟩
    exact ⟨transport?, conversion?, polling?, plugins?, targets?, ht, hc, hp, hpl, htg, rfl⟩
  · rintro ⟨transport?, conversion?, polling?, plugins?, targets?, ht, hc, hp, hpl, htg, rfl⟩
    exact ⟨(), ⟨⟨_, ht⟩, ⟨_, hc⟩, ⟨_, hp⟩, ⟨_, hpl⟩, ⟨_, htg⟩, List.forall_mem_nil _⟩, transport?,
      ht, conversion?, hc, polling?, hp, plugins?, hpl, targets?, htg, rfl⟩

/-- A leaf of a configuration is one of a plugin or one of a device. -/
lemma mem_leaves_iff {id : String} {leaf : Leaf Config} : (id, leaf) ∈ c.leaves ↔
    (∃ e leaf', (id, e) ∈ c.plugins ∧ leaf' ∈ PluginEntry.leaves ∧ leaf = leaf'.ofPlugin id) ∨
      ∃ e leaf', (id, e) ∈ c.targets ∧ leaf' ∈ TargetEntry.leaves ∧ leaf = leaf'.ofTarget id := by
  simp only [leaves, List.mem_append, List.mem_flatMap, List.mem_map, Prod.mk.injEq]
  constructor
  · rintro (⟨⟨id, e⟩, he, leaf, hleaf, rfl, rfl⟩ | ⟨⟨id, e⟩, he, leaf, hleaf, rfl, rfl⟩)
    · exact .inl ⟨e, leaf, he, hleaf, rfl⟩
    · exact .inr ⟨e, leaf, he, hleaf, rfl⟩
  · rintro (⟨e, leaf, he, hleaf, rfl⟩ | ⟨e, leaf, he, hleaf, rfl⟩)
    · exact .inl ⟨(id, e), he, leaf, hleaf, rfl, rfl⟩
    · exact .inr ⟨(id, e), he, leaf, hleaf, rfl, rfl⟩

/-- The keys that lead to a leaf of a configuration can be spelled if that of its plugin or device
can. -/
lemma spellable_of_mem_leaves {id : String} {leaf : Leaf Config} (hleaf : (id, leaf) ∈ c.leaves)
    (hid : Environment.Spellable id) :
    leaf.path ≠ [] ∧ ∀ key ∈ leaf.path, Environment.Spellable key := by
  rcases mem_leaves_iff.mp hleaf with ⟨e, leaf, -, hof, rfl⟩ | ⟨e, leaf, -, hof, rfl⟩
  · obtain ⟨name, hname, hspellable⟩ := PluginEntry.exists_path hof
    rw [Leaf.ofPlugin, hname]
    simp only [List.forall_mem_cons]
    exact ⟨List.cons_ne_nil _ _, by decide, hid, hspellable, List.forall_mem_nil _⟩
  · obtain ⟨name, hname, hspellable⟩ := TargetEntry.exists_path hof
    rw [Leaf.ofTarget, hname]
    simp only [List.forall_mem_cons]
    exact ⟨List.cons_ne_nil _ _, by decide, hid, hspellable, List.forall_mem_nil _⟩

/-- A leaf overridden in a table is the leaf replaced in the configuration of the table, if the
entry that it belongs to is no list. -/
lemma ofSetting_override (hordered : Ordered (.table entries))
    (h : ofSetting (.table entries) = .ok c) {id : String} {leaf : Leaf Config}
    (hleaf : (id, leaf) ∈ c.leaves)
    (hlist : ∀ items, find? leaf.path.dropLast (.table entries) ≠ some (.list items))
    {s : Setting} {value : leaf.Value} (hs : leaf.read s = .ok value) :
    ThroughTables leaf.path (some (.table entries)) ∧
      ofSetting (overlaid (some (.table entries)) (Environment.nested leaf.path s)) =
        .ok (leaf.write value c) := by
  obtain ⟨transport?, conversion?, polling?, plugins?, targets?, htransport, hconversion, hpolling,
    hplugins, htargets, rfl⟩ := ofSetting_eq_ok_iff.mp h
  rcases mem_leaves_iff.mp hleaf with ⟨e, leaf, hmem, hof, rfl⟩ | ⟨e, leaf, hmem, hof, rfl⟩
  · cases plugins? with
    | none => cases hmem
    | some plugins =>
      obtain ⟨name, hname, -⟩ := PluginEntry.exists_path hof
      have hentry : ∀ items, find? ["plugins", id] (.table entries) ≠ some (.list items) := by
        simpa [Leaf.ofPlugin, hname] using hlist
      obtain ⟨htables, group, hover, hgroup⟩ := field_override (x := PluginEntry.ofSetting)
        (fun s a => record_eq_ok) hordered hplugins hmem hentry ⟨name, hname⟩
        fun fields hfields => PluginEntry.ofSetting_override hfields hof hs
      refine ⟨htables, ?_⟩
      show ofSetting (overlaid _ (Environment.nested ("plugins" :: id :: leaf.path) s)) = _
      rw [hover, ofSetting_eq_ok_iff]
      simp (disch := decide) only [Source.field_place_self hgroup, Source.field_place_of_ne,
        htransport, hconversion, hpolling, htargets]
      exact ⟨_, _, _, _, _, rfl, rfl, rfl, rfl, rfl, rfl⟩
  · cases targets? with
    | none => cases hmem
    | some targets =>
      obtain ⟨name, hname, -⟩ := TargetEntry.exists_path hof
      have hentry : ∀ items, find? ["targets", id] (.table entries) ≠ some (.list items) := by
        simpa [Leaf.ofTarget, hname] using hlist
      obtain ⟨htables, group, hover, hgroup⟩ := field_override (x := TargetEntry.ofSetting)
        (fun s a => record_eq_ok) hordered htargets hmem hentry ⟨name, hname⟩
        fun fields hfields => TargetEntry.ofSetting_override hfields hof hs
      refine ⟨htables, ?_⟩
      show ofSetting (overlaid _ (Environment.nested ("targets" :: id :: leaf.path) s)) = _
      rw [hover, ofSetting_eq_ok_iff]
      simp (disch := decide) only [Source.field_place_self hgroup, Source.field_place_of_ne,
        htransport, hconversion, hpolling, hplugins]
      exact ⟨_, _, _, _, _, rfl, rfl, rfl, rfl, rfl, rfl⟩

/-- What is loaded is what the layers together say, if the file is a TOML document. -/
lemma load_eq_ok_iff {file : Option ByteArray} {env : Environment} :
    load file env = .ok c ↔
      ∃ settings, fileSettings? file = some settings ∧
        ofSetting (layered settings env) = .ok c := by
  unfold load
  cases fileSettings? file with
  | none => simp
  | some settings => simp [mapError_eq_ok_iff]

/-- What some keys lead to in the layers of a file and an environment. -/
def setting? (file : Option ByteArray) (env : Environment) (path : List String) : Option Setting :=
  (fileSettings? file).bind fun settings => find? path (layered settings env)

/-- A variable whose name spells the keys of a leaf and whose value can be read as the leaf's
replaces the leaf in the configuration that is loaded without it, and nothing else, if its plugin or
device is not written as a list and the later variables spare the leaf. -/
theorem load_overridden {file : Option ByteArray} {before after : Environment} {c : Config}
    (hload : load file (before ++ after) = .ok c) {id : String} {leaf : Leaf Config}
    (hleaf : (id, leaf) ∈ c.leaves) (hid : Environment.Spellable id)
    (hlist : ∀ items, setting? file (before ++ after) leaf.path.dropLast ≠ some (.list items))
    {name text : String} (hname : Environment.Spells name leaf.path)
    (hlater : Environment.Spares after leaf.path) {value : leaf.Value}
    (htext : leaf.read (Environment.valueOf text) = .ok value) :
    load file (before ++ (name, text) :: after) = .ok (leaf.write value c) := by
  obtain ⟨settings, hfile, hc⟩ := load_eq_ok_iff.mp hload
  obtain ⟨hne, hkeys⟩ := spellable_of_mem_leaves hleaf hid
  have hpath : Environment.path? name = some leaf.path := Environment.path?_spelled hne hkeys hname
  have hplain := leaf.plain.ne_table htext
  have hordered := ordered_layered hfile (before ++ after)
  have hentry (items : List Setting) :
      find? leaf.path.dropLast (layered settings (before ++ after)) ≠ some (.list items) := by
    simpa [setting?, hfile] using hlist items
  obtain ⟨entries, hentries⟩ := exists_table_layered hfile (before ++ after)
  rw [hentries] at hc hordered hentry
  obtain ⟨htables, hwritten⟩ := ofSetting_override hordered hc hleaf hentry htext
  rw [← hentries] at htables hwritten
  rw [load_eq_ok_iff]
  refine ⟨settings, hfile, ?_⟩
  rw [layered_set hpath hlater hplain htables]
  exact hwritten

-- what is written as a list is replaced by a table of the leaf alone
example : load
    (some "[plugins]\ngrf = [\"10.0.0.5\", 45001, \"admin\", \"p\", \"E\", \"BasicAuth\"]\n".toUTF8)
    [("REDFLY_PLUGINS__GRF__PORT", "45002")] =
      .error (.unfit ⟨["plugins", "grf"], .missingField "ip"⟩) := by
  decide +kernel

/-- A file with a plugin of a name, at the port 45001. -/
def singleFile (id : String) : ByteArray :=
  ("[plugins." ++ id ++ "]\nip = \"10.0.0.5\"\nport = 45001\nusername = \"admin\"\n").toUTF8

/-- The configuration of a plugin of a name. -/
def single (id : String) (port : UInt16) : Config where
  plugins := [(id, ⟨"10.0.0.5", port, "admin", none, none, "BasicAuth"⟩)]

/-- The port of a plugin is overridden, between variables that override other things. -/
theorem load_overridden_of_port :
    load (some (singleFile "grf-2")) ([("REDFLY_PLUGINS__GRF-2__USERNAME", "admin")] ++
        [("REDFLY_TRANSPORT__TIMEOUT_SECS", "30")]) = .ok (single "grf-2" 45001) ∧
      load (some (singleFile "grf-2")) ([("REDFLY_PLUGINS__GRF-2__USERNAME", "admin")] ++
        ("REDFLY_PLUGINS__GRF-2__PORT", "45002") :: [("REDFLY_TRANSPORT__TIMEOUT_SECS", "30")]) =
          .ok (single "grf-2" 45002) := by
  have hload : load (some (singleFile "grf-2")) ([("REDFLY_PLUGINS__GRF-2__USERNAME", "admin")] ++
      [("REDFLY_TRANSPORT__TIMEOUT_SECS", "30")]) = .ok (single "grf-2" 45001) := by
    decide +kernel
  have hleaf : ("grf-2", PluginEntry.portLeaf.ofPlugin "grf-2") ∈ (single "grf-2" 45001).leaves :=
    mem_leaves_iff.mpr (.inl ⟨_, _, List.mem_singleton.mpr rfl, by simp [PluginEntry.leaves], rfl⟩)
  have hid : Environment.Spellable "grf-2" := Environment.spellable_of_plain (by decide) (by simp)
  have hlist : ∀ items, setting? (some (singleFile "grf-2"))
      ([("REDFLY_PLUGINS__GRF-2__USERNAME", "admin")] ++ [("REDFLY_TRANSPORT__TIMEOUT_SECS", "30")])
      ["plugins", "grf-2"] ≠ some (.list items) := by
    have hkind : (setting? (some (singleFile "grf-2"))
        ([("REDFLY_PLUGINS__GRF-2__USERNAME", "admin")] ++
          [("REDFLY_TRANSPORT__TIMEOUT_SECS", "30")]) ["plugins", "grf-2"]).map described =
            some "map" := by
      decide +kernel
    intro items hitems
    rw [hitems] at hkind
    simp [described] at hkind
  have hlater : Environment.Spares [("REDFLY_TRANSPORT__TIMEOUT_SECS", "30")]
      ["plugins", "grf-2", "port"] := by
    intro v hv path hpath
    obtain rfl := List.mem_singleton.mp hv
    have htransport : Environment.path? "REDFLY_TRANSPORT__TIMEOUT_SECS" =
        some ["transport", "timeout_secs"] := by
      decide +kernel
    obtain rfl := Option.some.inj (hpath.symm.trans htransport)
    decide
  have htext : (PluginEntry.portLeaf.ofPlugin "grf-2").read (Environment.valueOf "45002") =
      .ok (45002 : Nat) := rfl
  exact ⟨hload, load_overridden hload hleaf hid hlist (by decide) hlater htext⟩

/-- A capital letter in the name of a plugin cannot be spelled: the variable for its port leads to
another plugin, of which nothing else is said. -/
theorem load_misspelled : ∃ leaf, ("GRF", leaf) ∈ (single "GRF" 45001).leaves ∧
    load (some (singleFile "GRF")) [] = .ok (single "GRF" 45001) ∧
    Environment.Spells "REDFLY_PLUGINS__GRF__PORT" leaf.path ∧
    (∃ value, leaf.read (Environment.valueOf "45002") = .ok value) ∧
    load (some (singleFile "GRF")) [("REDFLY_PLUGINS__GRF__PORT", "45002")] =
      .error (.unfit ⟨["plugins", "grf"], .missingField "ip"⟩) := by
  have hleaf : ("GRF", PluginEntry.portLeaf.ofPlugin "GRF") ∈ (single "GRF" 45001).leaves :=
    mem_leaves_iff.mpr (.inl ⟨_, _, List.mem_singleton.mpr rfl, by simp [PluginEntry.leaves], rfl⟩)
  exact ⟨_, hleaf, by decide +kernel, by decide, ⟨(45002 : Nat), rfl⟩, by decide +kernel⟩

end Config

end PluginGateway
