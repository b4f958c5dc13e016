import PluginGateway.Config.Provision
import PluginGateway.Proofs.DeviceConduct
import PluginGateway.Proofs.Results
import PluginGateway.Proofs.StoredResources

/-!
# The inventory that a configuration provides

A configuration is complete if every plugin has a scheme of authentication and a password, and every
device a plugin of the configuration and a password. `Config.Complete` says so without mentioning an
order or a loop, and `Config.Fills` says of an inventory that it holds what the configuration says,
all of it and nothing else.

The main statement, `inventory_fills`, says that in whatever order plugins and devices are gone
through, there is an inventory exactly if the configuration is complete, and that it is filled so.
Then every device leads to its plugin, and a request to a device of the configuration finds both,
also behind any operations.
-/

namespace PluginGateway

/-! ## Passwords and schemes -/

/-- The variables of a process whose values are texts. The first one of a name counts. -/
def Environment.ofProcess (process : List (String × ByteArray)) : Environment :=
  (process.map Prod.fst).filterMap fun name =>
    ((process.lookup name).bind String.fromUTF8?).map fun text => (name, text)

/-- The password of an entry: the value of the variable that is named for it, if that is set to a
text, and otherwise the one that is given. -/
inductive Resolves (process : List (String × ByteArray)) (source given : Option String) :
    String → Prop
  /-- The variable is set to a text. -/
  | named (name text : String) (hsource : source = some name)
    (hset : process.lookup name = some text.toUTF8) : Resolves process source given text
  /-- No variable is named, or the one named is not set to a text. -/
  | plain (text : String)
    (hunset : ∀ name, source = some name → ∀ value : String,
      process.lookup name ≠ some value.toUTF8)
    (hgiven : given = some text) : Resolves process source given text

/-- The text is the name of the scheme, up to the case of ASCII letters. -/
def AuthScheme.NamedBy (scheme : AuthScheme) (text : String) : Prop :=
  Text.lowerAscii text.toList = Text.lowerAscii scheme.name.toList

/-- What names lead to, as entries by name. -/
lemma lookup_filterMap_names (g : String → Option String) (names : List String) (name : String) :
    (names.filterMap fun n => (g n).map fun text => (n, text)).lookup name =
      if name ∈ names then g name else none := by
  induction names with
  | nil => rfl
  | cons n names ih =>
    rw [List.filterMap_cons]
    by_cases hname : name = n
    · subst hname
      rw [if_pos List.mem_cons_self]
      cases hvalue : g name with
      | none => simpa [hvalue] using ih
      | some text => simp
    · have hiff : name ∈ n :: names ↔ name ∈ names := by simp [hname]
      have hne : (name == n) = false := by simpa using hname
      cases hvalue : g n with
      | none => simpa [hiff] using ih
      | some text => simpa [hiff, List.lookup_cons, hne] using ih

/-- What the environment of a process says of a variable. -/
lemma Environment.get?_ofProcess (process : List (String × ByteArray)) (name : String) :
    (ofProcess process).get? name = (process.lookup name).bind String.fromUTF8? := by
  have hlookup := lookup_filterMap_names
    (fun n => (process.lookup n).bind String.fromUTF8?) (process.map Prod.fst) name
  rw [get?, ofProcess, hlookup]
  split
  · rfl
  · next hname => rw [Keyed.lookup_of_not_mem hname, Option.bind_none]

/-- A variable has a text as its value exactly if it is set to the bytes of the text. -/
lemma Environment.get?_ofProcess_eq_some_iff {process : List (String × ByteArray)}
    {name text : String} :
    (ofProcess process).get? name = some text ↔ process.lookup name = some text.toUTF8 := by
  rw [get?_ofProcess, Option.bind_eq_some_iff]
  constructor
  · rintro ⟨bytes, hbytes, htext⟩
    rw [hbytes, Text.toUTF8_of_fromUTF8? htext]
  · intro h
    exact ⟨_, h, Text.fromUTF8?_toUTF8 text⟩

/-- The password that is looked up is the one that the entry resolves to. -/
lemma Config.password_eq_ok_iff {process : List (String × ByteArray)} {kind name : String}
    {source given : Option String} {text : String} :
    password (.ofProcess process) kind name source given = .ok text ↔
      Resolves process source given text := by
  have hset {name text : String} : (Environment.ofProcess process).get? name = some text ↔
      process.lookup name = some text.toUTF8 := Environment.get?_ofProcess_eq_some_iff
  unfold password
  cases hvalue : source.bind (Environment.ofProcess process).get? with
  | some value =>
    obtain ⟨name, hname, hget⟩ := Option.bind_eq_some_iff.mp hvalue
    rw [Option.some_or]
    constructor
    · intro h
      obtain rfl := Except.ok.inj h
      exact .named name value hname (hset.mp hget)
    · rintro (⟨name', _, hname', hset'⟩ | ⟨_, hunset, -⟩)
      · obtain rfl := Option.some.inj (hname.symm.trans hname')
        rw [← hset, hget] at hset'
        exact congrArg _ (Option.some.inj hset')
      · exact absurd (hset.mp hget) (hunset name hname value)
  | none =>
    have hunset : ∀ name, source = some name → ∀ value : String,
        process.lookup name ≠ some value.toUTF8 := by
      intro name hname value hlookup
      rw [hname, Option.bind_some, hset.mpr hlookup] at hvalue
      cases hvalue
    rw [Option.none_or]
    cases given with
    | none =>
      constructor
      · exact nofun
      · rintro (⟨name', _, hname', hset'⟩ | ⟨_, -, hgiven⟩)
        · exact absurd hset' (hunset name' hname' _)
        · cases hgiven
    | some value =>
      constructor
      · intro h
        exact .plain _ hunset (congrArg _ (Except.ok.inj h))
      · rintro (⟨name', _, hname', hset'⟩ | ⟨_, -, hgiven⟩)
        · exact absurd hset' (hunset name' hname' _)
        · exact congrArg _ (Option.some.inj hgiven)

/-- No name stands for two schemes. -/
lemma AuthScheme.NamedBy.unique {scheme scheme' : AuthScheme} {text : String}
    (h : scheme.NamedBy text) (h' : scheme'.NamedBy text) : scheme = scheme' := by
  have hnames : Text.lowerAscii scheme.name.toList = Text.lowerAscii scheme'.name.toList :=
    h.symm.trans h'
  cases scheme <;> cases scheme' <;> first | rfl | exact absurd hnames (by decide)

/-- A name is read as the scheme that it names. -/
lemma AuthScheme.ofName?_eq_some_iff {text : String} {scheme : AuthScheme} :
    ofName? text = some scheme ↔ scheme.NamedBy text := by
  have hsame (scheme : AuthScheme) :
      Text.sameIgnoringCase text.toList scheme.name.toList = true ↔ scheme.NamedBy text := by
    simp [Text.sameIgnoringCase, NamedBy]
  have hnamed {scheme : AuthScheme} (h : ofName? text = some scheme) : scheme.NamedBy text := by
    unfold ofName? at h
    have hfound := List.find?_some h
    exact (hsame scheme).mp hfound
  constructor
  · exact hnamed
  · intro h
    have hfound : (ofName? text).isSome = true := by
      refine List.find?_isSome.mpr ⟨scheme, ?_, (hsame scheme).mpr h⟩
      cases scheme <;> simp
    obtain ⟨scheme', hscheme'⟩ := Option.isSome_iff_exists.mp hfound
    rw [hscheme', (hnamed hscheme').unique h]

/-! ## Entries -/

/-- The plugin is the one that an entry under a name describes. -/
structure PluginEntry.Describes (process : List (String × ByteArray)) (id : String)
    (e : PluginEntry) (p : Plugin) : Prop where
  /-- Its name is that of the entry. -/
  id : p.id = id
  /-- Its host is that of the entry. -/
  ip : p.ip = e.ip
  /-- Its port is that of the entry. -/
  port : p.port = e.port
  /-- Its user name is that of the entry. -/
  username : p.username = e.username
  /-- Its password is the one that the entry resolves to. -/
  password : Resolves process e.passwordEnv e.password p.password
  /-- Its scheme is the one that the entry names. -/
  auth : p.auth.NamedBy e.authName

/-- The device is the one that an entry under an identifier describes. -/
structure TargetEntry.Describes (process : List (String × ByteArray)) (uuid : String)
    (e : TargetEntry) (t : Target) : Prop where
  /-- Its identifier is that of the entry. -/
  uuid : t.deviceUuid = uuid
  /-- Its plugin is that of the entry. -/
  pluginId : t.pluginId = e.pluginId
  /-- Its address is that of the entry. -/
  managerAddress : t.managerAddress = e.managerAddress
  /-- Its user name is that of the entry. -/
  username : t.username = e.username
  /-- Its password is the one that the entry resolves to, in bytes. -/
  password : ∃ text, Resolves process e.passwordEnv e.password text ∧ t.password = text.toUTF8

namespace Config

/-- Nothing is missing in a configuration. -/
structure Complete (c : Config) (process : List (String × ByteArray)) : Prop where
  /-- Every plugin names a scheme of authentication and has a password. -/
  plugins : ∀ id entry, (id, entry) ∈ c.plugins →
    (∃ scheme : AuthScheme, scheme.NamedBy entry.authName) ∧
      ∃ text, Resolves process entry.passwordEnv entry.password text
  /-- Every device names a plugin of the configuration and has a password. -/
  targets : ∀ uuid entry, (uuid, entry) ∈ c.targets →
    (∃ plugin, (entry.pluginId, plugin) ∈ c.plugins) ∧
      ∃ text, Resolves process entry.passwordEnv entry.password text

/-- An inventory holds what a configuration describes and nothing else. -/
structure Fills (c : Config) (process : List (String × ByteArray)) (i : Inventory) : Prop where
  /-- The names of the plugins are those of the configuration. -/
  pluginIds : (i.plugins.map Prod.fst).Perm (c.plugins.map Prod.fst)
  /-- The identifiers of the devices are those of the configuration. -/
  targetUuids : (i.targets.map Prod.fst).Perm (c.targets.map Prod.fst)
  /-- What is found under the name of a plugin is what its entry describes. -/
  plugins : ∀ id p, i.findPlugin id = .ok p ↔
    ∃ entry, (id, entry) ∈ c.plugins ∧ entry.Describes process id p
  /-- What is found under the identifier of a device is what its entry describes. -/
  targets : ∀ uuid t, i.findTarget uuid = .ok t ↔
    ∃ entry, (uuid, entry) ∈ c.targets ∧ entry.Describes process uuid t
  /-- Every device of the configuration is found, and so is its plugin. -/
  reached : ∀ uuid entry, (uuid, entry) ∈ c.targets →
    ∃ t p, i.findTarget uuid = .ok t ∧ i.findPlugin t.pluginId = .ok p
  /-- No resource is stored. -/
  resources : i.resources = []

section Entries

variable {c : Config} {process : List (String × ByteArray)}

/-- The plugin of a name is the one that its entry describes. -/
lemma plugin_eq_ok_iff (hkeys : (c.plugins.map Prod.fst).Nodup) {id : String} {p : Plugin} :
    c.plugin (.ofProcess process) id = .ok p ↔
      ∃ entry, (id, entry) ∈ c.plugins ∧ entry.Describes process id p := by
  have hentry {entry : PluginEntry} (h : c.plugins.lookup id = some entry) :
      c.plugin (.ofProcess process) id = .ok p ↔ entry.Describes process id p := by
    unfold plugin
    rw [h]
    dsimp only
    cases hauth : AuthScheme.ofName? entry.authName with
    | none =>
      constructor
      · exact nofun
      · intro hp
        rw [AuthScheme.ofName?_eq_some_iff.mpr hp.auth] at hauth
        cases hauth
    | some auth =>
      have hnamed := AuthScheme.ofName?_eq_some_iff.mp hauth
      simp only [bind_eq_ok_iff, password_eq_ok_iff, pure, Except.pure, Except.ok.injEq]
      constructor
      · rintro ⟨text, htext, rfl⟩
        exact ⟨rfl, rfl, rfl, rfl, htext, hnamed⟩
      · rintro ⟨hid, hip, hport, husername, hp, hauth'⟩
        obtain rfl := hnamed.unique hauth'
        obtain ⟨pid, pip, pport, pusername, ppassword, pauth⟩ := p
        subst hid hip hport husername
        exact ⟨ppassword, hp, rfl⟩
  constructor
  · intro h
    cases hlookup : c.plugins.lookup id with
    | none =>
      unfold plugin at h
      rw [hlookup] at h
      cases h
    | some entry =>
      exact ⟨entry, (Keyed.lookup_eq_some_iff hkeys).mp hlookup, (hentry hlookup).mp h⟩
  · rintro ⟨entry, hmem, hp⟩
    exact (hentry ((Keyed.lookup_eq_some_iff hkeys).mpr hmem)).mpr hp

/-- The device of an identifier is the one that its entry describes, if its plugin is configured. -/
lemma target_eq_ok_iff (hkeys : (c.targets.map Prod.fst).Nodup) {uuid : String} {t : Target} :
    c.target (.ofProcess process) uuid = .ok t ↔
      ∃ entry, (uuid, entry) ∈ c.targets ∧ entry.Describes process uuid t ∧
        (c.plugins.lookup entry.pluginId).isSome = true := by
  have hentry {entry : TargetEntry} (h : c.targets.lookup uuid = some entry) :
      c.target (.ofProcess process) uuid = .ok t ↔ entry.Describes process uuid t ∧
        (c.plugins.lookup entry.pluginId).isSome = true := by
    unfold target
    rw [h]
    dsimp only
    cases hplugin : c.plugins.lookup entry.pluginId with
    | none =>
      constructor
      · exact nofun
      · rintro ⟨-, ⟨⟩⟩
    | some plugin =>
      simp only [bind_eq_ok_iff, password_eq_ok_iff, Option.isNone_some, Bool.false_eq_true,
        if_false, pure, Except.pure, Except.ok.injEq]
      constructor
      · rintro ⟨text, htext, rfl⟩
        exact ⟨⟨rfl, rfl, rfl, rfl, text, htext, rfl⟩, rfl⟩
      · rintro ⟨⟨huuid, hpluginId, haddress, husername, text, htext, hbytes⟩, -⟩
        obtain ⟨tuuid, tpluginId, taddress, tusername, tpassword⟩ := t
        subst huuid hpluginId haddress husername hbytes
        exact ⟨text, htext, rfl⟩
  constructor
  · intro h
    cases hlookup : c.targets.lookup uuid with
    | none =>
      unfold target at h
      rw [hlookup] at h
      cases h
    | some entry =>
      exact ⟨entry, (Keyed.lookup_eq_some_iff hkeys).mp hlookup, (hentry hlookup).mp h⟩
  · rintro ⟨entry, hmem, ht⟩
    exact (hentry ((Keyed.lookup_eq_some_iff hkeys).mpr hmem)).mpr ht

end Entries

end Config

/-- Plugins are inserted under their names. -/
lemma Inventory.foldl_insertPlugin (i : Inventory) (plugins : List Plugin) :
    plugins.foldl insertPlugin i =
      { i with plugins := plugins.foldl (fun es p => Keyed.put p.id p es) i.plugins } := by
  induction plugins generalizing i with
  | nil => rfl
  | cons p plugins ih =>
    rw [List.foldl_cons, List.foldl_cons, ih]
    rfl

/-- Devices are inserted under their identifiers. -/
lemma Inventory.foldl_insertTarget (i : Inventory) (targets : List Target) :
    targets.foldl insertTarget i =
      { i with targets := targets.foldl (fun es t => Keyed.put t.deviceUuid t es) i.targets } := by
  induction targets generalizing i with
  | nil => rfl
  | cons t targets ih =>
    rw [List.foldl_cons, List.foldl_cons, ih]
    rfl

namespace Inventory

/-- A plugin is found exactly if it is there under the name, if the names are apart. -/
lemma findPlugin_eq_ok_iff {i : Inventory} (hkeys : (i.plugins.map Prod.fst).Nodup) {id : String}
    {p : Plugin} : i.findPlugin id = .ok p ↔ (id, p) ∈ i.plugins := by
  rw [← Keyed.lookup_eq_some_iff hkeys, findPlugin]
  cases i.plugins.lookup id <;> simp

/-- A device is found exactly if it is there under the identifier, if the identifiers are apart. -/
lemma findTarget_eq_ok_iff {i : Inventory} (hkeys : (i.targets.map Prod.fst).Nodup)
    {uuid : String} {t : Target} : i.findTarget uuid = .ok t ↔ (uuid, t) ∈ i.targets := by
  rw [← Keyed.lookup_eq_some_iff hkeys, findTarget]
  cases i.targets.lookup uuid <;> simp

end Inventory

namespace Config

section Provided

variable {c : Config} {process : List (String × ByteArray)} {i : Inventory}
  (hplugins : (c.plugins.map Prod.fst).Nodup) (htargets : (c.targets.map Prod.fst).Nodup)

/-- The plugins that are provided one by one have the names of the configuration. -/
lemma names_of_plugins (hplugins : (c.plugins.map Prod.fst).Nodup) {plugins : List Plugin}
    (h : c.plugins.map (fun e => c.plugin (.ofProcess process) e.1) = plugins.map .ok) :
    plugins.map Plugin.id = c.plugins.map Prod.fst := by
  refine map_name_eq (fun e p he => ?_) h
  obtain ⟨entry, -, hentry⟩ := (plugin_eq_ok_iff hplugins).mp he
  exact hentry.id

/-- The devices that are provided one by one have the identifiers of the configuration. -/
lemma names_of_targets (htargets : (c.targets.map Prod.fst).Nodup) {targets : List Target}
    (h : c.targets.map (fun e => c.target (.ofProcess process) e.1) = targets.map .ok) :
    targets.map Target.deviceUuid = c.targets.map Prod.fst := by
  refine map_name_eq (fun e t he => ?_) h
  obtain ⟨entry, -, hentry, -⟩ := (target_eq_ok_iff htargets).mp he
  exact hentry.uuid

include hplugins htargets

/-- The inventory consists of the plugins and devices that are provided one by one. -/
lemma inventory_eq_ok_iff :
    c.inventory (.ofProcess process) = .ok i ↔ ∃ (plugins : List Plugin) (targets : List Target),
      c.plugins.map (fun e => c.plugin (.ofProcess process) e.1) = plugins.map .ok ∧
      c.targets.map (fun e => c.target (.ofProcess process) e.1) = targets.map .ok ∧
      i = { Inventory.empty with
        plugins := plugins.map fun p => (p.id, p)
        targets := targets.map fun t => (t.deviceUuid, t) } := by
  have hfilled {plugins : List Plugin} {targets : List Target}
      (hp : c.plugins.map (fun e => c.plugin (.ofProcess process) e.1) = plugins.map .ok)
      (ht : c.targets.map (fun e => c.target (.ofProcess process) e.1) = targets.map .ok) :
      targets.foldl Inventory.insertTarget (plugins.foldl Inventory.insertPlugin .empty) =
        { Inventory.empty with
          plugins := plugins.map fun p => (p.id, p)
          targets := targets.map fun t => (t.deviceUuid, t) } := by
    have hids := names_of_plugins hplugins hp
    have huuids := names_of_targets htargets ht
    have hputPlugins : plugins.foldl (fun es p => Keyed.put p.id p es) [] =
        plugins.map fun p => (p.id, p) :=
      Keyed.foldl_put_of_nodup (by simpa [hids] using hplugins)
    have hputTargets : targets.foldl (fun es t => Keyed.put t.deviceUuid t es) [] =
        targets.map fun t => (t.deviceUuid, t) :=
      Keyed.foldl_put_of_nodup (by simpa [huuids] using htargets)
    rw [Inventory.foldl_insertTarget, Inventory.foldl_insertPlugin]
    simp only [Inventory.empty]
    rw [hputPlugins, hputTargets]
  simp only [inventory, bind_eq_ok_iff, mapM_eq_ok_iff, pure, Except.pure, Except.ok.injEq]
  constructor
  · rintro ⟨plugins, hp, targets, ht, rfl⟩
    exact ⟨plugins, targets, hp, ht, hfilled hp ht⟩
  · rintro ⟨plugins, targets, hp, ht, rfl⟩
    exact ⟨plugins, hp, targets, ht, hfilled hp ht⟩

omit htargets in
/-- The plugin of an entry is provided exactly if nothing is missing in the entry. -/
lemma exists_plugin_iff {id : String} {entry : PluginEntry} (hmem : (id, entry) ∈ c.plugins) :
    (∃ p, c.plugin (.ofProcess process) id = .ok p) ↔
      (∃ scheme : AuthScheme, scheme.NamedBy entry.authName) ∧
        ∃ text, Resolves process entry.passwordEnv entry.password text := by
  constructor
  · rintro ⟨p, hp⟩
    obtain ⟨entry', hmem', hdescribed⟩ := (plugin_eq_ok_iff hplugins).mp hp
    obtain rfl : entry' = entry := Keyed.eq_of_mem hplugins hmem' hmem
    exact ⟨⟨p.auth, hdescribed.auth⟩, p.password, hdescribed.password⟩
  · rintro ⟨⟨scheme, hscheme⟩, text, htext⟩
    have hdescribed : entry.Describes process id
        ⟨id, entry.ip, entry.port, entry.username, text, scheme⟩ :=
      ⟨rfl, rfl, rfl, rfl, htext, hscheme⟩
    exact ⟨_, (plugin_eq_ok_iff hplugins).mpr ⟨entry, hmem, hdescribed⟩⟩

/-- The device of an entry is provided exactly if nothing is missing in the entry. -/
lemma exists_target_iff {uuid : String} {entry : TargetEntry} (hmem : (uuid, entry) ∈ c.targets) :
    (∃ t, c.target (.ofProcess process) uuid = .ok t) ↔
      (∃ plugin, (entry.pluginId, plugin) ∈ c.plugins) ∧
        ∃ text, Resolves process entry.passwordEnv entry.password text := by
  have hplugin : (c.plugins.lookup entry.pluginId).isSome = true ↔
      ∃ plugin, (entry.pluginId, plugin) ∈ c.plugins := by
    simp only [Option.isSome_iff_exists, Keyed.lookup_eq_some_iff hplugins]
  constructor
  · rintro ⟨t, ht⟩
    obtain ⟨entry', hmem', hdescribed, hknown⟩ := (target_eq_ok_iff htargets).mp ht
    obtain rfl : entry' = entry := Keyed.eq_of_mem htargets hmem' hmem
    obtain ⟨text, htext, -⟩ := hdescribed.password
    exact ⟨hplugin.mp hknown, text, htext⟩
  · rintro ⟨hknown, text, htext⟩
    have hdescribed : entry.Describes process uuid
        ⟨uuid, entry.pluginId, entry.managerAddress, entry.username, text.toUTF8⟩ :=
      ⟨rfl, rfl, rfl, rfl, text, htext, rfl⟩
    exact ⟨_, (target_eq_ok_iff htargets).mpr ⟨entry, hmem, hdescribed, hplugin.mpr hknown⟩⟩

/-- There is an inventory exactly if nothing is missing in the configuration. -/
lemma exists_inventory_iff :
    (∃ i, c.inventory (.ofProcess process) = .ok i) ↔ c.Complete process := by
  have hparts : (∃ i, c.inventory (.ofProcess process) = .ok i) ↔
      (∀ e ∈ c.plugins, ∃ p, c.plugin (.ofProcess process) e.1 = .ok p) ∧
        ∀ e ∈ c.targets, ∃ t, c.target (.ofProcess process) e.1 = .ok t := by
    simp only [inventory_eq_ok_iff hplugins htargets, ← exists_map_eq_iff]
    constructor
    · rintro ⟨i, plugins, targets, hp, ht, -⟩
      exact ⟨⟨plugins, hp⟩, targets, ht⟩
    · rintro ⟨⟨plugins, hp⟩, targets, ht⟩
      exact ⟨_, plugins, targets, hp, ht, rfl⟩
  rw [hparts]
  constructor
  · rintro ⟨hp, ht⟩
    constructor
    · intro id entry hmem
      exact (exists_plugin_iff hplugins hmem).mp (hp _ hmem)
    · intro uuid entry hmem
      exact (exists_target_iff hplugins htargets hmem).mp (ht _ hmem)
  · intro h
    constructor
    · intro e hmem
      exact (exists_plugin_iff hplugins hmem).mpr (h.plugins _ _ hmem)
    · intro e hmem
      exact (exists_target_iff hplugins htargets hmem).mpr (h.targets _ _ hmem)

/-- The inventory holds what the configuration describes. -/
lemma fills_of_inventory (h : c.inventory (.ofProcess process) = .ok i) : c.Fills process i := by
  have hcomplete : c.Complete process := (exists_inventory_iff hplugins htargets).mp ⟨i, h⟩
  obtain ⟨plugins, targets, hp, ht, rfl⟩ := (inventory_eq_ok_iff hplugins htargets).mp h
  have hids : (plugins.map fun p => (p.id, p)).map Prod.fst = c.plugins.map Prod.fst := by
    rw [List.map_map]
    exact names_of_plugins hplugins hp
  have huuids : (targets.map fun t => (t.deviceUuid, t)).map Prod.fst =
      c.targets.map Prod.fst := by
    rw [List.map_map]
    exact names_of_targets htargets ht
  have hfoundPlugin (id : String) (p : Plugin) :
      (id, p) ∈ plugins.map (fun p => (p.id, p)) ↔
        ∃ entry, (id, entry) ∈ c.plugins ∧ entry.Describes process id p := by
    rw [mem_named_iff hp, plugin_eq_ok_iff hplugins]
    intro id p hprovided
    obtain ⟨entry, hentry, hdescribed⟩ := (plugin_eq_ok_iff hplugins).mp hprovided
    exact ⟨hdescribed.id, entry, hentry⟩
  have hfoundTarget (uuid : String) (t : Target) :
      (uuid, t) ∈ targets.map (fun t => (t.deviceUuid, t)) ↔
        ∃ entry, (uuid, entry) ∈ c.targets ∧ entry.Describes process uuid t ∧
          (c.plugins.lookup entry.pluginId).isSome = true := by
    rw [mem_named_iff ht, target_eq_ok_iff htargets]
    intro uuid t hprovided
    obtain ⟨entry, hentry, hdescribed, -⟩ := (target_eq_ok_iff htargets).mp hprovided
    exact ⟨hdescribed.uuid, entry, hentry⟩
  have hkeys : ((plugins.map fun p => (p.id, p)).map Prod.fst).Nodup := hids ▸ hplugins
  have hkeys' : ((targets.map fun t => (t.deviceUuid, t)).map Prod.fst).Nodup :=
    huuids ▸ htargets
  have hknown {uuid : String} {entry : TargetEntry} (hmem : (uuid, entry) ∈ c.targets) :
      (c.plugins.lookup entry.pluginId).isSome = true := by
    obtain ⟨⟨plugin, hplugin⟩, -⟩ := hcomplete.targets uuid entry hmem
    rw [(Keyed.lookup_eq_some_iff hplugins).mpr hplugin]
    rfl
  constructor
  · exact .of_eq hids
  · exact .of_eq huuids
  · intro id p
    rw [Inventory.findPlugin_eq_ok_iff hkeys]
    exact hfoundPlugin id p
  · intro uuid t
    rw [Inventory.findTarget_eq_ok_iff hkeys']
    refine (hfoundTarget uuid t).trans (exists_congr fun entry => ?_)
    constructor
    · rintro ⟨hmem, hdescribed, -⟩
      exact ⟨hmem, hdescribed⟩
    · rintro ⟨hmem, hdescribed⟩
      exact ⟨hmem, hdescribed, hknown hmem⟩
  · intro uuid entry hmem
    have hlacking := hcomplete.targets uuid entry hmem
    obtain ⟨plugin, hplugin⟩ := hlacking.1
    obtain ⟨t, htarget⟩ := (exists_target_iff hplugins htargets hmem).mpr hlacking
    obtain ⟨p, hprovided⟩ :=
      (exists_plugin_iff hplugins hplugin).mpr (hcomplete.plugins entry.pluginId plugin hplugin)
    obtain ⟨entry', hmem', hdescribed, hknown'⟩ := (target_eq_ok_iff htargets).mp htarget
    obtain rfl : entry' = entry := Keyed.eq_of_mem htargets hmem' hmem
    refine ⟨t, p, ?_, ?_⟩
    · rw [Inventory.findTarget_eq_ok_iff hkeys']
      exact (hfoundTarget uuid t).mpr ⟨entry', hmem', hdescribed, hknown'⟩
    · rw [Inventory.findPlugin_eq_ok_iff hkeys, hdescribed.pluginId]
      exact (hfoundPlugin _ p).mpr ((plugin_eq_ok_iff hplugins).mp hprovided)
  · rfl

end Provided

/-- Whether something is missing does not depend on an order. -/
lemma Complete.of_perm {c c' : Config} {process : List (String × ByteArray)}
    (hplugins : c'.plugins.Perm c.plugins) (htargets : c'.targets.Perm c.targets)
    (h : c'.Complete process) : c.Complete process := by
  constructor
  · intro id entry hmem
    exact h.plugins id entry (hplugins.mem_iff.mpr hmem)
  · intro uuid entry hmem
    obtain ⟨⟨plugin, hplugin⟩, hpassword⟩ := h.targets uuid entry (htargets.mem_iff.mpr hmem)
    exact ⟨⟨plugin, hplugins.mem_iff.mp hplugin⟩, hpassword⟩

/-- Whether an inventory holds what is described does not depend on an order. -/
lemma Fills.of_perm {c c' : Config} {process : List (String × ByteArray)} {i : Inventory}
    (hplugins : c'.plugins.Perm c.plugins) (htargets : c'.targets.Perm c.targets)
    (h : c'.Fills process i) : c.Fills process i where
  pluginIds := h.pluginIds.trans (hplugins.map _)
  targetUuids := h.targetUuids.trans (htargets.map _)
  plugins := by
    intro id p
    simp only [h.plugins, hplugins.mem_iff]
  targets := by
    intro uuid t
    simp only [h.targets, htargets.mem_iff]
  reached := fun uuid entry hmem => h.reached uuid entry (htargets.mem_iff.mpr hmem)
  resources := h.resources

end Config

/-! ## Requests to devices of the configuration -/

/-- A request to a device that is found, and whose plugin is found, does not fail because there is
no such thing. -/
lemma deviceRequest_ne_notFound (g : Aggregator) {r : DeviceRequest} {t : Target} {p : Plugin}
    {w : World} (ht : w.inventory.findTarget r.uuid = .ok t)
    (hp : w.inventory.findPlugin t.pluginId = .ok p) (kind identifier : String) :
    ((g.deviceRequest r).run.run World.handle w).1 ≠ .error (.notFound kind identifier) := by
  have htarget : World.handle (.findTarget r.uuid) w = (.ok t, w) :=
    congrArg (fun found => (found, w)) ht
  intro h
  rcases deviceRequest_error World.handle g r h with
    hmissing | ⟨t', w', htarget', hmissing⟩ | ⟨reason, hreason⟩ | ⟨failure, hfailure⟩
  · rw [htarget] at hmissing
    cases hmissing
  · rw [htarget] at htarget'
    obtain ⟨⟨⟩, rfl⟩ := Prod.mk.inj htarget'
    have hplugin : (World.handle (.findPlugin t.pluginId) w).1 = .ok p := hp
    rw [hplugin] at hmissing
    cases hmissing
  · cases hreason
  · exact (FlowError.ofContact_ne failure).1 kind identifier hfailure.symm

/-- Operations leave the plugins and devices of the inventory as they are. -/
lemma performAll_frame (w : World) (steps : List (Aggregator × Operation)) :
    (performAll w steps).inventory.plugins = w.inventory.plugins ∧
      (performAll w steps).inventory.targets = w.inventory.targets := by
  induction steps generalizing w with
  | nil => exact ⟨rfl, rfl⟩
  | cons step steps ih =>
    have hstep := inventoryStep step.1 step.2 w
    obtain ⟨hplugins, htargets⟩ := ih (step.2.perform step.1 w)
    have hrest : performAll w (step :: steps) = performAll (step.2.perform step.1 w) steps := rfl
    rw [hrest, hplugins, htargets]
    exact ⟨hstep.plugins, hstep.targets⟩

/-- In whatever order the plugins and devices of a configuration are gone through, there is an
inventory exactly if every plugin names a scheme of authentication and has a password, and every
device names a plugin of the configuration and has a password. The inventory holds the plugins and
devices of the configuration and no others, each as its entry describes it, and every device leads
to its plugin. In a world with these plugins and devices, whatever operations came before, no
request to a device of the configuration fails because there is no such device or plugin. -/
theorem inventory_fills {c c' : Config} (hkeys : (c.plugins.map Prod.fst).Nodup)
    (hkeys' : (c.targets.map Prod.fst).Nodup) (hplugins : c'.plugins.Perm c.plugins)
    (htargets : c'.targets.Perm c.targets) (process : List (String × ByteArray)) :
    ((∃ i, c'.inventory (.ofProcess process) = .ok i) ↔ c.Complete process) ∧
      ∀ i, c'.inventory (.ofProcess process) = .ok i →
        c.Fills process i ∧
          ∀ w : World, w.inventory.plugins = i.plugins → w.inventory.targets = i.targets →
            ∀ (steps : List (Aggregator × Operation)) (g : Aggregator) (r : DeviceRequest),
              (∃ entry, (r.uuid, entry) ∈ c.targets) → ∀ kind identifier,
                ((g.deviceRequest r).run.run World.handle (performAll w steps)).1 ≠
                  .error (.notFound kind identifier) := by
  have hnodup : (c'.plugins.map Prod.fst).Nodup := (hplugins.map _).nodup_iff.mpr hkeys
  have hnodup' : (c'.targets.map Prod.fst).Nodup := (htargets.map _).nodup_iff.mpr hkeys'
  constructor
  · rw [Config.exists_inventory_iff hnodup hnodup']
    constructor
    · exact Config.Complete.of_perm hplugins htargets
    · exact Config.Complete.of_perm hplugins.symm htargets.symm
  · intro i hi
    have hfills : c.Fills process i :=
      (Config.fills_of_inventory hnodup hnodup' hi).of_perm hplugins htargets
    refine ⟨hfills, ?_⟩
    rintro w hw hw' steps g r ⟨entry, hentry⟩ kind identifier
    obtain ⟨hframe, hframe'⟩ := performAll_frame w steps
    obtain ⟨t, p, ht, hp⟩ := hfills.reached r.uuid entry hentry
    have hsame (uuid : String) :
        (performAll w steps).inventory.findTarget uuid = i.findTarget uuid := by
      rw [Inventory.findTarget, Inventory.findTarget, hframe', hw']
    have hsame' (id : String) :
        (performAll w steps).inventory.findPlugin id = i.findPlugin id := by
      rw [Inventory.findPlugin, Inventory.findPlugin, hframe, hw]
    exact deviceRequest_ne_notFound g ((hsame _).trans ht) ((hsame' _).trans hp) kind identifier

/-- A device behind one of two plugins; the variable for its password is not set to a text. -/
def smallRack : Config where
  plugins := [("east", ⟨"10.0.0.1", 45001, "admin", some "e", none, "xAuthTOKEN"⟩),
    ("west", ⟨"10.0.0.2", 45002, "admin", none, some "WEST", "basicauth"⟩)]
  targets := [("6d4a", ⟨"west", "10.0.0.9", "root", some "calvin", some "DEVICE"⟩)]

/-- The variables of a process, one of them no text. -/
def rackVariables : List (String × ByteArray) := [("DEVICE", ⟨#[255]⟩), ("WEST", "w".toUTF8)]

/-- The rack with its plugins the other way round. -/
def turnedRack : Config := { smallRack with plugins := smallRack.plugins.reverse }

/-- The rack is complete, and its inventory is filled with the plugins gone through the other way
round. -/
theorem inventory_fills_of_smallRack :
    ∃ i, turnedRack.inventory (.ofProcess rackVariables) = .ok i ∧
      smallRack.Fills rackVariables i ∧
      ∀ kind identifier,
        (((Aggregator.mk ⟨"https", .standard⟩ .ok none).deviceRequest
          { uuid := "6d4a", url := "/redfish/v1" }).run.run World.handle
            (performAll ⟨⟨[], [], [], [], 0, 0⟩, i, "now"⟩ [])).1 ≠
              .error (.notFound kind identifier) := by
  have hkeys : (smallRack.plugins.map Prod.fst).Nodup := by decide
  have hkeys' : (smallRack.targets.map Prod.fst).Nodup := by decide
  have hplugins : turnedRack.plugins.Perm smallRack.plugins := List.reverse_perm _
  have htargets : turnedRack.targets.Perm smallRack.targets := .refl _
  have hall := inventory_fills hkeys hkeys' hplugins htargets rackVariables
  obtain ⟨i, hi⟩ : ∃ i, turnedRack.inventory (.ofProcess rackVariables) = .ok i :=
    exists_ok_of_isOk (by decide +kernel)
  obtain ⟨hfills, hfound⟩ := hall.2 i hi
  refine ⟨i, hi, hfills, ?_⟩
  exact hfound ⟨⟨[], [], [], [], 0, 0⟩, i, "now"⟩ rfl rfl [] ⟨⟨"https", .standard⟩, .ok, none⟩
    { uuid := "6d4a", url := "/redfish/v1" } ⟨_, List.mem_cons_self⟩

end PluginGateway
