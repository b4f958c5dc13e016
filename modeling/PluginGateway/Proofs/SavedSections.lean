import PluginGateway.Config.Save
import PluginGateway.Proofs.LayeredSettings

/-!
# Sections of a configuration read back

Each section of a configuration, written as a TOML table and laid over the defaults of the section,
gives the section back; so do the entries of plugins and devices, which have no defaults. For each
kind of record one lemma says in which tables of settings it is found, `ofSetting_of_lookup`, and
another one that its own table is such, `ofSetting_toToml`.

The main statement is `Config.ofSetting_toToml`: the configuration is read back, with the entries of
its tables in another order.
-/

namespace PluginGateway

open Extract Setting

/-- What is found in a document over some defaults. -/
lemma lookup_over {document : List (String × Toml.Value)} (h : (document.map Prod.fst).Nodup)
    (below : List (String × Setting)) (key : String) :
    (mergeEntries below (ofTomlEntries document)).lookup key
      = layered? (below.lookup key) ((document.lookup key).map ofToml) := by
  rw [lookup_mergeEntries (nodup_keys_ofTomlEntries h), lookup_ofTomlEntries]

namespace TransportSection

/-- The keys of the section's table are apart. -/
lemma nodup_keys_toToml (t : TransportSection) : (t.toToml.map Prod.fst).Nodup := by
  cases h : t.caCert <;> simp [toToml, optionalEntry, h]

/-- The section is found in a table in which its fields are found. -/
lemma ofSetting_of_lookup {t : TransportSection} {entries : List (String × Setting)}
    (hscheme : entries.lookup "scheme" = some (.text t.scheme))
    (htimeout : entries.lookup "timeout_secs" = some (.signed t.timeoutSecs))
    (hbound : t.timeoutSecs < Nat.pow 2 64)
    (hinsecure : entries.lookup "insecure" = some (.flag t.insecure))
    (hcaCert : entries.lookup "ca_cert" = some ((t.caCert.map Setting.text).getD .absent)) :
    ofSetting (.table entries) = .ok t := by
  have hfile : Extract.optional Extract.path ((t.caCert.map Setting.text).getD .absent)
      = .ok t.caCert := by
    cases t.caCert <;> rfl
  rw [ofSetting, Extract.record]
  simp only [field_text hscheme, field_natural htimeout hbound, field_flag hinsecure,
    field_of_lookup (Extract.optional Extract.path) hcaCert hfile]
  rfl

/-- The section is read back from its table over the defaults. -/
lemma ofSetting_toToml {t : TransportSection} (h : t.timeoutSecs < Nat.pow 2 64) :
    ofSetting (({} : TransportSection).toSetting.merge (ofToml (.table t.toToml))) = .ok t := by
  rw [toSetting, ofToml, Setting.merge]
  have hlookup := lookup_over t.nodup_keys_toToml
  refine ofSetting_of_lookup ?_ ?_ h ?_ ?_ <;> rw [hlookup]
  · rfl
  · rfl
  · rfl
  · cases hfile : t.caCert <;>
      simp [toToml, optionalEntry, hfile, layered?, ofToml, Setting.merge, List.lookup_cons]

end TransportSection

namespace PollingSection

/-- The section is found in a table in which its fields are found. -/
lemma ofSetting_of_lookup {p : PollingSection} {entries : List (String × Setting)}
    (hattempts : entries.lookup "max_retry_attempt" = some (.signed p.maxRetryAttempt))
    (hinterval : entries.lookup "retry_interval_secs" = some (.signed p.retryIntervalSecs))
    (htimeout : entries.lookup "response_timeout_secs" = some (.signed p.responseTimeoutSecs))
    (hfew : p.maxRetryAttempt < Nat.pow 2 32) (hshort : p.retryIntervalSecs < Nat.pow 2 64)
    (hsoon : p.responseTimeoutSecs < Nat.pow 2 64) : ofSetting (.table entries) = .ok p := by
  rw [ofSetting, Extract.record]
  simp only [field_natural hattempts hfew, field_natural hinterval hshort,
    field_natural htimeout hsoon]
  rfl

/-- The section is read back from its table over the defaults. -/
lemma ofSetting_toToml {p : PollingSection} (hfew : p.maxRetryAttempt < Nat.pow 2 32)
    (hshort : p.retryIntervalSecs < Nat.pow 2 64) (hsoon : p.responseTimeoutSecs < Nat.pow 2 64) :
    ofSetting (({} : PollingSection).toSetting.merge (ofToml (.table p.toToml))) = .ok p := by
  have hkeys : (p.toToml.map Prod.fst).Nodup := by simp [toToml]
  rw [toSetting, ofToml, Setting.merge]
  refine ofSetting_of_lookup ?_ ?_ ?_ hfew hshort hsoon <;>
  · rw [lookup_over hkeys]
    rfl

end PollingSection

namespace PluginEntry

/-- The entry is found in a table in which its fields are found. -/
lemma ofSetting_of_lookup {e : PluginEntry} {entries : List (String × Setting)}
    (hip : entries.lookup "ip" = some (.text e.ip))
    (hport : entries.lookup "port" = some (.signed e.port.toNat))
    (husername : entries.lookup "username" = some (.text e.username))
    (hpassword : entries.lookup "password" = e.password.map .text)
    (hpasswordEnv : entries.lookup "password_env" = e.passwordEnv.map .text)
    (hauthName : entries.lookup "preferred_auth_type" = some (.text e.authName)) :
    ofSetting (.table entries) = .ok e := by
  rw [ofSetting, Extract.record]
  simp only [field_text hip, field_natural hport e.port.toNat_lt, field_text husername,
    field_optional hpassword, field_optional hpasswordEnv, field_text hauthName]
  obtain ⟨ip, port, username, password, passwordEnv, authName⟩ := e
  cases password <;> cases passwordEnv <;>
    simp [Source.check, Source.first, Source.faultOf, Source.required, Source.spared, bind,
      Except.bind, pure, Except.pure]

/-- The entry is read back from its table. -/
lemma ofSetting_toToml (e : PluginEntry) : ofSetting (ofToml (.table e.toToml)) = .ok e := by
  rw [ofToml]
  refine ofSetting_of_lookup ?_ ?_ ?_ ?_ ?_ ?_ <;> rw [lookup_ofTomlEntries]
  · rfl
  · rfl
  · rfl
  all_goals
    cases h : e.password <;> cases h' : e.passwordEnv <;>
      simp [toToml, optionalEntry, h, h', ofToml, List.lookup_cons]

end PluginEntry

namespace TargetEntry

/-- The entry is found in a table in which its fields are found. -/
lemma ofSetting_of_lookup {e : TargetEntry} {entries : List (String × Setting)}
    (hpluginId : entries.lookup "plugin_id" = some (.text e.pluginId))
    (haddress : entries.lookup "manager_address" = some (.text e.managerAddress))
    (husername : entries.lookup "username" = some (.text e.username))
    (hpassword : entries.lookup "password" = e.password.map .text)
    (hpasswordEnv : entries.lookup "password_env" = e.passwordEnv.map .text) :
    ofSetting (.table entries) = .ok e := by
  rw [ofSetting, Extract.record]
  simp only [field_text hpluginId, field_text haddress, field_text husername,
    field_optional hpassword, field_optional hpasswordEnv]
  obtain ⟨pluginId, managerAddress, username, password, passwordEnv⟩ := e
  cases password <;> cases passwordEnv <;> rfl

/-- The entry is read back from its table. -/
lemma ofSetting_toToml (e : TargetEntry) : ofSetting (ofToml (.table e.toToml)) = .ok e := by
  rw [ofToml]
  refine ofSetting_of_lookup ?_ ?_ ?_ ?_ ?_ <;> rw [lookup_ofTomlEntries]
  · rfl
  · rfl
  · rfl
  all_goals
    cases h : e.password <;> cases h' : e.passwordEnv <;>
      simp [toToml, optionalEntry, h, h', ofToml, List.lookup_cons]

end TargetEntry

/-! ## Tables by key -/

section Tables

variable {α : Type} {x : Extract α} {value : α → Toml.Value} {values : List (String × α)}

/-- The settings of values under keys that are apart, in some order. -/
lemma ofTomlEntries_map_perm (value : α → Toml.Value) (h : (values.map Prod.fst).Nodup) :
    (ofTomlEntries (values.map fun e => (e.1, value e.2))).Perm
      (values.map fun e => (e.1, ofToml (value e.2))) := by
  have hkeys : ((values.map fun e => (e.1, value e.2)).map Prod.fst).Nodup := by
    simpa [Function.comp_def] using h
  simpa [Function.comp_def] using ofTomlEntries_perm hkeys

/-- Values that are read back one by one are read back from a table, up to their order. -/
lemma tableOf_ofToml (hx : ∀ a, x (ofToml (value a)) = .ok a) (h : (values.map Prod.fst).Nodup) :
    ∃ found, tableOf x (ofToml (.table (values.map fun e => (e.1, value e.2)))) = .ok found ∧
      found.Perm values := by
  rw [ofToml]
  exact tableOf_of_perm (fun a => ofToml (value a)) (fun e _ => hx e.2)
    (ofTomlEntries_map_perm value h)

/-- An empty table below changes nothing about what is read back. -/
lemma tableOf_over_none (hx : ∀ a, x (ofToml (value a)) = .ok a)
    (h : (values.map Prod.fst).Nodup) :
    ∃ found, tableOf x ((Setting.table []).merge
        (ofToml (.table (values.map fun e => (e.1, value e.2))))) = .ok found ∧
      found.Perm values := by
  have hsettings := ofTomlEntries_map_perm value h
  have hkeys : ((ofTomlEntries (values.map fun e => (e.1, value e.2))).map Prod.fst).Nodup := by
    rw [(hsettings.map Prod.fst).nodup_iff]
    simpa [Function.comp_def] using h
  rw [ofToml, Setting.merge]
  exact tableOf_of_perm (fun a => ofToml (value a)) (fun e _ => hx e.2)
    ((mergeEntries_nil_perm hkeys).trans hsettings)

end Tables

namespace ConversionSection

/-- A configured table that may be left out is found as it was given, up to the order of its
entries. -/
lemma field_table {name : String} {entries : List (String × Setting)}
    {table? : Option (List (String × String))}
    (h : entries.lookup name
      = table?.map fun t => ofToml (.table (t.map fun p => (p.1, .text p.2))))
    (hkeys : ∀ t ∈ table?, (t.map Prod.fst).Nodup) (place : Nat) :
    ∃ found?, (Source.named entries).field place name (optional (tableOf text))
      = .ok (found?.map some) ∧ Option.Rel List.Perm found? table? := by
  cases table? with
  | none => exact ⟨none, field_of_lookup_none _ h place, .none⟩
  | some t =>
    have htext : ∀ a, text (ofToml (.text a)) = .ok a := fun a => rfl
    obtain ⟨found, hfound, hperm⟩ := tableOf_ofToml htext (hkeys t rfl)
    have hvalue : optional (tableOf text) (ofToml (.table (t.map fun p => (p.1, .text p.2))))
        = .ok (some found) := by
      rw [ofToml] at hfound ⊢
      show (tableOf text (.table _)).map some = .ok (some found)
      rw [hfound]
      rfl
    exact ⟨some found, field_of_lookup _ h hvalue place, .some hperm⟩

/-- The section is read back from its table over the defaults, in which there are no tables. -/
lemma ofSetting_toToml {t : ConversionSection}
    (hnorth : ∀ n ∈ t.northBound, (n.map Prod.fst).Nodup)
    (hsouth : ∀ s ∈ t.southBound, (s.map Prod.fst).Nodup) :
    ∃ found, ofSetting ((Setting.table []).merge (ofToml (.table t.toToml))) = .ok found ∧
      Option.Rel List.Perm found.northBound t.northBound ∧
      Option.Rel List.Perm found.southBound t.southBound := by
  have hkeys : (t.toToml.map Prod.fst).Nodup := by
    cases h : t.northBound <;> cases h' : t.southBound <;> simp [toToml, tableEntry, h, h']
  have hnorthTable : (mergeEntries [] (ofTomlEntries t.toToml)).lookup "north_bound"
      = t.northBound.map fun n => ofToml (.table (n.map fun p => (p.1, .text p.2))) := by
    rw [lookup_over hkeys]
    cases h : t.northBound <;> cases h' : t.southBound <;>
      simp [toToml, tableEntry, h, h', layered?, List.lookup_cons]
  have hsouthTable : (mergeEntries [] (ofTomlEntries t.toToml)).lookup "south_bound"
      = t.southBound.map fun s => ofToml (.table (s.map fun p => (p.1, .text p.2))) := by
    rw [lookup_over hkeys]
    cases h : t.northBound <;> cases h' : t.southBound <;>
      simp [toToml, tableEntry, h, h', layered?, List.lookup_cons]
  obtain ⟨north?, hn, hnperm⟩ := field_table hnorthTable hnorth 0
  obtain ⟨south?, hs, hsperm⟩ := field_table hsouthTable hsouth 1
  rw [ofToml, Setting.merge, ofSetting, Extract.record]
  refine ⟨⟨north?, south?⟩, ?_, hnperm, hsperm⟩
  simp only [hn, hs]
  cases north? <;> cases south? <;> rfl

end ConversionSection

namespace Config

/-- The keys of the tables of a configuration are apart, and it has no more attempts than 32 bits
can count. -/
structure WellFormed (c : Config) : Prop where
  /-- No two plugins have one name. -/
  plugins : (c.plugins.map Prod.fst).Nodup
  /-- No two devices have one identifier. -/
  targets : (c.targets.map Prod.fst).Nodup
  /-- No key stands twice in the northward table. -/
  north : ∀ t ∈ c.conversion.northBound, (t.map Prod.fst).Nodup
  /-- No key stands twice in the southward table. -/
  south : ∀ t ∈ c.conversion.southBound, (t.map Prod.fst).Nodup
  /-- The number of attempts fits 32 bits. -/
  attempts : c.polling.maxRetryAttempt < Nat.pow 2 32

/-- The configurations are the same but for the order of the entries in their tables. -/
structure Reordered (c' c : Config) : Prop where
  /-- Plugins are connected to in one way. -/
  transport : c'.transport = c.transport
  /-- The health of plugins is polled in one way. -/
  polling : c'.polling = c.polling
  /-- The northward tables are both left out or have the same entries. -/
  north : Option.Rel List.Perm c'.conversion.northBound c.conversion.northBound
  /-- The southward tables are both left out or have the same entries. -/
  south : Option.Rel List.Perm c'.conversion.southBound c.conversion.southBound
  /-- There are the same plugins. -/
  plugins : c'.plugins.Perm c.plugins
  /-- There are the same devices. -/
  targets : c'.targets.Perm c.targets

/-- The configuration is found in a table in which its sections are found. -/
lemma ofSetting_of_lookup {c : Config} {entries : List (String × Setting)}
    {transport conversion polling plugins targets : Setting}
    (htransport : entries.lookup "transport" = some transport)
    (hconversion : entries.lookup "url_translation" = some conversion)
    (hpolling : entries.lookup "plugin_status_polling" = some polling)
    (hplugins : entries.lookup "plugins" = some plugins)
    (htargets : entries.lookup "targets" = some targets)
    (ht : TransportSection.ofSetting transport = .ok c.transport)
    (hc : ConversionSection.ofSetting conversion = .ok c.conversion)
    (hp : PollingSection.ofSetting polling = .ok c.polling)
    (hpl : tableOf PluginEntry.ofSetting plugins = .ok c.plugins)
    (htg : tableOf TargetEntry.ofSetting targets = .ok c.targets) :
    ofSetting (.table entries) = .ok c := by
  rw [ofSetting, Extract.record]
  simp only [field_of_lookup _ htransport ht, field_of_lookup _ hconversion hc,
    field_of_lookup _ hpolling hp, field_of_lookup _ hplugins hpl, field_of_lookup _ htargets htg]
  rfl

/-- A configuration is read back from its TOML table over the defaults, up to the order of entries.
-/
theorem ofSetting_toToml {c : Config} (h : c.WellFormed)
    (htimeout : c.transport.timeoutSecs < Nat.pow 2 64)
    (hshort : c.polling.retryIntervalSecs < Nat.pow 2 64)
    (hsoon : c.polling.responseTimeoutSecs < Nat.pow 2 64) :
    ∃ c', ofSetting (defaults.merge (ofToml (.table c.toToml))) = .ok c' ∧ c'.Reordered c := by
  have hkeys : (c.toToml.map Prod.fst).Nodup := by simp [toToml]
  obtain ⟨conversion, hconversion, hnorth, hsouth⟩ :=
    ConversionSection.ofSetting_toToml h.north h.south
  obtain ⟨plugins, hplugins, hpluginsPerm⟩ :=
    tableOf_over_none PluginEntry.ofSetting_toToml h.plugins
  obtain ⟨targets, htargets, htargetsPerm⟩ :=
    tableOf_over_none TargetEntry.ofSetting_toToml h.targets
  refine ⟨⟨c.transport, conversion, c.polling, plugins, targets⟩, ?_, rfl, rfl, hnorth, hsouth,
    hpluginsPerm, htargetsPerm⟩
  rw [defaults, ofToml, Setting.merge]
  -- each section of the file lies over the defaults of the section
  refine ofSetting_of_lookup ?_ ?_ ?_ ?_ ?_ (TransportSection.ofSetting_toToml htimeout)
    hconversion (PollingSection.ofSetting_toToml h.attempts hshort hsoon) hplugins htargets <;>
  · rw [lookup_over hkeys]
    rfl

end Config

end PluginGateway
