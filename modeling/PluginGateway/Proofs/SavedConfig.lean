import PluginGateway.Config.Provision
import PluginGateway.Proofs.SavedSections
import PluginGateway.Proofs.TableOrder
import PluginGateway.Proofs.TomlDocuments
import PluginGateway.Text.Utf8

/-!
# A saved configuration loaded again

A configuration that is saved is a tidy TOML document, so the file is read back as the document that
was written (`parse?_written`), and the document gives the configuration up to the order of entries
(`Config.ofSetting_toToml`). Nothing that a configuration provides depends on that order: plugins
and devices are looked up by keys that are apart, and tables of paths apply the longest rule that
matches (`Config.Reordered.agrees`).

The main statement is `Disk.load_of_save`.
-/

namespace PluginGateway

/-! ## The document of a configuration -/

namespace Toml

variable {depth : Nat}

/-- Values under keys that are apart are tidy. -/
lemma Tidy.of_values {values : List (String × Value)} (hkeys : (values.map Prod.fst).Nodup)
    (hvalues : ∀ e ∈ values, e.2.Simple) : Tidy (depth + 1) values := by
  have h : Tidy (depth + 1) (values ++ tableEntries []) :=
    .intro (by simpa using hkeys) hvalues (fun e he => absurd he List.not_mem_nil)
  simpa [tableEntries] using h

/-- Tidy tables under keys that are apart are tidy. -/
lemma Tidy.of_tables {tables : List (String × List (String × Value))}
    (hkeys : (tables.map Prod.fst).Nodup) (htables : ∀ e ∈ tables, Tidy depth e.2) :
    Tidy (depth + 1) (tableEntries tables) := by
  have h : Tidy (depth + 1) ([] ++ tableEntries tables) :=
    .intro (by simpa using hkeys) (fun e he => absurd he List.not_mem_nil) htables
  exact h

end Toml

open Toml

/-- A text that may be left out is simple where it stands. -/
lemma simple_optionalEntry {key : String} {s? : Option String} :
    ∀ e ∈ optionalEntry key s?, e.2.Simple := by
  cases s? with
  | none => exact fun e he => absurd he List.not_mem_nil
  | some s =>
    intro e he
    obtain rfl := List.mem_singleton.mp he
    exact .text s

/-- The transport section is tidy. -/
lemma TransportSection.tidy_toToml {t : TransportSection}
    (h : t.timeoutSecs < Config.integerBound) : Tidy 2 t.toToml := by
  refine .of_values t.nodup_keys_toToml fun e he => ?_
  rcases List.mem_append.mp he with he | he
  · simp only [List.mem_cons, List.not_mem_nil, or_false] at he
    rcases he with rfl | rfl | rfl
    · exact .text _
    · exact .natural _ h
    · exact .flag _
  · exact simple_optionalEntry e he

/-- The polling section is tidy. -/
lemma PollingSection.tidy_toToml {p : PollingSection} (hfew : p.maxRetryAttempt < Nat.pow 2 32)
    (hshort : p.retryIntervalSecs < Config.integerBound)
    (hsoon : p.responseTimeoutSecs < Config.integerBound) : Tidy 2 p.toToml := by
  have hbound : p.maxRetryAttempt < Config.integerBound := Nat.lt_trans hfew (by decide)
  refine .of_values (by simp [toToml]) fun e he => ?_
  simp only [toToml, List.mem_cons, List.not_mem_nil, or_false] at he
  rcases he with rfl | rfl | rfl <;> exact .natural _ (by assumption)

/-- The entry of a plugin is tidy. -/
lemma PluginEntry.tidy_toToml (e : PluginEntry) : Tidy 1 e.toToml := by
  have hport : e.port.toNat < Config.integerBound := Nat.lt_trans e.port.toNat_lt (by decide)
  have hkeys : (e.toToml.map Prod.fst).Nodup := by
    cases h : e.password <;> cases h' : e.passwordEnv <;> simp [toToml, optionalEntry, h, h']
  refine .of_values hkeys fun f hf => ?_
  simp only [toToml, List.mem_append, List.mem_cons, List.not_mem_nil, or_false] at hf
  rcases hf with (((rfl | rfl | rfl) | hf) | hf) | rfl
  · exact .text _
  · exact .natural _ hport
  · exact .text _
  · exact simple_optionalEntry f hf
  · exact simple_optionalEntry f hf
  · exact .text _

/-- The entry of a device is tidy. -/
lemma TargetEntry.tidy_toToml (e : TargetEntry) : Tidy 1 e.toToml := by
  have hkeys : (e.toToml.map Prod.fst).Nodup := by
    cases h : e.password <;> cases h' : e.passwordEnv <;> simp [toToml, optionalEntry, h, h']
  refine .of_values hkeys fun f hf => ?_
  simp only [toToml, List.mem_append, List.mem_cons, List.not_mem_nil, or_false] at hf
  rcases hf with ((rfl | rfl | rfl) | hf) | hf
  · exact .text _
  · exact .text _
  · exact .text _
  · exact simple_optionalEntry f hf
  · exact simple_optionalEntry f hf

/-- The section of the conversion is tidy. -/
lemma ConversionSection.tidy_toToml {t : ConversionSection}
    (hnorth : ∀ n ∈ t.northBound, (n.map Prod.fst).Nodup)
    (hsouth : ∀ s ∈ t.southBound, (s.map Prod.fst).Nodup) : Tidy 2 t.toToml := by
  have htable : ∀ table : List (String × String), (table.map Prod.fst).Nodup →
      Tidy 1 (table.map fun p => (p.1, .text p.2)) := by
    intro table hkeys
    refine .of_values (by simpa [Function.comp_def] using hkeys) fun e he => ?_
    obtain ⟨p, -, rfl⟩ := List.mem_map.mp he
    exact .text _
  have hform : t.toToml = tableEntries
      (t.northBound.toList.map (fun n => ("north_bound", n.map fun p => (p.1, .text p.2))) ++
        t.southBound.toList.map fun s => ("south_bound", s.map fun p => (p.1, .text p.2))) := by
    cases h : t.northBound <;> cases h' : t.southBound <;>
      simp [toToml, tableEntry, tableEntries, h, h']
  rw [hform]
  refine .of_tables ?_ fun e he => ?_
  · cases t.northBound <;> cases t.southBound <;> simp
  · simp only [List.mem_append, List.mem_map, Option.mem_toList] at he
    rcases he with ⟨n, hn, rfl⟩ | ⟨s, hs, rfl⟩
    · exact htable n (hnorth n hn)
    · exact htable s (hsouth s hs)

/-- A configuration is a tidy document. -/
lemma Config.tidy_toToml {c : Config} (h : c.WellFormed)
    (htimeout : c.transport.timeoutSecs < integerBound)
    (hshort : c.polling.retryIntervalSecs < integerBound)
    (hsoon : c.polling.responseTimeoutSecs < integerBound) : Tidy 3 c.toToml := by
  have hplugins : Tidy 2 (tableEntries (c.plugins.map fun e => (e.1, e.2.toToml))) := by
    refine .of_tables (by simpa [Function.comp_def] using h.plugins) fun e he => ?_
    obtain ⟨p, -, rfl⟩ := List.mem_map.mp he
    exact p.2.tidy_toToml
  have htargets : Tidy 2 (tableEntries (c.targets.map fun e => (e.1, e.2.toToml))) := by
    refine .of_tables (by simpa [Function.comp_def] using h.targets) fun e he => ?_
    obtain ⟨t, -, rfl⟩ := List.mem_map.mp he
    exact t.2.tidy_toToml
  have hform : c.toToml = tableEntries [("transport", c.transport.toToml),
      ("url_translation", c.conversion.toToml), ("plugin_status_polling", c.polling.toToml),
      ("plugins", tableEntries (c.plugins.map fun e => (e.1, e.2.toToml))),
      ("targets", tableEntries (c.targets.map fun e => (e.1, e.2.toToml)))] := by
    simp [toToml, tableEntries]
  rw [hform]
  refine .of_tables (by simp) fun e he => ?_
  simp only [List.mem_cons, List.not_mem_nil, or_false] at he
  rcases he with rfl | rfl | rfl | rfl | rfl
  · exact TransportSection.tidy_toToml htimeout
  · exact ConversionSection.tidy_toToml h.north h.south
  · exact PollingSection.tidy_toToml h.attempts hshort hsoon
  · exact hplugins
  · exact htargets

/-! ## What a configuration provides -/

namespace Config

/-- The first configuration provides what the second one does. -/
structure Agrees (c' c : Config) : Prop where
  /-- Connections are made in the same way. -/
  transport : c'.transportPolicy = c.transportPolicy
  /-- The health of plugins is polled in the same way. -/
  polling : c'.pollingPolicy = c.pollingPolicy
  /-- There is the same plugin of each name, or the same reason why there is none. -/
  plugin (env : Environment) (id : String) : c'.plugin env id = c.plugin env id
  /-- There is the same device of each identifier, or the same reason why there is none. -/
  target (env : Environment) (uuid : String) : c'.target env uuid = c.target env uuid
  /-- Bodies are converted in the same way, if no two keys of the table are one run. -/
  body : (∀ t ∈ c.conversion.northBound, Path.Table.Apart (tablePairs t)) →
    ∀ body, c'.pathConversion.northBody body = c.pathConversion.northBody body
  /-- Paths are converted in the same way, if no two keys of the table are one run. -/
  path : (∀ t ∈ c.conversion.southBound, Path.Table.Apart (tablePairs t)) →
    ∀ path, c'.pathConversion.southPath path = c.pathConversion.southPath path

/-- The table of a direction does not depend on the order of its entries, if no two keys are one
run. -/
lemma replace?_eq_of_rel {table?' table? : Option (List (String × String))}
    (h : Option.Rel List.Perm table?' table?)
    (hapart : ∀ t ∈ table?, Path.Table.Apart (tablePairs t)) (standard : Path.Table) :
    ((table?'.map fun t => .ofPairs (tablePairs t)).getD standard).replace?
        = ((table?.map fun t => .ofPairs (tablePairs t)).getD standard).replace? ∧
      ((table?'.map fun t => .ofPairs (tablePairs t)).getD standard).isEmpty
        = ((table?.map fun t => .ofPairs (tablePairs t)).getD standard).isEmpty := by
  cases h with
  | none => exact ⟨rfl, rfl⟩
  | @some t' t hperm =>
    have hpairs : (tablePairs t).Perm (tablePairs t') := hperm.symm.map _
    exact ⟨(Path.Table.replace?_eq_of_perm hpairs (hapart t rfl)).symm,
      (Path.Table.isEmpty_eq_of_perm hpairs).symm⟩

/-- What a configuration provides does not depend on the order of the entries in its tables. -/
theorem Reordered.agrees {c' c : Config} (h : c'.Reordered c) (hc : c.WellFormed) :
    c'.Agrees c := by
  have hplugins (id : String) : c'.plugins.lookup id = c.plugins.lookup id :=
    (Keyed.lookup_eq_of_perm h.plugins.symm hc.plugins id).symm
  have htargets (uuid : String) : c'.targets.lookup uuid = c.targets.lookup uuid :=
    (Keyed.lookup_eq_of_perm h.targets.symm hc.targets uuid).symm
  refine ⟨?_, ?_, fun env id => ?_, fun env uuid => ?_, fun hapart body => ?_,
    fun hapart path => ?_⟩
  · rw [transportPolicy, transportPolicy, h.transport]
  · rw [pollingPolicy, pollingPolicy, h.polling]
  · rw [plugin, plugin, hplugins]
  · simp only [target, hplugins, htargets]
  · obtain ⟨hreplace, hempty⟩ := replace?_eq_of_rel h.north hapart Path.Conversion.standard.north
    change c'.pathConversion.north.replace? = c.pathConversion.north.replace? at hreplace
    change c'.pathConversion.north.isEmpty = c.pathConversion.north.isEmpty at hempty
    simp only [Path.Conversion.northBody, Path.Conversion.northText?, hreplace, hempty]
  · obtain ⟨hreplace, -⟩ := replace?_eq_of_rel h.south hapart Path.Conversion.standard.south
    change c'.pathConversion.south.replace? = c.pathConversion.south.replace? at hreplace
    simp only [Path.Conversion.southPath, Path.Table.apply, hreplace]

/-- A configuration that can be written is loaded from the text, under an environment that overrides
nothing. -/
theorem load_written {c : Config} (hc : c.WellFormed) {text : String}
    (hwritten : c.written? = some text) {env : Environment} (henv : env.Silent) :
    ∃ c', load (some text.toUTF8) env = .ok c' ∧ c'.Reordered c := by
  obtain ⟨document, hdocument, rfl⟩ := Option.map_eq_some_iff.mp hwritten
  rw [document?] at hdocument
  split at hdocument
  · next hbounds =>
    obtain ⟨htimeout, hshort, hsoon⟩ := hbounds
    obtain rfl := Option.some.inj hdocument
    have hparse := parse?_written (tidy_toToml hc htimeout hshort hsoon) (by decide)
    have hlarge {n : Nat} (h : n < integerBound) : n < Nat.pow 2 64 := Nat.lt_trans h (by decide)
    obtain ⟨c', hfound, hsame⟩ :=
      ofSetting_toToml hc (hlarge htimeout) (hlarge hshort) (hlarge hsoon)
    refine ⟨c', ?_, hsame⟩
    have hfile : fileSettings? (some (written c.toToml).toUTF8)
        = some (.ofToml (.table c.toToml)) := by
      rw [fileSettings?, Text.fromUTF8?_toUTF8]
      simp only [hparse, Option.map_some]
    rw [load, hfile]
    rw [Setting.ofToml] at hfound ⊢
    simp only [layered_of_silent henv, hfound, Except.mapError]
  · cases hdocument

end Config

/-! ## Files -/

namespace Disk

/-- The bytes of the file that a path leads to, if it leads to one. -/
def contents? (d : Disk) (path : String) : Option ByteArray :=
  match d.find? (resolve (parts path)) with
  | some (.file text) => some text.toUTF8
  | _ => none

/-- A text that was written is in the file. -/
lemma contents?_of_write? {d after : Disk} {path text : String}
    (h : d.write? path text = some after) : after.contents? path = some text.toUTF8 := by
  rw [write?] at h
  split at h
  · cases h
  · split at h
    · cases h
    · next hdirectory =>
      -- no names lead to a directory, so there are names here
      have hnames : (resolve (parts path)).isEmpty = false := by
        by_contra hempty
        exact hdirectory (by simp [find?, Bool.of_not_eq_false hempty])
      obtain rfl := Option.some.inj h
      simp [contents?, find?, hnames, Keyed.lookup_put_self]

/-- A text that was saved is the configuration in writing, and it is in the file. -/
lemma written?_of_save {d after : Disk} {c : Config} {path text : String}
    (h : d.save c path = (.ok text, after)) :
    c.written? = some text ∧ after.contents? path = some text.toUTF8 := by
  rw [save] at h
  split at h
  · cases h
  · next made _ =>
    cases hwritten : c.written? with
    | none => simp [hwritten] at h
    | some written =>
      cases hwrite : made.write? path written with
      | none => simp [hwritten, hwrite] at h
      | some disk =>
        obtain ⟨rfl, rfl⟩ : written = text ∧ disk = after := by simpa [hwritten, hwrite] using h
        exact ⟨rfl, contents?_of_write? hwrite⟩

/-- A configuration that was saved at a path is loaded from there, under an environment that
overrides nothing: all its settings are as they were, its tables are there or left out as they were,
with the same entries in some order, and it provides the same connections, polling, plugins, devices
and, if no two keys of one table are the same run of segments, the same conversion of every path and
every body. -/
theorem load_of_save {d after : Disk} {c : Config} {path text : String} {env : Environment}
    (hc : c.WellFormed) (hsave : d.save c path = (.ok text, after)) (henv : env.Silent) :
    ∃ c', Config.load (after.contents? path) env = .ok c' ∧ c'.Reordered c ∧ c'.Agrees c := by
  obtain ⟨hwritten, hcontents⟩ := written?_of_save hsave
  obtain ⟨c', hload, hsame⟩ := Config.load_written hc hwritten henv
  exact ⟨c', by rw [hcontents, hload], hsame, hsame.agrees hc⟩

/-- Two plugins out of order, a northward table whose keys are out of order, and an empty southward
table; the password of one plugin spans two lines. -/
def twoPlugins : Config where
  conversion := ⟨some [("ODIM/v1", "redfish/v1"), ("ODIM", "redfish")], some []⟩
  plugins := [("west", ⟨"10.0.0.2", 45002, "admin", some "a\nb", none, "XAuthToken"⟩),
    ("east", ⟨"10.0.0.1", 45001, "admin", none, some "EAST_PASSWORD", "BasicAuth"⟩)]

/-- The configuration of the two plugins is saved on an empty disk and loaded again. -/
theorem load_of_save_of_twoPlugins :
    twoPlugins.WellFormed ∧
      save [] twoPlugins "redfly/config.toml" = (.ok (Toml.written twoPlugins.toToml),
        [(["redfly"], .directory),
          (["redfly", "config.toml"], .file (Toml.written twoPlugins.toToml))]) ∧
      Environment.Silent [("HOME", "/root")] ∧
      ∃ c', Config.load (contents? [(["redfly"], .directory),
          (["redfly", "config.toml"], .file (Toml.written twoPlugins.toToml))]
        "redfly/config.toml") [("HOME", "/root")] = .ok c' ∧ c'.Reordered twoPlugins ∧
        (∀ body, c'.pathConversion.northBody body = twoPlugins.pathConversion.northBody body) ∧
        ∀ path, c'.pathConversion.southPath path = twoPlugins.pathConversion.southPath path := by
  have hc : twoPlugins.WellFormed := by
    refine ⟨by decide, by decide, ?_, ?_, by decide⟩ <;>
    · rintro t ⟨⟩
      decide
  have hsave : save [] twoPlugins "redfly/config.toml" = (.ok (Toml.written twoPlugins.toToml),
      [(["redfly"], .directory),
        (["redfly", "config.toml"], .file (Toml.written twoPlugins.toToml))]) := rfl
  have henv : Environment.Silent [("HOME", "/root")] :=
    Environment.silent_of_unmarked (by decide)
  obtain ⟨c', hload, hsame, hagrees⟩ := load_of_save hc hsave henv
  refine ⟨hc, hsave, henv, c', hload, hsame, hagrees.body ?_, hagrees.path ?_⟩ <;>
  · rintro t ⟨⟩
    unfold Path.Table.Apart
    decide

end Disk

end PluginGateway
