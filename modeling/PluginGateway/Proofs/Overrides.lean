import PluginGateway.Proofs.OrderedSettings

/-!
# Settings overridden by a variable

A variable of the environment overrides the setting that its name leads to. Two facts say what this
comes to in a tree of layers: settings at places of which neither leads through the other are
overridden in either order (`overlaid_nested_comm`), and to override a setting of the upper layer is
to override it in the layers together (`overlaid_overlaid_nested`).

The main statement, `Config.layered_set`, puts them together: one more variable among those of an
environment lays its value over one setting of the whole, unless a later variable leads to that
setting, into it, or to a table around it.
-/

namespace PluginGateway

namespace Setting

variable {key : String} {path path' : List String} {s t : Setting}
  {t? below? above? : Option Setting}

/-! ## Overriding a setting behind some keys -/

/-- Anything but a table replaces what may be there. -/
lemma overlaid_of_plain (h : ∀ entries, s ≠ .table entries) (t? : Option Setting) :
    overlaid t? s = s := by
  cases t? with
  | none => rfl
  | some t => exact merge_of_plain h t

/-- The entries of a table that may be there. -/
def entriesOf : Option Setting → List (String × Setting)
  | some (.table entries) => entries
  | _ => []

/-- The keys lead through tables that are there. What the last of them leads to need not be there.
-/
def ThroughTables : List String → Option Setting → Prop
  | [], _ => True
  | key :: path, t? =>
    ∃ entries, t? = some (.table entries) ∧ ThroughTables path (entries.lookup key)

/-- To override a setting behind some keys is to place one entry, under the first of them. -/
lemma overlaid_nested_cons (key : String) (path : List String) (s : Setting) (t? : Option Setting) :
    overlaid t? (Environment.nested (key :: path) s) =
      .table (place key (overlaid ((entriesOf t?).lookup key) (Environment.nested path s))
        (entriesOf t?)) := by
  have hplain {t : Setting} (ht : ∀ entries, t ≠ .table entries) :
      overlaid (some t) (Environment.nested (key :: path) s) =
        .table (place key (Environment.nested path s) []) := by
    rw [overlaid, merge_over_plain ht]
    rfl
  cases t? with
  | none => rfl
  | some t =>
    cases t with
    | table entries =>
      rw [overlaid, Environment.nested, merge, mergeEntries_cons, mergeEntries]
      rfl
    | _ => exact hplain fun _ => by simp

/-- Settings at places of which neither leads through the other are overridden in either order. -/
lemma overlaid_nested_comm (h : ¬path <+: path') (h' : ¬path' <+: path) (s s' : Setting)
    (t? : Option Setting) :
    overlaid (some (overlaid t? (Environment.nested path s))) (Environment.nested path' s') =
      overlaid (some (overlaid t? (Environment.nested path' s'))) (Environment.nested path s) := by
  induction path generalizing path' t? with
  | nil => exact absurd List.nil_prefix h
  | cons k path ih =>
    cases path' with
    | nil => exact absurd List.nil_prefix h'
    | cons k' path' =>
      simp only [overlaid_nested_cons, entriesOf, lookup_place]
      by_cases hk : k = k'
      · subst hk
        rw [List.cons_prefix_cons, not_and] at h h'
        simp only [if_true, place_place, ih (h rfl) (h' rfl)]
      · rw [if_neg hk, if_neg (Ne.symm hk), place_comm (Ne.symm hk)]

/-- To override a setting of the upper of two layers is to override it in both, if the layers
together have tables where the keys lead through. -/
lemma overlaid_overlaid_nested (hs : ∀ entries, s ≠ .table entries)
    (habove : ∀ t ∈ above?, Ordered t) (h : ThroughTables path (layered? below? above?)) :
    overlaid below? (overlaid above? (Environment.nested path s)) =
      overlaid (layered? below? above?) (Environment.nested path s) := by
  induction path generalizing below? above? with
  | nil => simp only [Environment.nested, overlaid_of_plain hs]
  | cons key path ih =>
    cases below? with
    | none => cases above? <;> rfl
    | some below =>
      cases above? with
      | none => rfl
      | some above =>
        obtain ⟨entries, hentries, htables⟩ := h
        obtain hmerge : below.merge above = .table entries := Option.some.inj hentries
        have hordered : Ordered above := habove above rfl
        cases hordered with
        | plain _ hplain =>
          -- then the layers together are the upper one, which is no table
          rw [merge_of_plain hplain] at hmerge
          exact absurd hmerge (hplain entries)
        | table above hkeys hitems =>
          by_cases hbelow : ∃ entries, below = .table entries
          · obtain ⟨below, rfl⟩ := hbelow
            rw [merge] at hmerge
            obtain rfl := table.inj hmerge
            rw [lookup_mergeEntries hkeys.nodup] at htables
            have hlater : ∀ t ∈ above.lookup key, Ordered t := fun t ht =>
              (Ordered.table above hkeys hitems).of_lookup ht
            rw [overlaid_nested_cons, entriesOf, overlaid, merge, mergeEntries_place hkeys,
              ih hlater htables, layered?, merge, overlaid_nested_cons, entriesOf,
              lookup_mergeEntries hkeys.nodup]
          · have hplain : ∀ entries, below ≠ .table entries := fun entries heq =>
              hbelow ⟨entries, heq⟩
            rw [overlaid, merge_over_plain hplain, layered?, merge_over_plain hplain]

end Setting

/-! ## One more variable -/

namespace Environment

open Setting

variable {path : List String} {before after : Environment} {name text : String}

/-- No variable leads to the setting behind the keys, into it, or to a table around it. -/
def Spares (env : Environment) (path : List String) : Prop :=
  ∀ v ∈ env, ∀ path', path? v.1 = some path' → ¬path' <+: path ∧ ¬path <+: path'

/-- Variables that spare a setting are laid over the settings around it, whether it is overridden
before or behind them. -/
lemma foldl_lay_overlaid {env : Environment} (h : env.Spares path) (s t : Setting) :
    env.foldl lay (overlaid (some t) (nested path s)) =
      overlaid (some (env.foldl lay t)) (nested path s) := by
  induction env generalizing t with
  | nil => rfl
  | cons v env ih =>
    obtain ⟨hv, hrest⟩ := List.forall_mem_cons.mp h
    rw [List.foldl_cons, List.foldl_cons, ← ih hrest]
    refine congrArg (fun s => env.foldl lay s) ?_
    unfold lay
    split
    · next path' hpath' =>
      obtain ⟨hnot, hnot'⟩ := hv path' hpath'
      exact overlaid_nested_comm hnot' hnot s (valueOf v.2) (some t)
    · rfl

/-- The name of a variable leads somewhere behind one key at least. -/
lemma path?_ne_nil (h : path? name = some path) : path ≠ [] := by
  unfold path? at h
  dsimp only at h
  split_ifs at h
  obtain rfl := Option.some.inj h
  exact fun hnil => Text.split_ne_nil _ _ (List.map_eq_nil_iff.mp hnil)

/-- The settings of an environment are a table. -/
lemma exists_table_settings (env : Environment) : ∃ entries, env.settings = .table entries := by
  have hfold (entries : List (String × Setting)) :
      ∃ entries', env.foldl lay (.table entries) = .table entries' := by
    induction env generalizing entries with
    | nil => exact ⟨entries, rfl⟩
    | cons v env ih =>
      rw [List.foldl_cons, lay]
      split
      · next path hpath =>
        obtain ⟨key, rest, rfl⟩ := List.exists_cons_of_ne_nil (path?_ne_nil hpath)
        exact ih _
      · exact ih _
  exact hfold []

/-- One more variable is laid over the settings of the others, if the later ones spare its setting.
-/
lemma settings_set (hpath : path? name = some path) (h : after.Spares path) :
    settings (before ++ (name, text) :: after) =
      overlaid (some (settings (before ++ after))) (nested path (valueOf text)) := by
  have hsettings (env : Environment) : env.settings = env.foldl lay (.table []) := rfl
  have hlay (s : Setting) :
      lay s (name, text) = overlaid (some s) (nested path (valueOf text)) := by
    simp only [lay, hpath, overlaid]
  rw [hsettings, hsettings, List.foldl_append, List.foldl_append, List.foldl_cons, hlay,
    foldl_lay_overlaid h]

end Environment

namespace Config

open Setting

/-- The layers together are a table. -/
lemma exists_table_layered {file : Option ByteArray} {settings : Setting}
    (h : fileSettings? file = some settings) (env : Environment) :
    ∃ entries, layered settings env = .table entries := by
  have hsettings : ∃ entries, settings = .table entries := by
    unfold fileSettings? at h
    split at h
    · exact ⟨[], (Option.some.inj h).symm⟩
    · split at h
      · cases h
      · obtain ⟨entries, -, rfl⟩ := Option.map_eq_some_iff.mp h
        exact ⟨ofTomlEntries entries, ofToml.eq_def (.table entries)⟩
  obtain ⟨entries, rfl⟩ := hsettings
  obtain ⟨above, habove⟩ := Environment.exists_table_settings env
  rw [layered, habove]
  exact ⟨_, rfl⟩

/-- One more variable lays its value over one setting of all layers together, if there are tables
around the setting and the later variables spare it. -/
theorem layered_set {path : List String} {before after : Environment} {name text : String}
    {settings : Setting} (hpath : Environment.path? name = some path)
    (hlater : Environment.Spares after path)
    (htext : ∀ entries, Environment.valueOf text ≠ .table entries)
    (htables : ThroughTables path (some (layered settings (before ++ after)))) :
    layered settings (before ++ (name, text) :: after) =
      overlaid (some (layered settings (before ++ after)))
        (Environment.nested path (Environment.valueOf text)) := by
  have hordered : ∀ t ∈ some (Environment.settings (before ++ after)), Ordered t := by
    rintro t ⟨⟩
    exact Environment.ordered_settings _
  have hlayers : layered? (some (defaults.merge settings))
      (some (Environment.settings (before ++ after))) =
        some (layered settings (before ++ after)) := rfl
  rw [← hlayers] at htables ⊢
  rw [← overlaid_overlaid_nested htext hordered htables, layered,
    Environment.settings_set hpath hlater]
  rfl

end Config

end PluginGateway
