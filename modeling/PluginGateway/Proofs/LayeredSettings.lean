import Mathlib.Data.List.Basic
import Mathlib.Data.List.Perm.Basic
import PluginGateway.Config.Load
import PluginGateway.Keyed

/-!
# Settings in layers

What is found in a tree of settings does not depend on how its entries are ordered: `place` and
`merge` are described by what is found under each key afterwards (`lookup_place`,
`lookup_mergeEntries`) and, where keys are apart, by the entries up to their order.

A record is taken from a table by the names of its fields, so a table in which each field is found
gives the record (`field_of_lookup`), and a table of values gives the values up to their order
(`tableOf_of_perm`). An environment that overrides nothing adds no settings
(`Environment.settings_of_silent`).
-/

namespace PluginGateway

namespace Setting

/-! ## Entries in the order of keys -/

/-- The entry placed is found under its key, and the others as before. -/
lemma lookup_place (key : String) (s : Setting) (entries : List (String × Setting))
    (other : String) :
    (place key s entries).lookup other = if other = key then some s else entries.lookup other := by
  induction entries with
  | nil =>
    by_cases h : other = key
    · simp [place, h]
    · have h' : (other == key) = false := by simpa using h
      simp [place, List.lookup_cons, h, h']
  | cons e entries ih =>
    obtain ⟨k, t⟩ := e
    rw [place]
    by_cases h : other = key
    · subst h
      rw [if_pos rfl] at ih ⊢
      split
      · simp
      · split
        · simp
        · next hne =>
          have hk : (other == k) = false := by simpa using hne
          simpa [List.lookup_cons, hk] using ih
    · have h' : (other == key) = false := by simpa using h
      rw [if_neg h] at ih ⊢
      split
      · simp [List.lookup_cons, h']
      · split
        · next heq =>
          subst heq
          simp [List.lookup_cons, h']
        · simp only [List.lookup_cons, ih]

/-- An entry with a new key is placed among the others. -/
lemma place_perm {key : String} {s : Setting} {entries : List (String × Setting)}
    (h : key ∉ entries.map Prod.fst) : (place key s entries).Perm ((key, s) :: entries) := by
  induction entries with
  | nil => exact .refl _
  | cons e entries ih =>
    obtain ⟨k, t⟩ := e
    rw [List.map_cons, List.mem_cons, not_or] at h
    rw [place]
    split_ifs with hlt heq
    · exact .refl _
    · exact absurd heq h.1
    · exact ((ih h.2).cons (k, t)).trans (.swap _ _ _)

/-! ## Settings of a document -/

/-- An entry of a TOML table is found among the settings. -/
lemma lookup_ofTomlEntries (entries : List (String × Toml.Value)) (key : String) :
    (ofTomlEntries entries).lookup key = (entries.lookup key).map ofToml := by
  induction entries with
  | nil => simp [ofTomlEntries]
  | cons e entries ih =>
    obtain ⟨k, v⟩ := e
    rw [ofTomlEntries, lookup_place, ih, List.lookup_cons]
    by_cases h : key = k
    · simp [h]
    · have h' : (key == k) = false := by simpa using h
      simp [h, h']

/-- The entries of a TOML table with its keys apart are the settings, up to their order. -/
lemma ofTomlEntries_perm {entries : List (String × Toml.Value)}
    (h : (entries.map Prod.fst).Nodup) :
    (ofTomlEntries entries).Perm (entries.map fun e => (e.1, ofToml e.2)) := by
  induction entries with
  | nil => simp [ofTomlEntries]
  | cons e entries ih =>
    obtain ⟨k, v⟩ := e
    rw [List.map_cons, List.nodup_cons] at h
    have hrest := ih h.2
    have hkeys : k ∉ (ofTomlEntries entries).map Prod.fst := by
      rw [(hrest.map Prod.fst).mem_iff]
      simpa [Function.comp_def] using h.1
    rw [ofTomlEntries]
    exact (place_perm hkeys).trans (hrest.cons _)

/-- The keys of the settings of a TOML table are apart if those of the table are. -/
lemma nodup_keys_ofTomlEntries {entries : List (String × Toml.Value)}
    (h : (entries.map Prod.fst).Nodup) : ((ofTomlEntries entries).map Prod.fst).Nodup := by
  rw [((ofTomlEntries_perm h).map Prod.fst).nodup_iff]
  simpa [Function.comp_def] using h

/-! ## One layer over another -/

/-- The setting under a key of two layers: that of the upper one, if it has one, laid over that of
the lower one. -/
def layered? : Option Setting → Option Setting → Option Setting
  | below?, none => below?
  | none, some above => some above
  | some below, some above => some (below.merge above)

/-- What is found in two layers is what is found in each of them, laid over each other. -/
lemma lookup_mergeEntries {above : List (String × Setting)} (h : (above.map Prod.fst).Nodup)
    (below : List (String × Setting)) (key : String) :
    (mergeEntries below above).lookup key = layered? (below.lookup key) (above.lookup key) := by
  induction above generalizing below with
  | nil => cases hb : below.lookup key <;> simp [mergeEntries, hb, layered?]
  | cons e above ih =>
    obtain ⟨k, s⟩ := e
    rw [List.map_cons, List.nodup_cons] at h
    rw [mergeEntries, ih h.2, lookup_place, List.lookup_cons]
    by_cases hk : key = k
    · subst hk
      rw [Keyed.lookup_of_not_mem h.1]
      cases hb : below.lookup key <;> simp [layered?]
    · have hk' : (key == k) = false := by simpa using hk
      simp [hk, hk']

/-- Two layers without a common key are the entries of both, in some order. -/
lemma mergeEntries_perm {below above : List (String × Setting)}
    (h : (above.map Prod.fst ++ below.map Prod.fst).Nodup) :
    (mergeEntries below above).Perm (above ++ below) := by
  induction above generalizing below with
  | nil => exact .refl _
  | cons e above ih =>
    obtain ⟨k, s⟩ := e
    rw [List.map_cons, List.cons_append, List.nodup_cons, List.mem_append, not_or] at h
    obtain ⟨⟨habove, hbelow⟩, hrest⟩ := h
    have hplaced : (place k s below).Perm ((k, s) :: below) := place_perm hbelow
    have hkeys : (above.map Prod.fst ++ (place k s below).map Prod.fst).Nodup := by
      rw [((hplaced.map Prod.fst).append_left _).nodup_iff, List.map_cons,
        List.perm_middle.nodup_iff, List.nodup_cons, List.mem_append, not_or]
      exact ⟨⟨habove, hbelow⟩, hrest⟩
    rw [mergeEntries, Keyed.lookup_of_not_mem hbelow]
    exact (ih hkeys).trans ((hplaced.append_left _).trans List.perm_middle)

/-- A layer over an empty one is that layer, up to the order of its entries. -/
lemma mergeEntries_nil_perm {above : List (String × Setting)} (h : (above.map Prod.fst).Nodup) :
    (mergeEntries [] above).Perm above := by
  have hkeys : (above.map Prod.fst ++ ([] : List (String × Setting)).map Prod.fst).Nodup := by
    simpa using h
  simpa using mergeEntries_perm hkeys

end Setting

/-! ## Records and tables -/

namespace Extract

variable {α : Type} {entries : List (String × Setting)}

/-- A field that is found in a table. -/
lemma field_of_lookup (x : Extract α) {s : Setting} {a : α} {name : String}
    (h : entries.lookup name = some s) (hx : x s = .ok a) (place : Nat) :
    (Source.named entries).field place name x = .ok (some a) := by
  simp [Source.field, h, hx, Except.mapError, Except.map]

/-- A field that is not in a table. -/
lemma field_of_lookup_none (x : Extract α) {name : String} (h : entries.lookup name = none)
    (place : Nat) :
    (Source.named entries).field place name x = .ok none := by
  simp [Source.field, h]

/-- A field with a text. -/
lemma field_text {name t : String} (h : entries.lookup name = some (.text t)) (place : Nat) :
    (Source.named entries).field place name text = .ok (some t) :=
  field_of_lookup text h rfl place

/-- A field with a text that may be left out. -/
lemma field_optional {name : String} {t? : Option String}
    (h : entries.lookup name = t?.map Setting.text) (place : Nat) :
    (Source.named entries).field place name (optional text) = .ok (t?.map some) := by
  cases t? with
  | none => exact field_of_lookup_none (optional text) h place
  | some t => exact field_of_lookup (optional text) h rfl place

/-- A field with a truth value. -/
lemma field_flag {name : String} {b : Bool} (h : entries.lookup name = some (.flag b))
    (place : Nat) : (Source.named entries).field place name flag = .ok (some b) :=
  field_of_lookup flag h rfl place

/-- A field with a natural number that is not too large. -/
lemma field_natural {name : String} {bits n : Nat}
    (h : entries.lookup name = some (.signed n)) (hbound : n < Nat.pow 2 bits) (place : Nat) :
    (Source.named entries).field place name (natural bits) = .ok (some n) := by
  refine field_of_lookup (natural bits) h ?_ place
  have hrange : 0 ≤ (n : Int) ∧ (n : Int) < (Nat.pow 2 bits : Int) :=
    ⟨Int.natCast_nonneg n, Int.ofNat_lt.mpr hbound⟩
  simp only [natural]
  rw [if_pos hrange, Int.toNat_natCast]

/-- The entry of a table gives the value under the same key. -/
def Gives (x : Extract α) (e : String × Setting) (a : String × α) : Prop :=
  e.1 = a.1 ∧ x e.2 = .ok a.2

variable {x : Extract α}

/-- Entries that give values one by one give the table of the values. -/
lemma entries_of_gives {values : List (String × α)} (h : List.Forall₂ (Gives x) entries values) :
    Extract.entries x entries = .ok values := by
  induction h with
  | nil => rfl
  | @cons e a entries values hhead _ ih =>
    obtain ⟨k, s⟩ := e
    obtain ⟨rfl, hx⟩ := hhead
    dsimp only at hx
    simp [Extract.entries, hx, ih, Except.map]

/-- A table of settings that give values gives the values, up to their order. -/
lemma tableOf_of_perm {values : List (String × α)} (setting : α → Setting)
    (hx : ∀ e ∈ values, x (setting e.2) = .ok e.2)
    (h : entries.Perm (values.map fun e => (e.1, setting e.2))) :
    ∃ found, tableOf x (.table entries) = .ok found ∧ found.Perm values := by
  have hgives : List.Forall₂ (Gives x) (values.map fun e => (e.1, setting e.2)) values := by
    rw [List.forall₂_map_left_iff, List.forall₂_same]
    exact fun e he => ⟨rfl, hx e he⟩
  obtain ⟨found, hfound, hperm⟩ := List.perm_comp_forall₂ h hgives
  exact ⟨found, entries_of_gives hfound, hperm⟩

end Extract

/-! ## The environment -/

namespace Environment

/-- No variable overrides a setting. -/
def Silent (env : Environment) : Prop := ∀ v ∈ env, path? v.1 = none

/-- Where no name of a variable begins with the marker, no variable overrides a setting. -/
lemma silent_of_unmarked {env : Environment} (h : ∀ v ∈ env,
    Text.sameIgnoringCase ((Text.trim v.1.toList).take marker.length) marker = false) :
    env.Silent := fun v hv => by simp [path?, h v hv]

/-- Where no variable overrides a setting, the environment has no settings. -/
lemma settings_of_silent {env : Environment} (h : env.Silent) : env.settings = .table [] := by
  have hsame : env.settings = env.foldl (fun s _ => s) (.table []) :=
    List.foldl_ext _ _ _ fun s v hv => by simp only [h v hv]
  rw [hsame, List.foldl_fixed]

end Environment

/-- Under an environment that overrides nothing, the settings are those of the file over the
defaults. -/
lemma Config.layered_of_silent {env : Environment} (h : env.Silent)
    (file : List (String × Setting)) :
    Config.layered (.table file) env = Config.defaults.merge (.table file) := by
  rw [layered, Environment.settings_of_silent h]
  simp [Config.defaults, Setting.merge, Setting.mergeEntries]

end PluginGateway
