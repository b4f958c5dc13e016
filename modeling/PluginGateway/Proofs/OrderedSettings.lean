import Mathlib.Data.String.Basic
import PluginGateway.Proofs.LayeredSettings

/-!
# Settings in the order of their keys

The tables of a tree of settings keep their entries in the order of the keys, whatever the tree was
made of: `Ordered` says so of a tree, and it holds of the defaults, of every document, of everything
that a variable of the environment can say, and of layers laid over each other.

In such a tree an entry has one place, so entries can be placed in any order (`place_comm`), and an
entry placed in a layer is an entry placed in the whole (`mergeEntries_place`).
-/

namespace PluginGateway

namespace Setting

variable {key key' : String} {s t : Setting} {entries below above : List (String × Setting)}

/-! ## Placing entries -/

/-- Of two entries placed under one key the later one counts. -/
lemma place_place (key : String) (s t : Setting) (entries : List (String × Setting)) :
    place key s (place key t entries) = place key s entries := by
  induction entries with
  | nil => simp [place]
  | cons e entries ih =>
    obtain ⟨k, u⟩ := e
    grind [place]

/-- Entries under two keys can be placed in either order. -/
lemma place_comm (h : key ≠ key') (s t : Setting) (entries : List (String × Setting)) :
    place key s (place key' t entries) = place key' t (place key s entries) := by
  induction entries with
  | nil => grind [place]
  | cons e entries ih =>
    obtain ⟨k, u⟩ := e
    grind [place]

/-- After an entry is placed, the entries are some of those before, and this one. -/
lemma mem_of_mem_place {e : String × Setting} (h : e ∈ place key s entries) :
    e = (key, s) ∨ e ∈ entries := by
  induction entries with
  | nil => exact .inl (List.mem_singleton.mp h)
  | cons e' entries ih =>
    obtain ⟨k, t⟩ := e'
    rw [place] at h
    split_ifs at h with hlt heq
    · exact List.mem_cons.mp h
    · exact (List.mem_cons.mp h).imp_right (List.mem_cons_of_mem _)
    · rcases List.mem_cons.mp h with rfl | h
      · exact .inr List.mem_cons_self
      · exact (ih h).imp_right (List.mem_cons_of_mem _)

/-! ## Ordered trees -/

/-- The keys of the entries rise. -/
def Rising (entries : List (String × Setting)) : Prop := (entries.map Prod.fst).Pairwise (· < ·)

/-- In every table of the tree the keys rise. -/
inductive Ordered : Setting → Prop
  /-- There is no table. -/
  | plain (s : Setting) (h : ∀ entries, s ≠ .table entries) : Ordered s
  /-- The keys of the table rise, and so do those of the tables in it. -/
  | table (entries : List (String × Setting)) (hkeys : Rising entries)
      (h : ∀ e ∈ entries, Ordered e.2) : Ordered (.table entries)

/-- A table is ordered exactly if its keys rise and its entries are ordered. -/
lemma ordered_table_iff :
    Ordered (.table entries) ↔ Rising entries ∧ ∀ e ∈ entries, Ordered e.2 := by
  constructor
  · intro h
    cases h with
    | plain _ h => exact absurd rfl (h entries)
    | table _ hkeys h => exact ⟨hkeys, h⟩
  · rintro ⟨hkeys, h⟩
    exact .table entries hkeys h

/-- Without entries, keys rise. -/
lemma ordered_nil : Ordered (.table []) := ordered_table_iff.mpr ⟨.nil, List.forall_mem_nil _⟩

/-- Keys that rise are apart. -/
lemma Rising.nodup (h : Rising entries) : (entries.map Prod.fst).Nodup := h.imp ne_of_lt

/-- Rising keys go on rising when an entry is placed. -/
lemma Rising.place (h : Rising entries) (key : String) (s : Setting) :
    Rising (place key s entries) := by
  induction entries with
  | nil => exact List.pairwise_singleton _ _
  | cons e entries ih =>
    obtain ⟨k, t⟩ := e
    obtain ⟨hfirst, hrest⟩ := List.pairwise_cons.mp h
    rw [Setting.place]
    split_ifs with hlt heq
    · refine List.pairwise_cons.mpr ⟨fun k' hk' => ?_, h⟩
      rcases List.mem_cons.mp hk' with rfl | hk'
      · exact hlt
      · exact hlt.trans (hfirst k' hk')
    · exact heq ▸ h
    · refine List.pairwise_cons.mpr ⟨fun k' hk' => ?_, ih hrest⟩
      obtain ⟨e, he, rfl⟩ := List.mem_map.mp hk'
      rcases mem_of_mem_place he with rfl | he
      · exact lt_of_le_of_ne (le_of_not_gt hlt) (Ne.symm heq)
      · exact hfirst e.1 (List.mem_map_of_mem he)

/-- An ordered entry placed in an ordered table. -/
lemma Ordered.place (h : Ordered (.table entries)) (hs : Ordered s) (key : String) :
    Ordered (.table (place key s entries)) := by
  obtain ⟨hkeys, hentries⟩ := ordered_table_iff.mp h
  refine .table _ (hkeys.place key s) fun e he => ?_
  rcases mem_of_mem_place he with rfl | he
  · exact hs
  · exact hentries e he

/-- A setting of an ordered table is ordered. -/
lemma Ordered.of_lookup (h : Ordered (.table entries)) (hs : entries.lookup key = some s) :
    Ordered s := by
  obtain ⟨hkeys, hentries⟩ := ordered_table_iff.mp h
  exact hentries _ ((Keyed.lookup_eq_some_iff hkeys.nodup).mp hs)

/-- The table of some ordered entries. -/
lemma ordered_ofEntries (h : ∀ e ∈ entries, Ordered e.2) : Ordered (ofEntries entries) := by
  have hfold {placed : List (String × Setting)} (hplaced : Ordered (.table placed)) :
      Ordered (.table (entries.foldl (fun t e => Setting.place e.1 e.2 t) placed)) := by
    induction entries generalizing placed with
    | nil => exact hplaced
    | cons e entries ih =>
      obtain ⟨he, hrest⟩ := List.forall_mem_cons.mp h
      exact ih hrest (hplaced.place he e.1)
  exact hfold ordered_nil

/-! ## Layers -/

/-- Anything but a table replaces what it is laid over. -/
lemma merge_of_plain (h : ∀ entries, s ≠ .table entries) (t : Setting) : t.merge s = s := by
  unfold Setting.merge
  split
  · exact absurd rfl (h _)
  · rfl

/-- Anything but a table is replaced by what is laid over it. -/
lemma merge_over_plain (h : ∀ entries, t ≠ .table entries) (s : Setting) : t.merge s = s := by
  unfold Setting.merge
  split
  · exact absurd rfl (h _)
  · rfl

/-- An ordered tree laid over another one. -/
lemma Ordered.merge (ht : Ordered t) (hs : Ordered s) : Ordered (t.merge s) := by
  induction hs generalizing t with
  | plain s h =>
    rw [merge_of_plain h]
    exact .plain s h
  | table above hkeys h ih =>
    cases ht with
    | plain t ht =>
      rw [merge_over_plain ht]
      exact .table above hkeys h
    | table below hbelow ht =>
      rw [Setting.merge]
      replace ht := Ordered.table below hbelow ht
      clear hkeys hbelow
      -- each entry of the upper layer is placed in what the lower one has become so far
      induction above generalizing below with
      | nil => exact ht
      | cons e above ihabove =>
        obtain ⟨k, s⟩ := e
        obtain ⟨hs, hrest⟩ := List.forall_mem_cons.mp h
        obtain ⟨ihs, ihrest⟩ := List.forall_mem_cons.mp ih
        rw [mergeEntries]
        refine ihabove hrest ihrest _ (ht.place ?_ k)
        cases hbelow : below.lookup k with
        | none => exact hs
        | some t => exact ihs (ht.of_lookup hbelow)

/-- A setting laid over another one, if there is one. -/
def overlaid : Option Setting → Setting → Setting
  | none, s => s
  | some t, s => t.merge s

/-- The entries of a layer are laid over those of the one below it, one after another. -/
lemma mergeEntries_cons (key : String) (s : Setting) (below above : List (String × Setting)) :
    mergeEntries below ((key, s) :: above) =
      mergeEntries (place key (overlaid (below.lookup key) s) below) above := by
  rw [mergeEntries]
  cases below.lookup key <;> rfl

/-- An entry placed in the lower of two layers is placed in both, if the upper one has none under
its key. -/
lemma mergeEntries_place_below (h : key ∉ above.map Prod.fst) (s : Setting)
    (below : List (String × Setting)) :
    mergeEntries (place key s below) above = place key s (mergeEntries below above) := by
  induction above generalizing below with
  | nil => rfl
  | cons e above ih =>
    obtain ⟨k, t⟩ := e
    rw [List.map_cons, List.mem_cons, not_or] at h
    obtain ⟨hne, hrest⟩ := h
    rw [mergeEntries_cons, mergeEntries_cons, lookup_place, if_neg (Ne.symm hne),
      place_comm (Ne.symm hne), ih hrest]

/-- An entry placed in the upper of two layers is placed in both, over what the lower one has under
its key. -/
lemma mergeEntries_place (h : Rising above) (key : String) (s : Setting)
    (below : List (String × Setting)) :
    mergeEntries below (place key s above) =
      place key (overlaid (below.lookup key) s) (mergeEntries below above) := by
  induction above generalizing below with
  | nil => rw [place, mergeEntries_cons, mergeEntries, mergeEntries]
  | cons e above ih =>
    obtain ⟨k, u⟩ := e
    obtain ⟨hfirst, hrest⟩ := List.pairwise_cons.mp h
    rw [place]
    split_ifs with hlt heq
    · have hnew : key ∉ ((k, u) :: above).map Prod.fst := by
        rw [List.map_cons, List.mem_cons, not_or]
        exact ⟨hlt.ne, fun hmem => (hlt.trans (hfirst key hmem)).ne rfl⟩
      rw [mergeEntries_cons, mergeEntries_place_below hnew]
    · subst heq
      have hnew : key ∉ above.map Prod.fst := fun hmem => (hfirst key hmem).ne rfl
      rw [mergeEntries_cons, mergeEntries_cons, mergeEntries_place_below hnew,
        mergeEntries_place_below hnew, place_place]
    · rw [mergeEntries_cons, mergeEntries_cons, ih hrest, lookup_place, if_neg heq]

/-! ## What settings are made of -/

mutual

/-- The settings of a TOML value are ordered. -/
theorem ordered_ofToml : ∀ v : Toml.Value, Ordered (ofToml v)
  | .text _ | .integer _ | .float _ | .flag _ | .array _ => by
    rw [ofToml]
    exact .plain _ nofun
  | .moment m => by
    rw [ofToml]
    exact ordered_nil.place (.plain (.text m) nofun) momentKey
  | .table entries => by
    rw [ofToml]
    exact ordered_ofTomlEntries entries

/-- The settings of the entries of a TOML table are ordered. -/
theorem ordered_ofTomlEntries :
    ∀ entries : List (String × Toml.Value), Ordered (.table (ofTomlEntries entries))
  | [] => ordered_nil
  | (key, v) :: rest => by
    rw [ofTomlEntries]
    exact (ordered_ofTomlEntries rest).place (ordered_ofToml v) key

end

end Setting

namespace Environment

open Setting

/-- What holds of every item that is read holds of all items of a list. -/
lemma forall_mem_of_readUntil {α : Type} {P : α → Prop} {close : Char} {item : Reading α}
    (hitem : ∀ s a rest, item s = some (a, rest) → P a) {s rest : List Char} {items : List α}
    (h : readUntil close item s = some (items, rest)) : ∀ a ∈ items, P a := by
  fun_induction readUntil close item s generalizing items rest with
  | case1 s hclose =>
    cases h
    exact List.forall_mem_nil _
  | case2 s hclose a rest' hread hshort ih =>
    obtain ⟨⟨more, rest''⟩, hmore, hitems⟩ := Option.map_eq_some_iff.mp h
    cases hitems
    exact List.forall_mem_cons.mpr ⟨hitem _ _ _ hread, ih hmore⟩
  | case4 s hclose a rest' hcomma hread =>
    cases h
    exact List.forall_mem_singleton.mpr (hitem _ _ _ hread)
  | _ => cases h

/-- A value that is neither in brackets nor in marks is no table. -/
lemma ordered_readBare (s : List Char) : Ordered (readBare s).1 := by
  have hplain (s : List Char) : Ordered (plain s) := by
    unfold plain
    split <;> exact .plain _ nofun
  unfold readBare
  split
  · exact .plain _ nofun
  · exact .plain _ nofun
  · exact hplain _

/-- What is read as a value is ordered. -/
lemma ordered_of_readValue {limit : Nat} {s rest : List Char} {v : Setting}
    (h : readValue limit s = some (v, rest)) : Ordered v := by
  induction limit generalizing s v rest with
  | zero => cases h
  | succ limit ih =>
    have hentry (s : List Char) (e : String × Setting) (rest : List Char)
        (he : readEntry (readValue limit) s = some (e, rest)) : Ordered e.2 := by
      obtain ⟨⟨key, rest'⟩, -, he⟩ := Option.bind_eq_some_iff.mp he
      dsimp only at he
      split at he
      · obtain ⟨⟨v, rest''⟩, hv, he⟩ := Option.map_eq_some_iff.mp he
        cases he
        exact ih hv
      · cases he
    rw [readValue] at h
    obtain ⟨⟨w, rest'⟩, hw, heq⟩ := Option.map_eq_some_iff.mp h
    cases heq
    split at hw
    · obtain ⟨⟨entries, rest''⟩, hentries, heq⟩ := Option.map_eq_some_iff.mp hw
      cases heq
      exact ordered_ofEntries (forall_mem_of_readUntil hentry hentries)
    · obtain ⟨⟨items, rest''⟩, -, heq⟩ := Option.map_eq_some_iff.mp hw
      cases heq
      exact .plain _ nofun
    · obtain ⟨⟨text, rest''⟩, -, heq⟩ := Option.map_eq_some_iff.mp hw
      cases heq
      exact .plain _ nofun
    · cases hw
      exact .plain _ nofun
    · cases hw
    · have hbare := ordered_readBare (skipSpace s)
      rw [Option.some.inj hw] at hbare
      exact hbare

/-- The setting that a value stands for is ordered. -/
lemma ordered_valueOf (text : String) : Ordered (valueOf text) := by
  unfold valueOf
  split
  · next h => exact ordered_of_readValue h
  · exact .plain _ nofun

/-- A setting behind the keys that lead to it is ordered. -/
lemma ordered_nested (path : List String) {s : Setting} (h : Ordered s) :
    Ordered (nested path s) := by
  induction path with
  | nil => exact h
  | cons key path ih => exact ordered_nil.place ih key

/-- A variable laid over some settings. -/
def lay (s : Setting) (v : String × String) : Setting :=
  match path? v.1 with
  | some path => s.merge (nested path (valueOf v.2))
  | none => s

/-- The settings of an environment are ordered. -/
lemma ordered_settings (env : Environment) : Ordered env.settings := by
  have hfold {s : Setting} (hs : Ordered s) : Ordered (env.foldl lay s) := by
    induction env generalizing s with
    | nil => exact hs
    | cons v env ih =>
      refine ih ?_
      unfold lay
      split
      · exact hs.merge (ordered_nested _ (ordered_valueOf v.2))
      · exact hs
  exact hfold ordered_nil

end Environment

namespace Config

open Setting

/-- The defaults are ordered. -/
lemma ordered_defaults : Ordered defaults := by
  have hplain {s : Setting} (h : ∀ entries, s ≠ .table entries) : Ordered s := .plain s h
  unfold defaults TransportSection.toSetting PollingSection.toSetting
  simp only [ordered_table_iff, List.forall_mem_cons, List.not_mem_nil, false_imp_iff, implies_true,
    and_true, Rising]
  exact ⟨by decide, ⟨by decide, hplain nofun, hplain nofun, hplain nofun⟩, .nil, .nil,
    ⟨by decide, hplain nofun, hplain nofun, hplain nofun, hplain nofun⟩, .nil⟩

/-- The settings of all layers are ordered. -/
lemma ordered_layered {file : Option ByteArray} {settings : Setting}
    (h : fileSettings? file = some settings) (env : Environment) :
    Ordered (layered settings env) := by
  have hsettings : Ordered settings := by
    unfold fileSettings? at h
    split at h
    · cases h
      exact ordered_nil
    · split at h
      · cases h
      · obtain ⟨entries, -, rfl⟩ := Option.map_eq_some_iff.mp h
        exact ordered_ofToml _
  exact (ordered_defaults.merge hsettings).merge env.ordered_settings

end Config

end PluginGateway
