import Mathlib.Data.List.Nodup
import PluginGateway.Proofs.TomlLines

/-!
# TOML documents read back

A document is `Tidy` if in each of its tables the keys are apart, the simple values come first and
all other values are tables, no deeper than so many. A tidy document is written as headers with
assignments below them, and these build the document again: while the lines of a table are carried
out, only that table changes in the draft, and every other change of the draft goes through to it
along its path (`Tree.Focus`).

The main statement is `parse?_written`: a tidy document that is written is read back as it was.
-/

namespace PluginGateway.Toml

/-! ## Tidy documents -/

/-- The entries with tables for values. -/
def tableEntries (tables : List (String × List (String × Value))) : List (String × Value) :=
  tables.map fun e => (e.1, .table e.2)

/-- Entries of which the simple values come first and the tables after them, with all keys apart;
tables are nested less than so deep. -/
inductive Tidy : Nat → List (String × Value) → Prop
  /-- Values and tables. -/
  | intro {depth : Nat} {values : List (String × Value)}
    {tables : List (String × List (String × Value))}
    (hkeys : (values.map Prod.fst ++ tables.map Prod.fst).Nodup)
    (hvalues : ∀ e ∈ values, e.2.Simple) (htables : ∀ e ∈ tables, Tidy depth e.2) :
    Tidy (depth + 1) (values ++ tableEntries tables)

/-! ## Changes along a path -/

namespace Tree

/-- A change along a path through another change along the path's head. -/
lemma along_append (change : Change) (path more : List String) (t : Tree) :
    t.along false change (path ++ more) =
      t.along false (fun origin entries => (Tree.table origin entries).along false change more)
        path := by
  induction path generalizing t with
  | nil => cases t <;> cases more <;> simp [along]
  | cons key path ih =>
    cases t with
    | leaf v => simp [along]
    | tables items => simp [along]
    | table origin entries =>
      simp only [List.cons_append, along, ih]

/-- Changes of a tree along a path come to a table with those entries, which `rebuild` puts back
into the tree; and so they do after a change. -/
structure Focus (t : Tree) (path : List String) (origin : Origin)
    (entries : List (String × Tree)) (rebuild : Tree → Tree) : Prop where
  /-- The next change comes to the table. -/
  here (change : Change) : t.along false change path = (change origin entries).map rebuild
  /-- A change after others comes to what they left there. -/
  after (origin : Origin) (entries : List (String × Tree)) (change : Change) :
    (rebuild (.table origin entries)).along false change path = (change origin entries).map rebuild

/-- The value of the last entry is replaced in its place. -/
lemma put_last {ν : Type} {key : String} {v w : ν} {entries : List (String × ν)}
    (h : key ∉ entries.map Prod.fst) :
    Keyed.put key v (entries ++ [(key, w)]) = entries ++ [(key, v)] := by
  induction entries with
  | nil => simp [Keyed.put]
  | cons e entries ih =>
    rw [List.map_cons, List.mem_cons, not_or] at h
    have hne : (e.1 == key) = false := by simpa using Ne.symm h.1
    simp [Keyed.put, hne, ih h.2]

/-- The last entry is found if its key was not there before. -/
lemma lookup_last {ν : Type} {key : String} {v : ν} {entries : List (String × ν)}
    (h : key ∉ entries.map Prod.fst) : (entries ++ [(key, v)]).lookup key = some v := by
  rw [List.lookup_append, Keyed.lookup_of_not_mem h]
  simp

namespace Focus

/-- Changes of a document come to the document. -/
lemma root (origin : Origin) (entries : List (String × Tree)) :
    Focus (.table origin entries) [] origin entries id where
  here change := by simp [along]
  after origin entries change := by simp [along]

variable {t : Tree} {path : List String} {origin : Origin} {entries : List (String × Tree)}
  {rebuild : Tree → Tree}

/-- After a change the path leads to what the change left. -/
lemma changed (h : Focus t path origin entries rebuild) (origin' : Origin)
    (entries' : List (String × Tree)) :
    Focus (rebuild (.table origin' entries')) path origin' entries' rebuild where
  here := h.after origin' entries'
  after := h.after

/-- The path to a table that is not there yet leads to an empty one, which the header of a table
within it made. -/
lemma child (h : Focus t path origin entries rebuild) {key : String}
    (hkey : key ∉ entries.map Prod.fst) :
    Focus t (path ++ [key]) .implied []
      (fun u => rebuild (.table origin (entries ++ [(key, u)]))) where
  here change := by
    rw [along_append, h.here]
    simp [along, Keyed.lookup_of_not_mem hkey, Keyed.put_of_not_mem hkey, Function.comp_def]
  after origin' entries' change := by
    rw [along_append, h.after]
    simp [along, lookup_last hkey, put_last hkey, Function.comp_def]

end Focus

/-- The keys of entries are those of their values. -/
lemma keys_entryValues (entries : List (String × Tree)) :
    (entryValues entries).map Prod.fst = entries.map Prod.fst := by
  induction entries with
  | nil => rfl
  | cons e entries ih => simp [entryValues, ih]

/-- The values of some entries and others behind them. -/
lemma entryValues_append (entries more : List (String × Tree)) :
    entryValues (entries ++ more) = entryValues entries ++ entryValues more := by
  induction entries with
  | nil => rfl
  | cons e entries ih => simp [entryValues, ih]

end Tree

/-! ## Tables built from their lines -/

open PluginGateway.Toml.Tree

/-- The entries with values that were assigned. -/
def leafEntries (values : List (String × Value)) : List (String × Tree) :=
  values.map fun e => (e.1, .leaf e.2)

/-- The values that were assigned. -/
lemma entryValues_leafEntries (values : List (String × Value)) :
    entryValues (leafEntries values) = values := by
  induction values with
  | nil => rfl
  | cons e values ih =>
    rw [leafEntries] at ih
    rw [leafEntries, List.map_cons, entryValues, ih, toValue]

/-- The assignments of some values. -/
def assignments (values : List (String × Value)) : List Statement :=
  values.map fun e => .assignment [e.1] e.2

/-- The table at the end of a path and a key is read and built, whatever stands beside it. -/
def Restored (path : List String) (key : String) (inner : List (String × Value)) : Prop :=
  ∃ sts, List.Forall₂ (List.Forall₂ Spells) (blocks (path ++ [key]) (.table inner)) sts ∧
    ∀ (d : Draft) (origin : Origin) (entries : List (String × Tree)) (rebuild : Tree → Tree),
      Focus d.tree path origin entries rebuild → key ∉ entries.map Prod.fst →
        ∃ u current, u.toValue = .table inner ∧
          sts.flatten.foldlM Draft.add d
            = some ⟨rebuild (.table origin (entries ++ [(key, u)])), current⟩

/-- Assigned values stand behind those that are there already. -/
lemma foldlM_assignments {t : Tree} {path : List String} {entries : List (String × Tree)}
    {rebuild : Tree → Tree} (h : Focus t path .header entries rebuild)
    {values : List (String × Value)}
    (hkeys : (entries.map Prod.fst ++ values.map Prod.fst).Nodup) :
    (assignments values).foldlM Draft.add ⟨rebuild (.table .header entries), path⟩
      = some ⟨rebuild (.table .header (entries ++ leafEntries values)), path⟩ := by
  induction values generalizing entries t with
  | nil => simp [assignments, leafEntries]
  | cons e values ih =>
    have hkey : e.1 ∉ entries.map Prod.fst := by
      intro hmem
      rw [List.nodup_append] at hkeys
      exact hkeys.2.2 _ hmem _ (by simp) rfl
    have hstep : Draft.add ⟨rebuild (.table .header entries), path⟩ (.assignment [e.1] e.2)
        = some ⟨rebuild (.table .header (entries ++ [(e.1, .leaf e.2)])), path⟩ := by
      simp [Draft.add, h.after, splitKey, assignAlong, along, assign, Keyed.lookup_of_not_mem hkey]
    have hrest := ih (h.changed .header (entries ++ [(e.1, .leaf e.2)])) (by simpa using hkeys)
    simp only [assignments, List.map_cons, List.foldlM_cons, hstep]
    simpa [assignments, leafEntries] using hrest

/-- A header makes an empty table behind those that are there already. -/
lemma add_header {d : Draft} {path : List String} {origin : Origin}
    {entries : List (String × Tree)} {rebuild : Tree → Tree}
    (h : Focus d.tree path origin entries rebuild) {key : String}
    (hkey : key ∉ entries.map Prod.fst) :
    d.add (.header (path ++ [key]))
      = some ⟨rebuild (.table origin (entries ++ [(key, .table .header [])])), path ++ [key]⟩ := by
  simp [Draft.add, splitKey, h.here, openTable, Keyed.lookup_of_not_mem hkey, emptyTable]

/-- Tables of which each is built beside others are built one after the other. -/
lemma restored_tables {path : List String} {tables : List (String × List (String × Value))}
    (h : ∀ e ∈ tables, Restored path e.1 e.2) (hkeys : (tables.map Prod.fst).Nodup) :
    ∃ sts, List.Forall₂ (List.Forall₂ Spells) (entryBlocks path (tableEntries tables)) sts ∧
      ∀ (d : Draft) (origin : Origin) (entries : List (String × Tree)) (rebuild : Tree → Tree),
        tables ≠ [] → Focus d.tree path origin entries rebuild →
        (∀ e ∈ tables, e.1 ∉ entries.map Prod.fst) →
          ∃ us current, entryValues us = tableEntries tables ∧
            sts.flatten.foldlM Draft.add d
              = some ⟨rebuild (.table origin (entries ++ us)), current⟩ := by
  induction tables with
  | nil => exact ⟨[], .nil, fun d origin entries rebuild hne => absurd rfl hne⟩
  | cons e tables ih =>
    rw [List.map_cons, List.nodup_cons] at hkeys
    obtain ⟨first, hfirst, hbuilt⟩ := h e List.mem_cons_self
    obtain ⟨sts, hsts, hrest⟩ := ih (fun f hf => h f (List.mem_cons_of_mem _ hf)) hkeys.2
    refine ⟨first ++ sts, List.rel_append hfirst hsts, ?_⟩
    intro d origin entries rebuild _ hfocus hdistinct
    obtain ⟨u, current, hu, hfold⟩ :=
      hbuilt d origin entries rebuild hfocus (hdistinct e List.mem_cons_self)
    rw [List.flatten_append, List.foldlM_append, hfold]
    cases tables with
    | nil =>
      refine ⟨[(e.1, u)], current, by simp [entryValues, tableEntries, hu], ?_⟩
      cases hsts
      rfl
    | cons f tables =>
      have hapart : ∀ g ∈ f :: tables, g.1 ∉ (entries ++ [(e.1, u)]).map Prod.fst := by
        intro g hg hmem
        rw [List.map_append, List.mem_append] at hmem
        rcases hmem with hmem | hmem
        · exact hdistinct g (List.mem_cons_of_mem _ hg) hmem
        · have heq : g.1 = e.1 := by simpa using hmem
          exact hkeys.1 (heq ▸ List.mem_map_of_mem hg)
      obtain ⟨us, current', hus, hfold'⟩ := hrest
        ⟨rebuild (.table origin (entries ++ [(e.1, u)])), current⟩ origin _ rebuild
        (List.cons_ne_nil _ _) (hfocus.changed _ _) hapart
      refine ⟨(e.1, u) :: us, current', by simp [entryValues, tableEntries, hu, hus], ?_⟩
      simpa using hfold'

/-- A simple value is no table and has no lines but the one it stands on. -/
lemma Value.Simple.blocks_eq_nil {v : Value} (h : v.Simple) (path : List String) :
    v.isTable = false ∧ blocks path v = [] := by
  cases h <;> exact ⟨rfl, by simp [blocks]⟩

/-- The lines of some values spell their assignments; tables behind the values have no part in them.
-/
lemma spells_valueLines {values : List (String × Value)} (h : ∀ e ∈ values, e.2.Simple)
    (tables : List (String × List (String × Value))) :
    List.Forall₂ Spells (valueLines (values ++ tableEntries tables)) (assignments values) := by
  have hvalues : values.filter (fun e => !e.2.isTable) = values :=
    List.filter_eq_self.mpr fun e he => by simp [((h e he).blocks_eq_nil []).1]
  have htables : (tableEntries tables).filter (fun e => !e.2.isTable) = [] := by
    refine List.filter_eq_nil_iff.mpr fun e he => ?_
    obtain ⟨f, -, rfl⟩ := List.mem_map.mp he
    simp [Value.isTable]
  rw [valueLines, List.filter_append, hvalues, htables, List.append_nil, assignments,
    List.forall₂_map_left_iff, List.forall₂_map_right_iff, List.forall₂_same]
  exact fun e he => spells_assignment e.1 (h e he)

/-- Values have no part in the blocks of the tables behind them. -/
lemma entryBlocks_append {path : List String} {values : List (String × Value)}
    (h : ∀ e ∈ values, e.2.Simple) (entries : List (String × Value)) :
    entryBlocks path (values ++ entries) = entryBlocks path entries := by
  induction values with
  | nil => rfl
  | cons e values ih =>
    rw [List.cons_append, entryBlocks, ((h e List.mem_cons_self).blocks_eq_nil _).2,
      ih fun f hf => h f (List.mem_cons_of_mem _ hf), List.nil_append]

/-- What stands below a header, or in the document in front of all headers: the values are assigned,
and the tables are built behind them. -/
lemma restored_body {path : List String} {values : List (String × Value)}
    {tables : List (String × List (String × Value))}
    (hkeys : (values.map Prod.fst ++ tables.map Prod.fst).Nodup)
    (hvalues : ∀ e ∈ values, e.2.Simple) (htables : ∀ e ∈ tables, Restored path e.1 e.2) :
    ∃ sts,
      List.Forall₂ (List.Forall₂ Spells) (entryBlocks path (values ++ tableEntries tables)) sts ∧
      ∀ (t : Tree) (rebuild : Tree → Tree), Focus t path .header [] rebuild →
        ∃ us current, entryValues us = values ++ tableEntries tables ∧
          (assignments values ++ sts.flatten).foldlM Draft.add ⟨rebuild (.table .header []), path⟩
            = some ⟨rebuild (.table .header us), current⟩ := by
  rw [entryBlocks_append hvalues]
  obtain ⟨sts, hsts, hbuilt⟩ := restored_tables htables hkeys.of_append_right
  refine ⟨sts, hsts, fun t rebuild hfocus => ?_⟩
  have hassigned := foldlM_assignments hfocus (by simpa using hkeys.of_append_left)
  rw [List.nil_append] at hassigned
  rw [List.foldlM_append, hassigned]
  by_cases hempty : tables = []
  · subst hempty
    cases hsts
    exact ⟨leafEntries values, path, by simp [entryValues_leafEntries, tableEntries], rfl⟩
  · have hapart : ∀ e ∈ tables, e.1 ∉ (leafEntries values).map Prod.fst := by
      intro e he hmem
      rw [← keys_entryValues, entryValues_leafEntries] at hmem
      exact (List.nodup_append.mp hkeys).2.2 _ hmem _ (List.mem_map_of_mem he) rfl
    obtain ⟨us, current, hus, hfold⟩ := hbuilt
      ⟨rebuild (.table .header (leafEntries values)), path⟩ .header _ rebuild hempty
      (hfocus.changed _ _) hapart
    exact ⟨leafEntries values ++ us, current, by
      rw [entryValues_append, entryValues_leafEntries, hus], hfold⟩

/-- A tidy table is read and built at the end of any path that is short enough. -/
theorem restored_of_tidy {depth : Nat} {inner : List (String × Value)} (h : Tidy depth inner)
    {path : List String} (hdepth : path.length + depth ≤ depthLimit) (key : String) :
    Restored path key inner := by
  induction h generalizing path key with
  | @intro depth values tables hkeys hvalues htables ih =>
    have hinner : ∀ e ∈ tables, Restored (path ++ [key]) e.1 e.2 := fun e he =>
      ih e he (by simp only [List.length_append, List.length_singleton]; omega) e.1
    by_cases hheader : values = [] ∧ tables ≠ []
    · -- the table has no header of its own: that of the first table within it makes it
      obtain ⟨rfl, hne⟩ := hheader
      obtain ⟨sts, hsts, hbuilt⟩ := restored_tables hinner (by simpa using hkeys)
      have hown : ownLines (path ++ [key]) (tableEntries tables) = [] := by
        simp [ownLines, tableEntries, Value.isTable, hne]
      refine ⟨[] :: sts, ?_, ?_⟩
      · rw [List.nil_append, blocks, hown]
        exact .cons .nil hsts
      · intro d origin entries rebuild hfocus hkey
        obtain ⟨us, current, hus, hfold⟩ := hbuilt d .implied [] _ hne (hfocus.child hkey)
          fun e _ => List.not_mem_nil
        exact ⟨.table .implied us, current, by rw [toValue, hus, List.nil_append], hfold⟩
    · obtain ⟨sts, hsts, hbuilt⟩ := restored_body hkeys hvalues hinner
      have hown : ownLines (path ++ [key]) (values ++ tableEntries tables)
          = writtenHeader (path ++ [key]) :: valueLines (values ++ tableEntries tables) := by
        cases values with
        | nil =>
          obtain rfl : tables = [] := by simpa using hheader
          simp [ownLines, tableEntries]
        | cons e values =>
          have hvalue := ((hvalues e List.mem_cons_self).blocks_eq_nil []).1
          simp [ownLines, hvalue]
      have hspells : Spells (writtenHeader (path ++ [key])) (.header (path ++ [key])) :=
        spells_writtenHeader (by simp) (by
          simp only [List.length_append, List.length_singleton]
          omega)
      refine ⟨(.header (path ++ [key]) :: assignments values) :: sts, ?_, ?_⟩
      · rw [blocks, hown]
        exact .cons (.cons hspells (spells_valueLines hvalues tables)) hsts
      · intro d origin entries rebuild hfocus hkey
        obtain ⟨us, current, hus, hfold⟩ := hbuilt _ _ ((hfocus.child hkey).changed .header [])
        refine ⟨.table .header us, current, by rw [toValue, hus], ?_⟩
        simpa [add_header hfocus hkey] using hfold

/-- A text without a byte order mark is the document that its statements build. -/
lemma parse?_of_statements {text : String} {sts : List Statement} {origin : Origin}
    {us : List (String × Tree)} {current : List String}
    (hhead : text.toList.head? ≠ some '\ufeff') (hlines : statements? text.toList = some sts)
    (hdraft : sts.foldlM Draft.add Draft.empty = some ⟨.table origin us, current⟩) :
    parse? text = some (entryValues us) := by
  unfold parse?
  generalize text.toList = s at hhead hlines
  cases s with
  | nil => simp [hlines, hdraft]
  | cons c rest =>
    have hne : c ≠ '\ufeff' := by simpa using hhead
    simp [hne, hlines, hdraft]

/-- A tidy document that is written is read back. -/
theorem parse?_written {depth : Nat} {entries : List (String × Value)} (h : Tidy depth entries)
    (hdepth : depth ≤ depthLimit + 1) : parse? (written entries) = some entries := by
  obtain @⟨depth, values, tables, hkeys, hvalues, htables⟩ := h
  have hinner : ∀ e ∈ tables, Restored [] e.1 e.2 := fun e he =>
    restored_of_tidy (htables e he) (by simpa using Nat.le_of_succ_le_succ hdepth) e.1
  obtain ⟨sts, hsts, hbuilt⟩ := restored_body hkeys hvalues hinner
  have hown : ownLines [] (values ++ tableEntries tables)
      = valueLines (values ++ tableEntries tables) := rfl
  have hblocks := List.Forall₂.cons (spells_valueLines hvalues tables) hsts
  rw [← hown, ← blocks] at hblocks
  have hlines := statements?_blocks hblocks
  have hhead := head?_blocks hblocks
  obtain ⟨us, current, hus, hfold⟩ := hbuilt _ _ (Focus.root .header [])
  have hdraft : (assignments values :: sts).flatten.foldlM Draft.add Draft.empty
      = some ⟨.table .header us, current⟩ := hfold
  have htext : (written (values ++ tableEntries tables)).toList
      = Text.join '\n' (((blocks [] (.table (values ++ tableEntries tables))).filter
          fun b => !b.isEmpty).map blockText) := String.toList_ofList
  rw [← htext] at hlines hhead
  rw [parse?_of_statements hhead hlines hdraft, hus]

end PluginGateway.Toml
