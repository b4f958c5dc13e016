import PluginGateway.Proofs.OrderedSettings
import PluginGateway.Proofs.Results

/-!
# Fields of records in tables

A record is taken from a table by the names of its fields, and refused if one of them is at fault
(`Source.check_eq_ok_iff`). An entry placed in a table is the field of its name, and leaves the
other fields as they were; placed in a table of values, it changes the value under its key and
nothing else (`entries_place`).
-/

namespace PluginGateway

open Setting

/-- The entries with the one of a key changed. -/
def Keyed.modify {ν : Type} (key : String) (f : ν → ν) (entries : List (String × ν)) :
    List (String × ν) := entries.map fun e => if e.1 = key then (e.1, f e.2) else e

/-- Where no entry has the key, nothing is changed. -/
lemma Keyed.modify_of_not_mem {ν : Type} {key : String} {f : ν → ν} {entries : List (String × ν)}
    (h : key ∉ entries.map Prod.fst) : Keyed.modify key f entries = entries := by
  refine (List.map_congr_left fun e he => ?_).trans (List.map_id' entries)
  rw [if_neg]
  rintro rfl
  exact h (List.mem_map_of_mem he)

namespace Extract

variable {α : Type} {x : Extract α}

namespace Source

/-- A record in a table is refused exactly if one of its fields is at fault. -/
lemma check_eq_ok_iff {entries : List (String × Setting)} {faults : List (Option LocatedFault)}
    {u : Unit} : (named entries).check faults = .ok u ↔ ∀ f ∈ faults, f = none := by
  have hfirst (fs : List LocatedFault) : (named entries).first fs = none ↔ fs = [] := by
    -- once a fault counts, another one can only take its place
    have hsome {step : Option LocatedFault → LocatedFault → Option LocatedFault}
        (hstep : ∀ f g, ∃ f', step (some f) g = some f') (fs : List LocatedFault)
        (f : LocatedFault) : fs.foldl step (some f) ≠ none := by
      induction fs generalizing f with
      | nil => exact Option.some_ne_none f
      | cons g fs ih =>
        obtain ⟨f', hf'⟩ := hstep f g
        rw [List.foldl_cons, hf']
        exact ih f'
    cases fs with
    | nil => exact iff_of_true rfl rfl
    | cons f fs =>
      refine iff_of_false (hsome (fun f g => ?_) fs f) (List.cons_ne_nil f fs)
      dsimp only
      split
      · exact ⟨g, rfl⟩
      · exact ⟨f, rfl⟩
  have hnone : faults.filterMap id = [] ↔ ∀ f ∈ faults, f = none := by
    rw [List.filterMap_eq_nil_iff]
    rfl
  rw [← hnone, ← hfirst, check]
  cases (named entries).first (faults.filterMap id) <;> simp

/-- No fault was found exactly if there is a value. -/
lemma faultOf_eq_none_iff {r : Except LocatedFault α} : faultOf r = none ↔ ∃ a, r = .ok a := by
  cases r <;> simp [faultOf]

/-- A field that must be there is there exactly if it was found. -/
lemma required_eq_ok_iff {source : Source} {shape : RecordShape} {place : Nat} {name : String}
    {a? : Option α} {a : α} : source.required shape place name a? = .ok a ↔ a? = some a := by
  cases a? <;> simp [required]

/-- A field that may be left out of a table is empty if it is. -/
lemma spared_named {entries : List (String × Setting)} {shape : RecordShape} {place : Nat}
    {name : String} {a? : Option (Option α)} :
    (named entries).spared shape place name a? = .ok (a?.getD none) := by
  cases a? <;> rfl

/-- A field that was found is the value of a setting. -/
lemma exists_of_field {entries : List (String × Setting)} {place : Nat} {name : String} {a : α}
    (h : (named entries).field place name x = .ok (some a)) :
    ∃ s, entries.lookup name = some s ∧ x s = .ok a := by
  unfold field at h
  dsimp only at h
  split at h
  · next s hs =>
    obtain ⟨a', ha', heq⟩ := map_eq_ok_iff.mp h
    cases heq
    exact ⟨s, hs, mapError_eq_ok_iff.mp ha'⟩
  · cases h

/-- A field is found in the entry placed under its name. -/
lemma field_place_self {entries : List (String × Setting)} {s : Setting} {a : α} {name : String}
    (h : x s = .ok a) (place : Nat) :
    (named (Setting.place name s entries)).field place name x = .ok (some a) :=
  field_of_lookup x (by rw [lookup_place, if_pos rfl]) h place

/-- A field is found as before if another entry is placed. -/
lemma field_place_of_ne {entries : List (String × Setting)} {name other : String}
    (h : other ≠ name) (s : Setting) (place : Nat) :
    (named (Setting.place name s entries)).field place other x =
      (named entries).field place other x := by
  simp only [field, lookup_place, if_neg h]

end Source

/-- A record is found in a table or in a list. -/
lemma record_eq_ok {shape : RecordShape} {f : Source → Except LocatedFault α} {s : Setting} {a : α}
    (h : record shape f s = .ok a) :
    (∃ entries, s = .table entries) ∨ ∃ items, s = .list items := by
  cases s with
  | table entries => exact .inl ⟨entries, rfl⟩
  | list items => exact .inr ⟨items, rfl⟩
  | _ => cases h

/-- The values of the entries of a table are those of the single entries. -/
lemma entries_eq_ok_iff {entries : List (String × Setting)} {values : List (String × α)} :
    Extract.entries x entries = .ok values ↔ List.Forall₂ (Gives x) entries values := by
  refine ⟨fun h => ?_, entries_of_gives⟩
  induction entries generalizing values with
  | nil =>
    obtain rfl := Except.ok.inj h
    exact .nil
  | cons e entries ih =>
    obtain ⟨key, s⟩ := e
    rw [Extract.entries] at h
    cases hs : x s with
    | error f =>
      rw [hs] at h
      cases h
    | ok a =>
      rw [hs] at h
      obtain ⟨values, hvalues, rfl⟩ := map_eq_ok_iff.mp h
      exact .cons ⟨rfl, hs⟩ (ih hvalues)

/-- Values stand under the keys of their entries. -/
lemma keys_of_gives {entries : List (String × Setting)} {values : List (String × α)}
    (h : List.Forall₂ (Gives x) entries values) : values.map Prod.fst = entries.map Prod.fst := by
  induction h with
  | nil => rfl
  | cons hhead _ ih => rw [List.map_cons, List.map_cons, ih, hhead.1]

/-- A value is that of an entry under the same key. -/
lemma exists_of_mem_gives {entries : List (String × Setting)} {values : List (String × α)}
    (h : List.Forall₂ (Gives x) entries values) {key : String} {a : α} (hmem : (key, a) ∈ values) :
    ∃ s, (key, s) ∈ entries ∧ x s = .ok a := by
  induction h with
  | nil => cases hmem
  | @cons e v entries values hhead _ ih =>
    rcases List.mem_cons.mp hmem with rfl | hmem
    · obtain ⟨k, s⟩ := e
      obtain ⟨rfl, hs⟩ := hhead
      exact ⟨s, List.mem_cons_self, hs⟩
    · obtain ⟨s, hs, ha⟩ := ih hmem
      exact ⟨s, List.mem_cons_of_mem _ hs, ha⟩

/-- With another setting in the place of an entry, the values are those before with that of the
entry changed. -/
lemma entries_place {entries : List (String × Setting)} (hkeys : Rising entries)
    {values : List (String × α)} (h : Extract.entries x entries = .ok values) {key : String}
    {s t : Setting} {a : α} {f : α → α} (hlookup : entries.lookup key = some t)
    (ht : x t = .ok a) (hs : x s = .ok (f a)) :
    Extract.entries x (Setting.place key s entries) = .ok (Keyed.modify key f values) := by
  rw [entries_eq_ok_iff] at h ⊢
  induction h with
  | nil => cases hlookup
  | @cons e v entries values hhead hrest ih =>
    obtain ⟨k, u⟩ := e
    obtain ⟨k', b⟩ := v
    obtain ⟨rfl, hb⟩ := hhead
    obtain ⟨hfirst, hkeys⟩ := List.pairwise_cons.mp hkeys
    by_cases hk : key = k
    · subst hk
      have hnew : key ∉ values.map Prod.fst := by
        rw [keys_of_gives hrest]
        exact fun hmem => (hfirst key hmem).ne rfl
      obtain rfl : u = t := by simpa using hlookup
      obtain rfl : b = a := Except.ok.inj (hb.symm.trans ht)
      rw [Setting.place, if_neg (lt_irrefl key), if_pos rfl, Keyed.modify, List.map_cons,
        if_pos rfl]
      rw [← Keyed.modify, Keyed.modify_of_not_mem hnew]
      exact .cons ⟨rfl, hs⟩ hrest
    · have hrestLookup : entries.lookup key = some t := by
        have hne : (key == k) = false := by simpa using hk
        simpa [List.lookup_cons, hne] using hlookup
      have hmem : key ∈ entries.map Prod.fst :=
        List.mem_map_of_mem ((Keyed.lookup_eq_some_iff (Rising.nodup hkeys)).mp hrestLookup)
      rw [Setting.place, if_neg (hfirst key hmem).not_gt, if_neg hk, Keyed.modify, List.map_cons,
        if_neg (Ne.symm hk)]
      exact .cons ⟨rfl, hb⟩ (ih hkeys hrestLookup)

end Extract

end PluginGateway
