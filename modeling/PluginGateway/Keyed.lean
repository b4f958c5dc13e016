/-!
# Entries by key

A list of pairs in which a key stands for the value it is paired with. `put` keeps the place of a
key that is there already and adds a new key at the end, so a list built by `put` names each key
once, in the order in which the keys first came. Entries are found by `List.lookup`, and the lemmas
say what it finds after `put`, and that it does not depend on the order of entries whose keys are
apart.
-/

namespace PluginGateway.Keyed

variable {κ ν : Type} [BEq κ]

/-- The entries with `value` under `key`: in the key's place if it is there, at the end otherwise.
-/
def put (key : κ) (value : ν) : List (κ × ν) → List (κ × ν)
  | [] => [(key, value)]
  | (k, v) :: rest => if k == key then (k, value) :: rest else (k, v) :: put key value rest

/-- The entries put one by one from a list of pairs. -/
def ofPairs (pairs : List (κ × ν)) : List (κ × ν) := pairs.foldl (fun es p => put p.1 p.2 es) []

variable [LawfulBEq κ]

/-- An entry just put is found under its key. -/
theorem lookup_put_self (key : κ) (value : ν) (entries : List (κ × ν)) :
    (put key value entries).lookup key = some value := by
  induction entries with
  | nil => simp [put]
  | cons e rest ih =>
    obtain ⟨k, v⟩ := e
    by_cases h : k = key
    · simp [put, h]
    · have h' : (key == k) = false := by simpa using Ne.symm h
      simp [put, h, List.lookup_cons, h', ih]

/-- Putting an entry changes no other key. -/
theorem lookup_put_of_ne {key other : κ} (h : other ≠ key) (value : ν) (entries : List (κ × ν)) :
    (put key value entries).lookup other = entries.lookup other := by
  induction entries with
  | nil =>
    have h' : (other == key) = false := by simpa using h
    simp [put, List.lookup_cons, h']
  | cons e rest ih =>
    obtain ⟨k, v⟩ := e
    by_cases hk : k = key
    · subst hk
      have h' : (other == k) = false := by simpa using h
      simp [put, List.lookup_cons, h']
    · by_cases ho : other = k
      · simp [put, hk, ho]
      · have ho' : (other == k) = false := by simpa using ho
        simp [put, hk, List.lookup_cons, ho', ih]

/-- After a put the entries are some of those before it, and the entry put. -/
theorem mem_of_mem_put {key : κ} {value : ν} {entries : List (κ × ν)} {entry : κ × ν}
    (h : entry ∈ put key value entries) : entry = (key, value) ∨ entry ∈ entries := by
  induction entries with
  | nil => exact .inl (List.mem_singleton.1 h)
  | cons e rest ih =>
    obtain ⟨k, v⟩ := e
    rw [put] at h
    split at h
    · next hk =>
      obtain rfl : k = key := eq_of_beq hk
      exact (List.mem_cons.1 h).imp_right (List.mem_cons_of_mem _)
    · rcases List.mem_cons.1 h with rfl | h
      · exact .inr List.mem_cons_self
      · exact (ih h).imp_right (List.mem_cons_of_mem _)

/-- A key that no entry has is not found. -/
theorem lookup_of_not_mem {key : κ} {entries : List (κ × ν)} (h : key ∉ entries.map Prod.fst) :
    entries.lookup key = none := by
  rw [List.lookup_eq_none_iff]
  intro e he
  simp only [bne_iff_ne, ne_eq]
  rintro rfl
  exact h (List.mem_map_of_mem he)

/-- Among entries whose keys are apart, what is found under a key is what an entry pairs with it. -/
theorem lookup_eq_some_iff {entries : List (κ × ν)} (hkeys : (entries.map Prod.fst).Nodup)
    {key : κ} {value : ν} : entries.lookup key = some value ↔ (key, value) ∈ entries := by
  induction entries with
  | nil => simp
  | cons e entries ih =>
    obtain ⟨k, v⟩ := e
    rw [List.map_cons, List.nodup_cons] at hkeys
    by_cases hk : key = k
    · subst hk
      have hrest : (key, value) ∉ entries := fun h =>
        hkeys.1 (List.mem_map.mpr ⟨_, h, rfl⟩)
      simp [hrest, eq_comm]
    · have hne : (key == k) = false := by simpa using hk
      simp [List.lookup_cons, hne, hk, ih hkeys.2]

/-- Among entries whose keys are apart, no key is paired with two values. -/
theorem eq_of_mem {entries : List (κ × ν)} (hkeys : (entries.map Prod.fst).Nodup) {key : κ}
    {value value' : ν} (h : (key, value) ∈ entries) (h' : (key, value') ∈ entries) :
    value = value' := by
  have hfound := (lookup_eq_some_iff hkeys).2 h
  rw [(lookup_eq_some_iff hkeys).2 h'] at hfound
  exact (Option.some.inj hfound).symm

/-- An entry with a new key is put behind the others. -/
theorem put_of_not_mem {key : κ} {value : ν} {entries : List (κ × ν)}
    (h : key ∉ entries.map Prod.fst) : put key value entries = entries ++ [(key, value)] := by
  induction entries with
  | nil => rfl
  | cons e entries ih =>
    rw [List.map_cons, List.mem_cons, not_or] at h
    have hne : (e.1 == key) = false := by simpa using Ne.symm h.1
    simp [put, hne, ih h.2]

/-- Values whose keys are apart and new are put behind the entries that are there. -/
theorem foldl_put_of_nodup {key : ν → κ} {values : List ν} {entries : List (κ × ν)}
    (hkeys : (entries.map Prod.fst ++ values.map key).Nodup) :
    values.foldl (fun es v => put (key v) v es) entries =
      entries ++ values.map fun v => (key v, v) := by
  induction values generalizing entries with
  | nil => simp
  | cons v values ih =>
    have hnew : key v ∉ entries.map Prod.fst := fun hmem =>
      (List.nodup_append.1 hkeys).2.2 _ hmem _ List.mem_cons_self rfl
    have hput : put (key v) v entries = entries ++ [(key v, v)] := put_of_not_mem hnew
    rw [List.foldl_cons, hput, ih (by simpa using hkeys), List.append_assoc]
    rfl

/-- An entry with a key that is there already leaves the keys as they are. -/
theorem keys_put_of_mem {key : κ} {value : ν} {entries : List (κ × ν)}
    (h : key ∈ entries.map Prod.fst) :
    (put key value entries).map Prod.fst = entries.map Prod.fst := by
  induction entries with
  | nil => simp at h
  | cons e entries ih =>
    obtain ⟨k, v⟩ := e
    by_cases hk : k = key
    · simp [put, hk]
    · have hk' : (k == key) = false := by simpa using hk
      have hrest : key ∈ entries.map Prod.fst :=
        (List.mem_cons.1 h).resolve_left (Ne.symm hk)
      simp [put, hk', ih hrest]

/-- What is found among entries whose keys are apart does not depend on their order. -/
theorem lookup_eq_of_perm {entries entries' : List (κ × ν)} (hperm : entries.Perm entries')
    (hkeys : (entries.map Prod.fst).Nodup) (key : κ) :
    entries.lookup key = entries'.lookup key := by
  induction hperm with
  | nil => rfl
  | cons e _ ih =>
    obtain ⟨k, v⟩ := e
    rw [List.map_cons, List.nodup_cons] at hkeys
    simp only [List.lookup_cons, ih hkeys.2]
  | swap e f entries =>
    obtain ⟨k, v⟩ := e
    obtain ⟨k', v'⟩ := f
    have hne : k' ≠ k := by
      rintro rfl
      simp at hkeys
    by_cases hk : key = k
    · subst hk
      have hother : (key == k') = false := by simpa using Ne.symm hne
      simp [List.lookup_cons, hother]
    · have hother : (key == k) = false := by simpa using hk
      simp [List.lookup_cons, hother]
  | trans hfirst _ ih ih' =>
    exact (ih hkeys).trans (ih' ((hfirst.map Prod.fst).nodup_iff.mp hkeys))

end PluginGateway.Keyed
