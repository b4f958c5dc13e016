import Mathlib.Data.List.Basic

/-!
# Steps that may fail

A step that may fail has a result or an error. The lemmas say when steps one behind the other
succeed, what is left of a result or an error that is changed, and what the results of going through
a list are: `mapM_eq_ok_iff` says that each is the result of its element, so nothing depends on the
order in which the elements come.
-/

namespace PluginGateway

/-! ## Single steps -/

section Steps

variable {ε ε' α β : Type} {x : Except ε α}

/-- Two steps succeed exactly if the first one does, and the second one with what it gave. -/
lemma bind_eq_ok_iff {f : α → Except ε β} {b : β} :
    x >>= f = .ok b ↔ ∃ a, x = .ok a ∧ f a = .ok b := by
  cases x <;> simp [bind, Except.bind]

/-- A step whose result is changed succeeds as the step does. -/
lemma map_eq_ok_iff {f : α → β} {b : β} : x.map f = .ok b ↔ ∃ a, x = .ok a ∧ f a = b := by
  cases x <;> simp [Except.map]

/-- A step whose error is replaced succeeds as the step does. -/
lemma mapError_eq_ok_iff {f : ε → ε'} {a : α} : x.mapError f = .ok a ↔ x = .ok a := by
  cases x <;> simp [Except.mapError]

/-- A step whose error is replaced fails as the step does. -/
lemma mapError_eq_error_iff {f : ε → ε'} {e' : ε'} :
    x.mapError f = .error e' ↔ ∃ e, x = .error e ∧ f e = e' := by
  cases x <;> simp [Except.mapError]

end Steps

/-! ## Going through a list -/

section Lists

variable {ι α κ ε : Type} {f : ι → Except ε α} {xs : List ι} {ys : List α}

/-- The results of going through a list are these exactly if each of them is that of its element. -/
lemma mapM_eq_ok_iff : xs.mapM f = .ok ys ↔ xs.map f = ys.map .ok := by
  induction xs generalizing ys with
  | nil =>
    have hnil : ([] : List ι).mapM f = .ok [] := rfl
    rw [hnil]
    cases ys <;> simp
  | cons x xs ih =>
    rw [List.mapM_cons]
    simp only [bind_eq_ok_iff, pure, Except.pure, Except.ok.injEq]
    constructor
    · rintro ⟨z, hz, zs, hzs, rfl⟩
      rw [List.map_cons, List.map_cons, hz, ih.mp hzs]
    · intro h
      cases ys with
      | nil => cases h
      | cons z zs =>
        obtain ⟨hz, hzs⟩ := List.cons.inj h
        exact ⟨z, hz, zs, ih.mpr hzs, rfl⟩

/-- There are results exactly if there is one for each element. -/
lemma exists_map_eq_iff : (∃ ys : List α, xs.map f = ys.map .ok) ↔ ∀ x ∈ xs, ∃ y, f x = .ok y := by
  induction xs with
  | nil => exact ⟨fun _ => List.forall_mem_nil _, fun _ => ⟨[], rfl⟩⟩
  | cons x xs ih =>
    rw [List.forall_mem_cons, ← ih]
    constructor
    · rintro ⟨ys, hys⟩
      cases ys with
      | nil => cases hys
      | cons y ys =>
        obtain ⟨hy, hys⟩ := List.cons.inj hys
        exact ⟨⟨y, hy⟩, ys, hys⟩
    · rintro ⟨⟨y, hy⟩, ys, hys⟩
      exact ⟨y :: ys, by rw [List.map_cons, List.map_cons, hy, hys]⟩

/-- The results are those of the elements. -/
lemma mem_iff_of_map_eq (h : xs.map f = ys.map .ok) {y : α} : y ∈ ys ↔ ∃ x ∈ xs, f x = .ok y := by
  have hmem : .ok y ∈ xs.map f ↔ y ∈ ys := by
    rw [h, List.mem_map]
    constructor
    · rintro ⟨y', hy', heq⟩
      exact Except.ok.inj heq ▸ hy'
    · intro hy
      exact ⟨y, hy, rfl⟩
  rw [← hmem, List.mem_map]

/-- If a result is named as its element is, the names come in the same order. -/
lemma map_name_eq {name : ι → κ} {key : α → κ} (hkey : ∀ x y, f x = .ok y → key y = name x)
    (h : xs.map f = ys.map .ok) : ys.map key = xs.map name := by
  induction xs generalizing ys with
  | nil =>
    obtain rfl := List.map_eq_nil_iff.mp h.symm
    rfl
  | cons x xs ih =>
    cases ys with
    | nil => cases h
    | cons y ys =>
      obtain ⟨hy, hys⟩ := List.cons.inj h
      rw [List.map_cons, List.map_cons, hkey x y hy, ih hys]

/-- Results put under their names, one for each entry of a list, are found where the names lead. -/
lemma mem_named_iff {ν : Type} {f : κ → Except ε α} {key : α → κ} {entries : List (κ × ν)}
    (h : entries.map (fun e => f e.1) = ys.map .ok)
    (hkey : ∀ k y, f k = .ok y → key y = k ∧ ∃ entry, (k, entry) ∈ entries) {k : κ} {y : α} :
    (k, y) ∈ ys.map (fun y => (key y, y)) ↔ f k = .ok y := by
  have hmem : (k, y) ∈ ys.map (fun y => (key y, y)) ↔ y ∈ ys ∧ key y = k := by
    simp only [List.mem_map, Prod.mk.injEq]
    constructor
    · rintro ⟨y', hy', rfl, rfl⟩
      exact ⟨hy', rfl⟩
    · rintro ⟨hy', rfl⟩
      exact ⟨y, hy', rfl, rfl⟩
  rw [hmem, mem_iff_of_map_eq h]
  constructor
  · rintro ⟨⟨e, -, he⟩, rfl⟩
    rw [(hkey _ _ he).1]
    exact he
  · intro hy
    obtain ⟨hname, entry, hentry⟩ := hkey k y hy
    exact ⟨⟨(k, entry), hentry, hy⟩, hname⟩

end Lists

end PluginGateway
