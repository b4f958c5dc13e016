/-!
# Programs that ask

A `Program` is a computation that asks its surroundings one operation after the other and goes on
with each answer. It does nothing itself: `run` lets a handler with a state give the answers, so the
same program can be carried out against a network, rehearsed against prepared answers, or taken
apart step by step when several of them run side by side.

`bind` continues a program with another one, `expand` replaces each operation by a program for it,
and `embed` takes a program over to a larger set of operations. The lemmas say what a run does with
each.
-/

namespace PluginGateway

/-- A computation that asks operations and goes on with their answers. -/
inductive Program (Op : Type) (Answer : Op → Type) (α : Type) where
  /-- The computation is over with a result. -/
  | done (a : α)
  /-- Ask an operation and go on with its answer. -/
  | ask (op : Op) (next : Answer op → Program Op Answer α)

namespace Program

variable {Op Op' : Type} {Answer : Op → Type} {Answer' : Op' → Type} {α β σ : Type}

/-- The first program, then the second one with the first one's result. -/
def bind : Program Op Answer α → (α → Program Op Answer β) → Program Op Answer β
  | done a, f => f a
  | ask op next, f => ask op fun r => (next r).bind f

instance : Monad (Program Op Answer) where
  pure := done
  bind := bind

/-- One operation, with its answer as the result. -/
def perform (op : Op) : Program Op Answer (Answer op) := ask op done

/-- Each operation replaced by a program that finds its answer. -/
def expand (f : (op : Op) → Program Op' Answer' (Answer op)) :
    Program Op Answer α → Program Op' Answer' α
  | done a => done a
  | ask op next => (f op).bind fun r => expand f (next r)

/-- The program among the operations of a larger set. -/
def embed (f : Op → Op') (back : (op : Op) → Answer' (f op) → Answer op) :
    Program Op Answer α → Program Op' Answer' α
  | done a => done a
  | ask op next => ask (f op) fun r => embed f back (next (back op r))

/-- The program carried out: the handler answers each operation and changes its state. -/
def run (handle : (op : Op) → σ → Answer op × σ) : Program Op Answer α → σ → α × σ
  | done a, s => (a, s)
  | ask op next, s => run handle (next (handle op s).1) (handle op s).2

instance : LawfulMonad (Program Op Answer) := by
  refine LawfulMonad.mk' _ ?_ ?_ ?_
  · intro α x
    show bind x done = x
    induction x with
    | done a => rfl
    | ask op next ih => simp only [bind, ih]
  · intro α β a f
    rfl
  · intro α β γ x f g
    show bind (bind x f) g = bind x fun a => bind (f a) g
    induction x with
    | done a => rfl
    | ask op next ih => simp only [bind, ih]

variable {handle : (op : Op) → σ → Answer op × σ}

@[simp] theorem pure_eq (a : α) : (pure a : Program Op Answer α) = done a := rfl

@[simp] theorem bind_eq (x : Program Op Answer α) (f : α → Program Op Answer β) :
    (x >>= f) = x.bind f := rfl

@[simp] theorem run_done (a : α) (s : σ) : (done a : Program Op Answer α).run handle s = (a, s) :=
  rfl

@[simp] theorem run_perform (op : Op) (s : σ) :
    (perform op : Program Op Answer (Answer op)).run handle s = handle op s := rfl

/-- A run of one program after the other is a run of the first and then one of the second, from
where the first one ended. -/
@[simp] theorem run_bind (x : Program Op Answer α) (f : α → Program Op Answer β) (s : σ) :
    (x.bind f).run handle s = (f (x.run handle s).1).run handle (x.run handle s).2 := by
  induction x generalizing s with
  | done a => rfl
  | ask op next ih => exact ih _ _

/-- A run of an embedded program is a run of the program, each operation answered as the larger
set's handler answers it. -/
theorem run_embed {f : Op → Op'} {back : (op : Op) → Answer' (f op) → Answer op}
    {handle' : (op : Op') → σ → Answer' op × σ} (x : Program Op Answer α) (s : σ) :
    (x.embed f back).run handle' s =
      x.run (fun op s => (back op (handle' (f op) s).1, (handle' (f op) s).2)) s := by
  induction x generalizing s with
  | done a => rfl
  | ask op next ih => exact ih _ _

/-- A run of an expanded program is a run of the program in which each operation is answered by a
run of its replacement. -/
theorem run_expand {f : (op : Op) → Program Op' Answer' (Answer op)}
    {handle' : (op : Op') → σ → Answer' op × σ} (x : Program Op Answer α) (s : σ) :
    (x.expand f).run handle' s = x.run (fun op s => (f op).run handle' s) s := by
  induction x generalizing s with
  | done a => rfl
  | ask op next ih =>
    rw [expand, run_bind]
    exact ih _ _

/-- What every answer keeps, a run keeps. -/
theorem run_invariant {P : σ → Prop} (h : ∀ op s, P s → P (handle op s).2)
    (x : Program Op Answer α) {s : σ} (hs : P s) : P (x.run handle s).2 := by
  induction x generalizing s with
  | done a => exact hs
  | ask op next ih => exact ih _ (h op s hs)

end Program

end PluginGateway
