import Mathlib.Tactic.Common
import PluginGateway.Program

/-!
# Histories of runs

A run of a program is seen from outside as the operations that were asked for, in order, each with
the answer that it got: the `history` of the run. The history of one program after another is the
history of the first, followed by that of the second from where the first one ended
(`history_bind`), and a program embedded into a larger set of operations has the same history among
them (`history_embed`).
-/

namespace PluginGateway.Program

variable {Op Op' : Type} {Answer : Op → Type} {Answer' : Op' → Type} {α β σ : Type}

/-- An operation with the answer that it got. -/
abbrev Event (Op : Type) (Answer : Op → Type) : Type := (op : Op) × Answer op

/-- What a run asks for, in order, and the answers that it gets. -/
def history (handle : (op : Op) → σ → Answer op × σ) :
    Program Op Answer α → σ → List (Event Op Answer)
  | done _, _ => []
  | ask op next, s =>
    ⟨op, (handle op s).1⟩ :: history handle (next (handle op s).1) (handle op s).2

variable {handle : (op : Op) → σ → Answer op × σ}

/-- A program that is over asks for nothing. -/
@[simp] lemma history_done (a : α) (s : σ) :
    (done a : Program Op Answer α).history handle s = [] := rfl

/-- A single operation is asked for once. -/
@[simp] lemma history_perform (op : Op) (s : σ) :
    (perform op : Program Op Answer (Answer op)).history handle s = [⟨op, (handle op s).1⟩] := rfl

/-- The history of one program after the other. -/
@[simp] lemma history_bind (x : Program Op Answer α) (f : α → Program Op Answer β) (s : σ) :
    (x.bind f).history handle s =
      x.history handle s ++ (f (x.run handle s).1).history handle (x.run handle s).2 := by
  induction x generalizing s with
  | done a => rfl
  | ask op next ih =>
    have h := ih (handle op s).1 (handle op s).2
    exact congrArg (List.cons (⟨op, (handle op s).1⟩ : Event Op Answer)) h

/-- Three programs one after another can be put together from either end. -/
lemma bind_bind {γ : Type} (x : Program Op Answer α) (f : α → Program Op Answer β)
    (g : β → Program Op Answer γ) : (x.bind f).bind g = x.bind fun a => (f a).bind g :=
  bind_assoc (m := Program Op Answer) x f g

/-- An event among the operations of a larger set that answers them alike. -/
def Event.lift (f : Op → Op') (forth : (op : Op) → Answer op → Answer' (f op))
    (e : Event Op Answer) : Event Op' Answer' := ⟨f e.1, forth e.1 e.2⟩

/-- The history of an embedded program is that of the program, event by event. -/
lemma history_embed {f : Op → Op'} {back : (op : Op) → Answer' (f op) → Answer op}
    {forth : (op : Op) → Answer op → Answer' (f op)} (hforth : ∀ op r, forth op (back op r) = r)
    {handle' : (op : Op') → σ → Answer' op × σ} (x : Program Op Answer α) (s : σ) :
    (x.embed f back).history handle' s =
      (x.history (fun op s => (back op (handle' (f op) s).1, (handle' (f op) s).2)) s).map
        (Event.lift f forth) := by
  induction x generalizing s with
  | done a => rfl
  | ask op next ih =>
    have hhead : (⟨f op, (handle' (f op) s).1⟩ : Event Op' Answer') =
        Event.lift f forth ⟨op, back op (handle' (f op) s).1⟩ := by
      rw [Event.lift, hforth]
    exact congrArg₂ List.cons hhead (ih _ _)

/-- Embedding the parts of a program embeds the program. -/
lemma embed_bind {f : Op → Op'} {back : (op : Op) → Answer' (f op) → Answer op}
    (x : Program Op Answer α) (g : α → Program Op Answer β) :
    (x.bind g).embed f back = (x.embed f back).bind fun a => (g a).embed f back := by
  induction x with
  | done a => rfl
  | ask op next ih =>
    show ask (f op) _ = ask (f op) _
    exact congrArg _ (funext fun r => ih (back op r))

end PluginGateway.Program
