import Mathlib.Data.Stream.Init

/-!
# Programs of atomic actions

A program is a tree: it returns, or it performs one atomic action of a signature `Op` and goes on
with the action's response.  Between two actions other programs may run.

* `Op β` are the actions with a response in `β`; a `Semantics` says what an action does to the
  state, where the environment's part of it (whether a write succeeds, say) is an outcome in `χ`.
* `run` is the execution of a program alone, on a stream of outcomes; `run_bind` composes runs.
* `Transforms view p f` says what a program does to a part of the state, whatever the outcomes.
* `along ok` checks every action of a run; `Reaches` cuts a run in two, at the program that is left.
-/

/-- Programs over the actions `Op` that return an `α`. -/
inductive Prog (Op : Type → Type) (α : Type) : Type 1 where
  | ret (a : α)
  | call {β : Type} (op : Op β) (next : β → Prog Op α)

namespace Prog

variable {Op : Type → Type} {α β : Type}

/-- Go on with `f` where `p` returns. -/
protected def bind : Prog Op α → (α → Prog Op β) → Prog Op β
  | ret a, f => f a
  | call op next, f => call op fun b => (next b).bind f

/-- The result of a program that has returned. -/
def result? : Prog Op α → Option α
  | ret a => some a
  | call _ _ => none

instance : Monad (Prog Op) where
  pure := ret
  bind := Prog.bind

/-- The program that performs one action and returns its response. -/
def lift (op : Op β) : Prog Op β := call op ret

/-- The return of the monad. -/
@[simp] lemma pure_eq (a : α) : (pure a : Prog Op α) = ret a := rfl

/-- A program that has ended goes on with the next. -/
@[simp] lemma ret_bind (a : α) (f : α → Prog Op β) : ret a >>= f = f a := rfl

/-- A call comes first. -/
@[simp] lemma call_bind {δ : Type} (op : Op δ) (next : δ → Prog Op α) (f : α → Prog Op β) :
    call op next >>= f = call op fun b => next b >>= f := rfl

/-- A single operation comes first. -/
@[simp] lemma lift_bind (op : Op α) (f : α → Prog Op β) : lift op >>= f = call op f := rfl

/-- Nothing comes after. -/
lemma bind_ret (p : Prog Op α) : p >>= ret = p := by
  induction p with
  | ret a => rfl
  | call op next ih => exact congrArg (call op) (funext ih)

/-- Programs one after the other, in whatever grouping. -/
lemma bind_assoc {γ : Type} (p : Prog Op α) (f : α → Prog Op β) (g : β → Prog Op γ) :
    p >>= f >>= g = p >>= fun a => f a >>= g := by
  induction p with
  | ret a => rfl
  | call op next ih => exact congrArg (call op) (funext ih)

end Prog

/-- What an action does on an outcome: its response and the new state. -/
structure Semantics (Op : Type → Type) (χ σ : Type*) where
  perform : {β : Type} → Op β → χ → σ → β × σ

namespace Semantics

open Prog

variable {Op : Type → Type} {χ σ : Type*} (H : Semantics Op χ σ) {α β : Type}

/-- Run a program alone: its result, the outcomes that are left and the final state. -/
def run : Prog Op α → Stream' χ → σ → α × Stream' χ × σ
  | .ret a, outcomes, s => (a, outcomes, s)
  | .call op next, outcomes, s =>
      let out := H.perform op outcomes.head s
      run (next out.1) outcomes.tail out.2

/-- The run of a program that has ended. -/
@[simp] lemma run_ret (a : α) (outcomes : Stream' χ) (s : σ) :
    H.run (.ret a : Prog Op α) outcomes s = (a, outcomes, s) := rfl

/-- The run of a call. -/
lemma run_call {δ : Type} (op : Op δ) (next : δ → Prog Op α) (outcomes : Stream' χ) (s : σ) :
    H.run (.call op next) outcomes s =
      H.run (next (H.perform op outcomes.head s).1) outcomes.tail
        (H.perform op outcomes.head s).2 := rfl

/-- One program after the other. -/
theorem run_bind (p : Prog Op α) (f : α → Prog Op β) (outcomes : Stream' χ) (s : σ) :
    H.run (p >>= f) outcomes s =
      H.run (f (H.run p outcomes s).1) (H.run p outcomes s).2.1 (H.run p outcomes s).2.2 := by
  induction p generalizing outcomes s with
  | ret a => rfl
  | call op next ih => exact ih _ _ _

/-- A loop, by an invariant of the state and the elements that are still to come. -/
theorem run_forM {I : List β → σ → Prop} {f : β → Prog Op PUnit}
    (hstep : ∀ x xs outcomes s, I (x :: xs) s → I xs (H.run (f x) outcomes s).2.2) (xs : List β)
    (outcomes : Stream' χ) {s : σ} (hs : I xs s) : I [] (H.run (forM xs f) outcomes s).2.2 := by
  induction xs generalizing outcomes s with
  | nil => exact hs
  | cons x xs ih =>
      rw [List.forM_cons, run_bind]
      exact ih _ (hstep x xs outcomes s hs)

/-! ## The effect on a part of the state -/

/-- Alone and whatever the outcomes, the program changes the part `view` of the state by `f`. -/
def Transforms {τ : Type*} (view : σ → τ) (p : Prog Op α) (f : τ → τ) : Prop :=
  ∀ outcomes s, view (H.run p outcomes s).2.2 = f (view s)

section

variable {H} {τ : Type*} {view : σ → τ} {f g : τ → τ}

/-- A program that has ended changes no view. -/
lemma transforms_ret (a : α) : H.Transforms view (.ret a : Prog Op α) id := fun _ _ => rfl

/-- A single operation. -/
lemma transforms_lift {op : Op α} (h : ∀ c s, view (H.perform op c s).2 = f (view s)) :
    H.Transforms view (lift op) f := fun outcomes s => h outcomes.head s

/-- One program after the other. -/
lemma Transforms.bind {p : Prog Op α} {k : α → Prog Op β} (hp : H.Transforms view p f)
    (hk : ∀ a, H.Transforms view (k a) g) : H.Transforms view (p >>= k) (g ∘ f) := by
  intro outcomes s
  rw [run_bind, hk, hp]
  rfl

end

/-! ## The actions of a run -/

/-- Every action of the run meets `ok`, in the state and with the outcome it is performed with. -/
def along (ok : {β : Type} → Op β → χ → σ → Bool) : Prog Op α → Stream' χ → σ → Bool
  | .ret _, _, _ => true
  | .call op next, outcomes, s =>
      let out := H.perform op outcomes.head s
      ok op outcomes.head s && along ok (next out.1) outcomes.tail out.2

/-- After some actions of a run, the second program is left. -/
inductive Reaches : Prog Op α → Stream' χ → σ → Prog Op α → Stream' χ → σ → Prop
  | refl (p : Prog Op α) (outcomes : Stream' χ) (s : σ) : Reaches p outcomes s p outcomes s
  | call {δ : Type} {op : Op δ} {next : δ → Prog Op α} {q : Prog Op α} {outcomes outcomes' : Stream' χ}
      {s s' : σ} (h : Reaches (next (H.perform op outcomes.head s).1) outcomes.tail
        (H.perform op outcomes.head s).2 q outcomes' s') :
      Reaches (.call op next) outcomes s q outcomes' s'

section

variable {H} {ok : {β : Type} → Op β → χ → σ → Bool} {p q : Prog Op α} {outcomes outcomes' : Stream' χ}
  {s s' : σ}

/-- A condition along a call. -/
lemma along_call {δ : Type} {op : Op δ} {next : δ → Prog Op α} :
    H.along ok (.call op next) outcomes s = true ↔ ok op outcomes.head s = true ∧
      H.along ok (next (H.perform op outcomes.head s).1) outcomes.tail
        (H.perform op outcomes.head s).2 = true := by
  rw [along, Bool.and_eq_true]

/-- The actions of one program after the other. -/
theorem along_bind (p : Prog Op α) (f : α → Prog Op β) (outcomes : Stream' χ) (s : σ) :
    H.along ok (p >>= f) outcomes s = true ↔ H.along ok p outcomes s = true ∧
      H.along ok (f (H.run p outcomes s).1) (H.run p outcomes s).2.1 (H.run p outcomes s).2.2
        = true := by
  induction p generalizing outcomes s with
  | ret a => simp [along]
  | call op next ih =>
      rw [call_bind, along_call, along_call, ih, and_assoc]
      rfl

/-- A loop whose actions meet `ok`, by an invariant. -/
theorem run_forM_along {I : List β → σ → Prop} {f : β → Prog Op PUnit}
    (hstep : ∀ x xs outcomes s, H.along ok (f x) outcomes s = true → I (x :: xs) s →
      I xs (H.run (f x) outcomes s).2.2) (xs : List β) (outcomes : Stream' χ) {s : σ}
    (hok : H.along ok (forM xs f) outcomes s = true) (hs : I xs s) :
    I [] (H.run (forM xs f) outcomes s).2.2 := by
  induction xs generalizing outcomes s with
  | nil => exact hs
  | cons x xs ih =>
      rw [List.forM_cons, along_bind] at hok
      rw [List.forM_cons, run_bind]
      exact ih _ hok.2 (hstep x xs outcomes s hok.1 hs)

/-- Outcomes that meet `ok` exist if every action can meet it. -/
theorem exists_along [Inhabited χ] (hok : ∀ {β : Type} (op : Op β) (s : σ), ∃ c, ok op c s = true)
    (p : Prog Op α) (s : σ) : ∃ outcomes, H.along ok p outcomes s = true := by
  induction p generalizing s with
  | ret a => exact ⟨.const default, rfl⟩
  | call op next ih =>
      obtain ⟨c, hc⟩ := hok op s
      obtain ⟨outcomes, hrest⟩ := ih (H.perform op c s).1 (H.perform op c s).2
      refine ⟨outcomes.cons c, ?_⟩
      rw [along_call]
      exact ⟨hc, hrest⟩

/-- What is reached ends as the whole does. -/
lemma Reaches.run_eq (h : H.Reaches p outcomes s q outcomes' s') :
    H.run p outcomes s = H.run q outcomes' s' := by
  induction h with
  | refl p outcomes s => rfl
  | call h ih => exact ih

/-- A condition along the whole holds along what is reached. -/
lemma Reaches.along (h : H.Reaches p outcomes s q outcomes' s')
    (hok : H.along ok p outcomes s = true) : H.along ok q outcomes' s' = true := by
  induction h with
  | refl p outcomes s => exact hok
  | call h ih => exact ih (along_call.mp hok).2

/-- What is reached in the first of two programs. -/
lemma Reaches.bind (h : H.Reaches p outcomes s q outcomes' s') (f : α → Prog Op β) :
    H.Reaches (p >>= f) outcomes s (q >>= f) outcomes' s' := by
  induction h with
  | refl p outcomes s => exact .refl _ _ _
  | call h ih => exact .call ih

end

end Semantics
