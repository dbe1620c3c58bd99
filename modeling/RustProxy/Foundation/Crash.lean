import RustProxy.Foundation.Postcondition

/-!
# Programs that are cut off

A program that may be cut off before any of its actions, and is then started again.

* `runFor` goes on as long as there are outcomes; an interrupted run is a list that ends too early.
  `runConst` is a run to the end with one outcome for all actions.
* `Survives p s Q C`: wherever the program is cut off the state meets `C`, and if it comes to its end,
  its result and the state meet `Q`.  There is one rule for each shape of a program.
* `restarts_invariant` is the run lemma: what a program keeps wherever it is cut off holds over any
  number of starts.
-/

variable {Op : Type → Type} {χ σ : Type*} {α β : Type}

namespace Semantics

open Prog

variable (H : Semantics Op χ σ)

/-- Run a program as far as the outcomes go: its result, if it has come to its end, and the state. -/
def runFor : Prog Op α → List χ → σ → Option α × σ
  | .ret a, _, s => (some a, s)
  | .call _ _, [], s => (none, s)
  | .call op next, c :: cs, s => runFor (next (H.perform op c s).1) cs (H.perform op c s).2

/-- Run a program to its end, with the same outcome for each action. -/
def runConst (c : χ) : Prog Op α → σ → α × σ
  | .ret a, s => (a, s)
  | .call op next, s => runConst c (next (H.perform op c s).1) (H.perform op c s).2

/-- Start the program again and again. -/
def restarts (p : Prog Op α) : σ → List (List χ) → σ := List.foldl fun s cs => (H.runFor p cs s).2

/-- `C` holds wherever the program is cut off, and `Q` at its end. -/
def Survives (p : Prog Op α) (s : σ) (Q : α → σ → Prop) (C : σ → Prop) : Prop :=
  ∀ cs, C (H.runFor p cs s).2 ∧ ∀ a, (H.runFor p cs s).1 = some a → Q a (H.runFor p cs s).2

variable {H} {s : σ} {Q : α → σ → Prop} {C : σ → Prop}

/-- A program that has ended is in its last state. -/
lemma survives_ret {a : α} (hQ : Q a s) (hC : C s) : H.Survives (.ret a) s Q C := by
  intro cs
  refine ⟨hC, ?_⟩
  rintro _ ⟨⟩
  exact hQ

/-- A call survives where it stands, and whatever it answers. -/
lemma survives_call {op : Op β} {next : β → Prog Op α} (hC : C s)
    (h : ∀ c, H.Survives (next (H.perform op c s).1) (H.perform op c s).2 Q C) :
    H.Survives (.call op next) s Q C := by
  intro cs
  cases cs with
  | nil => exact ⟨hC, nofun⟩
  | cons c cs => exact h c cs

/-- A weaker postcondition and a weaker crash condition. -/
lemma Survives.mono {R : α → σ → Prop} {D : σ → Prop} {p : Prog Op α} (h : H.Survives p s Q C)
    (hQ : ∀ a t, Q a t → R a t) (hC : ∀ t, C t → D t) : H.Survives p s R D := fun cs =>
  ⟨hC _ (h cs).1, fun a ha => hQ a _ ((h cs).2 a ha)⟩

/-- The second program starts where the first may end. -/
theorem Survives.bind {R : β → σ → Prop} {p : Prog Op α} {f : α → Prog Op β}
    (hp : H.Survives p s Q C) (hf : ∀ a t, Q a t → H.Survives (f a) t R C) :
    H.Survives (p >>= f) s R C := by
  induction p generalizing s with
  | ret a => exact hf a s ((hp []).2 a rfl)
  | call op next ih =>
      refine survives_call (hp []).1 fun c => ?_
      exact ih _ fun cs => hp (c :: cs)

/-- A program that has ended answers its result. -/
@[simp] lemma runConst_ret (c : χ) (a : α) (s : σ) :
    H.runConst c (.ret a : Prog Op α) s = (a, s) := rfl

variable (H) in
/-- A program comes to its end if the outcomes last. -/
theorem exists_runFor_eq_runConst (c : χ) (p : Prog Op α) (s : σ) :
    ∃ cs, H.runFor p cs s = (some (H.runConst c p s).1, (H.runConst c p s).2) := by
  induction p generalizing s with
  | ret a => exact ⟨[], rfl⟩
  | call op next ih =>
      obtain ⟨cs, hcs⟩ := ih (H.perform op c s).1 (H.perform op c s).2
      exact ⟨c :: cs, hcs⟩

/-- What survives ends well when nothing crashes. -/
lemma Survives.runConst {p : Prog Op α} (h : H.Survives p s Q C) (c : χ) :
    Q (H.runConst c p s).1 (H.runConst c p s).2 := by
  obtain ⟨cs, hcs⟩ := H.exists_runFor_eq_runConst c p s
  have hend := (h cs).2 (H.runConst c p s).1
  rw [hcs] at hend
  exact hend rfl

/-- One program after the other. -/
theorem runConst_bind (c : χ) (p : Prog Op α) (f : α → Prog Op β) (s : σ) :
    H.runConst c (p >>= f) s = H.runConst c (f (H.runConst c p s).1) (H.runConst c p s).2 := by
  induction p generalizing s with
  | ret a => rfl
  | call op next ih => exact ih _ _

/-- The run lemma. -/
theorem restarts_invariant {I : σ → Prop} {p : Prog Op α}
    (hstart : ∀ s, I s → H.Survives p s (fun _ => I) I) (hs : I s) (starts : List (List χ)) :
    I (H.restarts p s starts) := by
  induction starts generalizing s with
  | nil => exact hs
  | cons cs starts ih => exact ih ((hstart s hs cs).1)

end Semantics
