import RustProxy.Foundation.Program

/-!
# Postconditions of programs that run alone

`Ensures p s Q`: run alone from `s`, whatever the outcomes, the program ends in a result and a state
that meet `Q`.

* One rule for each shape of a program: `ensures_ret`, `ensures_call` and `Ensures.bind`.
* `Prog.All` is a condition on every action a program may perform; `ensures_of_all` turns what single
  actions do to the state into what the program does to it.
-/

variable {Op : Type → Type} {χ σ : Type*} {α β : Type}

namespace Prog

/-- Every action of the program meets `ok`, whatever the responses. -/
def All (ok : {β : Type} → Op β → Prop) : Prog Op α → Prop
  | .ret _ => True
  | .call op next => ok op ∧ ∀ r, All ok (next r)

/-- One program after the other. -/
lemma All.bind {ok : {β : Type} → Op β → Prop} {p : Prog Op α} {f : α → Prog Op β} (hp : p.All ok)
    (hf : ∀ a, (f a).All ok) : (p >>= f).All ok := by
  induction p with
  | ret a => exact hf a
  | call op next ih => exact ⟨hp.1, fun r => ih r (hp.2 r)⟩

/-- A single operation. -/
lemma all_lift {ok : {β : Type} → Op β → Prop} {op : Op α} (h : ok op) : (lift op).All ok :=
  ⟨h, fun _ => trivial⟩

end Prog

namespace Semantics

open Prog

variable (H : Semantics Op χ σ)

/-- Run alone from `s`, the program ends in `Q`. -/
def Ensures (p : Prog Op α) (s : σ) (Q : α → σ → Prop) : Prop :=
  ∀ outcomes, Q (H.run p outcomes s).1 (H.run p outcomes s).2.2

variable {H} {s : σ} {Q : α → σ → Prop}

/-- A program that has ended. -/
lemma ensures_ret {a : α} (h : Q a s) : H.Ensures (.ret a) s Q := fun _ => h

/-- A call, whatever it answers. -/
lemma ensures_call {op : Op β} {next : β → Prog Op α}
    (h : ∀ c, H.Ensures (next (H.perform op c s).1) (H.perform op c s).2 Q) :
    H.Ensures (.call op next) s Q := fun outcomes => h outcomes.head outcomes.tail

/-- One program after the other: the second starts where the first may end. -/
theorem Ensures.bind {R : β → σ → Prop} {p : Prog Op α} {f : α → Prog Op β} (hp : H.Ensures p s Q)
    (hf : ∀ a s', Q a s' → H.Ensures (f a) s' R) : H.Ensures (p >>= f) s R := by
  intro outcomes
  rw [run_bind]
  exact hf _ _ (hp outcomes) _

/-- The result is wrapped. -/
lemma Ensures.map {R : β → σ → Prop} {p : Prog Op α} (f : α → β)
    (hp : H.Ensures p s fun a s' => R (f a) s') : H.Ensures (p >>= fun a => .ret (f a)) s R :=
  hp.bind fun _ _ h => ensures_ret h

/-- A weaker postcondition. -/
lemma Ensures.mono {R : α → σ → Prop} {p : Prog Op α} (hp : H.Ensures p s Q)
    (h : ∀ a s', Q a s' → R a s') : H.Ensures p s R := fun outcomes => h _ _ (hp outcomes)

/-- What every single action does, the program does. -/
theorem ensures_of_all {ok : {β : Type} → Op β → Prop} {R : σ → σ → Prop} (hrefl : ∀ s, R s s)
    (htrans : ∀ {s s' s''}, R s s' → R s' s'' → R s s'')
    (hop : ∀ {β : Type} (op : Op β) c s, ok op → R s (H.perform op c s).2) {p : Prog Op α}
    (hp : p.All ok) (s : σ) : H.Ensures p s fun _ => R s := by
  induction p generalizing s with
  | ret a => exact ensures_ret (hrefl s)
  | call op next ih =>
      refine ensures_call fun c => ?_
      exact (ih _ (hp.2 _) _).mono fun _ _ h => htrans (hop op c s hp.1) h

end Semantics
