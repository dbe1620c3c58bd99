import RustProxy.Foundation.Transition

/-!
# Simulations between labelled systems

`f` reads a state of one system as a state of another, and `g` says which steps of the other system a
step amounts to, perhaps none.  If every step is simulated so, every run is: `exec_simulation`.

Where the steps it amounts to depend on the state as well, `Refines` asks for some, and every run is
some run of the other system: `exec_refinement`.
-/

namespace Transition

variable {σ τ α β : Type*} {step : σ → α → Option σ} {step' : τ → β → Option τ}

/-- Every step from a state with the invariant keeps it, and is what `g` says in the other system. -/
structure Simulates (step : σ → α → Option σ) (step' : τ → β → Option τ) (I : σ → Prop) (f : σ → τ)
    (g : α → List β) : Prop where
  keeps : ∀ s a s', I s → step s a = some s' → I s'
  simulates : ∀ s a s', I s → step s a = some s' → exec step' (f s) (g a) = some (f s')

/-- The run lemma: a run is the run of what its steps amount to. -/
theorem exec_simulation {I : σ → Prop} {f : σ → τ} {g : α → List β}
    (h : Simulates step step' I f g) {s t : σ} {as : List α} (hs : I s)
    (hrun : exec step s as = some t) : exec step' (f s) (as.flatMap g) = some (f t) := by
  induction as generalizing s with
  | nil =>
      cases hrun
      rfl
  | cons a as ih =>
      obtain ⟨s', hs', hrest⟩ := exec_cons_eq_some.mp hrun
      rw [List.flatMap_cons, exec_append, h.simulates s a s' hs hs', Option.bind_some]
      exact ih (h.keeps s a s' hs hs') hrest

/-- Every step from a state with the invariant keeps it, and is some steps of the other system. -/
structure Refines (step : σ → α → Option σ) (step' : τ → β → Option τ) (I : σ → Prop) (f : σ → τ) :
    Prop where
  keeps : ∀ s a s', I s → step s a = some s' → I s'
  refines : ∀ s a s', I s → step s a = some s' → ∃ bs, exec step' (f s) bs = some (f s')

/-- The run lemma: a run is a run of the other system. -/
theorem exec_refinement {I : σ → Prop} {f : σ → τ} (h : Refines step step' I f) {s t : σ}
    {as : List α} (hs : I s) (hrun : exec step s as = some t) :
    ∃ bs, exec step' (f s) bs = some (f t) := by
  induction as generalizing s with
  | nil =>
      cases hrun
      exact ⟨[], rfl⟩
  | cons a as ih =>
      obtain ⟨s', hs', hrest⟩ := exec_cons_eq_some.mp hrun
      obtain ⟨bs, hbs⟩ := h.refines s a s' hs hs'
      obtain ⟨cs, hcs⟩ := ih (h.keeps s a s' hs hs') hrest
      exact ⟨bs ++ cs, by rw [exec_append, hbs, Option.bind_some, hcs]⟩

end Transition
