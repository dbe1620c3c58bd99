import RustProxy.Foundation.Transition

/-!
# Systems with a clock

A timed system performs actions at moments, and between them time goes by.  `inTime now s` says that
nothing that has to happen by a moment before `now` is still to happen in `s`; time does not go beyond
that.

* `Timed.step` is the labelled step function, so the rules of `Transition` apply.
* `timed_invariant` is the run lemma for properties of a moment and a state.
-/

open Transition

/-- A second in nanoseconds, the unit of a moment. -/
def second : ℕ := 1000000000

/-- A state and the moment it is in. -/
structure Timed (σ : Type*) where
  now : ℕ
  state : σ

/-- Time goes by, or something happens. -/
inductive TimedLabel (α : Type*) where
  | elapse (duration : ℕ)
  | act (a : α)
  deriving DecidableEq, Repr

namespace Timed

variable {σ α : Type*}

section

variable (act : ℕ → σ → α → Option σ) (inTime : ℕ → σ → Prop) [∀ now s, Decidable (inTime now s)]

/-- One step. -/
def step (m : Timed σ) : TimedLabel α → Option (Timed σ)
  | .elapse duration =>
      if inTime (m.now + duration) m.state then some { m with now := m.now + duration } else none
  | .act a => (act m.now m.state a).map fun state => { m with state }

/-- A run leads from one moment to the other. -/
def Leads (m m' : Timed σ) : Prop := ∃ as, exec (step act inTime) m as = some m'

end

variable {act : ℕ → σ → α → Option σ} {inTime : ℕ → σ → Prop} [∀ now s, Decidable (inTime now s)]
  {m m' m'' : Timed σ}

/-- Time passes as long as the state allows it. -/
lemma step_elapse {duration : ℕ} (h : step act inTime m (.elapse duration) = some m') :
    inTime (m.now + duration) m.state ∧ m' = { m with now := m.now + duration } := by
  simp only [step] at h
  split at h
  · case isTrue hin => exact ⟨hin, (Option.some.inj h).symm⟩
  · cases h

/-- An action takes no time. -/
lemma step_act {a : α} (h : step act inTime m (.act a) = some m') :
    act m.now m.state a = some m'.state ∧ m'.now = m.now := by
  obtain ⟨state, hstate, rfl⟩ := Option.map_eq_some_iff.mp h
  exact ⟨hstate, rfl⟩

/-- What the actions keep, and the passing of time as far as it may pass, every run keeps. -/
theorem timed_invariant {I : ℕ → σ → Prop}
    (hact : ∀ now s a s', I now s → act now s a = some s' → I now s')
    (htime : ∀ now duration s, I now s → inTime (now + duration) s → I (now + duration) s)
    {as : List (TimedLabel α)} (hm : I m.now m.state)
    (hrun : exec (step act inTime) m as = some m') : I m'.now m'.state := by
  refine exec_invariant (I := fun m : Timed σ => I m.now m.state) ?_ hm hrun
  intro m a m' hI hstep
  cases a with
  | elapse duration =>
      obtain ⟨hin, rfl⟩ := step_elapse hstep
      exact htime _ _ _ hI hin
  | act a =>
      obtain ⟨hstate, hnow⟩ := step_act hstep
      rw [hnow]
      exact hact _ _ _ _ hI hstate

/-! ## Runs that exist -/

/-- One continuation after the other. -/
lemma Leads.trans (h : Leads act inTime m m') (h' : Leads act inTime m' m'') :
    Leads act inTime m m'' := by
  obtain ⟨as, has⟩ := h
  obtain ⟨bs, hbs⟩ := h'
  exact ⟨as ++ bs, by rw [exec_append, has, Option.bind_some, hbs]⟩

/-- An action leads on. -/
lemma leads_act {now : ℕ} {s s' : σ} (a : α) (h : act now s a = some s') :
    Leads act inTime ⟨now, s⟩ ⟨now, s'⟩ :=
  ⟨[.act a], by rw [exec_cons, step, h]; rfl⟩

/-- Waiting leads on. -/
lemma leads_elapse {now later : ℕ} {s : σ} (hle : now ≤ later) (h : inTime later s) :
    Leads act inTime ⟨now, s⟩ ⟨later, s⟩ := by
  refine ⟨[.elapse (later - now)], ?_⟩
  rw [exec_cons, step, Nat.add_sub_cancel' hle, if_pos h]
  rfl

end Timed
