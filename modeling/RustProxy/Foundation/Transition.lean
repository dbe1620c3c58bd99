import Mathlib.Data.List.Basic
import Mathlib.Order.Basic

/-!
# Runs of a labelled step function

A system is given by a partial step function `step : σ → α → Option σ`: the label `α` names the
party that moves and everything the environment decides about its move, and `none` says that the
move is not enabled.  A schedule is a list of labels.

* `exec step s as` is the state the schedule ends in, if every step of it is enabled.
* `Always step P s as` says that `P` holds in every state the schedule passes through, and
  `EachStep step ok s as` that every step it takes is allowed by `ok` in the state it is taken
  from.
* `exec_invariant` and `exec_invariant_of_eachStep` are the run lemmas of the two kinds of step
  lemma; `always_iff_eachStep` turns "the allowed steps keep `P`, the others break it" into an
  equivalence about whole schedules, `exec_measure` and `good_or_bad` into one about the state a
  schedule ends in.
-/

namespace Transition

variable {σ α : Type*} (step : σ → α → Option σ)

/-- The state a schedule ends in; `none` when one of its steps is not enabled. -/
def exec : σ → List α → Option σ
  | s, [] => some s
  | s, a :: as => (step s a).bind fun s' => exec s' as

/-- `P` holds in every state the schedule passes through, the first one included. -/
def Always (P : σ → Prop) : σ → List α → Prop
  | s, [] => P s
  | s, a :: as => P s ∧ ∀ s', step s a = some s' → Always P s' as

/-- Every step the schedule takes is allowed by `ok` in the state it is taken from. -/
def EachStep (ok : σ → α → Prop) : σ → List α → Prop
  | _, [] => True
  | s, a :: as => ∀ s', step s a = some s' → ok s a ∧ EachStep ok s' as

/-- A schedule of steps with a decidable condition can be checked. -/
instance EachStep.decidable {ok : σ → α → Prop} [∀ s a, Decidable (ok s a)] :
    ∀ s as, Decidable (EachStep step ok s as)
  | _, [] => .isTrue trivial
  | s, a :: as =>
      match h : step s a with
      | none => .isTrue fun s' hs' => by cases h.symm.trans hs'
      | some s' =>
          letI : Decidable (EachStep step ok s' as) := EachStep.decidable s' as
          decidable_of_iff (ok s a ∧ EachStep step ok s' as)
            ⟨fun hok t ht => by cases h.symm.trans ht; exact hok, fun hok => hok s' h⟩

variable {step}

/-- No step. -/
@[simp] lemma exec_nil (s : σ) : exec step s [] = some s := rfl

/-- One step and the rest. -/
@[simp] lemma exec_cons (s : σ) (a : α) (as : List α) :
    exec step s (a :: as) = (step s a).bind fun s' => exec step s' as := rfl

/-- A run of one step and the rest. -/
lemma exec_cons_eq_some {s t : σ} {a : α} {as : List α} :
    exec step s (a :: as) = some t ↔ ∃ s', step s a = some s' ∧ exec step s' as = some t := by
  rw [exec_cons, Option.bind_eq_some_iff]

/-- A schedule runs in two parts. -/
lemma exec_append (s : σ) (as bs : List α) :
    exec step s (as ++ bs) = (exec step s as).bind fun s' => exec step s' bs := by
  induction as generalizing s with
  | nil => rfl
  | cons a as ih =>
      rw [List.cons_append, exec_cons, exec_cons, Option.bind_assoc]
      congr 1
      funext s'
      exact ih s'

/-! ## Invariants -/

/-- What every step keeps, every run keeps. -/
theorem exec_invariant {I : σ → Prop} (hstep : ∀ s a s', I s → step s a = some s' → I s')
    {s t : σ} {as : List α} (hs : I s) (h : exec step s as = some t) : I t := by
  induction as generalizing s with
  | nil =>
      cases h
      exact hs
  | cons a as ih =>
      obtain ⟨s', hs', hrun⟩ := exec_cons_eq_some.mp h
      exact ih (hstep s a s' hs hs') hrun

/-- What every allowed step keeps, every run of allowed steps keeps. -/
theorem exec_invariant_of_eachStep {I : σ → Prop} {ok : σ → α → Prop}
    (hstep : ∀ s a s', I s → ok s a → step s a = some s' → I s') {s t : σ} {as : List α}
    (hs : I s) (hok : EachStep step ok s as) (h : exec step s as = some t) : I t := by
  induction as generalizing s with
  | nil =>
      cases h
      exact hs
  | cons a as ih =>
      obtain ⟨s', hs', hrun⟩ := exec_cons_eq_some.mp h
      obtain ⟨ha, hrest⟩ := hok s' hs'
      exact ih (hstep s a s' hs ha hs') hrest hrun

/-! ## Properties of every state of a run -/

/-- What always holds holds at first. -/
lemma Always.head {P : σ → Prop} {s : σ} {as : List α} (h : Always step P s as) : P s := by
  cases as with
  | nil => exact h
  | cons a as => exact h.1

/-- What always holds holds at last. -/
lemma Always.last {P : σ → Prop} {s t : σ} {as : List α} (h : Always step P s as)
    (hrun : exec step s as = some t) : P t := by
  induction as generalizing s with
  | nil =>
      cases hrun
      exact h
  | cons a as ih =>
      obtain ⟨s', hs', hrun⟩ := exec_cons_eq_some.mp hrun
      exact ih (h.2 s' hs') hrun

/-- If the allowed steps keep an invariant that gives `P`, a schedule of allowed steps passes through
`P`-states only. -/
theorem always_of_eachStep {I P : σ → Prop} {ok : σ → α → Prop} (hP : ∀ s, I s → P s)
    (hkeep : ∀ s a s', I s → ok s a → step s a = some s' → I s') {s : σ} (hs : I s) {as : List α}
    (h : EachStep step ok s as) : Always step P s as := by
  induction as generalizing s with
  | nil => exact hP s hs
  | cons a as ih =>
      refine ⟨hP s hs, ?_⟩
      intro s' hs'
      obtain ⟨hok, hrest⟩ := h s' hs'
      exact ih (hkeep s a s' hs hok hs') hrest

/-- A weaker condition on the steps. -/
lemma EachStep.imp {ok ok' : σ → α → Prop} (h : ∀ s a, ok s a → ok' s a) {s : σ} {as : List α}
    (hs : EachStep step ok s as) : EachStep step ok' s as := by
  induction as generalizing s with
  | nil => trivial
  | cons a as ih =>
      intro s' hs'
      obtain ⟨hok, hrest⟩ := hs s' hs'
      exact ⟨h s a hok, ih hrest⟩

/-- If the allowed steps keep an invariant under which they are allowed by `ok'` too, a schedule of
steps allowed by `ok` takes only steps allowed by `ok'`. -/
theorem eachStep_of_eachStep {I : σ → Prop} {ok ok' : σ → α → Prop}
    (hok' : ∀ s a, I s → ok s a → ok' s a)
    (hkeep : ∀ s a s', I s → ok s a → step s a = some s' → I s') {s : σ} (hs : I s) {as : List α}
    (h : EachStep step ok s as) : EachStep step ok' s as := by
  induction as generalizing s with
  | nil => trivial
  | cons a as ih =>
      intro s' hs'
      obtain ⟨hok, hrest⟩ := h s' hs'
      exact ⟨hok' s a hs hok, ih (hkeep s a s' hs hok hs') hrest⟩

/-- If moreover a step that is not allowed breaks `P`, a schedule of labels from `L` passes through
`P`-states only exactly when all its steps are allowed. -/
theorem always_iff_eachStep_of_mem {I P : σ → Prop} {L : α → Prop} {ok : σ → α → Prop}
    (hP : ∀ s, I s → P s) (hkeep : ∀ s a s', I s → L a → ok s a → step s a = some s' → I s')
    (hbreak : ∀ s a s', I s → L a → ¬ ok s a → step s a = some s' → ¬ P s') {s : σ} (hs : I s)
    {as : List α} (has : ∀ a ∈ as, L a) : Always step P s as ↔ EachStep step ok s as := by
  induction as generalizing s with
  | nil => exact ⟨fun _ => trivial, fun _ => hP s hs⟩
  | cons a as ih =>
      obtain ⟨ha, has⟩ := List.forall_mem_cons.mp has
      constructor
      · rintro ⟨-, hrest⟩ s' hs'
        have hok : ok s a := by
          by_contra hbad
          exact hbreak s a s' hs ha hbad hs' (hrest s' hs').head
        exact ⟨hok, (ih (hkeep s a s' hs ha hok hs') has).mp (hrest s' hs')⟩
      · intro hsteps
        refine ⟨hP s hs, ?_⟩
        intro s' hs'
        obtain ⟨hok, hrest⟩ := hsteps s' hs'
        exact (ih (hkeep s a s' hs ha hok hs') has).mpr hrest

/-- The same for all labels. -/
theorem always_iff_eachStep {I P : σ → Prop} {ok : σ → α → Prop} (hP : ∀ s, I s → P s)
    (hkeep : ∀ s a s', I s → ok s a → step s a = some s' → I s')
    (hbreak : ∀ s a s', I s → ¬ ok s a → step s a = some s' → ¬ P s') {s : σ} (hs : I s)
    (as : List α) : Always step P s as ↔ EachStep step ok s as :=
  always_iff_eachStep_of_mem hP (fun s a s' hI _ => hkeep s a s' hI)
    (fun s a s' hI _ => hbreak s a s' hI) hs fun _ _ => trivial

/-- Two properties hold along the same schedules if the first follows from the second and, where the
second still holds, a step keeps it that ends in a state with the first. -/
theorem always_iff_always {I P Q : σ → Prop} (hI : ∀ s a s', I s → step s a = some s' → I s')
    (hQP : ∀ s, I s → Q s → P s)
    (hstep : ∀ s a s', I s → Q s → step s a = some s' → P s' → Q s') {s : σ} (hs : I s)
    (hstart : P s → Q s) (as : List α) : Always step P s as ↔ Always step Q s as := by
  induction as generalizing s with
  | nil => exact ⟨hstart, hQP s hs⟩
  | cons a as ih =>
      constructor
      · rintro ⟨hP, hrest⟩
        refine ⟨hstart hP, ?_⟩
        intro s' hs'
        exact (ih (hI s a s' hs hs') (hstep s a s' hs (hstart hP) hs')).mp (hrest s' hs')
      · rintro ⟨hQ, hrest⟩
        refine ⟨hQP s hs hQ, ?_⟩
        intro s' hs'
        exact (ih (hI s a s' hs hs') (hstep s a s' hs hQ hs')).mpr (hrest s' hs')

/-- A quantity that the allowed steps keep and the others raise: it never falls, and it is what it was
exactly when every step was allowed. -/
theorem exec_measure {β : Type*} [Preorder β] {m : σ → β} {I : σ → Prop} {L : α → Prop}
    {ok : σ → α → Prop} (hI : ∀ s a s', I s → L a → step s a = some s' → I s')
    (hkeep : ∀ s a s', I s → L a → ok s a → step s a = some s' → m s' = m s)
    (hraise : ∀ s a s', I s → L a → ¬ ok s a → step s a = some s' → m s < m s') {s t : σ}
    {as : List α} (hs : I s) (has : ∀ a ∈ as, L a) (h : exec step s as = some t) :
    m s ≤ m t ∧ (m t = m s ↔ EachStep step ok s as) := by
  induction as generalizing s with
  | nil =>
      cases h
      exact ⟨le_refl _, fun _ => trivial, fun _ => rfl⟩
  | cons a as ih =>
      obtain ⟨s', hs', hrun⟩ := exec_cons_eq_some.mp h
      have ha := has a List.mem_cons_self
      obtain ⟨hle, hiff⟩ := ih (hI s a s' hs ha hs') (fun b hb => has b (List.mem_cons_of_mem a hb)) hrun
      by_cases hok : ok s a
      · rw [hkeep s a s' hs ha hok hs'] at hle hiff
        refine ⟨hle, hiff.trans ⟨?_, ?_⟩⟩
        · intro hrest u hu
          obtain rfl := Option.some.inj (hs'.symm.trans hu)
          exact ⟨hok, hrest⟩
        · exact fun hsteps => (hsteps s' hs').2
      · have hlt := lt_of_lt_of_le (hraise s a s' hs ha hok hs') hle
        exact ⟨hlt.le, fun heq => absurd heq hlt.ne', fun hsteps => absurd (hsteps s' hs').1 hok⟩

/-- If an allowed step leads from a good state to a good state, any other step to a bad one, and bad
states stay bad, then a schedule of allowed steps ends in a good state, and any other in a bad one. -/
theorem good_or_bad {G B : σ → Prop} {L ok : σ → α → Prop}
    (hgood : ∀ s a s', G s → L s a → step s a = some s' → (ok s a ∧ G s') ∨ (¬ ok s a ∧ B s'))
    (hstay : ∀ s a s', B s → L s a → step s a = some s' → B s') {s t : σ} {as : List α} (hs : G s)
    (hL : EachStep step L s as) (h : exec step s as = some t) :
    (G t ∧ EachStep step ok s as) ∨ (B t ∧ ¬ EachStep step ok s as) := by
  induction as generalizing s with
  | nil =>
      cases h
      exact Or.inl ⟨hs, trivial⟩
  | cons a as ih =>
      obtain ⟨s', hs', hrun⟩ := exec_cons_eq_some.mp h
      obtain ⟨hLa, hrest⟩ := hL s' hs'
      rcases hgood s a s' hs hLa hs' with ⟨hok, hgood'⟩ | ⟨hnot, hbad'⟩
      · rcases ih hgood' hrest hrun with ⟨ht, hsteps⟩ | ⟨ht, hnot⟩
        · refine Or.inl ⟨ht, ?_⟩
          intro u hu
          obtain rfl := Option.some.inj (hs'.symm.trans hu)
          exact ⟨hok, hsteps⟩
        · exact Or.inr ⟨ht, fun hsteps => hnot (hsteps s' hs').2⟩
      · exact Or.inr ⟨exec_invariant_of_eachStep hstay hbad' hrest hrun,
          fun hsteps => hnot (hsteps s' hs').1⟩

/-- A condition on the labels alone is a condition on the steps. -/
lemma eachStep_of_forall_mem {ok : α → Prop} {s : σ} {as : List α} (h : ∀ a ∈ as, ok a) :
    EachStep step (fun _ a => ok a) s as := by
  induction as generalizing s with
  | nil => trivial
  | cons a as ih =>
      intro s' _
      exact ⟨h a List.mem_cons_self, ih fun b hb => h b (List.mem_cons_of_mem a hb)⟩

end Transition
