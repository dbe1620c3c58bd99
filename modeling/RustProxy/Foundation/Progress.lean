import RustProxy.Foundation.Transition
import Mathlib.Algebra.BigOperators.Group.List.Basic
import Mathlib.Algebra.Order.Ring.Nat
import Mathlib.Logic.Relation

/-!
# Progress of a labelled step function

What the invariants of `Transition` do not say: whether a system can go on, and whether it has to
come to an end.

* `Forever step P s` says that `P` holds in every state that can be reached from `s`;
  `forever_of_invariant` is its rule.
* `exec_descent` is the rule for "an end can be reached": a step that makes a measure smaller is
  enabled in every state that is not an end.  `exec_bounded` is the rule for "an end has to be
  reached": every step makes the measure smaller.  Where the measure is a sum over a list,
  `sum_map_set` says what one entry does to it.
* A deadlock is a cycle of a wait-for relation.  If whoever is waited for has a lower rank, or is the
  one who waits, then a cycle contains someone who waits for himself (`exists_self_of_cycle`).
-/

namespace Transition

variable {σ α : Type*} {step : σ → α → Option σ}

variable (step) in
/-- `P` holds in every state that can be reached. -/
def Forever (P : σ → Prop) (s : σ) : Prop := ∀ as t, exec step s as = some t → P t

/-- What every step keeps holds forever. -/
theorem forever_of_invariant {I P : σ → Prop} (hP : ∀ s, I s → P s)
    (hstep : ∀ s a s', I s → step s a = some s' → I s') {s : σ} (hs : I s) : Forever step P s := by
  intro as t hrun
  exact hP t (exec_invariant hstep hs hrun)

/-- What is always so is so now. -/
lemma Forever.here {P : σ → Prop} {s : σ} (h : Forever step P s) : P s := h [] s rfl

/-- Where a step that makes the measure smaller is enabled in every state that is not an end, an end
can be reached, by as many such steps as the measure says. -/
theorem exec_descent {I : σ → Prop} {L : α → Prop} {ended : σ → Prop} (measure : σ → ℕ)
    (hstep : ∀ s, I s → ¬ ended s →
      ∃ a s', L a ∧ step s a = some s' ∧ I s' ∧ measure s' < measure s)
    {s : σ} (hs : I s) :
    ∃ as t, (∀ a ∈ as, L a) ∧ as.length ≤ measure s ∧ exec step s as = some t ∧ I t ∧ ended t := by
  induction hm : measure s using Nat.strong_induction_on generalizing s with
  | _ m ih =>
      by_cases hended : ended s
      · exact ⟨[], s, nofun, Nat.zero_le m, rfl, hs, hended⟩
      · obtain ⟨a, s', ha, hs', hI, hlt⟩ := hstep s hs hended
        obtain ⟨as, t, has, hlength, hrun, hIt, ht⟩ := ih (measure s') (hm ▸ hlt) hI rfl
        refine ⟨a :: as, t, List.forall_mem_cons.mpr ⟨ha, has⟩, ?_,
          exec_cons_eq_some.mpr ⟨s', hs', hrun⟩, hIt, ht⟩
        rw [List.length_cons]
        omega

/-- Where every step makes the measure smaller, a run is no longer than the measure at its start. -/
theorem exec_bounded {I : σ → Prop} {L : α → Prop} (measure : σ → ℕ)
    (hstep : ∀ s a s', I s → L a → step s a = some s' → I s' ∧ measure s' < measure s) {s t : σ}
    {as : List α} (hs : I s) (has : ∀ a ∈ as, L a) (h : exec step s as = some t) :
    as.length + measure t ≤ measure s := by
  induction as generalizing s with
  | nil =>
      cases h
      rw [List.length_nil, Nat.zero_add]
  | cons a as ih =>
      obtain ⟨s', hs', hrun⟩ := exec_cons_eq_some.mp h
      obtain ⟨hI, hlt⟩ := hstep s a s' hs (has a List.mem_cons_self) hs'
      have hrest := ih hI (fun b hb => has b (List.mem_cons_of_mem a hb)) hrun
      rw [List.length_cons]
      omega

/-! ## Waiting for each other -/

section

variable {ι : Type*} {R : ι → ι → Prop}

/-- Along a chain of waits without anyone who waits for himself the rank falls. -/
lemma rank_lt_of_transGen (rank : ι → ℕ) (hrank : ∀ i j, R i j → j = i ∨ rank j < rank i)
    (hself : ∀ i, ¬ R i i) {i j : ι} (h : Relation.TransGen R i j) : rank j < rank i := by
  have hlt : ∀ i j, R i j → rank j < rank i := by
    intro i j hij
    rcases hrank i j hij with rfl | hlt
    · exact absurd hij (hself j)
    · exact hlt
  induction h with
  | single hij => exact hlt _ _ hij
  | tail _ hjk ih => exact (hlt _ _ hjk).trans ih

/-- A cycle contains someone who waits for himself. -/
theorem exists_self_of_cycle (rank : ι → ℕ) (hrank : ∀ i j, R i j → j = i ∨ rank j < rank i) {i : ι}
    (h : Relation.TransGen R i i) : ∃ j, R j j := by
  by_contra hself
  push Not at hself
  exact absurd (rank_lt_of_transGen rank hrank hself h) (lt_irrefl _)

end

/-! ## Sums -/

/-- A sum over a list when one of its entries changes. -/
lemma sum_map_set {ι : Type*} (f : ι → ℕ) {l : List ι} {i : ℕ} {a : ι} (h : l[i]? = some a) (b : ι) :
    ((l.set i b).map f).sum + f a = (l.map f).sum + f b := by
  induction l generalizing i with
  | nil => cases h
  | cons c l ih =>
      cases i with
      | zero =>
          cases h
          simp only [List.set_cons_zero, List.map_cons, List.sum_cons]
          omega
      | succ i =>
          have hrest := ih h
          simp only [List.set_cons_succ, List.map_cons, List.sum_cons]
          omega

/-! ## What the end of a run says of its steps -/

/-- Two conditions on the same steps. -/
lemma EachStep.and {ok ok' : σ → α → Prop} {s : σ} {as : List α} (h : EachStep step ok s as)
    (h' : EachStep step ok' s as) : EachStep step (fun s a => ok s a ∧ ok' s a) s as := by
  induction as generalizing s with
  | nil => trivial
  | cons a as ih =>
      intro s' hs'
      obtain ⟨hok, hrest⟩ := h s' hs'
      obtain ⟨hok', hrest'⟩ := h' s' hs'
      exact ⟨⟨hok, hok'⟩, ih hrest hrest'⟩

/-- What no step can establish, and holds at the end, holds after every step. -/
lemma eachStep_of_final {P : σ → Prop} (hback : ∀ s a s', step s a = some s' → P s' → P s) {s t : σ}
    {as : List α} (hrun : exec step s as = some t) (ht : P t) :
    EachStep step (fun s a => ∀ s', step s a = some s' → P s') s as ∧ P s := by
  induction as generalizing s with
  | nil =>
      cases hrun
      exact ⟨trivial, ht⟩
  | cons a as ih =>
      obtain ⟨s', hs', hrest⟩ := exec_cons_eq_some.mp hrun
      obtain ⟨hsteps, hP⟩ := ih hrest
      refine ⟨?_, hback s a s' hs' hP⟩
      intro u hu
      obtain rfl := Option.some.inj (hs'.symm.trans hu)
      refine ⟨?_, hsteps⟩
      intro v hv
      exact Option.some.inj (hs'.symm.trans hv) ▸ hP

end Transition
