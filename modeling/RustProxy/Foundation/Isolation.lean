import Mathlib.Data.List.Induction
import Mathlib.Logic.Function.Basic
import RustProxy.Foundation.Program
import RustProxy.Foundation.Simulation

/-!
# Programs that keep to a cell

The state is a family of cells, and any number of programs run on it, interleaved at their actions;
each of them works for one key.

* `Prog.OnCell k` says of a program that its actions read and write the cell of `k` only.
* `CellPool.step` starts a program, or lets one perform its next action.
* `exec_restrict` takes everything out of a run that is not done for a key, and `exec_iff_restrict`
  says that a run is nothing but its parts.
-/

open Transition

variable {κ V χ ρ α : Type} {Op : Type → Type}

/-- The action depends on the cell of `k`, and changes no other. -/
structure Semantics.OnCell (H : Semantics Op χ (κ → V)) (k : κ) {β : Type} (op : Op β) : Prop where
  response : ∀ c s s', s k = s' k → (H.perform op c s).1 = (H.perform op c s').1
  cell : ∀ c s s', s k = s' k → (H.perform op c s).2 k = (H.perform op c s').2 k
  others : ∀ c s j, j ≠ k → (H.perform op c s).2 j = s j

/-- All actions of the program do. -/
inductive Prog.OnCell (H : Semantics Op χ (κ → V)) (k : κ) : Prog Op α → Prop
  | ret (a : α) : OnCell H k (.ret a)
  | call {β : Type} {op : Op β} {next : β → Prog Op α} (hop : H.OnCell k op)
      (hnext : ∀ b, OnCell H k (next b)) : OnCell H k (.call op next)

/-- The cells and the programs that run; those of a key are numbered. -/
structure CellPool (κ V : Type) (Op : Type → Type) (α : Type) where
  cells : κ → V
  tasks : κ → ℕ → Option (Prog Op α)

/-- A request arrives, or a program performs its next action. -/
inductive CellEvent (κ χ ρ : Type) where
  | arrive (i : ℕ) (req : ρ)
  | step (k : κ) (i : ℕ) (c : χ)
  deriving DecidableEq, Repr

/-- The key that something is done for. -/
def CellEvent.key (key : ρ → κ) : CellEvent κ χ ρ → κ
  | .arrive _ req => key req
  | .step k _ _ => k

namespace CellPool

variable [DecidableEq κ]

/-- A program is at another place. -/
def setTask (tasks : κ → ℕ → Option (Prog Op α)) (k : κ) (i : ℕ) (p : Prog Op α) :
    κ → ℕ → Option (Prog Op α) := Function.update tasks k (Function.update (tasks k) i (some p))

variable (H : Semantics Op χ (κ → V)) (key : ρ → κ) (program : ρ → Prog Op α)

/-- One step. -/
def step (p : CellPool κ V Op α) : CellEvent κ χ ρ → Option (CellPool κ V Op α)
  | .arrive i req =>
      match p.tasks (key req) i with
      | none => some { p with tasks := setTask p.tasks (key req) i (program req) }
      | some _ => none
  | .step k i c =>
      match p.tasks k i with
      | some (.call op next) => some
          { cells := (H.perform op c p.cells).2
            tasks := setTask p.tasks k i (next (H.perform op c p.cells).1) }
      | _ => none

/-- What there is of a key, with the other cells as `base` has them. -/
def restrict (base : κ → V) (k : κ) (p : CellPool κ V Op α) : CellPool κ V Op α where
  cells := Function.update base k (p.cells k)
  tasks := Function.update (fun _ _ => none) k (p.tasks k)

/-- Every program keeps to the cell of its key. -/
def Separate (p : CellPool κ V Op α) : Prop :=
  ∀ k i prog, p.tasks k i = some prog → prog.OnCell H k

variable {H key program} {p p' : CellPool κ V Op α} {e : CellEvent κ χ ρ} {k : κ}

/-- The tasks on the cell. -/
@[simp] lemma setTask_self (tasks : κ → ℕ → Option (Prog Op α)) (i : ℕ) (prog : Prog Op α) :
    setTask tasks k i prog k = Function.update (tasks k) i (some prog) := by
  simp [setTask]

/-- The tasks on other cells stay. -/
lemma setTask_of_ne (tasks : κ → ℕ → Option (Prog Op α)) {j : κ} (hj : j ≠ k) (i : ℕ)
    (prog : Prog Op α) : setTask tasks k i prog j = tasks j :=
  Function.update_of_ne hj _ _

/-- The cell is kept. -/
@[simp] lemma restrict_cells_self (base : κ → V) : (p.restrict base k).cells k = p.cells k := by
  simp [restrict]

/-- The tasks on the cell are kept. -/
@[simp] lemma restrict_tasks_self (base : κ → V) : (p.restrict base k).tasks k = p.tasks k := by
  simp [restrict]

/-- All other cells are as in the base. -/
lemma restrict_cells_of_ne (base : κ → V) {j : κ} (hj : j ≠ k) :
    (p.restrict base k).cells j = base j :=
  Function.update_of_ne hj _ _

/-- A task is set on the cell only. -/
lemma setTask_restrict (base : κ → V) (i : ℕ) (prog : Prog Op α) :
    setTask (p.restrict base k).tasks k i prog =
      Function.update (fun _ _ => none) k (setTask p.tasks k i prog k) := by
  simp [setTask, restrict]

/-- What there is of a key is its cell and its programs. -/
lemma restrict_congr (base : κ → V) (hcell : p'.cells k = p.cells k)
    (htasks : p'.tasks k = p.tasks k) : p'.restrict base k = p.restrict base k := by
  rw [restrict, restrict, hcell, htasks]

/-- A task on its own cell keeps the pool separate. -/
lemma separate_setTask (h : p.Separate H) {i : ℕ} {prog : Prog Op α} (hprog : prog.OnCell H k)
    (cells : κ → V) : Separate H { cells, tasks := setTask p.tasks k i prog } := by
  intro k' i' prog' hprog'
  simp only [setTask, Function.update_apply] at hprog'
  split at hprog'
  · case isTrue hk =>
    subst hk
    rw [Function.update_apply] at hprog'
    split at hprog'
    · cases hprog'
      exact hprog
    · exact h k' i' prog' hprog'
  · exact h k' i' prog' hprog'

/-- Every step keeps the pool separate. -/
lemma separate_step (hprogram : ∀ req, (program req).OnCell H (key req)) (h : p.Separate H)
    (hstep : step H key program p e = some p') : p'.Separate H := by
  cases e with
  | arrive i req =>
      simp only [step] at hstep
      split at hstep <;> cases hstep
      exact separate_setTask h (hprogram req) _
  | step k i c =>
      simp only [step] at hstep
      split at hstep
      · case h_1 op next htask =>
        cases hstep
        cases h k i _ htask with
        | call hop hnext => exact separate_setTask h (hnext _) _
      · cases hstep

/-- What is done for another key is not seen. -/
lemma restrict_of_ne (base : κ → V) (h : p.Separate H) (hkey : e.key key ≠ k)
    (hstep : step H key program p e = some p') : p'.restrict base k = p.restrict base k := by
  cases e with
  | arrive i req =>
      have hne : k ≠ key req := Ne.symm hkey
      simp only [step] at hstep
      split at hstep <;> cases hstep
      exact restrict_congr base rfl (setTask_of_ne _ hne _ _)
  | step j i c =>
      have hne : k ≠ j := Ne.symm hkey
      simp only [step] at hstep
      split at hstep
      · case h_1 op next htask =>
        cases hstep
        cases h j i _ htask with
        | call hop hnext =>
            exact restrict_congr base (hop.others c p.cells k hne) (setTask_of_ne _ hne _ _)
      · cases hstep

/-- An action sees and changes of the cells of a key alone what it does of all. -/
lemma perform_restrict (base : κ → V) {β : Type} {op : Op β} (hop : H.OnCell k op) (c : χ) :
    H.perform op c (p.restrict base k).cells =
      ((H.perform op c p.cells).1, Function.update base k ((H.perform op c p.cells).2 k)) := by
  have hcell : (p.restrict base k).cells k = p.cells k := restrict_cells_self base
  refine Prod.ext (hop.response c _ _ hcell) (funext fun j => ?_)
  by_cases hj : j = k
  · subst hj
    simpa using hop.cell c _ _ hcell
  · rw [hop.others c _ j hj, restrict_cells_of_ne base hj]
    simp [hj]

/-- What is done for the key can be done without the others. -/
lemma step_restrict (base : κ → V) (h : p.Separate H) (hkey : e.key key = k)
    (hstep : step H key program p e = some p') :
    step H key program (p.restrict base k) e = some (p'.restrict base k) := by
  subst hkey
  cases e with
  | arrive i req =>
      simp only [step] at hstep
      split at hstep <;> cases hstep
      case h_1.refl htask =>
        simp only [step, CellEvent.key, restrict_tasks_self, htask, setTask_restrict]
        rfl
  | step k i c =>
      simp only [step] at hstep
      split at hstep
      · case h_1 op next htask =>
        cases hstep
        cases h k i _ htask with
        | call hop hnext =>
            simp only [step, CellEvent.key, restrict_tasks_self, htask, perform_restrict base hop,
              setTask_restrict]
            rfl
      · cases hstep

/-- A list without what does not satisfy the predicate. -/
lemma flatMap_eq_filter {β : Type*} (q : β → Bool) (l : List β) :
    (l.flatMap fun b => if q b then [b] else []) = l.filter q := by
  induction l with
  | nil => rfl
  | cons b l ih => cases hb : q b <;> simp [List.flatMap_cons, hb, ih]

/-- A run with everything taken out that is not done for a key. -/
theorem exec_restrict (hprogram : ∀ req, (program req).OnCell H (key req)) (base : κ → V) (k : κ)
    (hp : p.Separate H) {es : List (CellEvent κ χ ρ)} (hrun : exec (step H key program) p es = some p') :
    exec (step H key program) (p.restrict base k) (es.filter fun e => e.key key = k) =
      some (p'.restrict base k) := by
  have hsim : Simulates (step H key program) (step H key program) (Separate H) (restrict base k)
      fun e => if decide (e.key key = k) then [e] else [] := by
    refine ⟨fun _ _ _ h hstep => separate_step hprogram h hstep, ?_⟩
    intro s e s' h hstep
    by_cases hkey : e.key key = k
    · rw [decide_eq_true hkey, if_pos rfl, exec_cons, step_restrict base h hkey hstep]
      rfl
    · rw [decide_eq_false hkey, if_neg Bool.false_ne_true, exec_nil,
        restrict_of_ne base h hkey hstep]
  rw [← flatMap_eq_filter]
  exact exec_simulation hsim hp hrun

/-- What can be done on the cell alone can be done among all. -/
lemma step_isSome_of_restrict {base : κ → V} {q : CellPool κ V Op α} (hkey : e.key key = k)
    (hstep : step H key program (p.restrict base k) e = some q) :
    (step H key program p e).isSome := by
  subst hkey
  cases e with
  | arrive i req =>
      simp only [step, CellEvent.key, restrict_tasks_self] at hstep ⊢
      split at hstep
      · simp
      · cases hstep
  | step k i c =>
      simp only [step, CellEvent.key, restrict_tasks_self] at hstep ⊢
      split at hstep
      · simp
      · cases hstep

/-- Events are possible if those of each key are. -/
lemma exec_isSome_of_restrict (hprogram : ∀ req, (program req).OnCell H (key req)) (base : κ → V)
    (hp : p.Separate H) (es : List (CellEvent κ χ ρ))
    (hruns : ∀ k, (exec (step H key program) (p.restrict base k)
      (es.filter fun e => e.key key = k)).isSome) :
    (exec (step H key program) p es).isSome := by
  -- from the front: the last event is possible where the part of its key has come to
  induction es using List.reverseRecOn with
  | nil => rfl
  | append_singleton es e ih =>
      have hfront : (exec (step H key program) p es).isSome := by
        refine ih fun k => ?_
        have hk := hruns k
        rw [List.filter_append, exec_append] at hk
        exact Option.isSome_of_isSome_bind hk
      obtain ⟨q, hq⟩ := Option.isSome_iff_exists.mp hfront
      have hlast := hruns (e.key key)
      rw [List.filter_append, exec_append, exec_restrict hprogram base _ hp hq] at hlast
      simp only [Option.bind_some, decide_true, List.filter_cons_of_pos, List.filter_nil] at hlast
      obtain ⟨q', hq'⟩ := Option.isSome_iff_exists.mp hlast
      obtain ⟨q'', hstep, -⟩ := exec_cons_eq_some.mp hq'
      obtain ⟨p'', hp''⟩ := Option.isSome_iff_exists.mp (step_isSome_of_restrict rfl hstep)
      rw [exec_append, hq, Option.bind_some, exec_cons, hp'']
      rfl

/-- Pools that agree on every cell are equal. -/
lemma eq_of_restrict (base : κ → V) (h : ∀ k, p.restrict base k = p'.restrict base k) : p = p' := by
  have hcells : p.cells = p'.cells := by
    funext k
    rw [← restrict_cells_self (p := p) base, h k, restrict_cells_self]
  have htasks : p.tasks = p'.tasks := by
    funext k
    rw [← restrict_tasks_self (p := p) base, h k, restrict_tasks_self]
  cases p
  cases p'
  cases hcells
  cases htasks
  rfl

/-- **Independence.**  The runs are those whose parts, key by key, are runs, with whatever in the
other cells. -/
theorem exec_iff_restrict (hprogram : ∀ req, (program req).OnCell H (key req))
    (hp : p.Separate H) {es : List (CellEvent κ χ ρ)} :
    exec (step H key program) p es = some p' ↔
      ∀ k base, exec (step H key program) (p.restrict base k) (es.filter fun e => e.key key = k) =
        some (p'.restrict base k) := by
  refine ⟨fun hrun k base => exec_restrict hprogram base k hp hrun, fun hparts => ?_⟩
  have hsome : (exec (step H key program) p es).isSome := by
    refine exec_isSome_of_restrict hprogram p.cells hp es fun k => ?_
    rw [hparts k p.cells]
    rfl
  obtain ⟨q, hq⟩ := Option.isSome_iff_exists.mp hsome
  have hsame : q = p' := by
    refine eq_of_restrict p.cells fun k => ?_
    exact Option.some.inj
      ((exec_restrict hprogram p.cells k hp hq).symm.trans (hparts k p.cells))
  rw [hq, hsame]

end CellPool
