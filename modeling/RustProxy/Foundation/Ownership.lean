import RustProxy.Foundation.Program
import RustProxy.Foundation.Transition

/-!
# Tasks that own parts of the state

Tasks run programs over one state and interleave at every action.  The state consists of cells; a
task owns at most one of them at a time.

* `Cells` names the cells: `Frame i s s'` says that a step did nothing to cell `i` that its owner
  would mind, and a `Local i` action does nothing to the other cells.
* `Within` is the logic of a stretch of a program that only performs local actions of its cell: the
  assertions are about the cell, and the other tasks may move between any two actions.  The same
  proof serves a run of the program alone (`Within.run`).
* `Ownership` adds the bookkeeping: which cell a task holds after each action, what it means for a
  cell that nobody holds to be settled, and what an action that takes a cell may assume.  `Safe` is
  the proof outline of a whole program, `Safe.run` what it gives for a run alone and `Pool.inv_step`
  what it gives for a pool of tasks.
-/

variable {Op : Type → Type} {χ σ ι γ ρ : Type*} {α β : Type}

/-- The cells of a state: when a step leaves a cell alone, and which actions belong to a cell. -/
structure Cells (H : Semantics Op χ σ) (ι : Type*) where
  Frame : ι → σ → σ → Prop
  frame_refl : ∀ i s, Frame i s s
  frame_trans : ∀ {i s s' s''}, Frame i s s' → Frame i s' s'' → Frame i s s''
  Local : {β : Type} → ι → Op β → Prop
  frame_of_local : ∀ {β : Type} {i j : ι} {op : Op β} (c : χ) (s : σ), Local i op → j ≠ i →
    Frame j s (H.perform op c s).2

namespace Cells

variable {H : Semantics Op χ σ} (C : Cells H ι)

/-- The assertion is about the cell `i` only. -/
def Stable (i : ι) (P : σ → Prop) : Prop := ∀ s s', P s → C.Frame i s s' → P s'

/-- The program performs only local actions of `i`, and when it returns `Q` holds, whatever happens
to the other cells meanwhile. -/
def Within (i : ι) (Q : α → σ → Prop) : Prog Op α → σ → Prop
  | .ret a, s => ∀ s', C.Frame i s s' → Q a s'
  | .call op next, s => C.Local i op ∧ ∀ s', C.Frame i s s' → ∀ c,
      Within i Q (next (H.perform op c s').1) (H.perform op c s').2

variable {C} {i : ι} {P : σ → Prop} {Q : α → σ → Prop}

/-- What others do leaves the program within its cell. -/
lemma Within.of_frame {p : Prog Op α} {s s' : σ} (h : C.Within i Q p s) (hs : C.Frame i s s') :
    C.Within i Q p s' := by
  cases p with
  | ret a => exact fun s'' hs' => h s'' (C.frame_trans hs hs')
  | call op next => exact ⟨h.1, fun s'' hs' => h.2 s'' (C.frame_trans hs hs')⟩

/-- A program that has ended has only to be stable. -/
lemma within_ret {a : α} {s : σ} (hQ : C.Stable i (Q a)) (hs : Q a s) :
    C.Within i Q (.ret a) s := fun s' hs' => hQ s s' hs hs'

/-- One action, between assertions about its cell. -/
lemma within_call {op : Op β} {next : β → Prog Op α} {s : σ} (hP : C.Stable i P)
    (hlocal : C.Local i op) (hs : P s)
    (hstep : ∀ s c, P s → C.Within i Q (next (H.perform op c s).1) (H.perform op c s).2) :
    C.Within i Q (.call op next) s :=
  ⟨hlocal, fun s' hs' c => hstep s' c (hP s s' hs hs')⟩

/-- One operation that is local to the cell. -/
lemma within_lift {op : Op α} {s : σ} (hP : C.Stable i P) (hQ : ∀ a, C.Stable i (Q a))
    (hlocal : C.Local i op) (hs : P s)
    (hstep : ∀ s c, P s → Q (H.perform op c s).1 (H.perform op c s).2) :
    C.Within i Q (.lift op) s :=
  within_call hP hlocal hs fun s c h => within_ret (hQ _) (hstep s c h)

/-- One program after the other. -/
lemma Within.bind {R : β → σ → Prop} {p : Prog Op α} {f : α → Prog Op β} {s : σ}
    (h : C.Within i Q p s) (hf : ∀ a s', Q a s' → C.Within i R (f a) s') :
    C.Within i R (p >>= f) s := by
  induction p generalizing s with
  | ret a => exact hf a s (h s (C.frame_refl i s))
  | call op next ih => exact ⟨h.1, fun s' hs' c => ih _ (h.2 s' hs' c)⟩

/-- Alone, the program ends as its proof says and leaves the other cells alone. -/
theorem Within.run {p : Prog Op α} {s : σ} (h : C.Within i Q p s) (outcomes : Stream' χ) :
    Q (H.run p outcomes s).1 (H.run p outcomes s).2.2 ∧
      ∀ j ≠ i, C.Frame j s (H.run p outcomes s).2.2 := by
  induction p generalizing s outcomes with
  | ret a => exact ⟨h s (C.frame_refl i s), fun j _ => C.frame_refl j s⟩
  | call op next ih =>
      obtain ⟨hQ, hframe⟩ := ih _ (h.2 s (C.frame_refl i s) outcomes.head) outcomes.tail
      exact ⟨hQ, fun j hj => C.frame_trans (C.frame_of_local _ s h.1 hj) (hframe j hj)⟩

end Cells

/-! ## Ownership -/

/-- Bookkeeping of ownership: the ghost state of a task, how its actions change it, and the cell it
holds; the cells that no task holds are settled. -/
structure Ownership {H : Semantics Op χ σ} (C : Cells H ι) (γ : Type*) where
  start : γ
  held : γ → Option ι
  track : {β : Type} → γ → Op β → β → γ
  assumes : {β : Type} → γ → Op β → β → σ → Prop
  Settled : ι → σ → Prop
  held_start : held start = none
  settled_of_frame : ∀ {i s s'}, Settled i s → C.Frame i s s' → Settled i s'
  held_of_local : ∀ {β : Type} {i : ι} {g : γ} {op : Op β} (r : β), C.Local i op →
    held g = some i → held (track g op r) = some i

namespace Ownership

variable {H : Semantics Op χ σ} {C : Cells H ι} (D : Ownership C γ)

/-- What the other tasks leave alone for a task. -/
def Rely (g : γ) (s s' : σ) : Prop := ∀ i, D.held g = some i → C.Frame i s s'

/-- What a step of a task does for the others: it changes only cells it holds or takes, and settles
those it gives back. -/
def Guarantee (g g' : γ) (s s' : σ) : Prop :=
  (∀ i, D.held g ≠ some i → D.held g' ≠ some i → C.Frame i s s') ∧
    ∀ i, D.held g = some i → D.held g' ≠ some i → D.Settled i s'

/-- A step takes only settled cells, and meets what its action assumes. -/
def Takes (g g' : γ) (op : Op β) (r : β) (s : σ) : Prop :=
  (∀ i, D.held g ≠ some i → D.held g' = some i → D.Settled i s) ∧ D.assumes g op r s

/-- The proof outline of a program: each action, on a state the others may have changed, keeps the
guarantee, and at the end `Q` holds. -/
def Safe (Q : α → γ → Prop) : Prog Op α → γ → σ → Prop
  | .ret a, g, _ => Q a g
  | .call op next, g, s => ∀ s', D.Rely g s s' → ∀ c,
      D.Takes g (D.track g op (H.perform op c s').1) op (H.perform op c s').1 s' →
        D.Guarantee g (D.track g op (H.perform op c s').1) s' (H.perform op c s').2 ∧
          Safe Q (next (H.perform op c s').1) (D.track g op (H.perform op c s').1)
            (H.perform op c s').2

variable {D} {Q : α → γ → Prop}

/-- Nothing has changed. -/
lemma rely_refl (g : γ) (s : σ) : D.Rely g s s := fun i _ => C.frame_refl i s

/-- A task that holds nothing takes settled cells. -/
lemma Takes.settled {i : ι} {g g' : γ} {op : Op β} {r : β} {s : σ} (h : D.Takes g g' op r s)
    (hg : D.held g = none) (hg' : D.held g' = some i) : D.Settled i s := by
  refine h.1 i ?_ hg'
  rw [hg]
  exact (Option.some_ne_none i).symm

/-- A task that holds nothing has no cell to give back. -/
lemma guarantee_of_held_none {g g' : γ} {s s' : σ} (hg : D.held g = none)
    (hframe : ∀ i, D.held g' ≠ some i → C.Frame i s s') : D.Guarantee g g' s s' := by
  refine ⟨fun i _ hi => hframe i hi, ?_⟩
  intro i hi
  rw [hg] at hi
  cases hi

/-- What others do leaves the program safe. -/
lemma Safe.of_rely {p : Prog Op α} {g : γ} {s s' : σ} (h : D.Safe Q p g s) (hs : D.Rely g s s') :
    D.Safe Q p g s' := by
  cases p with
  | ret a => exact h
  | call op next =>
      exact fun s'' hs' => h s'' fun i hi => C.frame_trans (hs i hi) (hs' i hi)

/-- One program after the other. -/
lemma Safe.bind {R : β → γ → Prop} {p : Prog Op α} {f : α → Prog Op β} {g : γ} {s : σ}
    (h : D.Safe Q p g s) (hf : ∀ a g' s', Q a g' → D.Safe R (f a) g' s') :
    D.Safe R (p >>= f) g s := by
  induction p generalizing g s with
  | ret a => exact hf a g s h
  | call op next ih =>
      exact fun s' hs' c htakes => ⟨(h s' hs' c htakes).1, ih _ (h s' hs' c htakes).2⟩

/-- An action that leaves every cell alone, of a task that holds none. -/
lemma safe_quiet {op : Op β} {next : β → Prog Op α} {g : γ} {s : σ}
    (hframe : ∀ i c s, C.Frame i s (H.perform op c s).2)
    (hheld : ∀ r, D.held (D.track g op r) = D.held g)
    (hnext : ∀ s c, D.Safe Q (next (H.perform op c s).1) (D.track g op (H.perform op c s).1)
      (H.perform op c s).2) : D.Safe Q (.call op next) g s := by
  refine fun s' _ c _ => ⟨⟨fun i _ _ => hframe i c s', ?_⟩, hnext s' c⟩
  intro i hi hi'
  exact absurd ((hheld _).trans hi) hi'

/-- A stretch of local actions of the cell that is held. -/
theorem Safe.of_within {i : ι} {Q' : α → σ → Prop} {R : β → γ → Prop} {p : Prog Op α}
    {f : α → Prog Op β} {g : γ} {s : σ} (h : C.Within i Q' p s) (hg : D.held g = some i)
    (hf : ∀ a g' s', D.held g' = some i → Q' a s' → D.Safe R (f a) g' s') :
    D.Safe R (p >>= f) g s := by
  induction p generalizing g s with
  | ret a => exact hf a g s hg (h s (C.frame_refl i s))
  | call op next ih =>
      intro s' hs' c _
      have hg' : D.held (D.track g op (H.perform op c s').1) = some i :=
        D.held_of_local _ h.1 hg
      refine ⟨⟨?_, ?_⟩, ih _ (h.2 s' (hs' i hg) c) hg'⟩
      · intro j hj _
        refine C.frame_of_local c s' h.1 fun hji => hj ?_
        rw [hji, hg]
      · intro j hj hj'
        exact absurd (hg'.trans (hg.symm.trans hj)) hj'

/-! ## A program alone -/

/-- All cells but the one the task holds are settled. -/
def RestSettled (D : Ownership C γ) (g : γ) (s : σ) : Prop :=
  ∀ i, D.held g ≠ some i → D.Settled i s

/-- A step that a task may take leaves the others at rest settled. -/
lemma RestSettled.step {g g' : γ} {s s' : σ} (h : D.RestSettled g s)
    (hguar : D.Guarantee g g' s s') : D.RestSettled g' s' := by
  intro i hi
  by_cases hg : D.held g = some i
  · exact hguar.2 i hg hi
  · exact D.settled_of_frame (h i hg) (hguar.1 i hg hi)

/-- A program that runs alone from a settled state ends in a settled state; `K` is what the ghost
state of a task knows when nobody else moves. -/
theorem Safe.run {K : γ → σ → Prop} {p : Prog Op α} {g : γ} {s : σ} (h : D.Safe Q p g s)
    (hK : ∀ {β : Type} (g : γ) (op : Op β) (c : χ) (s : σ), K g s →
      D.assumes g op (H.perform op c s).1 s ∧
        (D.Guarantee g (D.track g op (H.perform op c s).1) s (H.perform op c s).2 →
          K (D.track g op (H.perform op c s).1) (H.perform op c s).2))
    (hs : D.RestSettled g s) (hgs : K g s) (outcomes : Stream' χ) :
    ∃ g', Q (H.run p outcomes s).1 g' ∧ D.RestSettled g' (H.run p outcomes s).2.2 := by
  induction p generalizing g s outcomes with
  | ret a => exact ⟨g, h, hs⟩
  | call op next ih =>
      obtain ⟨hassumes, hkeep⟩ := hK g op outcomes.head s hgs
      obtain ⟨hguar, hnext⟩ :=
        h s (rely_refl g s) outcomes.head ⟨fun i hi _ => hs i hi, hassumes⟩
      exact ih _ hnext (hs.step hguar) (hkeep hguar) outcomes.tail

end Ownership

/-! ## Pools of tasks -/

/-- A task: the rest of its program and its ghost state, which no program reads. -/
structure PoolTask (Op : Type → Type) (α : Type) (γ : Type*) where
  ghost : γ
  prog : Prog Op α

/-- Tasks over one state. -/
structure Pool (Op : Type → Type) (α : Type) (γ σ : Type*) where
  state : σ
  tasks : List (PoolTask Op α γ)

/-- What happens next: a task starts on a request, or a task performs its next action with an outcome
that the environment decides. -/
inductive PoolEvent (ρ χ : Type*) where
  | arrive (req : ρ)
  | step (i : ℕ) (outcome : χ)

namespace Pool

variable {H : Semantics Op χ σ} {C : Cells H ι} (D : Ownership C γ) (body : ρ → Prog Op α)
  (admits : {β : Type} → Op β → χ → σ → Bool)

/-- The next state of a pool; `none` when the task has returned or the state does not admit the
outcome. -/
def step (p : Pool Op α γ σ) : PoolEvent ρ χ → Option (Pool Op α γ σ)
  | .arrive req => some { p with tasks := p.tasks ++ [⟨D.start, body req⟩] }
  | .step i c =>
      match p.tasks[i]? with
      | some ⟨g, .call op next⟩ =>
          if admits op c p.state then
            let out := H.perform op c p.state
            some { state := out.2, tasks := p.tasks.set i ⟨D.track g op out.1, next out.1⟩ }
          else none
      | _ => none

/-- The next action of a task takes a cell only when no other task holds it, and meets what it
assumes. -/
def TakesAlone (p : Pool Op α γ σ) (i : ℕ) (c : χ) : PoolTask Op α γ → Prop
  | ⟨_, .ret _⟩ => True
  | ⟨g, .call op _⟩ =>
      (∀ cell ∈ D.held (D.track g op (H.perform op c p.state).1),
        ∀ t ∈ p.tasks.eraseIdx i, D.held t.ghost ≠ some cell) ∧
        D.assumes g op (H.perform op c p.state).1 p.state

/-- A step of the pool takes a cell only when no other task holds it. -/
def Exclusive (p : Pool Op α γ σ) : PoolEvent ρ χ → Prop
  | .arrive _ => True
  | .step i c => ∀ t ∈ p.tasks[i]?, TakesAlone D p i c t

section

variable [DecidableEq ι]
  [∀ {β : Type} (g : γ) (op : Op β) (r : β) (s : σ), Decidable (D.assumes g op r s)]

instance (p : Pool Op α γ σ) (i : ℕ) (c : χ) :
    ∀ t : PoolTask Op α γ, Decidable (TakesAlone D p i c t)
  | ⟨_, .ret _⟩ => .isTrue trivial
  | ⟨_, .call _ _⟩ => inferInstanceAs (Decidable (_ ∧ _))

instance (p : Pool Op α γ σ) : ∀ e : PoolEvent ρ χ, Decidable (Exclusive D p e)
  | .arrive _ => .isTrue trivial
  | .step i c => inferInstanceAs (Decidable (∀ t ∈ p.tasks[i]?, TakesAlone D p i c t))

end

/-- Every task has returned. -/
def Quiescent (p : Pool Op α γ σ) : Prop := ∀ t ∈ p.tasks, t.prog.result?.isSome

instance (p : Pool Op α γ σ) : Decidable p.Quiescent :=
  inferInstanceAs (Decidable (∀ t ∈ p.tasks, t.prog.result?.isSome = true))

/-- Cells have one holder, those without are settled, and every task is on its proof outline and
ends without a cell. -/
structure Inv (D : Ownership C γ) (p : Pool Op α γ σ) : Prop where
  distinct : ∀ (i j : ℕ) (t u : PoolTask Op α γ) (cell : ι), p.tasks[i]? = some t →
    p.tasks[j]? = some u → D.held t.ghost = some cell → D.held u.ghost = some cell → i = j
  settled : ∀ cell, (∀ t ∈ p.tasks, D.held t.ghost ≠ some cell) → D.Settled cell p.state
  safe : ∀ t ∈ p.tasks, D.Safe (fun _ g => D.held g = none) t.prog t.ghost p.state

variable {D body admits}

/-- When every task has returned, every cell is settled. -/
theorem Inv.settled_of_quiescent {p : Pool Op α γ σ} (h : Inv D p) (hq : p.Quiescent) (cell : ι) :
    D.Settled cell p.state := by
  apply h.settled cell
  intro t ht
  have hheld := h.safe t ht
  have hdone := hq t ht
  cases hprog : t.prog with
  | ret a =>
      rw [hprog] at hheld
      intro hcell
      exact absurd (hheld.symm.trans hcell) (Option.some_ne_none cell).symm
  | call op next =>
      rw [hprog] at hdone
      cases hdone

/-- What a step of a pool can be. -/
lemma step_cases {p p' : Pool Op α γ σ} {e : PoolEvent ρ χ}
    (h : step D body admits p e = some p') :
    (∃ req, e = .arrive req ∧
      p' = { p with tasks := p.tasks ++ [⟨D.start, body req⟩] }) ∨
    ∃ i c, ∃ g : γ, ∃ β : Type, ∃ (op : Op β) (next : β → Prog Op α), e = .step i c ∧
      p.tasks[i]? = some ⟨g, .call op next⟩ ∧ admits op c p.state = true ∧
      p' = ⟨(H.perform op c p.state).2, p.tasks.set i
        ⟨D.track g op (H.perform op c p.state).1, next (H.perform op c p.state).1⟩⟩ := by
  cases e with
  | arrive req => exact .inl ⟨req, rfl, (Option.some.inj h).symm⟩
  | step i c =>
      rw [step] at h
      split at h
      case h_1 g β op next htask =>
          split at h
          case isTrue hadmits =>
              exact .inr ⟨i, c, g, β, op, next, rfl, htask, hadmits, (Option.some.inj h).symm⟩
          case isFalse => cases h
      case h_2 => cases h

/-- The other tasks, by their place. -/
lemma mem_eraseIdx {l : List (PoolTask Op α γ)} {i j : ℕ} {t : PoolTask Op α γ} (hij : j ≠ i)
    (h : l[j]? = some t) : t ∈ l.eraseIdx i := by
  rw [List.mem_eraseIdx_iff_getElem?]
  exact ⟨j, hij, h⟩

/-- With no task, everything settled is the invariant. -/
lemma inv_start {s : σ} (hs : ∀ cell, D.Settled cell s) :
    Inv D (⟨s, []⟩ : Pool Op α γ σ) where
  distinct := fun i j t u cell ht => by simp at ht
  settled := fun cell _ => hs cell
  safe := fun t ht => by simp at ht

/-- A task after one has started is the new one, in the last place, or was there before. -/
lemma getElem?_append_cases {l : List (PoolTask Op α γ)} {j : ℕ} {t u : PoolTask Op α γ}
    (h : (l ++ [u])[j]? = some t) : (j = l.length ∧ t = u) ∨ l[j]? = some t := by
  rw [List.getElem?_append] at h
  split at h
  case isTrue => exact .inr h
  case isFalse hj =>
      have hlast := (List.getElem?_eq_some_iff.mp h).1
      rw [List.length_singleton] at hlast
      exact .inl ⟨by omega, List.mem_singleton.mp (List.mem_of_getElem? h)⟩

/-- A safe program may come in. -/
lemma inv_arrive {p : Pool Op α γ σ} (h : Inv D p) {prog : Prog Op α}
    (hprog : D.Safe (fun _ g => D.held g = none) prog D.start p.state) :
    Inv D { p with tasks := p.tasks ++ [⟨D.start, prog⟩] } := by
  have hmem : ∀ (i : ℕ) (t : PoolTask Op α γ) (cell : ι),
      (p.tasks ++ [⟨D.start, prog⟩])[i]? = some t → D.held t.ghost = some cell →
        p.tasks[i]? = some t := by
    intro i t cell ht hcell
    rcases getElem?_append_cases ht with ⟨-, rfl⟩ | ht
    · cases D.held_start.symm.trans hcell
    · exact ht
  refine ⟨?_, ?_, ?_⟩
  · intro i j t u cell ht hu htc huc
    exact h.distinct i j t u cell (hmem i t cell ht htc) (hmem j u cell hu huc) htc huc
  · intro cell hfree
    exact h.settled cell fun t ht => hfree t (List.mem_append_left _ ht)
  · intro t ht
    rcases List.mem_append.mp ht with ht | ht
    · exact h.safe t ht
    · rw [List.mem_singleton] at ht
      rw [ht]
      exact hprog

/-- A task of a list is the one at a given place or at another place. -/
lemma eq_or_getElem? {l : List (PoolTask Op α γ)} {i : ℕ} {t u : PoolTask Op α γ}
    (hu : l[i]? = some u) (ht : t ∈ l) : t = u ∨ ∃ j, j ≠ i ∧ l[j]? = some t := by
  obtain ⟨j, hj⟩ := List.mem_iff_getElem?.mp ht
  by_cases hji : j = i
  · subst hji
    exact .inl (Option.some.inj (hj.symm.trans hu))
  · exact .inr ⟨j, hji, hj⟩

/-- A task after one has been replaced is the new one, or was there before. -/
lemma getElem?_set_cases {l : List (PoolTask Op α γ)} {i j : ℕ} {t u : PoolTask Op α γ}
    (h : (l.set i u)[j]? = some t) : (j = i ∧ t = u) ∨ (j ≠ i ∧ l[j]? = some t) := by
  rw [List.getElem?_set] at h
  split at h
  case isTrue hij =>
      rw [Option.ite_none_right_eq_some] at h
      exact .inl ⟨hij.symm, (Option.some.inj h.2).symm⟩
  case isFalse hij => exact .inr ⟨Ne.symm hij, h⟩

/-- A step that is alone in taking a cell takes it settled. -/
lemma takes_of_takesAlone {p : Pool Op α γ σ} (h : Inv D p) {i : ℕ} {c : χ} {g : γ} {op : Op β}
    {next : β → Prog Op α} (htask : p.tasks[i]? = some ⟨g, .call op next⟩)
    (halone : TakesAlone D p i c ⟨g, .call op next⟩) :
    D.Takes g (D.track g op (H.perform op c p.state).1) op (H.perform op c p.state).1
      p.state := by
  refine ⟨fun cell hg hg' => h.settled cell ?_, halone.2⟩
  intro t ht hcell
  rcases eq_or_getElem? htask ht with rfl | ⟨j, hj, ht⟩
  · exact hg hcell
  · exact halone.1 cell hg' t (mem_eraseIdx hj ht) hcell

/-- A step of a task that is alone on its cell keeps the invariant. -/
lemma inv_perform {p : Pool Op α γ σ} (h : Inv D p) {i : ℕ} {c : χ} {g : γ} {op : Op β}
    {next : β → Prog Op α} (htask : p.tasks[i]? = some ⟨g, .call op next⟩)
    (hex : Exclusive D p (.step i c : PoolEvent ρ χ)) :
    Inv D ⟨(H.perform op c p.state).2, p.tasks.set i
      ⟨D.track g op (H.perform op c p.state).1, next (H.perform op c p.state).1⟩⟩ := by
  have halone := hex _ htask
  have hi : i < p.tasks.length := (List.getElem?_eq_some_iff.mp htask).1
  -- no other task has what this one has before or after its step
  have hother : ∀ j t cell, j ≠ i → p.tasks[j]? = some t → D.held t.ghost = some cell →
      D.held g ≠ some cell ∧ D.held (D.track g op (H.perform op c p.state).1) ≠ some cell :=
    fun j t cell hj ht hcell => ⟨fun hg => hj (h.distinct j i t _ cell ht htask hcell hg),
      fun hg => halone.1 cell hg t (mem_eraseIdx hj ht) hcell⟩
  obtain ⟨hguar, hnext⟩ := h.safe _ (List.mem_of_getElem? htask) p.state
    (Ownership.rely_refl g p.state) c (takes_of_takesAlone h htask halone)
  refine ⟨?_, ?_, ?_⟩
  · intro j k t u cell ht hu htc huc
    rcases getElem?_set_cases ht with ⟨rfl, rfl⟩ | ⟨hj, ht'⟩ <;>
      rcases getElem?_set_cases hu with ⟨rfl, rfl⟩ | ⟨hk, hu'⟩
    · rfl
    · exact absurd htc (hother k u cell hk hu' huc).2
    · exact absurd huc (hother j t cell hj ht' htc).2
    · exact h.distinct j k t u cell ht' hu' htc huc
  · intro cell hcell
    have hg' := hcell _ (List.mem_set hi _)
    by_cases hg : D.held g = some cell
    · exact hguar.2 cell hg hg'
    · refine D.settled_of_frame (h.settled cell fun t ht => ?_) (hguar.1 cell hg hg')
      rcases eq_or_getElem? htask ht with rfl | ⟨j, hj, ht⟩
      · exact hg
      · refine hcell t (List.mem_of_getElem? (i := j) ?_)
        rw [List.getElem?_set_ne (Ne.symm hj)]
        exact ht
  · intro t ht
    obtain ⟨j, ht⟩ := List.mem_iff_getElem?.mp ht
    rcases getElem?_set_cases ht with ⟨rfl, rfl⟩ | ⟨hj, ht'⟩
    · exact hnext
    · refine (h.safe t (List.mem_of_getElem? ht')).of_rely fun cell hcell => ?_
      have hne := hother j t cell hj ht' hcell
      exact hguar.1 cell hne.1 hne.2

/-- An exclusive step keeps the invariant, if every request's program has a proof outline. -/
theorem inv_step (hbody : ∀ req s, D.Safe (fun _ g => D.held g = none) (body req) D.start s)
    {p p' : Pool Op α γ σ} {e : PoolEvent ρ χ} (h : Inv D p) (hex : Exclusive D p e)
    (hstep : step D body admits p e = some p') : Inv D p' := by
  obtain ⟨req, rfl, rfl⟩ | ⟨i, c, g, β, op, next, rfl, htask, -, rfl⟩ := step_cases hstep
  · exact inv_arrive h (hbody req p.state)
  · exact inv_perform h htask hex

end Pool
