import Mathlib.Data.List.Basic
import Mathlib.Tactic.Common

/-!
# Checked indexing, slicing and addition, and loops that may abort

Programs whose indexings and additions abort when they are out of range, in `Except Abort`: `index`
and `slice` check the bounds of a byte string, `add` checks the sum against `limit`.  Each has one
equation for the case in which its check passes, and a program with only such steps does not abort.

`loop body fuel` runs a loop whose body may abort, go on or finish.  `loop_eq_ok` is its rule for
total correctness: an invariant, a measure that every round lowers, and the answer as a function of
the loop's state.
-/

namespace CheckedAccess

/-- Why a program aborts. -/
inductive Abort where
  | index (i len : ℕ)
  | slice (start stop len : ℕ)
  | overflow (sum : ℕ)
  deriving DecidableEq, Repr

variable {α : Type*}

/-- `data[i]`. -/
def index (data : List α) (i : ℕ) : Except Abort α :=
  match data[i]? with
  | some b => .ok b
  | none => .error (.index i data.length)

/-- `data[start..stop]`. -/
def slice (data : List α) (start stop : ℕ) : Except Abort (List α) :=
  if start ≤ stop ∧ stop ≤ data.length then .ok ((data.drop start).take (stop - start))
  else .error (.slice start stop data.length)

/-- `a + b` in a type whose largest value is `limit`. -/
def add (limit a b : ℕ) : Except Abort ℕ :=
  if a + b ≤ limit then .ok (a + b) else .error (.overflow (a + b))

/-- An index within the data gives the element. -/
lemma index_eq_ok {data : List α} {i : ℕ} (h : i < data.length) (d : α) :
    index data i = .ok (data.getD i d) := by
  unfold index
  rw [List.getD_eq_getElem?_getD, List.getElem?_eq_getElem h]
  rfl

/-- A range within the data gives its elements. -/
lemma slice_eq_ok {data : List α} {start stop : ℕ} (h : start ≤ stop) (hstop : stop ≤ data.length) :
    slice data start stop = .ok ((data.drop start).take (stop - start)) := if_pos ⟨h, hstop⟩

/-- A sum within the limit is the sum. -/
lemma add_eq_ok {limit a b : ℕ} (h : a + b ≤ limit) : add limit a b = .ok (a + b) := if_pos h

/-! ## Loops -/

/-- What one round of a loop ends with: the state of the next round, or the answer. -/
inductive Flow (σ ρ : Type*) where
  | next (s : σ)
  | done (r : ρ)
  deriving DecidableEq, Repr

variable {σ ρ ε : Type*}

/-- At most `fuel` rounds of the loop; `none` when they do not finish it. -/
def loop (body : σ → Except ε (Flow σ ρ)) : ℕ → σ → Except ε (Option ρ)
  | 0, _ => .ok none
  | fuel + 1, s =>
      match body s with
      | .error e => .error e
      | .ok (.done r) => .ok (some r)
      | .ok (.next s') => loop body fuel s'

/-- A loop whose rounds do not abort, keep the invariant and the answer, and lower the measure,
finishes with the answer. -/
theorem loop_eq_ok {body : σ → Except ε (Flow σ ρ)} (Inv : σ → Prop) (measure : σ → ℕ)
    (answer : σ → ρ)
    (hround : ∀ s, Inv s → body s = .ok (.done (answer s)) ∨
      ∃ s', body s = .ok (.next s') ∧ Inv s' ∧ measure s' < measure s ∧ answer s' = answer s)
    {fuel : ℕ} {s : σ} (hinv : Inv s) (hfuel : measure s < fuel) :
    loop body fuel s = .ok (some (answer s)) := by
  induction fuel generalizing s with
  | zero => omega
  | succ fuel ih =>
      unfold loop
      rcases hround s hinv with hdone | ⟨s', hnext, hinv', hlower, hanswer⟩
      · simp only [hdone]
      · simp only [hnext]
        rw [ih hinv' (by omega), hanswer]

end CheckedAccess
