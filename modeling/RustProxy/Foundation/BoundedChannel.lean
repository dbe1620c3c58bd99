import Mathlib.Data.List.Basic
import Mathlib.Tactic.Common

/-!
# Bounded channels

A channel with a capacity and one receiver.  A task that sends is parked until there is room for its
message; room is given out in the order in which the tasks were parked, so the first `room` parked
tasks may finish their sends and the others are blocked.  Once the receiver is dropped every send
fails at once and nobody is blocked.

* `park`, `complete`, `abandon`, `recv` and `close` are what senders and the receiver do.
* `blocked_*` say what each of them does to the set of blocked tasks: only `park` can enlarge it.
-/

/-- A bounded channel of messages `μ`, with the tasks `τ` whose sends are pending. -/
structure Channel (τ μ : Type*) where
  queue : List μ
  parked : List τ
  closed : Bool

namespace Channel

variable {τ μ : Type*}

/-- A new channel. -/
def empty : Channel τ μ := { queue := [], parked := [], closed := false }

/-- The messages there is room for. -/
def room (cap : ℕ) (ch : Channel τ μ) : ℕ := cap - ch.queue.length

/-- A parked task that may finish its send. -/
def Permitted (cap : ℕ) (ch : Channel τ μ) (t : τ) : Prop := t ∈ ch.parked.take (ch.room cap)

instance [DecidableEq τ] (cap : ℕ) (ch : Channel τ μ) (t : τ) : Decidable (ch.Permitted cap t) :=
  inferInstanceAs (Decidable (t ∈ ch.parked.take (ch.room cap)))

/-- A parked task that waits for room. -/
def Blocked (cap : ℕ) (ch : Channel τ μ) (t : τ) : Prop :=
  ch.closed = false ∧ t ∈ ch.parked.drop (ch.room cap)

/-- A task starts to send. -/
def park (ch : Channel τ μ) (t : τ) : Channel τ μ := { ch with parked := ch.parked ++ [t] }

/-- The message is taken off by the receiver. -/
def recv (ch : Channel τ μ) : Channel τ μ := { ch with queue := ch.queue.tail }

/-- The receiver is dropped. -/
def close (ch : Channel τ μ) : Channel τ μ := { ch with closed := true }

variable [DecidableEq τ]

/-- A permitted task puts its message onto the queue. -/
def complete (ch : Channel τ μ) (t : τ) (msg : μ) : Channel τ μ :=
  { ch with queue := ch.queue ++ [msg], parked := ch.parked.erase t }

/-- A task gives its send up, since the receiver is gone. -/
def abandon (ch : Channel τ μ) (t : τ) : Channel τ μ := { ch with parked := ch.parked.erase t }

/-! ## Who is blocked -/

omit [DecidableEq τ] in
/-- Who is blocked is parked. -/
lemma Blocked.mem_parked {cap : ℕ} {ch : Channel τ μ} {t : τ} (h : ch.Blocked cap t) :
    t ∈ ch.parked := List.mem_of_mem_drop h.2

omit [DecidableEq τ] in
/-- Only the task that starts to send can become blocked, and only without room for it. -/
lemma blocked_park {cap : ℕ} {ch : Channel τ μ} {t u : τ} (h : (ch.park t).Blocked cap u) :
    ch.Blocked cap u ∨ u = t ∧ ch.closed = false ∧ ch.room cap ≤ ch.parked.length := by
  obtain ⟨hopen, hmem⟩ := h
  have hmem : u ∈ (ch.parked ++ [t]).drop (ch.room cap) := hmem
  rw [List.drop_append] at hmem
  rcases List.mem_append.mp hmem with hmem | hmem
  · exact Or.inl ⟨hopen, hmem⟩
  · refine Or.inr ⟨by simpa using List.mem_of_mem_drop hmem, hopen, ?_⟩
    by_contra hroom
    have hdrop : List.drop (ch.room cap - ch.parked.length) [t] = [] :=
      List.drop_eq_nil_of_le (by simp; omega)
    rw [hdrop] at hmem
    cases hmem

omit [DecidableEq τ] in
/-- Without room the task that starts to send is blocked. -/
lemma blocked_park_self {cap : ℕ} {ch : Channel τ μ} {t : τ} (hopen : ch.closed = false)
    (hfull : ch.room cap ≤ ch.parked.length) : (ch.park t).Blocked cap t := by
  have hmem : t ∈ (ch.parked ++ [t]).drop (ch.room cap) := by
    rw [List.drop_append_of_le_length hfull]
    simp
  exact ⟨hopen, hmem⟩

/-- A send that finishes blocks nobody. -/
lemma blocked_complete {cap : ℕ} {ch : Channel τ μ} {t u : τ} {msg : μ}
    (ht : ch.Permitted cap t) (h : (ch.complete t msg).Blocked cap u) : ch.Blocked cap u := by
  obtain ⟨hopen, hmem⟩ := h
  refine ⟨hopen, ?_⟩
  have hroom : (ch.complete t msg).room cap = ch.room cap - 1 := by
    simp only [complete, room, List.length_append, List.length_singleton]
    omega
  rw [hroom] at hmem
  unfold Permitted at ht
  generalize ch.room cap = n at ht hmem ⊢
  have hsplit : ch.parked.erase t = (ch.parked.take n).erase t ++ ch.parked.drop n := by
    conv_lhs => rw [← List.take_append_drop n ch.parked]
    exact List.erase_append_left _ ht
  have hlen : ((ch.parked.take n).erase t).length ≤ n - 1 := by
    rw [List.length_erase_of_mem ht, List.length_take]
    omega
  rw [complete, hsplit, List.drop_append, List.drop_eq_nil_of_le hlen, List.nil_append] at hmem
  exact List.mem_of_mem_drop hmem

omit [DecidableEq τ] in
/-- A message that is received blocks nobody. -/
lemma blocked_recv {cap : ℕ} {ch : Channel τ μ} {u : τ} (h : ch.recv.Blocked cap u) :
    ch.Blocked cap u := by
  obtain ⟨hopen, hmem⟩ := h
  refine ⟨hopen, ?_⟩
  have hroom : ch.room cap ≤ ch.recv.room cap := by
    simp only [recv, room, List.length_tail]
    omega
  exact (List.drop_subset_drop_left ch.parked hroom) hmem

omit [DecidableEq τ] in
/-- A dropped receiver blocks nobody. -/
lemma not_blocked_close {cap : ℕ} {ch : Channel τ μ} {u : τ} : ¬ ch.close.Blocked cap u := by
  rintro ⟨hopen, -⟩
  cases hopen

omit [DecidableEq τ] in
/-- A closed channel blocks nobody. -/
lemma not_blocked_of_closed {cap : ℕ} {ch : Channel τ μ} {u : τ} (hclosed : ch.closed = true) :
    ¬ ch.Blocked cap u := by
  rintro ⟨hopen, -⟩
  simp [hclosed] at hopen

end Channel
