import Mathlib.Data.List.Basic
import Mathlib.Order.Basic

/-!
# Broadcast channels that drop the oldest

A channel with any number of receivers, each of which gets every value that is sent after it has
subscribed, unless it falls behind by more than the channel can keep.  Then it is told how many values
it has missed and goes on with the oldest one that is kept.

* A receiver is its cursor, the number of values that were sent before the next one it reads.
* `recv_cases` says what a receiver is given; `backlog` is what it has to do to be up to date, and
  every `recv` makes it smaller (`backlog_lt_of_recv`).
-/

/-- A broadcast channel: what has been sent, the first value first. -/
structure Broadcast (μ : Type*) where
  capacity : ℕ
  sent : List μ
  capacity_pos : 0 < capacity

namespace Broadcast

variable {μ : Type*}

/-- No value has been sent. -/
def empty (μ : Type*) (capacity : ℕ) (hpos : 0 < capacity) : Broadcast μ where
  capacity := capacity
  sent := []
  capacity_pos := hpos

/-- `Sender::send` -/
def send (ch : Broadcast μ) (value : μ) : Broadcast μ := { ch with sent := ch.sent ++ [value] }

/-- The number of values that have been sent, and the cursor of a new receiver. -/
def tail (ch : Broadcast μ) : ℕ := ch.sent.length

/-- The oldest value that is kept. -/
def oldest (ch : Broadcast μ) : ℕ := ch.tail - ch.capacity

/-- `Receiver::recv`, with the new cursor; `none` when the receiver has to wait, `.error n` when it has
missed `n` values. -/
def recv (ch : Broadcast μ) (cursor : ℕ) : Option (Except ℕ μ × ℕ) :=
  if cursor < ch.oldest then some (.error (ch.oldest - cursor), ch.oldest)
  else (ch.sent[cursor]?).map fun value => (.ok value, cursor + 1)

/-- The number of times a receiver has to be called until nothing is unread. -/
def backlog (ch : Broadcast μ) (cursor : ℕ) : ℕ :=
  if cursor < ch.oldest then ch.capacity + 1 else ch.tail - cursor

variable {ch : Broadcast μ} {cursor cursor' : ℕ}

/-- Nothing has been sent yet. -/
@[simp] lemma tail_empty (capacity : ℕ) (hpos : 0 < capacity) :
    (empty μ capacity hpos).tail = 0 := rfl

/-- One more value has been sent. -/
@[simp] lemma tail_send (value : μ) : (ch.send value).tail = ch.tail + 1 := by
  rw [tail, send, List.length_append, List.length_singleton, tail]

/-- A receiver waits exactly when nothing is unread. -/
lemma recv_eq_none_iff : ch.recv cursor = none ↔ ch.tail ≤ cursor := by
  unfold recv oldest
  have hpos := ch.capacity_pos
  split
  case isTrue hlag => exact iff_of_false nofun (by omega)
  case isFalse => rw [Option.map_eq_none_iff, List.getElem?_eq_none_iff, tail]

/-- What a receiver is given: the next value, or the news that it lags; then a value is unread. -/
lemma recv_cases {result : Except ℕ μ} (h : ch.recv cursor = some (result, cursor')) :
    (∃ value, result = .ok value ∧ ¬ cursor < ch.oldest ∧ cursor' = cursor + 1 ∧ cursor' ≤ ch.tail) ∨
      (∃ n, result = .error n ∧ cursor < ch.oldest ∧ cursor' = ch.oldest ∧ cursor' < ch.tail) := by
  have hpos := ch.capacity_pos
  unfold recv at h
  split at h
  case isTrue hlag =>
    cases h
    refine Or.inr ⟨_, rfl, hlag, rfl, ?_⟩
    unfold oldest at hlag ⊢
    omega
  case isFalse hlag =>
    obtain ⟨value, hvalue, heq⟩ := Option.map_eq_some_iff.mp h
    cases heq
    obtain ⟨hlt, -⟩ := List.getElem?_eq_some_iff.mp hvalue
    exact Or.inl ⟨value, rfl, hlag, rfl, hlt⟩

variable (ch cursor) in
/-- A backlog is never longer than what the channel keeps, and one lag. -/
lemma backlog_le : ch.backlog cursor ≤ ch.capacity + 1 := by
  unfold backlog oldest
  split
  · exact Nat.le_refl _
  · omega

/-- Every call of a receiver makes its backlog smaller. -/
lemma backlog_lt_of_recv {result : Except ℕ μ} (h : ch.recv cursor = some (result, cursor')) :
    ch.backlog cursor' < ch.backlog cursor := by
  have hpos := ch.capacity_pos
  rcases recv_cases h with ⟨value, -, hlag, rfl, hle⟩ | ⟨n, -, hlag, rfl, hlt⟩
  · unfold backlog
    rw [if_neg hlag, if_neg fun h => hlag (Nat.lt_of_succ_lt h)]
    omega
  · unfold backlog
    rw [if_pos hlag, if_neg (Nat.lt_irrefl _)]
    unfold oldest
    omega

end Broadcast
