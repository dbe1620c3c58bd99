import Mathlib.Data.List.Basic

/-!
# Copies that follow a stream of messages

A receiver keeps a copy of a table and applies the messages of a FIFO stream to it one after another.

* `replay apply t ms` is the copy after the messages.
* `AtEach apply ok t ms` says that every message is `ok` for the copy it finds when its turn comes.
* A copy whose entries change one by one is given by `view` and `effect`: what a message does to the
  entry of a key depends on that entry only.  If moreover a message either overwrites an entry or
  leaves it alone, so does a stream (`overwrites_or_keeps`).
-/

variable {τ μ κ ν : Type*} (apply : τ → μ → τ)

/-- The copy after the messages. -/
def replay (t : τ) (ms : List μ) : τ := ms.foldl apply t

/-- Every message is `ok` for the copy that it is applied to. -/
def AtEach (ok : τ → μ → Prop) : τ → List μ → Prop
  | _, [] => True
  | t, m :: ms => ok t m ∧ AtEach ok (apply t m) ms

namespace Replay

variable {apply} {ok : τ → μ → Prop} {t t' : τ} {m : μ} {ms ns : List μ}

/-- No message changes nothing. -/
@[simp] lemma replay_nil (t : τ) : replay apply t [] = t := rfl

/-- The first message comes first. -/
@[simp] lemma replay_cons (t : τ) (m : μ) (ms : List μ) :
    replay apply t (m :: ms) = replay apply (apply t m) ms := rfl

/-- Messages one after the other. -/
lemma replay_append (t : τ) (ms ns : List μ) :
    replay apply t (ms ++ ns) = replay apply (replay apply t ms) ns := List.foldl_append

/-- A condition at each of two parts. -/
lemma atEach_append : AtEach apply ok t (ms ++ ns) ↔
    AtEach apply ok t ms ∧ AtEach apply ok (replay apply t ms) ns := by
  induction ms generalizing t with
  | nil => exact (true_and _).symm.to_iff
  | cons m ms ih =>
      rw [List.cons_append, AtEach, AtEach, ih, replay_cons, and_assoc]

/-- A condition at one message. -/
lemma atEach_singleton : AtEach apply ok t [m] ↔ ok t m := and_iff_left trivial

/-- A message that changes nothing can be put in anywhere. -/
lemma replay_insert (hm : ∀ t, apply t m = t) (t : τ) (ms ns : List μ) :
    replay apply t (ms ++ m :: ns) = replay apply t (ms ++ ns) := by
  rw [replay_append, replay_append, replay_cons, hm]

/-- So can one that is always `ok`. -/
lemma atEach_insert (hm : ∀ t, apply t m = t) (hok : ∀ t, ok t m) :
    AtEach apply ok t (ms ++ m :: ns) ↔ AtEach apply ok t (ms ++ ns) := by
  rw [atEach_append, atEach_append, AtEach, hm, and_iff_right (hok _)]

/-- Messages that are `ok` whatever the copy. -/
lemma atEach_of_forall (h : ∀ m ∈ ms, ∀ t, ok t m) : AtEach apply ok t ms := by
  induction ms generalizing t with
  | nil => trivial
  | cons m ms ih =>
      exact ⟨h m List.mem_cons_self t, ih fun n hn => h n (List.mem_cons_of_mem m hn)⟩

/-! ## Entries -/

section

variable {view : τ → κ → ν} {effect : μ → κ → ν → ν}
  (heffect : ∀ t m k, view (apply t m) k = effect m k (view t k))

include heffect

/-- The stream acts on each entry alone. -/
lemma view_replay (t : τ) (ms : List μ) (k : κ) :
    view (replay apply t ms) k = ms.foldl (fun v m => effect m k v) (view t k) := by
  induction ms generalizing t with
  | nil => rfl
  | cons m ms ih => rw [replay_cons, ih, heffect, List.foldl_cons]

/-- An entry that no message changes. -/
lemma view_replay_of_keeps {k : κ} (h : ∀ m ∈ ms, ∀ v, effect m k v = v) (t : τ) :
    view (replay apply t ms) k = view t k := by
  induction ms generalizing t with
  | nil => rfl
  | cons m ms ih =>
      rw [replay_cons, ih fun n hn => h n (List.mem_cons_of_mem m hn), heffect,
        h m List.mem_cons_self]

/-- Copies that agree at a key do so after the stream. -/
lemma view_replay_congr {k : κ} (h : view t k = view t' k) (ms : List μ) :
    view (replay apply t ms) k = view (replay apply t' ms) k := by
  rw [view_replay heffect, view_replay heffect, h]

/-- Messages that look at entries on which two copies agree are `ok` for one as for the other. -/
lemma atEach_congr (reads : μ → κ → Prop)
    (hok : ∀ t t' m, (∀ k, reads m k → view t k = view t' k) → ok t m → ok t' m)
    (h : ∀ m ∈ ms, ∀ k, reads m k → view t k = view t' k) (hms : AtEach apply ok t ms) :
    AtEach apply ok t' ms := by
  induction ms generalizing t t' with
  | nil => trivial
  | cons m ms ih =>
      refine ⟨hok t t' m (h m List.mem_cons_self) hms.1, ih ?_ hms.2⟩
      intro n hn k hk
      rw [heffect, heffect, h n (List.mem_cons_of_mem m hn) k hk]

/-- If each message overwrites an entry or leaves it alone, so does a stream of them: the entry after
the stream is the one it would be from another copy, or the one it was. -/
lemma overwrites_or_keeps (hmessage : ∀ m k, (∀ v v', effect m k v = effect m k v') ∨
      ∀ v, effect m k v = v) (t t' : τ) (ms : List μ) (k : κ) :
    view (replay apply t ms) k = view (replay apply t' ms) k ∨
      view (replay apply t ms) k = view t k := by
  induction ms generalizing t t' with
  | nil => exact Or.inr rfl
  | cons m ms ih =>
      rw [replay_cons, replay_cons]
      rcases hmessage m k with hover | hkeep
      · refine Or.inl (view_replay_congr heffect ?_ ms)
        rw [heffect, heffect, hover _ (view t' k)]
      · refine (ih (apply t m) (apply t' m)).imp_right fun h => ?_
        rw [h, heffect, hkeep]

end

end Replay
