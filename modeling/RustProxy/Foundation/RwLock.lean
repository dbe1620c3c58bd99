import Mathlib.Data.List.Basic
import Mathlib.Tactic.Common

/-!
# A fair read-write lock

A lock that any number of readers or one writer may hold.  Requests are served first in, first out:
a request is granted at once only if nobody waits before it, and a release grants the requests at
the front of the queue as far as they fit.

* That a writer excludes readers is a field of `RwLock`, so every lock that can be built satisfies
  it.
* `Holds` and `Waits` say what a task has to do with the lock; `holds_*` and `waits_*` say what
  `request` and `release` do to them.
* `users` are the tasks that hold the lock or wait for it; a request adds one, a release takes one
  away.  `Tidy` is the invariant of a lock that is used as it should be: nobody uses it twice, and
  nobody waits for a lock that nobody holds.
-/

/-- What a task wants the lock for. -/
inductive Access where
  | read
  | write
  deriving DecidableEq, Repr

/-- A fair read-write lock over a type of tasks. -/
structure RwLock (τ : Type*) where
  /-- The tasks that hold a read guard. -/
  readers : List τ
  /-- The task that holds the write guard. -/
  writer : Option τ
  /-- The tasks that wait, the oldest first. -/
  queue : List (τ × Access)
  /-- A writer is alone. -/
  exclusive : writer ≠ none → readers = []

namespace RwLock

variable {τ : Type*}

/-- A lock nobody uses. -/
def free : RwLock τ where
  readers := []
  writer := none
  queue := []
  exclusive := fun _ => rfl

/-- The task holds a guard. -/
def Holds (l : RwLock τ) (t : τ) : Prop := t ∈ l.readers ∨ l.writer = some t

/-- The task is queued. -/
def Waits (l : RwLock τ) (t : τ) : Prop := t ∈ l.queue.map Prod.fst

/-- The guard is given, if it can be given now. -/
def grant (l : RwLock τ) (t : τ) : Access → Option (RwLock τ)
  | .read =>
      if hfree : l.writer = none then
        some { l with
          readers := t :: l.readers
          exclusive := fun hne => absurd hfree hne }
      else none
  | .write =>
      if hfree : l.writer = none ∧ l.readers = [] then
        some { l with
          writer := some t
          exclusive := fun _ => hfree.2 }
      else none

/-- The queued requests are granted from the front as long as they fit. -/
def promote (l : RwLock τ) : List (τ × Access) → RwLock τ
  | [] => { l with queue := [] }
  | (t, access) :: rest =>
      match l.grant t access with
      | some l' => promote l' rest
      | none => { l with queue := (t, access) :: rest }

/-- A task asks for the lock. -/
def request (l : RwLock τ) (t : τ) (access : Access) : RwLock τ :=
  if l.queue = [] then (l.grant t access).getD { l with queue := [(t, access)] }
  else { l with queue := l.queue ++ [(t, access)] }

/-- The tasks that hold a guard or are queued. -/
def users (l : RwLock τ) : List τ := l.writer.toList ++ l.readers ++ l.queue.map Prod.fst

variable [DecidableEq τ]

instance (l : RwLock τ) (t : τ) : Decidable (l.Holds t) :=
  inferInstanceAs (Decidable (t ∈ l.readers ∨ l.writer = some t))

instance (l : RwLock τ) (t : τ) : Decidable (l.Waits t) :=
  inferInstanceAs (Decidable (t ∈ l.queue.map Prod.fst))

/-- A task gives its guard back. -/
def release (l : RwLock τ) (t : τ) : RwLock τ :=
  { l with
    readers := l.readers.filter (· ≠ t)
    writer := if l.writer = some t then none else l.writer
    exclusive := by
      intro hne
      have hwriter : l.writer ≠ none := by
        intro hnone
        simp [hnone] at hne
      rw [l.exclusive hwriter]
      rfl }.promote l.queue

/-! ## Granting -/

omit [DecidableEq τ] in
/-- A guard that is given leaves the queue. -/
lemma grant_queue {l l' : RwLock τ} {t : τ} {access : Access} (h : l.grant t access = some l') :
    l'.queue = l.queue := by
  unfold grant at h
  split at h <;> split at h <;> cases h <;> rfl

omit [DecidableEq τ] in
/-- Who holds a guard keeps it when another one is given. -/
lemma holds_of_grant {l l' : RwLock τ} {t u : τ} {access : Access}
    (h : l.grant t access = some l') (hu : l.Holds u) : l'.Holds u := by
  cases access with
  | read =>
      simp only [grant] at h
      split at h <;> cases h
      exact hu.imp_left (List.mem_cons_of_mem t)
  | write =>
      simp only [grant] at h
      split at h
      · case isTrue hfree =>
        rcases hu with hu | hu
        · simp [hfree.2] at hu
        · simp [hfree.1] at hu
      · cases h

omit [DecidableEq τ] in
/-- Who holds a guard keeps it when the queue moves. -/
lemma holds_promote {l : RwLock τ} {u : τ} (q : List (τ × Access)) (hu : l.Holds u) :
    (l.promote q).Holds u := by
  induction q generalizing l with
  | nil => exact hu
  | cons r rest ih =>
      unfold promote
      split
      · case h_1 l' hgrant => exact ih (holds_of_grant hgrant hu)
      · exact hu

omit [DecidableEq τ] in
/-- Who waits was in the queue. -/
lemma waits_promote {l : RwLock τ} {u : τ} (q : List (τ × Access)) (hu : (l.promote q).Waits u) :
    u ∈ q.map Prod.fst := by
  induction q generalizing l with
  | nil => exact hu
  | cons r rest ih =>
      unfold promote at hu
      split at hu
      · exact List.mem_cons_of_mem _ (ih hu)
      · exact hu

/-! ## Requests and releases -/

omit [DecidableEq τ] in
/-- A request takes nobody's guard away. -/
lemma holds_request {l : RwLock τ} {u : τ} (t : τ) (access : Access) (hu : l.Holds u) :
    (l.request t access).Holds u := by
  unfold request
  split
  · cases hgrant : l.grant t access with
    | some l' => exact holds_of_grant hgrant hu
    | none => exact hu
  · exact hu

omit [DecidableEq τ] in
/-- A request queues no other task. -/
lemma waits_request {l : RwLock τ} {t u : τ} {access : Access}
    (hu : (l.request t access).Waits u) : l.Waits u ∨ u = t := by
  unfold request at hu
  split at hu
  · cases hgrant : l.grant t access with
    | some l' =>
        rw [hgrant, Option.getD_some, Waits, grant_queue hgrant] at hu
        exact Or.inl hu
    | none =>
        rw [hgrant, Option.getD_none] at hu
        exact Or.inr (by simpa [Waits] using hu)
  · simpa [Waits, or_comm, eq_comm] using hu

omit [DecidableEq τ] in
/-- Whoever wants to write while somebody holds a guard has to wait. -/
lemma waits_of_request_write {l : RwLock τ} {t u : τ} (hu : l.Holds u) :
    (l.request t .write).Waits t := by
  have hnone : l.grant t .write = none := by
    refine dif_neg ?_
    rintro ⟨hwriter, hreaders⟩
    rcases hu with hu | hu
    · simp [hreaders] at hu
    · simp [hwriter] at hu
  unfold request
  split
  · rw [hnone]
    simp [Waits]
  · simp [Waits]

/-- A release takes no other task's guard away. -/
lemma holds_release {l : RwLock τ} {t u : τ} (hne : u ≠ t) (hu : l.Holds u) :
    (l.release t).Holds u := by
  refine holds_promote _ ?_
  rcases hu with hu | hu
  · exact Or.inl (by simpa [hne] using hu)
  · have hwriter : l.writer ≠ some t := by
      rw [hu]
      simpa using hne
    exact Or.inr ((if_neg hwriter).trans hu)

/-- A release queues nobody. -/
lemma waits_release {l : RwLock τ} {t u : τ} (hu : (l.release t).Waits u) : l.Waits u :=
  waits_promote _ hu

omit [DecidableEq τ] in
/-- Beside a writer nobody holds the lock. -/
lemma eq_of_holds_of_writer {l : RwLock τ} {t u : τ} (hwriter : l.writer = some t)
    (hu : l.Holds u) : u = t := by
  rcases hu with hu | hu
  · rw [l.exclusive (by simp [hwriter])] at hu
    cases hu
  · rw [hwriter] at hu
    exact (Option.some.inj hu).symm

omit [DecidableEq τ] in
/-- A lock nobody uses is given to a reader at once. -/
lemma mem_readers_free_request (t : τ) : t ∈ ((free : RwLock τ).request t .read).readers := by
  simp [request, grant, free]

omit [DecidableEq τ] in
/-- Nobody uses a free lock. -/
lemma not_mem_users_free (t : τ) : t ∉ (free : RwLock τ).users := List.not_mem_nil

omit [DecidableEq τ] in
/-- A lock nobody uses is given to whoever asks for it. -/
lemma holds_free_request (t : τ) (access : Access) : ((free : RwLock τ).request t access).Holds t := by
  cases access <;> simp [Holds, request, grant, free]

/-- A lock is free again after its only user. -/
lemma release_free_request (t : τ) (access : Access) :
    ((free : RwLock τ).request t access).release t = free := by
  cases access <;> simp [request, grant, free, release, promote]

/-! ## Writers -/

omit [DecidableEq τ] in
/-- A request leaves the writer in place. -/
lemma writer_request {l : RwLock τ} {u : τ} (t : τ) (access : Access) (hu : l.writer = some u) :
    (l.request t access).writer = some u := by
  unfold request
  split
  · cases access <;> simp [grant, hu]
  · exact hu

/-- A release by somebody else leaves the writer in place. -/
lemma writer_release {l : RwLock τ} {t u : τ} (hne : u ≠ t) (hu : l.writer = some u) :
    (l.release t).writer = some u := by
  have hpromote : ∀ (q : List (τ × Access)) {l : RwLock τ}, l.writer = some u →
      (l.promote q).writer = some u := by
    intro q
    cases q with
    | nil => exact id
    | cons r rest =>
        intro l hl
        have hnone : l.grant r.1 r.2 = none := by
          cases r.2 <;> simp [grant, hl]
        rw [promote, hnone]
        exact hl
  refine hpromote _ ?_
  simpa [hu] using hne

omit [DecidableEq τ] in
/-- A queued request stays queued when another task asks. -/
lemma mem_queue_request {l : RwLock τ} {r : τ × Access} (t : τ) (access : Access) (hr : r ∈ l.queue) :
    r ∈ (l.request t access).queue := by
  unfold request
  rw [if_neg (List.ne_nil_of_mem hr)]
  exact List.mem_append_left _ hr

/-- Who waits to write is not let in while somebody holds a guard that is not given back. -/
lemma mem_queue_release {l : RwLock τ} {t u v : τ} (hne : v ≠ t) (hv : l.Holds v)
    (hu : (u, .write) ∈ l.queue) : (u, .write) ∈ (l.release t).queue := by
  have hpromote : ∀ (q : List (τ × Access)) {l : RwLock τ}, l.Holds v → (u, .write) ∈ q →
      (u, .write) ∈ (l.promote q).queue := by
    intro q
    induction q with
    | nil => exact fun _ h => h
    | cons r rest ih =>
        intro l hl hmem
        unfold promote
        split
        · case h_1 l' hgrant =>
          rcases List.mem_cons.mp hmem with rfl | hrest
          · -- whoever holds a guard keeps a writer out
            simp only [grant] at hgrant
            split at hgrant
            · case isTrue hfree =>
              rcases hl with hl | hl
              · simp [hfree.2] at hl
              · simp [hfree.1] at hl
            · cases hgrant
          · exact ih (holds_of_grant hgrant hl) hrest
        · exact hmem
  refine hpromote _ ?_ hu
  rcases hv with hv | hv
  · exact Or.inl (by simpa [hne] using hv)
  · exact Or.inr ((if_neg (by rw [hv]; simpa using hne)).trans hv)

/-! ## Users -/

omit [DecidableEq τ] in
/-- A task uses the lock if it holds a guard or waits for one. -/
lemma mem_users_iff {l : RwLock τ} {u : τ} : u ∈ l.users ↔ l.Holds u ∨ l.Waits u := by
  simp [users, Holds, Waits]
  tauto

omit [DecidableEq τ] in
/-- Who is granted a guard holds it beside those who held one. -/
lemma perm_grant {l l' : RwLock τ} {t : τ} {access : Access} (h : l.grant t access = some l') :
    (l'.writer.toList ++ l'.readers).Perm (t :: (l.writer.toList ++ l.readers)) := by
  cases access with
  | read =>
      simp only [grant] at h
      split at h <;> cases h
      case isTrue.refl hfree => simp [hfree]
  | write =>
      simp only [grant] at h
      split at h <;> cases h
      case isTrue.refl hfree => simp [hfree.1, hfree.2]

omit [DecidableEq τ] in
/-- Granting queued requests makes waiting tasks holders, and nothing else. -/
lemma perm_promote (l : RwLock τ) (q : List (τ × Access)) :
    (l.promote q).users.Perm (l.writer.toList ++ l.readers ++ q.map Prod.fst) := by
  induction q generalizing l with
  | nil => exact List.Perm.refl _
  | cons r rest ih =>
      unfold promote
      split
      · case h_1 l' hgrant =>
        refine (ih l').trans (((perm_grant hgrant).append_right _).trans ?_)
        exact List.perm_middle.symm
      · exact List.Perm.refl _

omit [DecidableEq τ] in
/-- A request makes the task a user. -/
lemma users_request (l : RwLock τ) (t : τ) (access : Access) :
    (l.request t access).users.Perm (t :: l.users) := by
  unfold request
  split
  · case isTrue hqueue =>
    cases hgrant : l.grant t access with
    | some l' =>
        rw [Option.getD_some, users, users, grant_queue hgrant]
        exact (perm_grant hgrant).append_right _
    | none =>
        simp only [Option.getD_none, users, hqueue]
        simpa using List.perm_append_singleton t (l.writer.toList ++ l.readers)
  · simp only [users, List.map_append, List.map_cons, List.map_nil, ← List.append_assoc]
    exact List.perm_append_singleton t _

/-- A release takes the task from the users, and nobody else. -/
lemma users_release {l : RwLock τ} {t : τ} (ht : ¬ l.Waits t) :
    (l.release t).users.Perm (l.users.filter (· ≠ t)) := by
  refine (perm_promote _ _).trans ?_
  have hqueue : (l.queue.map Prod.fst).filter (· ≠ t) = l.queue.map Prod.fst := by
    refine List.filter_eq_self.mpr fun u hu => ?_
    refine decide_eq_true fun heq => ht ?_
    exact heq ▸ hu
  have hwriter : (if l.writer = some t then none else l.writer).toList =
      l.writer.toList.filter (· ≠ t) := by
    cases l.writer with
    | none => rfl
    | some u => by_cases hu : u = t <;> simp [hu]
  rw [users, List.filter_append, List.filter_append, hqueue, hwriter]

omit [DecidableEq τ] in
/-- Who asks becomes a user. -/
lemma mem_users_request {l : RwLock τ} {t u : τ} {access : Access} :
    u ∈ (l.request t access).users ↔ u = t ∨ u ∈ l.users :=
  (users_request l t access).mem_iff.trans List.mem_cons

/-- Who gives its guard back is no user any more. -/
lemma mem_users_release {l : RwLock τ} {t u : τ} (ht : ¬ l.Waits t) :
    u ∈ (l.release t).users ↔ u ∈ l.users ∧ u ≠ t :=
  (users_release ht).mem_iff.trans (by simp)

/-- Nobody uses the lock twice, and nobody waits for a lock that nobody holds. -/
structure Tidy (l : RwLock τ) : Prop where
  nodup : l.users.Nodup
  served : l.queue ≠ [] → ∃ u, l.Holds u

omit [DecidableEq τ] in
/-- A free lock is tidy. -/
lemma tidy_free : (free : RwLock τ).Tidy where
  nodup := List.nodup_nil
  served := fun h => absurd rfl h

omit [DecidableEq τ] in
/-- Who holds a guard of a tidy lock does not wait for it. -/
lemma Tidy.not_waits {l : RwLock τ} {t : τ} (h : l.Tidy) (ht : l.Holds t) : ¬ l.Waits t := by
  have hdisjoint := (List.nodup_append.mp h.nodup).2.2
  have hmem : t ∈ l.writer.toList ++ l.readers := by simpa [Holds, or_comm] using ht
  exact fun hwaits => hdisjoint t hmem t hwaits rfl

omit [DecidableEq τ] in
/-- A guard that is refused is held by somebody. -/
lemma exists_holds_of_grant {l : RwLock τ} {t : τ} {access : Access} (h : l.grant t access = none) :
    ∃ u, l.Holds u := by
  by_contra hnone
  push Not at hnone
  have hwriter : l.writer = none := Option.eq_none_iff_forall_ne_some.mpr fun u hu => hnone u (.inr hu)
  have hreaders : l.readers = [] := List.eq_nil_iff_forall_not_mem.mpr fun u hu => hnone u (.inl hu)
  cases access <;> simp [grant, hwriter, hreaders] at h

omit [DecidableEq τ] in
/-- A task that does not use the lock may ask for it. -/
lemma Tidy.request {l : RwLock τ} {t : τ} (h : l.Tidy) (ht : t ∉ l.users) (access : Access) :
    (l.request t access).Tidy where
  nodup := (users_request l t access).nodup_iff.mpr (List.nodup_cons.mpr ⟨ht, h.nodup⟩)
  served := by
    intro hne
    by_cases hqueue : l.queue = []
    · cases hgrant : l.grant t access with
      | some l' =>
          rw [RwLock.request, if_pos hqueue, hgrant, Option.getD_some, grant_queue hgrant] at hne
          exact absurd hqueue hne
      | none =>
          obtain ⟨u, hu⟩ := exists_holds_of_grant hgrant
          exact ⟨u, holds_request t access hu⟩
    · obtain ⟨u, hu⟩ := h.served hqueue
      exact ⟨u, holds_request t access hu⟩

/-- A task that does not wait may give its guard back. -/
lemma Tidy.release {l : RwLock τ} {t : τ} (h : l.Tidy) (ht : ¬ l.Waits t) : (l.release t).Tidy where
  nodup := (users_release ht).nodup_iff.mpr (h.nodup.filter _)
  served := by
    have hpromote : ∀ (q : List (τ × Access)) {l : RwLock τ}, (l.promote q).queue ≠ [] →
        ∃ u, (l.promote q).Holds u := by
      intro q
      induction q with
      | nil => exact fun hne => absurd rfl hne
      | cons r rest ih =>
          intro l hne
          unfold promote at hne ⊢
          split at hne
          · exact ih hne
          · case h_2 hgrant =>
            obtain ⟨u, hu⟩ := exists_holds_of_grant hgrant
            exact ⟨u, hu⟩
    exact hpromote _

end RwLock
