import RustProxy.Bridge.Delivery

/-!
# Progress of a tunnelled connection

The streams at both ends are always willing to be read and to be written.  A bridge that sends waits
for room in its outgoing queue and takes nothing off the other queue meanwhile, so two bridges that
both send into full queues wait for each other.

* `Progresses` says that some bridge can go on as long as neither side has closed.
* `canProgress_iff` finds the states in which this fails: exactly those in which both bridges are
  blocked.
* `progress_iff_readsWithRoom` is about whole schedules: progress is kept exactly when no bridge
  starts a chunk that cannot be sent while the other bridge is blocked.
-/

namespace RustProxy.Bridge

open RustProxy.Proto Transition

variable (cap : Side → ℕ) (connId : UInt64)

/-- The bridge is in its loop and has seen neither the end of its stream nor a close marker. -/
def Pc.Live : Pc → Prop
  | .select => True
  | .sending _ => True
  | .writing _ _ => True
  | _ => False

/-- The events that move bytes: a chunk is read, a message taken, a frame sent, bytes written. -/
def Event.Progress : Event → Prop
  | .read (.ok (_ :: _)) => True
  | .next (.message _) => True
  | .sent => True
  | .wrote _ => True
  | _ => False

/-- Some bridge can move bytes. -/
def CanProgress (s : System) : Prop :=
  ∃ x event, event.Progress ∧ (step cap connId s (x, event)).isSome = true

/-- Some bridge can move bytes, unless a side has closed. -/
def Progresses (s : System) : Prop := (∀ x, (s.bridge x).pc.Live) → CanProgress cap connId s

/-- The step does not start a chunk for a full queue while the other bridge is blocked. -/
def ReadsWithRoom (s : System) (label : Side × Event) : Prop :=
  ∀ data, label.2 = .read (.ok data) → data ≠ [] → Blocked cap s label.1.other →
    (s.out label.1).queue.length < cap label.1

variable {cap connId} {s s' : System}

/-- A bridge that is not blocked can move bytes. -/
lemma canProgress_of_not_blocked {x : Side} (hlive : (s.bridge x).pc.Live)
    (hrest : (s.bridge x).pc.HasRest) (hfree : ¬ Blocked cap s x) : CanProgress cap connId s := by
  have henabled : ∀ event pc, event.Progress → admits cap s x event →
      Move (s.bridge x).pc event pc → CanProgress cap connId s := by
    intro event pc hevent hadmits hmove
    obtain ⟨s', hstep⟩ := @step_isSome_of_move cap connId s x event pc hadmits hmove
    exact ⟨x, event, hevent, by rw [hstep]; rfl⟩
  cases hpc : (s.bridge x).pc with
  | select =>
      refine henabled (.read (.ok [0])) (.sending [0]) trivial (by simp [admits, bufSize]) ?_
      rw [hpc]
      exact .readChunk (by simp)
  | sending data =>
      have hroom : (s.out x).queue.length < cap x := by
        by_contra hfull
        exact hfree ⟨⟨data, hpc⟩, not_lt.mp hfull⟩
      refine henabled .sent .select trivial (by simpa [admits] using hroom) ?_
      rw [hpc]
      exact .sent data
  | writing n rest =>
      refine henabled (.wrote rest.length) .select trivial rfl ?_
      rw [hpc]
      exact .wroteAll n (hrest n rest hpc)
  | sendingClose | closing | shuttingDown | ended => simp [hpc, Pc.Live] at hlive

/-- A blocked bridge cannot move bytes. -/
lemma step_eq_none_of_blocked {x : Side} {event : Event} (h : Blocked cap s x)
    (hevent : event.Progress) : step cap connId s (x, event) = none := by
  obtain ⟨⟨data, hpc⟩, hfull⟩ := h
  rw [Option.eq_none_iff_forall_ne_some]
  intro s' hstep
  obtain ⟨hadmits, hmove, -⟩ := step_eq_some hstep
  rw [hpc] at hmove
  generalize (s'.bridge x).pc = pc at hmove
  cases hmove with
  | sent =>
      have hroom : (s.out x).queue.length < cap x := by
        simpa [admits] using hadmits
      omega
  | sendFailed => exact hevent

/-- While neither side has closed, no bridge can move bytes exactly when both are blocked. -/
theorem canProgress_iff (hlive : ∀ x, (s.bridge x).pc.Live)
    (hrest : ∀ x, (s.bridge x).pc.HasRest) :
    CanProgress cap connId s ↔ ∃ x, ¬ Blocked cap s x := by
  constructor
  · rintro ⟨x, event, hevent, hsome⟩
    refine ⟨x, ?_⟩
    intro hblocked
    rw [step_eq_none_of_blocked hblocked hevent] at hsome
    cases hsome
  · rintro ⟨x, hfree⟩
    exact canProgress_of_not_blocked (hlive x) (hrest x) hfree

/-- Two blocked bridges stop a connection on which neither side has closed. -/
lemma not_progresses_of_blocked (h : ∀ x, Blocked cap s x) : ¬ Progresses cap connId s := by
  intro hprogress
  obtain ⟨x, event, hevent, hsome⟩ := hprogress fun x => by
    obtain ⟨⟨data, hpc⟩, -⟩ := h x
    rw [hpc]
    trivial
  rw [step_eq_none_of_blocked (h x) hevent] at hsome
  cases hsome

/-! ## Steps that keep progress -/

/-- The invariant of schedules that read with room: the connection is not deadlocked. -/
structure Unblocked (cap : Side → ℕ) (s : System) : Prop where
  hasRest : ∀ x, (s.bridge x).pc.HasRest
  free : ∃ x, ¬ Blocked cap s x

/-- Reading with room never blocks both bridges. -/
lemma unblocked_step (h : Unblocked cap s) {label : Side × Event}
    (hok : ReadsWithRoom cap s label) (hstep : step cap connId s label = some s') :
    Unblocked cap s' := by
  refine ⟨hasRest_step h.hasRest hstep, ?_⟩
  by_contra hall
  push Not at hall
  obtain ⟨z, event⟩ := label
  obtain ⟨data, hevent, hne, hfull, hback⟩ := blocked_of_step hstep (hall z)
  have hroom := hok data hevent hne (hback (hall z.other))
  simp only at hroom
  omega

/-- A read without room ends all progress. -/
lemma not_progresses_step {label : Side × Event} (hbad : ¬ ReadsWithRoom cap s label)
    (hstep : step cap connId s label = some s') : ¬ Progresses cap connId s' := by
  obtain ⟨z, event⟩ := label
  unfold ReadsWithRoom at hbad
  push Not at hbad
  obtain ⟨data, rfl, hne, ⟨hsending, hfull⟩, hfull'⟩ := hbad
  obtain ⟨-, hmove, hother, hfeed, hdrain⟩ := step_eq_some hstep
  apply not_progresses_of_blocked
  intro x
  rcases z.eq_or_eq_other x with rfl | rfl
  · refine ⟨?_, by rw [hfeed]; exact hfull'⟩
    generalize (s.bridge x).pc = pc, (s'.bridge x).pc = pc' at hmove
    cases hmove with
    | readEof => exact absurd rfl hne
    | readChunk => exact ⟨data, rfl⟩
  · rw [Blocked, hother, hdrain]
    exact ⟨hsending, hfull⟩

/-- A schedule of the two bridges keeps progress in every state exactly when no step of it starts a
chunk for a full queue while the other bridge is blocked on its own full queue. -/
theorem progress_iff_readsWithRoom (cap : Side → ℕ) (connId : UInt64)
    (labels : List (Side × Event)) :
    Always (step cap connId) (Progresses cap connId) .start labels ↔
      EachStep (step cap connId) (ReadsWithRoom cap) .start labels := by
  have hstart : Unblocked cap .start :=
    ⟨fun x n rest hpc => by simp [System.start, Locals.start] at hpc,
      .server, fun ⟨⟨data, hpc⟩, _⟩ => by simp [System.start, Locals.start] at hpc⟩
  exact always_iff_eachStep
    (fun s hs hlive => (canProgress_iff hlive hs.hasRest).mpr hs.free)
    (fun s label s' hs hok hstep => unblocked_step hs hok hstep)
    (fun s label s' hs hbad hstep => not_progresses_step hbad hstep) hstart labels

/-- Both ends send a chunk, which fills the queues, and read another one. -/
def crossing : List (Side × Event) :=
  [(.server, .read (.ok [1])), (.server, .sent), (.server, .read (.ok [2])),
    (.client, .read (.ok [3])), (.client, .sent), (.client, .read (.ok [4]))]

/-- Two queues of capacity 1 and two bytes from each end stop a connection for good. -/
theorem crossing_deadlocks :
    ¬ ∀ (cap : Side → ℕ) (connId : UInt64) (labels : List (Side × Event)) (s : System),
      (∀ x, 1 ≤ cap x) → exec (step cap connId) .start labels = some s →
        Progresses cap connId s := by
  intro h
  obtain ⟨s, hs⟩ : ∃ s, exec (step (fun _ => 1) 0) .start crossing = some s := ⟨_, rfl⟩
  refine not_progresses_of_blocked ?_ (h (fun _ => 1) 0 crossing s (fun _ => le_rfl) hs)
  cases hs
  intro x
  cases x
  · exact ⟨⟨[2], rfl⟩, le_rfl⟩
  · exact ⟨⟨[4], rfl⟩, le_rfl⟩

end RustProxy.Bridge
