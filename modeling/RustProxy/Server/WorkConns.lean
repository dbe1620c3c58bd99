import Mathlib.Data.List.Nodup
import RustProxy.Server.Tunnel

/-!
# Work connections are matched one to one

`CONN_ID_COUNTER` gives every waiting task a connection id of its own until it has gone round, so an
entry of `pending_work_conns` belongs to one task, and a tunnel connection that names the id of a task
can only be given to that task.

* `Matching n` is the invariant of the states after `n` arrivals: which ids are taken, which tasks may
  have an entry, and what has been delivered.
* `matching_step` and `matching_exec` carry it through a run; `one_to_one` reads the matching
  property off it.
-/

namespace RustProxy.Server

open RustProxy.Proto Transition TunnelState

/-- What a task that has started waits as. -/
def WaitPc.waiter : WaitPc → Option Waiter
  | .idle => none
  | .inserting w => some w
  | .notifying w => some w
  | .waiting w => some w
  | .cleaning w _ => some w
  | .unmapping w => some w
  | .bridged w _ => some w
  | .failed w => some w

/-- The task has not inserted its sender yet. -/
def WaitPc.beforeInsert : WaitPc → Bool
  | .idle => true
  | .inserting _ => true
  | .notifying w => w.path = .udp
  | _ => false

/-- The task has inserted its sender, and has neither resumed nor cleaned up. -/
def WaitPc.registered : WaitPc → Bool
  | .notifying w => w.path = .stream
  | .waiting _ => true
  | .cleaning _ _ => true
  | _ => false

/-- A task that was bridged, was not able to notify, saw its channel closed or timed out. -/
def WaitPc.ended : WaitPc → Option Waiter
  | .bridged w _ => some w
  | .failed w => some w
  | _ => none

/-- The user connections and new UDP sessions of a schedule. -/
def arrivals (labels : List TunnelLabel) : ℕ :=
  labels.countP fun
    | .arrive _ _ _ _ _ => true
    | _ => false

/-! ## The property -/

/-- Tasks and work connections are matched one to one, under the ids that the tasks were given, and a
task that has ended has left no entry behind. -/
structure OneToOne (s : TunnelState) : Prop where
  tasks : (s.delivered.map Prod.fst).Nodup
  conns : (s.delivered.map fun d => d.2.serial).Nodup
  named : ∀ i work, (i, work) ∈ s.delivered →
    ∃ w, (s.task i).waiter = some w ∧ w.connId = work.connId
  received : ∀ i work, s.slot i = some work ∨ (∃ w, s.task i = .bridged w work) →
    (i, work) ∈ s.delivered
  ended : ∀ i w, (s.task i).ended = some w → s.pending w.connId = none

/-- An insertion does not overwrite the sender of another task. -/
def InsertsFresh (s : TunnelState) (label : TunnelLabel) : Prop :=
  ∀ i w, label = .insertPending i → s.task i = .inserting w → s.pending w.connId = none

/-! ## The invariant -/

/-- The states after `n` arrivals. -/
structure Matching (n : ℕ) (s : TunnelState) : Prop where
  counter : s.connIdCounter.toNat = (n + 1) % 2 ^ 64
  allocated : ∀ i w, (s.task i).waiter = some w → w.connId.toNat ≤ n
  distinct : ∀ i j w v, (s.task i).waiter = some w → (s.task j).waiter = some v →
    w.connId = v.connId → i = j
  entry : ∀ k i, s.pending k = some i →
    (s.task i).registered = true ∧ ∃ w, (s.task i).waiter = some w ∧ w.connId = k
  slot : ∀ i work, s.slot i = some work → (i, work) ∈ s.delivered
  bridged : ∀ i w work, s.task i = .bridged w work → (i, work) ∈ s.delivered
  delivered : ∀ i work, (i, work) ∈ s.delivered →
    (s.task i).beforeInsert = false ∧ s.pending work.connId = none ∧
      ∃ w, (s.task i).waiter = some w ∧ w.connId = work.connId
  tasks : (s.delivered.map Prod.fst).Nodup
  serials : (s.delivered.map fun d => d.2.serial).Nodup
  accepted : ∀ d ∈ s.delivered, d.2.serial < s.accepted
  queued : (s.registering.map WorkConn.serial).Nodup
  awaiting : ∀ work ∈ s.registering, work.serial < s.accepted ∧
    ∀ d ∈ s.delivered, d.2.serial ≠ work.serial

variable {config : AuthConfig} {s s' : TunnelState} {n : ℕ} {i : ℕ} {w : Waiter}

/-- At the start no id has been drawn. -/
lemma matching_start : Matching 0 .start where
  counter := rfl
  allocated := by
    intro i w hw
    cases hw
  distinct := by
    intro i j w v hw
    cases hw
  entry := by
    intro k i hpending
    cases hpending
  slot := by
    intro i work hslot
    cases hslot
  bridged := by
    intro i w work hpc
    cases hpc
  delivered := by
    intro i work hmem
    cases hmem
  tasks := List.nodup_nil
  serials := List.nodup_nil
  accepted := by
    intro d hd
    cases hd
  queued := List.nodup_nil
  awaiting := by
    intro work hwork
    cases hwork

/-- A task has an entry only under its own id. -/
lemma Matching.connId_of_entry (h : Matching n s) (hw : (s.task i).waiter = some w) {k : UInt64}
    (hpending : s.pending k = some i) : w.connId = k := by
  obtain ⟨-, v, hv, hid⟩ := h.entry k i hpending
  obtain rfl : w = v := Option.some.inj (hw.symm.trans hv)
  exact hid

/-- The entry under the id of a task that is not registered is free. -/
lemma Matching.free_of_not_registered (h : Matching n s) (hw : (s.task i).waiter = some w)
    (hreg : (s.task i).registered = false) : s.pending w.connId = none := by
  cases hpending : s.pending w.connId with
  | none => rfl
  | some j =>
      obtain ⟨hj, v, hv, hid⟩ := h.entry _ j hpending
      obtain rfl : j = i := h.distinct j i v w hv hw hid
      rw [hreg] at hj
      cases hj

/-- A task that has ended has no entry. -/
lemma WaitPc.waiter_of_ended {pc : WaitPc} (h : pc.ended = some w) :
    pc.waiter = some w ∧ pc.registered = false := by
  cases pc <;> simp_all [WaitPc.ended, WaitPc.waiter, WaitPc.registered]

/-- Ids that match belong to one task each. -/
lemma Matching.oneToOne (h : Matching n s) : OneToOne s where
  tasks := h.tasks
  conns := h.serials
  named i work hmem := (h.delivered i work hmem).2.2
  received := by
    rintro i work (hslot | ⟨w, hpc⟩)
    · exact h.slot i work hslot
    · exact h.bridged i w work hpc
  ended := by
    intro i w hended
    obtain ⟨hw, hreg⟩ := WaitPc.waiter_of_ended hended
    exact h.free_of_not_registered hw hreg

/-- An id that matches is new when it is inserted. -/
lemma Matching.insertsFresh (h : Matching n s) (label : TunnelLabel) : InsertsFresh s label := by
  intro i w _ hpc
  exact h.free_of_not_registered (by rw [hpc]; rfl) (by rw [hpc]; rfl)

/-! ## The updates of the steps -/

/-- Requests and responses, the guard of `pending_work_conns` and tunnel connections that register
nothing are not read by the invariant. -/
lemma Matching.congr (h : Matching n s) (hcounter : s'.connIdCounter = s.connIdCounter)
    (hpending : s'.pending = s.pending) (htask : s'.task = s.task) (hslot : s'.slot = s.slot)
    (hdelivered : s'.delivered = s.delivered) (haccepted : s.accepted ≤ s'.accepted)
    (hregistering : s'.registering = s.registering) : Matching n s' := by
  refine ⟨?_, ?_, ?_, ?_, ?_, ?_, ?_, ?_, ?_, ?_, ?_, ?_⟩
  · rw [hcounter]
    exact h.counter
  · rw [htask]
    exact h.allocated
  · rw [htask]
    exact h.distinct
  · rw [hpending, htask]
    exact h.entry
  · rw [hslot, hdelivered]
    exact h.slot
  · rw [htask, hdelivered]
    exact h.bridged
  · rw [htask, hdelivered, hpending]
    exact h.delivered
  · rw [hdelivered]
    exact h.tasks
  · rw [hdelivered]
    exact h.serials
  · rw [hdelivered]
    exact fun d hd => (h.accepted d hd).trans_le haccepted
  · rw [hregistering]
    exact h.queued
  · rw [hregistering, hdelivered]
    exact fun work hwork => (h.awaiting work hwork).imp_left fun hlt => hlt.trans_le haccepted

/-- A started task goes on to another await. -/
lemma Matching.setTask (h : Matching n s) {pc : WaitPc} (hold : (s.task i).waiter = some w)
    (hnew : pc.waiter = some w) (hreg : pc.registered = false → s.pending w.connId ≠ some i)
    (hbefore : pc.beforeInsert = true → (s.task i).beforeInsert = true)
    (hbridged : ∀ work, pc = .bridged w work → (i, work) ∈ s.delivered) :
    Matching n (s.setTask i pc) := by
  have hwaiter : ∀ j, ((s.setTask i pc).task j).waiter = (s.task j).waiter := by
    intro j
    by_cases hj : j = i
    · subst hj
      rw [setTask_self, hnew, hold]
    · rw [setTask_of_ne s hj]
  refine ⟨h.counter, ?_, ?_, ?_, h.slot, ?_, ?_, h.tasks, h.serials, h.accepted,
    h.queued, h.awaiting⟩
  · intro j v hv
    exact h.allocated j v ((hwaiter j).symm.trans hv)
  · intro j j' v v' hv hv'
    exact h.distinct j j' v v' ((hwaiter j).symm.trans hv) ((hwaiter j').symm.trans hv')
  · intro k j hpending
    obtain ⟨hjreg, hjw⟩ := h.entry k j hpending
    refine ⟨?_, by rw [hwaiter]; exact hjw⟩
    by_cases hj : j = i
    · subst hj
      rw [setTask_self]
      by_contra hnot
      have hid := h.connId_of_entry hold hpending
      exact hreg (by simpa using hnot) (by rw [hid]; exact hpending)
    · rw [setTask_of_ne s hj]
      exact hjreg
  · intro j v work hpc
    by_cases hj : j = i
    · subst hj
      rw [setTask_self] at hpc
      subst hpc
      obtain rfl : v = w := Option.some.inj hnew
      exact hbridged work rfl
    · rw [setTask_of_ne s hj] at hpc
      exact h.bridged j v work hpc
  · intro j work hmem
    obtain ⟨hjbefore, hfree, hjw⟩ := h.delivered j work hmem
    refine ⟨?_, hfree, by rw [hwaiter]; exact hjw⟩
    by_cases hj : j = i
    · subst hj
      rw [setTask_self]
      by_contra hnot
      rw [hbefore (by simpa using hnot)] at hjbefore
      cases hjbefore
    · rw [setTask_of_ne s hj]
      exact hjbefore

/-- Removing an entry keeps the others matching. -/
lemma Matching.removePending (h : Matching n s) (k : UInt64) : Matching n (s.removePending k) := by
  refine ⟨h.counter, h.allocated, h.distinct, ?_, h.slot, h.bridged, ?_, h.tasks, h.serials,
    h.accepted, h.queued, h.awaiting⟩
  · intro k' j hpending
    by_cases hk : k' = k
    · subst hk
      rw [removePending_self] at hpending
      cases hpending
    · rw [removePending_of_ne s hk] at hpending
      exact h.entry k' j hpending
  · intro j work hmem
    obtain ⟨hbefore, hfree, hjw⟩ := h.delivered j work hmem
    refine ⟨hbefore, ?_, hjw⟩
    by_cases hk : work.connId = k
    · rw [hk, removePending_self]
    · rw [removePending_of_ne s hk]
      exact hfree

/-- What follows the insertion on either path. -/
lemma inserted_eq (s : TunnelState) (i : ℕ) (w : Waiter) :
    ∃ pc, inserted s i w = (s.insertPending i w.connId).setTask i pc ∧ pc.waiter = some w ∧
      pc.registered = true ∧ ∀ v work, pc ≠ .bridged v work := by
  obtain ⟨path, proxyName, clientId, userAddr, connId⟩ := w
  cases path with
  | stream => exact ⟨_, rfl, rfl, rfl, fun _ _ => nofun⟩
  | udp => exact ⟨_, rfl, rfl, rfl, fun _ _ => nofun⟩

/-- What a task that has just started waits as, and that it has not inserted its sender. -/
lemma arrive_eq (s : TunnelState) (i : ℕ) (path : Path) (proxyName clientId : String)
    (userAddr : Option String) :
    ∃ w pc, arrive s i path proxyName clientId userAddr =
        ({ s with connIdCounter := s.connIdCounter + 1 } : TunnelState).setTask i pc ∧
      w.connId = s.connIdCounter ∧ pc.waiter = some w ∧ ∀ v work, pc ≠ .bridged v work := by
  cases path with
  | stream => exact ⟨_, _, rfl, rfl, rfl, fun _ _ => nofun⟩
  | udp => exact ⟨_, _, rfl, rfl, rfl, fun _ _ => nofun⟩

/-- The task registers its new `oneshot` channel under its id, which is free. -/
lemma Matching.inserted (h : Matching n s) (hpc : s.task i = .inserting w) :
    Matching n (inserted s i w) := by
  have hold : (s.task i).waiter = some w := by
    rw [hpc]
    rfl
  have hnone : ∀ work, (i, work) ∉ s.delivered := by
    intro work hmem
    have hbefore := (h.delivered i work hmem).1
    rw [hpc] at hbefore
    cases hbefore
  obtain ⟨pc, heq, hnew, hreg, hbridged⟩ := inserted_eq s i w
  rw [heq]
  have hwaiter : ∀ j, (((s.insertPending i w.connId).setTask i pc).task j).waiter
      = (s.task j).waiter := by
    intro j
    by_cases hj : j = i
    · subst hj
      rw [setTask_self, hnew, hold]
    · rw [setTask_of_ne _ hj]
      rfl
  refine ⟨h.counter, ?_, ?_, ?_, ?_, ?_, ?_, h.tasks, h.serials, h.accepted,
    h.queued, h.awaiting⟩
  · intro j v hv
    exact h.allocated j v ((hwaiter j).symm.trans hv)
  · intro j j' v v' hv hv'
    exact h.distinct j j' v v' ((hwaiter j).symm.trans hv) ((hwaiter j').symm.trans hv')
  · intro k j hpending
    by_cases hk : k = w.connId
    · subst hk
      obtain rfl : i = j := by
        simpa [TunnelState.insertPending, TunnelState.setTask] using hpending
      rw [setTask_self]
      exact ⟨hreg, w, hnew, rfl⟩
    · have hentry : s.pending k = some j := by
        simpa [TunnelState.insertPending, TunnelState.setTask, Function.update_of_ne hk] using hpending
      obtain ⟨hjreg, hjw⟩ := h.entry k j hentry
      have hj : j ≠ i := by
        rintro rfl
        rw [hpc] at hjreg
        cases hjreg
      rw [setTask_of_ne _ hj]
      exact ⟨hjreg, hjw⟩
  · intro j work hslot
    by_cases hj : j = i
    · subst hj
      simp [TunnelState.insertPending, TunnelState.setTask] at hslot
    · refine h.slot j work ?_
      simpa [TunnelState.insertPending, TunnelState.setTask, Function.update_of_ne hj] using hslot
  · intro j v work hjpc
    by_cases hj : j = i
    · subst hj
      rw [setTask_self] at hjpc
      exact absurd hjpc (hbridged v work)
    · rw [setTask_of_ne _ hj] at hjpc
      exact h.bridged j v work hjpc
  · intro j work hmem
    obtain ⟨hjbefore, hfree, v, hv, hid⟩ := h.delivered j work hmem
    have hj : j ≠ i := by
      rintro rfl
      exact hnone work hmem
    refine ⟨by rw [setTask_of_ne _ hj]; exact hjbefore, ?_, by rw [hwaiter]; exact ⟨v, hv, hid⟩⟩
    have hk : work.connId ≠ w.connId := by
      intro hk
      exact hj (h.distinct j i v w hv hold (hid.trans hk))
    simpa [TunnelState.insertPending, TunnelState.setTask, Function.update_of_ne hk] using hfree

/-- `CONN_ID_COUNTER.fetch_add(1)`: the id is new as long as the counter has not gone round. -/
lemma Matching.arrive (h : Matching n s) (hpc : s.task i = .idle) (hn : n + 1 < 2 ^ 64) (path : Path)
    (proxyName clientId : String) (userAddr : Option String) :
    Matching (n + 1) (arrive s i path proxyName clientId userAddr) := by
  have hid : s.connIdCounter.toNat = n + 1 := h.counter.trans (Nat.mod_eq_of_lt hn)
  obtain ⟨w, pc, heq, hwid, hnew, hbridged⟩ := arrive_eq s i path proxyName clientId userAddr
  rw [heq]
  have hfresh : ∀ j v, (s.task j).waiter = some v → v.connId ≠ w.connId := by
    intro j v hv hvid
    have := h.allocated j v hv
    rw [hvid, hwid, hid] at this
    omega
  refine ⟨?_, ?_, ?_, ?_, h.slot, ?_, ?_, h.tasks, h.serials, h.accepted,
    h.queued, h.awaiting⟩
  · have : (s.connIdCounter + 1).toNat = (s.connIdCounter.toNat + 1) % 2 ^ 64 := by
      simp [UInt64.toNat_add]
    exact this.trans (by rw [hid])
  · intro j v hv
    by_cases hj : j = i
    · subst hj
      rw [setTask_self, hnew] at hv
      obtain rfl : w = v := Option.some.inj hv
      rw [hwid, hid]
    · rw [setTask_of_ne _ hj] at hv
      exact (h.allocated j v hv).trans (Nat.le_succ n)
  · intro j j' v v' hv hv' hvid
    by_cases hj : j = i <;> by_cases hj' : j' = i
    · rw [hj, hj']
    · subst hj
      rw [setTask_self, hnew] at hv
      rw [setTask_of_ne _ hj'] at hv'
      obtain rfl : w = v := Option.some.inj hv
      exact absurd hvid.symm (hfresh j' v' hv')
    · subst hj'
      rw [setTask_self, hnew] at hv'
      rw [setTask_of_ne _ hj] at hv
      obtain rfl : w = v' := Option.some.inj hv'
      exact absurd hvid (hfresh j v hv)
    · rw [setTask_of_ne _ hj] at hv
      rw [setTask_of_ne _ hj'] at hv'
      exact h.distinct j j' v v' hv hv' hvid
  · intro k j hpending
    obtain ⟨hjreg, hjw⟩ := h.entry k j hpending
    have hj : j ≠ i := by
      rintro rfl
      rw [hpc] at hjreg
      cases hjreg
    rw [setTask_of_ne _ hj]
    exact ⟨hjreg, hjw⟩
  · intro j v work hjpc
    by_cases hj : j = i
    · subst hj
      rw [setTask_self] at hjpc
      exact absurd hjpc (hbridged v work)
    · rw [setTask_of_ne _ hj] at hjpc
      exact h.bridged j v work hjpc
  · intro j work hmem
    obtain ⟨hjbefore, hfree, hjw⟩ := h.delivered j work hmem
    have hj : j ≠ i := by
      rintro rfl
      rw [hpc] at hjbefore
      cases hjbefore
    rw [setTask_of_ne _ hj]
    exact ⟨hjbefore, hfree, hjw⟩

/-- A tunnel connection goes to whoever waits under the id it names. -/
lemma Matching.registerWorkConn (h : Matching n s) {work : WorkConn} {rest : List WorkConn}
    (hfirst : s.registering = work :: rest) :
    Matching n { (registerWorkConn s work.connId work).1 with registering := rest } := by
  have hqueued := h.queued
  rw [hfirst, List.map_cons, List.nodup_cons] at hqueued
  obtain ⟨hlast, hrest⟩ := hqueued
  have hmem : work ∈ s.registering := hfirst ▸ List.mem_cons_self
  obtain ⟨hserial, hdelivered⟩ := h.awaiting work hmem
  have hawaiting : ∀ other ∈ rest, other.serial < s.accepted ∧
      ∀ d ∈ s.delivered, d.2.serial ≠ other.serial :=
    fun other hother => h.awaiting other (hfirst ▸ List.mem_cons_of_mem work hother)
  have hpopped : Matching n { s with registering := rest } :=
    ⟨h.counter, h.allocated, h.distinct, h.entry, h.slot, h.bridged, h.delivered, h.tasks, h.serials,
      h.accepted, hrest, hawaiting⟩
  unfold RustProxy.Server.registerWorkConn
  split
  · case h_1 i hpending =>
    split
    · case isTrue halive =>
      obtain ⟨hreg, w, hw, hwid⟩ := h.entry work.connId i hpending
      have hbefore : (s.task i).beforeInsert = false := by
        cases hpc : s.task i <;> rw [hpc] at hreg <;>
          simp_all [WaitPc.registered, WaitPc.beforeInsert]
      have hnone : ∀ work', (i, work') ∉ s.delivered := by
        intro work' hmem
        obtain ⟨-, hfree, v, hv, hvid⟩ := h.delivered i work' hmem
        obtain rfl : v = w := Option.some.inj (hv.symm.trans hw)
        rw [← hvid, hwid, hpending] at hfree
        cases hfree
      have hremoved := h.removePending work.connId
      refine ⟨h.counter, h.allocated, h.distinct, hremoved.entry, ?_, ?_, ?_, ?_, ?_, ?_, hrest, ?_⟩
      · intro j work' hslot
        rw [List.mem_append, List.mem_singleton]
        by_cases hj : j = i
        · subst hj
          obtain rfl : work = work' := by simpa using hslot
          exact Or.inr rfl
        · exact Or.inl (h.slot j work' (by simpa [Function.update_of_ne hj] using hslot))
      · intro j v work' hjpc
        exact List.mem_append_left _ (h.bridged j v work' hjpc)
      · intro j work' hmem
        rcases List.mem_append.mp hmem with hmem | hmem
        · exact hremoved.delivered j work' hmem
        · obtain ⟨rfl, rfl⟩ : j = i ∧ work' = work := by simpa using hmem
          exact ⟨hbefore, removePending_self s work'.connId, w, hw, hwid⟩
      · rw [List.map_append, List.nodup_append']
        refine ⟨h.tasks, List.nodup_singleton _, ?_⟩
        rw [List.map_singleton, List.disjoint_singleton, List.mem_map]
        rintro ⟨⟨j, work'⟩, hmem, rfl⟩
        exact hnone work' hmem
      · rw [List.map_append, List.nodup_append']
        refine ⟨h.serials, List.nodup_singleton _, ?_⟩
        rw [List.map_singleton, List.disjoint_singleton, List.mem_map]
        rintro ⟨d, hd, heq⟩
        exact hdelivered d hd heq
      · intro d hd
        rcases List.mem_append.mp hd with hd | hd
        · exact h.accepted d hd
        · obtain rfl : d = (i, work) := by simpa using hd
          exact hserial
      · intro other hother
        refine ⟨(hawaiting other hother).1, fun d hd => ?_⟩
        rcases List.mem_append.mp hd with hd | hd
        · exact (hawaiting other hother).2 d hd
        · obtain rfl : d = (i, work) := by simpa using hd
          exact fun heq => hlast (heq ▸ List.mem_map_of_mem hother)
    · exact hpopped.removePending work.connId
  · exact hpopped

/-- The response of a tunnel connection has been read, and it asks for the guard. -/
lemma Matching.dispatched (h : Matching n s) {peer : Peer} {k : UInt64} :
    Matching n { s with
      registering := s.registering ++ [{ peer := peer, serial := s.accepted, connId := k }]
      accepted := s.accepted + 1 } := by
  refine ⟨h.counter, h.allocated, h.distinct, h.entry, h.slot, h.bridged, h.delivered, h.tasks,
    h.serials, fun d hd => (h.accepted d hd).trans (Nat.lt_succ_self _), ?_, ?_⟩
  · rw [List.map_append, List.nodup_append']
    refine ⟨h.queued, List.nodup_singleton _, ?_⟩
    rw [List.map_singleton, List.disjoint_singleton, List.mem_map]
    rintro ⟨work, hwork, heq⟩
    exact absurd (h.awaiting work hwork).1 (heq ▸ lt_irrefl _)
  · intro work hwork
    rcases List.mem_append.mp hwork with hwork | hwork
    · exact (h.awaiting work hwork).imp_left fun hlt => hlt.trans (Nat.lt_succ_self _)
    · obtain rfl := List.mem_singleton.mp hwork
      exact ⟨Nat.lt_succ_self _, fun d hd => (h.accepted d hd).ne⟩

/-- The entry of a task whose wait is over is removed. -/
lemma Matching.cleanedUp (h : Matching n s) {rx : Bool} (hpc : s.task i = .cleaning w rx) :
    Matching n (cleanedUp s i w) := by
  have hold : (s.task i).waiter = some w := by
    rw [hpc]
    rfl
  have hfree : (s.removePending w.connId).pending w.connId ≠ some i := by
    rw [removePending_self]
    exact (Option.some_ne_none i).symm
  have hremoved := h.removePending w.connId
  unfold RustProxy.Server.cleanedUp
  split
  · exact hremoved.setTask hold rfl (fun _ => hfree) Bool.noConfusion (fun _ => WaitPc.noConfusion)
  · have hguard : Matching n { s.removePending w.connId with pendingGuard := some i } :=
      hremoved.congr rfl rfl rfl rfl rfl le_rfl rfl
    exact hguard.setTask hold rfl (fun _ => hfree) Bool.noConfusion (fun _ => WaitPc.noConfusion)

/-- `send_to` has returned. -/
lemma Matching.notified (h : Matching n s) (hpc : s.task i = .notifying w) (sent : Bool) :
    Matching n (notified s i w sent) := by
  have hold : (s.task i).waiter = some w := by
    rw [hpc]
    rfl
  have hfree : w.path = .udp → s.pending w.connId ≠ some i := by
    intro hpath hpending
    have hreg := (h.entry _ i hpending).1
    rw [hpc, WaitPc.registered, hpath] at hreg
    cases hreg
  have hbefore : w.path = .udp → (s.task i).beforeInsert = true := by
    intro hpath
    rw [hpc, WaitPc.beforeInsert, hpath]
    rfl
  obtain ⟨path, proxyName, clientId, userAddr, connId⟩ := w
  cases sent with
  | true =>
      have hrequests : Matching n { s with requests := s.requests ++ [(clientId,
          { proxyName := proxyName, connId := connId, userAddr := userAddr })] } :=
        h.congr rfl rfl rfl rfl rfl le_rfl rfl
      cases path with
      | stream => exact hrequests.setTask hold rfl nofun nofun (fun _ => nofun)
      | udp =>
          exact hrequests.setTask hold rfl (fun _ => hfree rfl) (fun _ => hbefore rfl)
            (fun _ => nofun)
  | false =>
      cases path with
      | stream => exact h.setTask hold rfl nofun nofun (fun _ => nofun)
      | udp => exact h.setTask hold rfl (fun _ => hfree rfl) nofun (fun _ => nofun)

/-! ## Runs -/

/-- Arrivals of the first step and of the rest. -/
lemma arrivals_cons (label : TunnelLabel) (labels : List TunnelLabel) :
    arrivals (label :: labels) = arrivals labels + arrivals [label] :=
  List.countP_cons.trans (by rw [arrivals, arrivals, List.countP_singleton])

/-- A step keeps the invariant; the steps that count are the arrivals. -/
theorem matching_step (h : Matching n s) {label : TunnelLabel}
    (hn : n + arrivals [label] < 2 ^ 64) (hstep : tunnelStep config s label = some s') :
    Matching (n + arrivals [label]) s' := by
  cases tunnelMove_of_step hstep with
  | arrive i path proxyName clientId userAddr hpc =>
      exact h.arrive hpc hn path proxyName clientId userAddr
  | insertPending i w hpc hfree => exact h.inserted hpc
  | notified i sent w hpc => exact h.notified hpc sent
  | resume i w work hpc hslot =>
      have hw : (s.task i).waiter = some w := by
        rw [hpc]
        rfl
      have hmem := h.slot i work hslot
      refine h.setTask hw rfl ?_ Bool.noConfusion ?_
      · intro _ hpending
        obtain ⟨-, hfree, v, hv, hid⟩ := h.delivered i work hmem
        obtain rfl : v = w := Option.some.inj (hv.symm.trans hw)
        rw [← hid, hpending] at hfree
        cases hfree
      · rintro work' ⟨⟩
        exact hmem
  | timeout i w hpc | senderDropped i w hpc =>
      exact h.setTask (by rw [hpc]; rfl) rfl Bool.noConfusion Bool.noConfusion
        (fun _ => WaitPc.noConfusion)
  | cleanup i w rx hpc hfree => exact h.cleanedUp hpc
  | unmapped i w hpc =>
      have hold : (s.task i).waiter = some w := by
        rw [hpc]
        rfl
      have hguard : Matching n { s with pendingGuard := none } :=
        h.congr rfl rfl rfl rfl rfl le_rfl rfl
      refine hguard.setTask hold rfl (fun _ hpending => ?_) Bool.noConfusion
        (fun _ => WaitPc.noConfusion)
      have hreg := (h.entry _ i hpending).1
      rw [hpc] at hreg
      cases hreg
  | firstMessage peer msg =>
      change Matching n _
      unfold dispatchConnection
      split
      · exact h.congr rfl rfl rfl rfl rfl (Nat.le_succ _) rfl
      · split
        · exact h.dispatched
        · exact h.congr rfl rfl rfl rfl rfl (Nat.le_succ _) rfl
      · exact h.congr rfl rfl rfl rfl rfl (Nat.le_succ _) rfl
  | register work rest hfirst hfree => exact h.registerWorkConn hfirst

/-- The invariant along a run with fewer than `2 ^ 64` arrivals. -/
theorem matching_exec {labels : List TunnelLabel} (h : Matching n s)
    (hn : n + arrivals labels < 2 ^ 64) (hrun : exec (tunnelStep config) s labels = some s') :
    Matching (n + arrivals labels) s' := by
  induction labels generalizing s n with
  | nil =>
      cases hrun
      exact h
  | cons label labels ih =>
      rw [arrivals_cons] at hn ⊢
      obtain ⟨s₁, hstep, hrest⟩ := exec_cons_eq_some.mp hrun
      have hnext := matching_step h (by omega) hstep
      have hlast := ih hnext (by omega) hrest
      rwa [show n + (arrivals labels + arrivals [label])
        = n + arrivals [label] + arrivals labels by omega]

/-- Over any schedule with fewer than `2 ^ 64` user connections and UDP sessions in which sends fail,
waits expire and any peers send any first messages: each task receives at most one work connection
and each work connection goes to at most one task, under the id the task was given; no insertion
overwrites another task's sender; and a task that has ended has no entry. -/
theorem one_to_one (config : AuthConfig) (labels : List TunnelLabel)
    (hcount : arrivals labels < 2 ^ 64) :
    Always (tunnelStep config) OneToOne .start labels ∧
      EachStep (tunnelStep config) InsertsFresh .start labels := by
  suffices hrun : ∀ n s, Matching n s → n + arrivals labels < 2 ^ 64 →
      Always (tunnelStep config) OneToOne s labels ∧
        EachStep (tunnelStep config) InsertsFresh s labels by
    exact hrun 0 .start matching_start (by omega)
  clear hcount
  induction labels with
  | nil =>
      intro n s h _
      exact ⟨h.oneToOne, trivial⟩
  | cons label labels ih =>
      intro n s h hn
      rw [arrivals_cons] at hn
      have hnext : ∀ s', tunnelStep config s label = some s' →
          Always (tunnelStep config) OneToOne s' labels ∧
            EachStep (tunnelStep config) InsertsFresh s' labels := by
        intro s' hstep
        exact ih _ s' (matching_step h (by omega) hstep) (by omega)
      refine ⟨⟨h.oneToOne, ?_⟩, ?_⟩
      · intro s' hstep
        exact (hnext s' hstep).1
      · intro s' hstep
        exact ⟨h.insertsFresh label, (hnext s' hstep).2⟩

/-- A user connection that is bridged, a UDP session whose client is offline, and a response that
comes twice. -/
def twoArrivals : List TunnelLabel :=
  [.arrive 0 .stream "web" "c" none, .arrive 1 .udp "dns" "d" none, .insertPending 0,
    .notified 0 true, .notified 1 false,
    .firstMessage 5 (.control (.newWorkConnResp { proxyName := "", connId := 1, success := true })),
    .firstMessage 6 (.control (.newWorkConnResp { proxyName := "", connId := 1, success := true })),
    .register, .resume 0, .register]

/-- Two arrivals and their work connections. -/
theorem one_to_one_twoArrivals :
    Always (tunnelStep { token := "secret", version := "1", isAlphanumeric := Char.isAlphanum })
        OneToOne .start twoArrivals ∧
      EachStep (tunnelStep { token := "secret", version := "1", isAlphanumeric := Char.isAlphanum })
        InsertsFresh .start twoArrivals :=
  one_to_one _ twoArrivals (by decide)

end RustProxy.Server
