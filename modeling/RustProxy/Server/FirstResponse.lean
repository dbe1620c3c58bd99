import RustProxy.Server.WorkConns

/-!
# The first response

A client answers a `NewWorkConn` on a tunnel connection of its own.  When its response has been read,
`register_work_conn` has to get the guard of `pending_work_conns`; the task may have inserted its
sender by then or not, and its wait may have expired.

* `EntryKept` follows the entry of one id; only the registration of a response that names the id takes
  it away from a task that waits.
* `FirstInLine` follows the first such response from its dispatch to its registration.
* `response_found_iff` says when it finds its task, and `responses_missed` that it need not.
-/

namespace RustProxy.Server

open RustProxy.Proto Transition TunnelState

variable {config : AuthConfig} {s s' : TunnelState} {n : ℕ} {i : ℕ} {w : Waiter}

/-! ## The property -/

/-- The `NewWorkConn` of the task may be in the client's channel, and the wait for the answer has not
expired. -/
def WaitPc.asking : WaitPc → Option Waiter
  | .notifying w => some w
  | .inserting w => if w.path = .udp then some w else none
  | .waiting w => some w
  | _ => none

/-- The task has inserted its sender, and its wait has not expired. -/
def WaitPc.awaits : WaitPc → Option Waiter
  | .notifying w => if w.path = .stream then some w else none
  | .waiting w => some w
  | _ => none

/-- A response that claims success and names the connection id `k`. -/
def Answers (k : UInt64) (label : TunnelLabel) : Prop :=
  ∃ peer resp, label = .firstMessage peer (.control (.newWorkConnResp resp)) ∧
    resp.success = true ∧ resp.connId = k

/-- The tunnel connection whose first message is the response. -/
def answering (s : TunnelState) (peer : Peer) (resp : NewWorkConnResponse) : WorkConn :=
  { peer := peer, serial := s.accepted, connId := resp.connId }

/-- `register_work_conn` finds the sender of task `i`, which gets the work connection. -/
def Found (config : AuthConfig) (s : TunnelState) (i : ℕ) (w : Waiter) (work : WorkConn) : Prop :=
  (registerWorkConn s work.connId work).2 = true ∧
    ∃ s', tunnelStep config s .register = some s' ∧ s'.Matched i w work

/-- The registered task with the id `k` still has its entry. -/
def EntryKept (k : UInt64) (s : TunnelState) : Prop :=
  ∀ i w, (s.task i).registered = true → (s.task i).waiter = some w → w.connId = k →
    s.pending k = some i

/-! ## The entry of an id -/

/-- At the start no task has an entry. -/
lemma entryKept_start (k : UInt64) : EntryKept k .start := by
  intro i w hreg
  cases hreg

/-- A task whose entry is in the table, or that is not registered, moves. -/
lemma EntryKept.setTask {k : UInt64} (h : EntryKept k s) {pc : WaitPc}
    (hpc : ∀ v, pc.registered = true → pc.waiter = some v → v.connId = k → s.pending k = some i) :
    EntryKept k (s.setTask i pc) := by
  intro j v hreg hv hid
  by_cases hj : j = i
  · subst hj
    rw [setTask_self] at hreg hv
    exact hpc v hreg hv hid
  · rw [setTask_of_ne _ hj] at hreg hv
    exact h j v hreg hv hid

/-- A registered task moves without losing its entry. -/
lemma EntryKept.setTask_of_waiter {k : UInt64} (h : EntryKept k s) {pc : WaitPc}
    (hreg : (s.task i).registered = true) (hw : (s.task i).waiter = some w)
    (hnew : pc.waiter = some w) : EntryKept k (s.setTask i pc) := by
  refine h.setTask ?_
  intro v _ hv hid
  obtain rfl : w = v := Option.some.inj (hnew.symm.trans hv)
  exact h i w hreg hw hid

/-- An entry under another id is removed. -/
lemma EntryKept.removePending {k k' : UInt64} (h : EntryKept k s) (hne : k ≠ k') :
    EntryKept k (s.removePending k') := by
  intro j v hreg hv hid
  exact (removePending_of_ne s hne).trans (h j v hreg hv hid)

/-- A task that cleans up after itself takes no other task's entry away. -/
lemma EntryKept.cleanedUp (hm : Matching n s) {k : UInt64} (h : EntryKept k s) {rx : Bool}
    (hpc : s.task i = .cleaning w rx) : EntryKept k (cleanedUp s i w) := by
  have hold : (s.task i).waiter = some w := by
    rw [hpc]
    rfl
  have hothers : ∀ (t : TunnelState) (pc : WaitPc), t.task = s.task →
      t.pending = (s.removePending w.connId).pending → pc.registered = false →
        EntryKept k (t.setTask i pc) := by
    intro t pc htask hpending hreg' j v hreg hv hid
    by_cases hj : j = i
    · subst hj
      rw [setTask_self, hreg'] at hreg
      cases hreg
    · rw [setTask_of_ne _ hj, htask] at hreg hv
      have hne : k ≠ w.connId := by
        intro hk
        exact hj (hm.distinct j i v w hv hold (hid.trans hk))
      show t.pending k = some j
      rw [hpending]
      exact h.removePending hne j v hreg hv hid
  unfold RustProxy.Server.cleanedUp
  split
  · exact hothers _ _ rfl rfl rfl
  · exact hothers { s.removePending w.connId with pendingGuard := some i } _ rfl rfl rfl

/-- Only the registration of a response that names `k` takes the entry of a registered task away. -/
lemma entryKept_step (hm : Matching n s) {k : UInt64} (h : EntryKept k s) {label : TunnelLabel}
    (hlabel : label = .register → ∀ work, s.registering.head? = some work → work.connId ≠ k)
    (hstep : tunnelStep config s label = some s') : EntryKept k s' := by
  cases tunnelMove_of_step hstep with
  | arrive i path proxyName clientId userAddr hpc =>
      cases path with
      | stream =>
          exact EntryKept.setTask (s := { s with connIdCounter := _ }) h fun _ => Bool.noConfusion
      | udp =>
          exact EntryKept.setTask (s := { s with connIdCounter := _ }) h fun _ => Bool.noConfusion
  | insertPending i w hpc =>
      obtain ⟨pc, heq, hnew, -, -⟩ := inserted_eq s i w
      rw [heq]
      have hold : (s.task i).waiter = some w := by
        rw [hpc]
        rfl
      intro j v hreg hv hid
      by_cases hj : j = i
      · subst hj
        rw [setTask_self, hnew] at hv
        obtain rfl : w = v := Option.some.inj hv
        subst hid
        exact Function.update_self _ _ _
      · rw [setTask_of_ne _ hj] at hreg hv
        have hne : k ≠ w.connId := by
          intro hk
          exact hj (hm.distinct j i v w hv hold (hid.trans hk))
        exact (Function.update_of_ne hne _ _).trans (h j v hreg hv hid)
  | notified i sent w hpc =>
      have hw : (s.task i).waiter = some w := by
        rw [hpc]
        rfl
      obtain ⟨path, proxyName, clientId, userAddr, connId⟩ := w
      have hreg : path = .stream → (s.task i).registered = true := by
        rintro rfl
        rw [hpc]
        rfl
      cases sent with
      | true =>
          cases path with
          | stream =>
              exact EntryKept.setTask_of_waiter (s := { s with requests := _ }) h (hreg rfl) hw rfl
          | udp =>
              exact EntryKept.setTask (s := { s with requests := _ }) h fun _ => Bool.noConfusion
      | false =>
          cases path with
          | stream => exact h.setTask_of_waiter (hreg rfl) hw rfl
          | udp => exact h.setTask fun _ => Bool.noConfusion
  | resume => exact h.setTask fun _ => Bool.noConfusion
  | timeout i w hpc | senderDropped i w hpc =>
      exact h.setTask_of_waiter (by rw [hpc]; rfl) (by rw [hpc]; rfl) rfl
  | cleanup i w rx hpc => exact h.cleanedUp hm hpc
  | unmapped i w hpc =>
      exact EntryKept.setTask (s := { s with pendingGuard := none }) h fun _ => Bool.noConfusion
  | firstMessage peer msg =>
      change EntryKept k (dispatchConnection config s peer msg)
      unfold dispatchConnection
      split
      · exact h
      · split
        · exact h
        · exact h
      · exact h
  | register work rest hfirst hfree =>
      have hne : work.connId ≠ k := hlabel rfl work (by rw [hfirst]; rfl)
      change EntryKept k (registerWorkConn s work.connId work).1
      unfold registerWorkConn
      split
      · split
        · exact h.removePending hne.symm
        · exact h.removePending hne.symm
      · exact h

/-! ## From the dispatch to the registration -/

/-- What a step does to the connections that await their registration. -/
lemma registering_step {label : TunnelLabel} (hstep : tunnelStep config s label = some s') :
    (s'.registering = s.registering ∧ s.accepted ≤ s'.accepted) ∨
    (∃ peer resp, label = .firstMessage peer (.control (.newWorkConnResp resp)) ∧
      resp.success = true ∧ s'.registering = s.registering ++ [answering s peer resp] ∧
        s'.accepted = s.accepted + 1) ∨
    (label = .register ∧ s'.accepted = s.accepted ∧
      ∃ work, s.registering = work :: s'.registering) := by
  cases tunnelMove_of_step hstep with
  | insertPending | resume | timeout | senderDropped | unmapped => exact Or.inl ⟨rfl, le_rfl⟩
  | arrive i path => cases path <;> exact Or.inl ⟨rfl, le_rfl⟩
  | notified i sent => cases sent <;> exact Or.inl ⟨rfl, le_rfl⟩
  | cleanup i w =>
      unfold cleanedUp
      split <;> exact Or.inl ⟨rfl, le_rfl⟩
  | firstMessage peer msg =>
      unfold dispatchConnection
      split
      · exact Or.inl ⟨rfl, Nat.le_succ _⟩
      · case h_2 resp =>
        split
        · case isTrue hsuccess => exact Or.inr (Or.inl ⟨peer, resp, rfl, hsuccess, rfl, rfl⟩)
        · exact Or.inl ⟨rfl, Nat.le_succ _⟩
      · exact Or.inl ⟨rfl, Nat.le_succ _⟩
  | register work rest hfirst hfree =>
      refine Or.inr (Or.inr ⟨rfl, ?_, work, hfirst⟩)
      dsimp only
      unfold registerWorkConn
      split
      · split <;> rfl
      · rfl

/-- No response that names `k` awaits its registration, and the task with the id `k` has its entry. -/
def Unanswered (k : UInt64) (s : TunnelState) : Prop :=
  EntryKept k s ∧ ∀ work ∈ s.registering, work.connId ≠ k

/-- The connection awaits its registration as the first one that names its id, and the task with that id
has its entry; or it has been registered. -/
def FirstInLine (work : WorkConn) (s : TunnelState) : Prop :=
  (EntryKept work.connId s ∧ ∃ earlier later, s.registering = earlier ++ work :: later ∧
    ∀ other ∈ earlier, other.connId ≠ work.connId) ∨
  work ∉ s.registering ∧ work.serial < s.accepted

/-- A response that nothing answers stays unanswered. -/
lemma unanswered_step (hm : Matching n s) {k : UInt64} (h : Unanswered k s) {label : TunnelLabel}
    (hlabel : ¬ Answers k label) (hstep : tunnelStep config s label = some s') : Unanswered k s' := by
  obtain ⟨hkept, hnone⟩ := h
  refine ⟨entryKept_step hm hkept ?_ hstep, ?_⟩
  · intro _ work hwork
    exact hnone work (List.mem_of_mem_head? hwork)
  · intro work hwork
    rcases registering_step hstep with
      ⟨hsame, -⟩ | ⟨peer, resp, rfl, hsuccess, hnew, -⟩ | ⟨-, -, first, hfirst⟩
    · exact hnone work (hsame ▸ hwork)
    · rw [hnew, List.mem_append, List.mem_singleton] at hwork
      rcases hwork with hwork | rfl
      · exact hnone work hwork
      · exact fun hid => hlabel ⟨peer, resp, rfl, hsuccess, hid⟩
    · exact hnone work (hfirst ▸ List.mem_cons_of_mem first hwork)

/-- The first registration in line stays so until it is taken. -/
lemma firstInLine_step (hm : Matching n s) {work : WorkConn} (h : FirstInLine work s)
    {label : TunnelLabel} (hstep : tunnelStep config s label = some s') : FirstInLine work s' := by
  rcases h with ⟨hkept, earlier, later, hline, hearlier⟩ | ⟨hgone, hserial⟩
  · by_cases hturn : label = .register ∧ earlier = []
    · -- it is registered by this step
      obtain ⟨rfl, rfl⟩ := hturn
      rw [List.nil_append] at hline
      right
      rcases registering_step hstep with ⟨hsame, -⟩ | ⟨_, _, hlabel, -⟩ | ⟨-, haccepted, first, hfirst⟩
      · cases tunnelMove_of_step hstep with
        | register other rest hother hfree =>
            have hlength := congrArg List.length (hother.symm.trans hsame.symm)
            simp at hlength
      · cases hlabel
      · obtain ⟨rfl, hrest⟩ := List.cons.inj (hfirst.symm.trans hline)
        have hqueued := hm.queued
        rw [hfirst, List.map_cons, List.nodup_cons] at hqueued
        refine ⟨fun hmem => hqueued.1 (List.mem_map_of_mem hmem), ?_⟩
        rw [haccepted]
        exact (hm.awaiting first (hfirst ▸ List.mem_cons_self)).1
    · left
      refine ⟨entryKept_step hm hkept ?_ hstep, ?_⟩
      · rintro rfl other hother
        cases earlier with
        | nil => exact absurd ⟨rfl, rfl⟩ hturn
        | cons first earlier =>
            rw [hline, List.cons_append, List.head?_cons, Option.some.injEq] at hother
            exact hother ▸ hearlier first List.mem_cons_self
      · rcases registering_step hstep with
          ⟨hsame, -⟩ | ⟨peer, resp, -, -, hnew, -⟩ | ⟨rfl, -, first, hfirst⟩
        · exact ⟨earlier, later, hsame.trans hline, hearlier⟩
        · refine ⟨earlier, later ++ [answering s peer resp], ?_, hearlier⟩
          rw [hnew, hline, List.append_assoc, List.cons_append]
        · cases earlier with
          | nil => exact absurd ⟨rfl, rfl⟩ hturn
          | cons other earlier =>
              rw [hline, List.cons_append] at hfirst
              exact ⟨earlier, later, (List.cons.inj hfirst).2.symm,
                fun c hc => hearlier c (List.mem_cons_of_mem other hc)⟩
  · right
    rcases registering_step hstep with
      ⟨hsame, haccepted⟩ | ⟨peer, resp, -, -, hnew, haccepted⟩ | ⟨-, haccepted, first, hfirst⟩
    · exact ⟨hsame ▸ hgone, hserial.trans_le haccepted⟩
    · refine ⟨?_, haccepted ▸ hserial.trans (Nat.lt_succ_self _)⟩
      rw [hnew, List.mem_append, List.mem_singleton]
      rintro (hmem | rfl)
      · exact hgone hmem
      · exact absurd hserial (lt_irrefl _)
    · rw [haccepted]
      refine ⟨fun hmem => hgone ?_, hserial⟩
      rw [hfirst]
      exact List.mem_cons_of_mem first hmem

/-- What the steps of a run keep, beside the invariant of the matching. -/
lemma matching_exec_of_step {P : TunnelState → Prop} {L : TunnelLabel → Prop}
    (hP : ∀ n s label s', Matching n s → P s → L label → tunnelStep config s label = some s' → P s')
    {labels : List TunnelLabel} (hm : Matching n s) (h : P s) (hn : n + arrivals labels < 2 ^ 64)
    (hlabels : ∀ label ∈ labels, L label) (hrun : exec (tunnelStep config) s labels = some s') :
    P s' := by
  induction labels generalizing s n with
  | nil =>
      cases hrun
      exact h
  | cons label labels ih =>
      rw [arrivals_cons] at hn
      obtain ⟨s₁, hstep, hrest⟩ := exec_cons_eq_some.mp hrun
      have hkept := hP n s label s₁ hm h (hlabels label List.mem_cons_self) hstep
      refine ih (matching_step hm (by omega) hstep) hkept (by omega) ?_ hrest
      intro label' hmem
      exact hlabels label' (List.mem_cons_of_mem _ hmem)

/-! ## The registration -/

/-- Which tasks await their work connection. -/
lemma awaits_eq_some_iff {pc : WaitPc} :
    pc.awaits = some w ↔ (pc = .notifying w ∧ w.path = .stream) ∨ pc = .waiting w := by
  cases pc with
  | notifying v =>
      rw [WaitPc.awaits, Option.ite_none_right_eq_some, Option.some.injEq]
      constructor
      · rintro ⟨hpath, rfl⟩
        exact Or.inl ⟨rfl, hpath⟩
      · rintro (⟨⟨⟩, hpath⟩ | hpc)
        · exact ⟨hpath, rfl⟩
        · cases hpc
  | waiting v => simp [WaitPc.awaits]
  | _ => simp [WaitPc.awaits]

/-- The first registration in line is taken when the guard is free. -/
lemma register_of_head (config : AuthConfig) {work : WorkConn}
    (hhead : s.registering.head? = some work) (hfree : s.pendingGuard = none) :
    ∃ rest, tunnelStep config s .register =
      some { (registerWorkConn s work.connId work).1 with registering := rest } := by
  cases hline : s.registering with
  | nil =>
      rw [hline] at hhead
      cases hhead
  | cons first rest =>
      rw [hline, List.head?_cons, Option.some.injEq] at hhead
      subst hhead
      refine ⟨rest, ?_⟩
      rw [tunnelStep, hline]
      exact if_pos hfree

/-- What is registered has not been given to anybody before, so whoever has it then is the registered task
of the entry. -/
lemma awaits_of_matched (hm : Matching n s) {work : WorkConn} (hmem : work ∈ s.registering)
    {rest : List WorkConn}
    (hmatched : TunnelState.Matched
      { (registerWorkConn s work.connId work).1 with registering := rest } i w work) :
    (s.task i).awaits = some w := by
  have hnew : s.slot i ≠ some work := by
    intro hslot
    exact (hm.awaiting work hmem).2 _ (hm.slot i work hslot) rfl
  have hbridged : s.task i ≠ .bridged w work := by
    intro hpc
    exact (hm.awaiting work hmem).2 _ (hm.bridged i w work hpc) rfl
  dsimp only [TunnelState.Matched] at hmatched
  unfold registerWorkConn at hmatched
  split at hmatched
  · case h_1 j hpending =>
    split at hmatched
    · rcases hmatched with ⟨hpc, hslot⟩ | hpc
      · obtain rfl : i = j := by
          by_contra hne
          exact hnew ((Function.update_of_ne hne _ _).symm.trans hslot)
        have hreg := (hm.entry _ i hpending).1
        have hpc : s.task i = .notifying w ∨ s.task i = .waiting w := hpc
        refine awaits_eq_some_iff.mpr (hpc.imp_left fun hpc => ⟨hpc, ?_⟩)
        rw [hpc] at hreg
        exact of_decide_eq_true hreg
      · exact absurd hpc hbridged
    · rcases hmatched with ⟨-, hslot⟩ | hpc
      · exact absurd hslot hnew
      · exact absurd hpc hbridged
  · rcases hmatched with ⟨-, hslot⟩ | hpc
    · exact absurd hslot hnew
    · exact absurd hpc hbridged

/-- A task that has inserted its sender and whose wait has not expired is given what is registered under
its id, and no other task is. -/
lemma found_iff (hm : Matching n s) {work : WorkConn} (hhead : s.registering.head? = some work)
    (hfree : s.pendingGuard = none) (hkept : EntryKept work.connId s) (hid : work.connId = w.connId) :
    Found config s i w work ↔ (s.task i).awaits = some w := by
  obtain ⟨rest, hstep⟩ := register_of_head config hhead hfree
  constructor
  · rintro ⟨-, s', hs', hmatched⟩
    obtain rfl := Option.some.inj (hstep.symm.trans hs')
    exact awaits_of_matched hm (List.mem_of_mem_head? hhead) hmatched
  · intro hawaits
    have hpc := awaits_eq_some_iff.mp hawaits
    have hw : (s.task i).waiter = some w := by
      rcases hpc with ⟨hpc, -⟩ | hpc <;> rw [hpc] <;> rfl
    have hreg : (s.task i).registered = true := by
      rcases hpc with ⟨hpc, hpath⟩ | hpc
      · rw [hpc]
        exact decide_eq_true hpath
      · rw [hpc]
        rfl
    have halive : (s.task i).rxAlive = true := by
      rcases hpc with ⟨hpc, -⟩ | hpc <;> rw [hpc] <;> rfl
    have hpending : s.pending work.connId = some i := hkept i w hreg hw hid.symm
    refine ⟨by simp [registerWorkConn, hpending, halive], _, hstep, Or.inl ⟨?_, ?_⟩⟩
    · simpa [registerWorkConn, hpending, halive, removePending] using hpc.imp_left And.left
    · simp [registerWorkConn, hpending, halive]

/-- In any schedule with fewer than `2 ^ 64` arrivals, let `resp` be the first successful response that
names the connection id of a task `i`, whenever it is dispatched.  When `register_work_conn` gets the
guard of `pending_work_conns`, it finds the sender of the task and gives it the work connection exactly
if the task has inserted its sender by then and its wait has not expired by then. -/
theorem response_found_iff (config : AuthConfig) {before after : List TunnelLabel} {s t : TunnelState}
    {peer : Peer} {resp : NewWorkConnResponse} {i : ℕ} {w : Waiter}
    (hcount : arrivals before + arrivals after < 2 ^ 64)
    (hbefore : exec (tunnelStep config) .start before = some s)
    (hfirst : ∀ label ∈ before, ¬ Answers resp.connId label)
    (hsuccess : resp.success = true) (hid : resp.connId = w.connId)
    (hafter : exec (tunnelStep config) s
      (.firstMessage peer (.control (.newWorkConnResp resp)) :: after) = some t)
    (hhead : t.registering.head? = some (answering s peer resp)) (hfree : t.pendingGuard = none) :
    Found config t i w (answering s peer resp) ↔ (t.task i).awaits = some w := by
  have hm : Matching (0 + arrivals before) s := matching_exec matching_start (by omega) hbefore
  have hunanswered : Unanswered resp.connId s :=
    matching_exec_of_step (fun n s label s' hm h hlabel hstep => unanswered_step hm h hlabel hstep)
      matching_start ⟨entryKept_start _, nofun⟩ (by omega) hfirst hbefore
  obtain ⟨s₁, hdispatch, hrest⟩ := exec_cons_eq_some.mp hafter
  have hnone : arrivals [.firstMessage peer (.control (.newWorkConnResp resp))] = 0 := rfl
  have hm₁ := matching_step hm (by omega) hdispatch
  have hline : FirstInLine (answering s peer resp) s₁ := by
    cases hdispatch
    refine Or.inl ⟨?_, s.registering, [], ?_, hunanswered.2⟩
    · simpa [EntryKept, dispatchConnection, hsuccess, answering] using hunanswered.1
    · simp [dispatchConnection, hsuccess, answering]
  have hlineₜ : FirstInLine (answering s peer resp) t :=
    matching_exec_of_step (fun n s label s' hm h _ hstep => firstInLine_step hm h hstep)
      hm₁ hline (L := fun _ => True) (by omega) (fun _ _ => trivial) hrest
  have hmₜ := matching_exec hm₁ (by omega) hrest
  rcases hlineₜ with ⟨hkept, -⟩ | ⟨hgone, -⟩
  · exact found_iff hmₜ hhead hfree hkept hid
  · exact absurd (List.mem_of_mem_head? hhead) hgone

/-- A configuration for concrete runs. -/
def sampleAuth : AuthConfig := { token := "secret", version := "1", isAlphanumeric := Char.isAlphanum }

/-- A response for the connection id `k`. -/
def responseFor (k : UInt64) : NewWorkConnResponse := { proxyName := "", connId := k, success := true }

/-- A user connection that waits for its work connection. -/
def streamAsked : List TunnelLabel :=
  [.arrive 0 .stream "web" "c" none, .insertPending 0, .notified 0 true]

/-- The response is there when the task of a stream waits. -/
theorem response_found_streamAsked :
    ∃ s t w, exec (tunnelStep sampleAuth) .start streamAsked = some s ∧
      exec (tunnelStep sampleAuth) s
        [.firstMessage 7 (.control (.newWorkConnResp (responseFor 1)))] = some t ∧
      t.task 0 = .waiting w ∧ Found sampleAuth t 0 w (answering s 7 (responseFor 1)) := by
  refine ⟨_, _, _, rfl, rfl, rfl, ?_⟩
  refine (@response_found_iff sampleAuth streamAsked [] _ _ 7 (responseFor 1) 0 _ (by decide) rfl ?_
    rfl rfl rfl rfl rfl).mpr rfl
  simp [streamAsked, Answers]

/-- Every first successful response for a task of the path that is dispatched while the task's request
may be with the client and its wait has not expired finds the task. -/
def ResponsesFound (path : Path) : Prop :=
  ∀ (config : AuthConfig) (before after : List TunnelLabel) (s t : TunnelState) (peer : Peer)
    (resp : NewWorkConnResponse) (i : ℕ) (w : Waiter), arrivals before + arrivals after < 2 ^ 64 →
    exec (tunnelStep config) .start before = some s → (s.task i).asking = some w → w.path = path →
    (∀ label ∈ before, ¬ Answers resp.connId label) → resp.success = true →
    resp.connId = w.connId → exec (tunnelStep config) s
      (.firstMessage peer (.control (.newWorkConnResp resp)) :: after) = some t →
    t.registering.head? = some (answering s peer resp) → t.pendingGuard = none →
      Found config t i w (answering s peer resp)

/-- The first datagram of a source, whose client answers before the task has inserted its sender. -/
def udpAsked : List TunnelLabel := [.arrive 0 .udp "dns" "c" (some "192.0.2.1:53"), .notified 0 true]

/-- A UDP task whose wait is about to fail, and a user connection that waits. -/
def streamAskedBesideUdp : List TunnelLabel :=
  udpAsked ++ [.insertPending 0, .arrive 1 .stream "web" "c" none, .insertPending 1,
    .notified 1 true, .timeout 0]

/-- The UDP task cleans up, and gets its listener's sessions only when the wait of the user connection
has expired too. -/
def heldUp : List TunnelLabel := [.cleanup 0, .timeout 1, .unmapped 0]

/-- A client that answers a UDP request at once finds no task; and one that answers in time for a user
connection comes too late if the cleanup of a UDP session keeps the lock meanwhile. -/
theorem responses_missed : ¬ ResponsesFound .udp ∧ ¬ ResponsesFound .stream := by
  constructor
  · intro h
    have hfound := h sampleAuth udpAsked [] _ _ 7 (responseFor 1) 0 _ (by decide) rfl rfl rfl
      (by simp [udpAsked, Answers]) rfl rfl rfl rfl rfl
    exact absurd hfound.1 (by decide)
  · intro h
    have hfound := h sampleAuth streamAskedBesideUdp heldUp _ _ 7 (responseFor 2) 1 _ (by decide) rfl
      rfl rfl (by simp [streamAskedBesideUdp, udpAsked, Answers]) rfl rfl rfl rfl rfl
    exact absurd hfound.1 (by decide)

end RustProxy.Server
