import Mathlib.Logic.Function.Basic
import RustProxy.Foundation.Transition
import RustProxy.Server.Authentication

/-!
# The tunnel listener and the pending work connections

User connections and first datagrams wait for a work connection of the rule's client; tunnel
connections are told apart by their first message (`crates/server/src/tunnel.rs`,
`dispatch_connection`), and one that opens with a successful `NewWorkConnResp` is handed to the task
that waits under its `conn_id` (`crates/server/src/proxy_listener.rs`).

* A `Waiter` is a run of `handle_stream_proxy_conn` or of the new-session path of
  `handle_udp_packet`.  They differ in the order of two steps: the first registers its `oneshot`
  sender before it notifies the client, the second after.
* `pending_work_conns` is behind a lock.  Every section under it is one step, which needs the lock to
  be free, except that of a UDP task whose wait has failed: it keeps its guard while it awaits that of
  its listener's `sessions` (`pendingGuard`), for as long as that takes.  A tunnel connection whose
  response has been read waits in `registering` until `register_work_conn` gets the guard.
* Peers are arbitrary: a label `firstMessage` may carry any first message of any peer, with any
  `conn_id`.
* `authenticated` is a history variable: as which clients a peer has been accepted.
* `Authentic` is the property at stake and `authentic_iff_respondsAuthenticated` its theorem about
  whole schedules.
-/

namespace RustProxy.Server

open RustProxy.Proto Transition

/-- A party that opens tunnel connections. -/
abbrev Peer := ℕ

/-- The two paths on which a work connection is asked for. -/
inductive Path where
  | stream
  | udp
  deriving DecidableEq, Repr

/-- What a waiting task knows: the rule it serves and the connection id it was given. -/
structure Waiter where
  path : Path
  proxyName : String
  clientId : String
  userAddr : Option String
  connId : UInt64
  deriving DecidableEq, Repr

/-- An established tunnel connection whose first message was a successful `NewWorkConnResp`: the peer
at its other end, its number among the connections accepted by the tunnel listener, and the `conn_id`
it is registered under. -/
structure WorkConn where
  peer : Peer
  serial : ℕ
  connId : UInt64
  deriving DecidableEq, Repr

/-- Where a waiting task is. -/
inductive WaitPc where
  | idle
  /-- About to insert its `oneshot` sender into `pending_work_conns`. -/
  | inserting (w : Waiter)
  /-- `send_to(client_id, NewWorkConn)` is under way. -/
  | notifying (w : Waiter)
  /-- `timeout(30 s, rx).await`. -/
  | waiting (w : Waiter)
  /-- About to remove its entry from `pending_work_conns`; `rx` says whether the receiver of the
  `oneshot` channel still exists. -/
  | cleaning (w : Waiter) (rx : Bool)
  /-- The wait of a UDP task has failed and its entry is removed; it awaits the write guard of its
  listener's `sessions` with that of `pending_work_conns` held. -/
  | unmapping (w : Waiter)
  /-- The data is forwarded between the user and the work connection. -/
  | bridged (w : Waiter) (work : WorkConn)
  | failed (w : Waiter)
  deriving DecidableEq, Repr

/-- The state of the listener manager as far as work connections go.  The `oneshot` channels are
named by the tasks that created them; `accepted` counts the tunnel connections, and `registering` are
those that await the guard of `pending_work_conns`, the first to ask first.  The rest is history:
`requests` are the notifications that were handed to a client's session, `replies` the responses to
authentication requests and `delivered` the work connections that went into a `oneshot` channel, each
with the task it belongs to. -/
structure TunnelState where
  connIdCounter : UInt64
  pending : UInt64 → Option ℕ
  /-- The task that keeps the guard of `pending_work_conns` across an await. -/
  pendingGuard : Option ℕ
  task : ℕ → WaitPc
  slot : ℕ → Option WorkConn
  accepted : ℕ
  registering : List WorkConn
  requests : List (String × NewWorkConnRequest)
  replies : List (Peer × AuthResponse)
  delivered : List (ℕ × WorkConn)
  authenticated : Peer → String → Bool

/-- The server has just started. -/
def TunnelState.start : TunnelState where
  connIdCounter := 1
  pending := fun _ => none
  pendingGuard := none
  task := fun _ => .idle
  slot := fun _ => none
  accepted := 0
  registering := []
  requests := []
  replies := []
  delivered := []
  authenticated := fun _ _ => false

/-- The steps of the waiting tasks, and the first messages of tunnel connections. -/
inductive TunnelLabel where
  | arrive (i : ℕ) (path : Path) (proxyName clientId : String) (userAddr : Option String)
  | insertPending (i : ℕ)
  | notified (i : ℕ) (sent : Bool)
  | resume (i : ℕ)
  | timeout (i : ℕ)
  | senderDropped (i : ℕ)
  | cleanup (i : ℕ)
  /-- A UDP task gets the guard of `sessions`, and drops both. -/
  | unmapped (i : ℕ)
  | firstMessage (peer : Peer) (msg : Message)
  /-- `register_work_conn` gets the guard. -/
  | register
  deriving DecidableEq, Repr

namespace TunnelState

/-- A task goes on to another await. -/
def setTask (s : TunnelState) (i : ℕ) (pc : WaitPc) : TunnelState :=
  { s with task := Function.update s.task i pc }

/-- The task that goes on. -/
@[simp] lemma setTask_self (s : TunnelState) (i : ℕ) (pc : WaitPc) : (s.setTask i pc).task i = pc :=
  Function.update_self _ _ _

/-- The other tasks stay. -/
lemma setTask_of_ne (s : TunnelState) {i j : ℕ} (h : j ≠ i) (pc : WaitPc) :
    (s.setTask i pc).task j = s.task j := Function.update_of_ne h _ _

/-- `pending.insert(conn_id, tx)`, with a new `oneshot` channel. -/
def insertPending (s : TunnelState) (i : ℕ) (connId : UInt64) : TunnelState :=
  { s with
    pending := Function.update s.pending connId (some i)
    slot := Function.update s.slot i none }

/-- `pending.remove(&conn_id)`. -/
def removePending (s : TunnelState) (connId : UInt64) : TunnelState :=
  { s with pending := Function.update s.pending connId none }

/-- The entry that was removed. -/
lemma removePending_self (s : TunnelState) (connId : UInt64) :
    (s.removePending connId).pending connId = none := Function.update_self _ _ _

/-- The other entries stay. -/
lemma removePending_of_ne (s : TunnelState) {connId k : UInt64} (h : k ≠ connId) :
    (s.removePending connId).pending k = s.pending k := Function.update_of_ne h _ _

end TunnelState

open TunnelState

/-- `work_req` of `handle_stream_proxy_conn` and `handle_udp_packet`. -/
def Waiter.request (w : Waiter) : NewWorkConnRequest :=
  { proxyName := w.proxyName, connId := w.connId, userAddr := w.userAddr }

/-- A task starts: `CONN_ID_COUNTER.fetch_add(1)`, then the path's first step. -/
def arrive (s : TunnelState) (i : ℕ) (path : Path) (proxyName clientId : String)
    (userAddr : Option String) : TunnelState :=
  let w : Waiter := { path, proxyName, clientId, userAddr, connId := s.connIdCounter }
  let first : WaitPc := match path with
    | .stream => .inserting w
    | .udp => .notifying w
  ({ s with connIdCounter := s.connIdCounter + 1 } : TunnelState).setTask i first

/-- The sender is registered; then the path's next step. -/
def inserted (s : TunnelState) (i : ℕ) (w : Waiter) : TunnelState :=
  let next : WaitPc := match w.path with
    | .stream => .notifying w
    | .udp => .waiting w
  (s.insertPending i w.connId).setTask i next

/-- `send_to` has returned `sent`. -/
def notified (s : TunnelState) (i : ℕ) (w : Waiter) : Bool → TunnelState
  | true =>
      let next : WaitPc := match w.path with
        | .stream => .waiting w
        | .udp => .inserting w
      ({ s with requests := s.requests ++ [(w.clientId, w.request)] } : TunnelState).setTask i next
  | false =>
      let next : WaitPc := match w.path with
        | .stream => .cleaning w true
        | .udp => .failed w
      s.setTask i next

/-- The entry is removed; a UDP task keeps the guard, for it has its source to remove too. -/
def cleanedUp (s : TunnelState) (i : ℕ) (w : Waiter) : TunnelState :=
  match w.path with
  | .stream => (s.removePending w.connId).setTask i (.failed w)
  | .udp => ({ s.removePending w.connId with pendingGuard := some i } : TunnelState).setTask i
      (.unmapping w)

/-- The receiver of a task's `oneshot` channel exists. -/
def WaitPc.rxAlive : WaitPc → Bool
  | .notifying _ => true
  | .waiting _ => true
  | .cleaning _ rx => rx
  | _ => false

/-- Source: `proxy_listener.rs`, `ProxyListenerManager::register_work_conn`. -/
def registerWorkConn (s : TunnelState) (connId : UInt64) (work : WorkConn) : TunnelState × Bool :=
  match s.pending connId with
  | some i =>
      if (s.task i).rxAlive then
        ({ s.removePending connId with
            slot := Function.update s.slot i (some work)
            delivered := s.delivered ++ [(i, work)] }, true)
      else (s.removePending connId, false)
  | none => (s, false)

/-- Source: `client_session.rs`, `handle_client_with_auth`, as far as the response. -/
def handleAuth (config : AuthConfig) (s : TunnelState) (peer : Peer) (req : AuthRequest) :
    TunnelState :=
  let resp := authenticate config req
  { s with
    replies := s.replies ++ [(peer, resp)]
    authenticated := fun p c =>
      s.authenticated p c || (resp.success && p = peer && c = req.clientId) }

/-- Source: `tunnel.rs`, `dispatch_connection`, for a first message that was decoded in time, as far as
the guard that `register_work_conn` asks for. -/
def dispatchConnection (config : AuthConfig) (s : TunnelState) (peer : Peer) : Message → TunnelState
  | .control (.auth req) => handleAuth config s peer req
  | .control (.newWorkConnResp resp) =>
      if resp.success then
        { s with
          registering := s.registering ++
            [{ peer := peer, serial := s.accepted, connId := resp.connId }] }
      else s
  | _ => s

/-- One step of a task or of the dispatcher. -/
def tunnelStep (config : AuthConfig) (s : TunnelState) : TunnelLabel → Option TunnelState
  | .arrive i path proxyName clientId userAddr =>
      match s.task i with
      | .idle => some (arrive s i path proxyName clientId userAddr)
      | _ => none
  | .insertPending i =>
      match s.task i with
      | .inserting w => if s.pendingGuard = none then some (inserted s i w) else none
      | _ => none
  | .notified i sent =>
      match s.task i with
      | .notifying w => some (notified s i w sent)
      | _ => none
  | .resume i =>
      match s.task i, s.slot i with
      | .waiting w, some work => some (s.setTask i (.bridged w work))
      | _, _ => none
  | .timeout i =>
      match s.task i, s.slot i with
      | .waiting w, none => some (s.setTask i (.cleaning w false))
      | _, _ => none
  | .senderDropped i =>
      match s.task i, s.slot i with
      | .waiting w, none =>
          if s.pending w.connId ≠ some i then some (s.setTask i (.cleaning w false)) else none
      | _, _ => none
  | .cleanup i =>
      match s.task i with
      | .cleaning w _ => if s.pendingGuard = none then some (cleanedUp s i w) else none
      | _ => none
  | .unmapped i =>
      match s.task i with
      | .unmapping w => some (({ s with pendingGuard := none } : TunnelState).setTask i (.failed w))
      | _ => none
  | .firstMessage peer msg =>
      some { dispatchConnection config s peer msg with accepted := s.accepted + 1 }
  | .register =>
      match s.registering with
      | work :: rest =>
          if s.pendingGuard = none then
            some { (registerWorkConn s work.connId work).1 with registering := rest }
          else none
      | [] => none

/-- What a step can be. -/
inductive TunnelMove (config : AuthConfig) (s : TunnelState) : TunnelLabel → TunnelState → Prop
  | arrive (i : ℕ) (path : Path) (proxyName clientId : String) (userAddr : Option String)
      (hpc : s.task i = .idle) : TunnelMove config s (.arrive i path proxyName clientId userAddr)
        (arrive s i path proxyName clientId userAddr)
  | insertPending (i : ℕ) (w : Waiter) (hpc : s.task i = .inserting w)
      (hfree : s.pendingGuard = none) : TunnelMove config s (.insertPending i) (inserted s i w)
  | notified (i : ℕ) (sent : Bool) (w : Waiter) (hpc : s.task i = .notifying w) :
      TunnelMove config s (.notified i sent) (notified s i w sent)
  | resume (i : ℕ) (w : Waiter) (work : WorkConn) (hpc : s.task i = .waiting w)
      (hslot : s.slot i = some work) :
      TunnelMove config s (.resume i) (s.setTask i (.bridged w work))
  | timeout (i : ℕ) (w : Waiter) (hpc : s.task i = .waiting w) (hslot : s.slot i = none) :
      TunnelMove config s (.timeout i) (s.setTask i (.cleaning w false))
  | senderDropped (i : ℕ) (w : Waiter) (hpc : s.task i = .waiting w) (hslot : s.slot i = none)
      (hgone : s.pending w.connId ≠ some i) :
      TunnelMove config s (.senderDropped i) (s.setTask i (.cleaning w false))
  | cleanup (i : ℕ) (w : Waiter) (rx : Bool) (hpc : s.task i = .cleaning w rx)
      (hfree : s.pendingGuard = none) : TunnelMove config s (.cleanup i) (cleanedUp s i w)
  | unmapped (i : ℕ) (w : Waiter) (hpc : s.task i = .unmapping w) :
      TunnelMove config s (.unmapped i)
        (({ s with pendingGuard := none } : TunnelState).setTask i (.failed w))
  | firstMessage (peer : Peer) (msg : Message) : TunnelMove config s (.firstMessage peer msg)
      { dispatchConnection config s peer msg with accepted := s.accepted + 1 }
  | register (work : WorkConn) (rest : List WorkConn) (hfirst : s.registering = work :: rest)
      (hfree : s.pendingGuard = none) : TunnelMove config s .register
        { (registerWorkConn s work.connId work).1 with registering := rest }

/-- A step is a move. -/
theorem tunnelMove_of_step {config : AuthConfig} {s s' : TunnelState} {label : TunnelLabel}
    (h : tunnelStep config s label = some s') : TunnelMove config s label s' := by
  cases label with
  | arrive i path proxyName clientId userAddr =>
      simp only [tunnelStep] at h
      split at h <;> cases h
      case h_1.refl hpc => exact .arrive i path proxyName clientId userAddr hpc
  | insertPending i =>
      simp only [tunnelStep] at h
      split at h
      case h_1 w hpc =>
          rw [Option.ite_none_right_eq_some, Option.some.injEq] at h
          obtain ⟨hfree, rfl⟩ := h
          exact .insertPending i w hpc hfree
      case h_2 => cases h
  | notified i sent =>
      simp only [tunnelStep] at h
      split at h <;> cases h
      case h_1.refl w hpc => exact .notified i sent w hpc
  | resume i =>
      simp only [tunnelStep] at h
      split at h <;> cases h
      case h_1.refl w work hpc hslot => exact .resume i w work hpc hslot
  | timeout i =>
      simp only [tunnelStep] at h
      split at h <;> cases h
      case h_1.refl w hpc hslot => exact .timeout i w hpc hslot
  | senderDropped i =>
      simp only [tunnelStep] at h
      split at h
      case h_1 w hpc hslot =>
          rw [Option.ite_none_right_eq_some, Option.some.injEq] at h
          obtain ⟨hgone, rfl⟩ := h
          exact .senderDropped i w hpc hslot hgone
      case h_2 => cases h
  | cleanup i =>
      simp only [tunnelStep] at h
      split at h
      case h_1 w rx hpc =>
          rw [Option.ite_none_right_eq_some, Option.some.injEq] at h
          obtain ⟨hfree, rfl⟩ := h
          exact .cleanup i w rx hpc hfree
      case h_2 => cases h
  | unmapped i =>
      simp only [tunnelStep] at h
      split at h <;> cases h
      case h_1.refl w hpc => exact .unmapped i w hpc
  | firstMessage peer msg =>
      cases h
      exact .firstMessage peer msg
  | register =>
      simp only [tunnelStep] at h
      split at h
      case h_1 work rest hfirst =>
          rw [Option.ite_none_right_eq_some, Option.some.injEq] at h
          obtain ⟨hfree, rfl⟩ := h
          exact .register work rest hfirst hfree
      case h_2 => cases h

/-! ## The property -/

/-- Task `i`, waiting as `w`, has been given the work connection: the connection is in its `oneshot`
channel, or bridged already. -/
def TunnelState.Matched (s : TunnelState) (i : ℕ) (w : Waiter) (work : WorkConn) : Prop :=
  (s.task i = .notifying w ∨ s.task i = .waiting w) ∧ s.slot i = some work ∨
    s.task i = .bridged w work

/-- Every work connection that was given to a task comes from a peer that has been accepted as the
client of the task's rule. -/
def Authentic (s : TunnelState) : Prop :=
  ∀ i w work, s.Matched i w work → s.authenticated work.peer w.clientId = true

/-- The peer of a work connection that is bridged to a user has been accepted as the client of the
rule. -/
def BridgesAuthentic (s : TunnelState) : Prop :=
  ∀ i w work, s.task i = .bridged w work → s.authenticated work.peer w.clientId = true

/-- A successful `NewWorkConnResp` that names the connection id of a waiting task, when it is
registered, comes from a peer that has been accepted as the client of the task's rule. -/
def RespondsAuthenticated (s : TunnelState) (label : TunnelLabel) : Prop :=
  ∀ work i w, label = .register → s.registering.head? = some work →
    s.pending work.connId = some i → (s.task i = .notifying w ∨ s.task i = .waiting w) →
      s.authenticated work.peer w.clientId = true

/-- The invariant: besides the property, a task that has not started has been given nothing. -/
structure TunnelInv (s : TunnelState) : Prop where
  authentic : Authentic s
  fresh : ∀ i, s.task i = .idle → s.slot i = none

variable {config : AuthConfig} {s s' : TunnelState}

/-- What is bridged is authentic if all that is handed over is. -/
lemma Authentic.bridgesAuthentic (h : Authentic s) : BridgesAuthentic s :=
  fun i w work hbridged => h i w work (Or.inr hbridged)

/-- The start keeps the invariant. -/
lemma tunnelInv_start : TunnelInv .start where
  authentic := by
    rintro i w work (⟨_, hslot⟩ | hbridged)
    · cases hslot
    · cases hbridged
  fresh := fun _ _ => rfl

/-- What a task that has moved was given. -/
lemma matched_setTask {i : ℕ} {pc : WaitPc} {w : Waiter} {work : WorkConn} :
    (s.setTask i pc).Matched i w work ↔
      (pc = .notifying w ∨ pc = .waiting w) ∧ s.slot i = some work ∨ pc = .bridged w work := by
  simp [TunnelState.Matched, TunnelState.setTask]

/-- A task moves, and is given nothing by it. -/
lemma TunnelInv.setTask (h : TunnelInv s) {i : ℕ} {pc : WaitPc} (hpc : pc ≠ .idle)
    (hmatched : ∀ w work, (s.setTask i pc).Matched i w work →
      s.authenticated work.peer w.clientId = true) : TunnelInv (s.setTask i pc) where
  authentic := by
    intro j w work hm
    by_cases hj : j = i
    · subst hj
      exact hmatched w work hm
    · refine h.authentic j w work ?_
      simpa [TunnelState.Matched, TunnelState.setTask, Function.update_of_ne hj] using hm
  fresh := by
    intro j hidle
    by_cases hj : j = i
    · subst hj
      exact absurd (by simpa [TunnelState.setTask] using hidle) hpc
    · exact h.fresh j (by simpa [TunnelState.setTask, Function.update_of_ne hj] using hidle)

/-- Updates of components the invariant does not read. -/
lemma TunnelInv.congr (h : TunnelInv s) (htask : s'.task = s.task) (hslot : s'.slot = s.slot)
    (hauth : ∀ p c, s.authenticated p c = true → s'.authenticated p c = true) : TunnelInv s' where
  authentic := by
    intro i w work hm
    refine hauth _ _ (h.authentic i w work ?_)
    simpa [TunnelState.Matched, htask, hslot] using hm
  fresh := by
    rw [htask, hslot]
    exact h.fresh

/-- A new `oneshot` channel is empty. -/
lemma TunnelInv.insertPending (h : TunnelInv s) {i : ℕ} (connId : UInt64) :
    TunnelInv (s.insertPending i connId) where
  authentic := by
    intro j w work hm
    by_cases hj : j = i
    · subst hj
      rcases hm with ⟨-, hslot⟩ | hbridged
      · simp [TunnelState.insertPending] at hslot
      · exact h.authentic j w work (Or.inr hbridged)
    · refine h.authentic j w work ?_
      simpa [TunnelState.Matched, TunnelState.insertPending, Function.update_of_ne hj] using hm
  fresh := by
    intro j hidle
    by_cases hj : j = i
    · subst hj
      simp [TunnelState.insertPending]
    · simpa [TunnelState.insertPending, Function.update_of_ne hj] using h.fresh j hidle

/-- A work connection is given to a task whose client its peer has been accepted as. -/
lemma TunnelInv.registerWorkConn (h : TunnelInv s) {connId : UInt64} {work : WorkConn}
    (hauth : ∀ i w, s.pending connId = some i → (s.task i = .notifying w ∨ s.task i = .waiting w) →
      s.authenticated work.peer w.clientId = true) :
    TunnelInv (registerWorkConn s connId work).1 := by
  unfold RustProxy.Server.registerWorkConn
  split
  · case h_1 i hpending =>
    split
    · case isTrue halive =>
      refine ⟨?_, ?_⟩
      · intro j w work' hm
        by_cases hj : j = i
        · subst hj
          rcases hm with ⟨hpc, hslot⟩ | hbridged
          · obtain rfl : work = work' := by simpa using hslot
            exact hauth j w hpending hpc
          · exact h.authentic j w work' (Or.inr hbridged)
        · refine h.authentic j w work' ?_
          simpa [TunnelState.Matched, removePending, Function.update_of_ne hj] using hm
      · intro j hidle
        have hj : j ≠ i := by
          rintro rfl
          have hidle' : s.task j = .idle := hidle
          rw [hidle'] at halive
          cases halive
        simpa [removePending, Function.update_of_ne hj] using h.fresh j hidle
    · exact h.congr rfl rfl fun _ _ => id
  · exact h

/-- An arrival keeps the invariant. -/
lemma TunnelInv.arrive (h : TunnelInv s) {i : ℕ} (hpc : s.task i = .idle) (path : Path)
    (proxyName clientId : String) (userAddr : Option String) :
    TunnelInv (arrive s i path proxyName clientId userAddr) := by
  have hcounter : TunnelInv { s with connIdCounter := s.connIdCounter + 1 } :=
    h.congr rfl rfl fun _ _ => id
  have hslot := h.fresh i hpc
  cases path with
  | stream =>
      refine hcounter.setTask (by simp) fun w work hm => ?_
      simp [matched_setTask] at hm
  | udp =>
      refine hcounter.setTask (by simp) fun w work hm => ?_
      simp [matched_setTask, hslot] at hm

/-- An insertion keeps the invariant. -/
lemma TunnelInv.inserted (h : TunnelInv s) (i : ℕ) (w : Waiter) : TunnelInv (inserted s i w) := by
  unfold RustProxy.Server.inserted
  have hslot : (s.insertPending i w.connId).slot i = none := Function.update_self _ _ _
  refine (h.insertPending w.connId).setTask (by split <;> simp) fun w' work hm => ?_
  rw [matched_setTask, hslot] at hm
  split at hm <;> simp at hm

/-- A notification keeps the invariant. -/
lemma TunnelInv.notified (h : TunnelInv s) {i : ℕ} {w : Waiter} (hpc : s.task i = .notifying w)
    (sent : Bool) : TunnelInv (notified s i w sent) := by
  unfold RustProxy.Server.notified
  split
  · have hrequests : TunnelInv { s with requests := s.requests ++ [(w.clientId, w.request)] } :=
      h.congr rfl rfl fun _ _ => id
    refine hrequests.setTask (by split <;> simp) fun w' work hm => ?_
    rw [matched_setTask] at hm
    split at hm
    · rcases hm with ⟨hw, hslot⟩ | hbridged
      · obtain rfl : w = w' := by simpa using hw
        exact h.authentic i w work (Or.inl ⟨Or.inl hpc, hslot⟩)
      · cases hbridged
    · simp at hm
  · refine h.setTask (by split <;> simp) fun w' work hm => ?_
    rw [matched_setTask] at hm
    split at hm <;> simp at hm

/-- A step in which only accepted peers respond keeps the invariant. -/
theorem tunnelInv_step (h : TunnelInv s) {label : TunnelLabel}
    (hok : RespondsAuthenticated s label) (hstep : tunnelStep config s label = some s') :
    TunnelInv s' := by
  cases tunnelMove_of_step hstep with
  | arrive i path proxyName clientId userAddr hpc =>
      exact h.arrive hpc path proxyName clientId userAddr
  | insertPending i w hpc hfree => exact h.inserted i w
  | notified i sent w hpc => exact h.notified hpc sent
  | resume i w work hpc hslot =>
      refine h.setTask (by simp) fun w' work' hm => ?_
      simp only [matched_setTask, reduceCtorEq, or_self, false_and, false_or,
        WaitPc.bridged.injEq] at hm
      obtain ⟨rfl, rfl⟩ := hm
      exact h.authentic i w work (Or.inl ⟨Or.inr hpc, hslot⟩)
  | timeout | senderDropped =>
      exact h.setTask (by simp) fun w' work hm => by simp [matched_setTask] at hm
  | cleanup i w rx hpc hfree =>
      have hremove : TunnelInv (s.removePending w.connId) := h.congr rfl rfl fun _ _ => id
      unfold cleanedUp
      split
      · exact hremove.setTask (by simp) fun w' work hm => by simp [matched_setTask] at hm
      · have hguard : TunnelInv { s.removePending w.connId with pendingGuard := some i } :=
          hremove.congr rfl rfl fun _ _ => id
        exact hguard.setTask (by simp) fun w' work hm => by simp [matched_setTask] at hm
  | unmapped i w hpc =>
      have hguard : TunnelInv { s with pendingGuard := none } := h.congr rfl rfl fun _ _ => id
      exact hguard.setTask (by simp) fun w' work hm => by simp [matched_setTask] at hm
  | firstMessage peer msg =>
      have hdispatch : TunnelInv (dispatchConnection config s peer msg) := by
        unfold dispatchConnection
        split
        · exact h.congr rfl rfl fun p c hauth => by simp [handleAuth, hauth]
        · split
          · exact h.congr rfl rfl fun _ _ => id
          · exact h
        · exact h
      exact hdispatch.congr rfl rfl fun _ _ => id
  | register work rest hfirst hfree =>
      have hregister : TunnelInv (registerWorkConn s work.connId work).1 := by
        refine h.registerWorkConn ?_
        intro i w hpending hpc
        exact hok work i w rfl (by rw [hfirst]; rfl) hpending hpc
      exact hregister.congr rfl rfl fun _ _ => id

/-- The response of a peer that was not accepted as the client of the waiting task's rule gives it
the user's connection. -/
theorem not_authentic_step {label : TunnelLabel} (hbad : ¬ RespondsAuthenticated s label)
    (hstep : tunnelStep config s label = some s') : ¬ Authentic s' := by
  unfold RespondsAuthenticated at hbad
  push Not at hbad
  obtain ⟨work, i, w, rfl, hhead, hpending, hpc, hauth⟩ := hbad
  have halive : (s.task i).rxAlive = true := by
    rcases hpc with hpc | hpc <;> rw [hpc] <;> rfl
  cases tunnelMove_of_step hstep with
  | register work' rest hfirst hfree =>
      rw [hfirst, List.head?_cons, Option.some.injEq] at hhead
      subst hhead
      have hgiven : (registerWorkConn s work'.connId work').1
          = { s.removePending work'.connId with
              slot := Function.update s.slot i (some work')
              delivered := s.delivered ++ [(i, work')] } := by
        simp [registerWorkConn, hpending, halive]
      rw [hgiven]
      intro hauthentic
      exact hauth (hauthentic i w work' (Or.inl ⟨hpc, Function.update_self _ _ _⟩))

/-! ## What acceptance means -/

/-- Handing over authenticates nobody. -/
lemma registerWorkConn_authenticated (s : TunnelState) (connId : UInt64) (work : WorkConn) :
    (registerWorkConn s connId work).1.authenticated = s.authenticated := by
  unfold registerWorkConn
  split
  · split <;> rfl
  · rfl

/-- Cleaning up authenticates nobody. -/
lemma cleanedUp_authenticated (s : TunnelState) (i : ℕ) (w : Waiter) :
    (cleanedUp s i w).authenticated = s.authenticated := by
  unfold cleanedUp
  split <;> rfl

/-- Notifying authenticates nobody. -/
lemma notified_authenticated (s : TunnelState) (i : ℕ) (w : Waiter) (sent : Bool) :
    (notified s i w sent).authenticated = s.authenticated := by
  cases sent <;> rfl

/-- Only a first message with the token of the server makes a peer accepted. -/
lemma authenticated_step {label : TunnelLabel} (hstep : tunnelStep config s label = some s')
    {peer : Peer} {c : String} (hauth : s'.authenticated peer c = true) :
    s.authenticated peer c = true ∨ ∃ req : AuthRequest,
      label = .firstMessage peer (.control (.auth req)) ∧ req.clientId = c ∧
        req.token = config.token := by
  cases tunnelMove_of_step hstep with
  | firstMessage p msg =>
      unfold dispatchConnection at hauth
      split at hauth
      · case h_1 req =>
        simp only [handleAuth, Bool.or_eq_true, Bool.and_eq_true, decide_eq_true_iff] at hauth
        rcases hauth with hauth | ⟨⟨hsuccess, rfl⟩, rfl⟩
        · exact Or.inl hauth
        · exact Or.inr ⟨req, rfl, rfl, ((authenticate_success config req).mp hsuccess).2⟩
      · split at hauth <;> exact Or.inl hauth
      · exact Or.inl hauth
  | register work rest hfirst hfree =>
      dsimp only at hauth
      rw [registerWorkConn_authenticated] at hauth
      exact Or.inl hauth
  | cleanup i w rx hpc hfree =>
      rw [cleanedUp_authenticated] at hauth
      exact Or.inl hauth
  | notified i sent w hpc =>
      rw [notified_authenticated] at hauth
      exact Or.inl hauth
  | arrive | insertPending | resume | timeout | senderDropped | unmapped => exact Or.inl hauth

/-- A peer that has been accepted as a client has sent the token of the server. -/
theorem authRequest_of_authenticated {labels : List TunnelLabel}
    (h : exec (tunnelStep config) s labels = some s') {peer : Peer} {c : String}
    (hauth : s'.authenticated peer c = true) :
    s.authenticated peer c = true ∨ ∃ req : AuthRequest,
      .firstMessage peer (.control (.auth req)) ∈ labels ∧ req.clientId = c ∧
        req.token = config.token := by
  induction labels generalizing s with
  | nil =>
      cases h
      exact Or.inl hauth
  | cons label labels ih =>
      obtain ⟨s₁, hstep, hrun⟩ := exec_cons_eq_some.mp h
      rcases ih hrun with hauth₁ | ⟨req, hmem, hreq⟩
      · rcases authenticated_step hstep hauth₁ with hauth₀ | ⟨req, rfl, hreq⟩
        · exact Or.inl hauth₀
        · exact Or.inr ⟨req, List.mem_cons_self, hreq⟩
      · exact Or.inr ⟨req, List.mem_cons_of_mem _ hmem, hreq⟩

/-! ## The theorem -/

/-- In a schedule of any user connections, datagrams, first messages of any peers and failures, every
work connection that is given to a waiting task comes from a peer that was accepted as the client of
the rule, exactly when only such peers answer for the connection ids of waiting tasks; and then every
bridged connection does.  Accepted as a client is only who has sent an authentication request for it
with the token of the server. -/
theorem authentic_iff_respondsAuthenticated (config : AuthConfig) (labels : List TunnelLabel) :
    (Always (tunnelStep config) Authentic .start labels ↔
      EachStep (tunnelStep config) RespondsAuthenticated .start labels) ∧
    (EachStep (tunnelStep config) RespondsAuthenticated .start labels →
      Always (tunnelStep config) BridgesAuthentic .start labels) ∧
    ∀ s, exec (tunnelStep config) .start labels = some s →
      ∀ peer c, s.authenticated peer c = true → ∃ req : AuthRequest,
        .firstMessage peer (.control (.auth req)) ∈ labels ∧ req.clientId = c ∧
          req.token = config.token := by
  refine ⟨?_, ?_, ?_⟩
  · exact always_iff_eachStep (fun _ hs => hs.authentic)
      (fun _ _ _ hs hok hstep => tunnelInv_step hs hok hstep)
      (fun _ _ _ _ hbad hstep => not_authentic_step hbad hstep) tunnelInv_start labels
  · exact always_of_eachStep (fun _ hs => hs.authentic.bridgesAuthentic)
      (fun _ _ _ hs hok hstep => tunnelInv_step hs hok hstep) tunnelInv_start
  · intro s hrun peer c hauth
    rcases authRequest_of_authenticated hrun hauth with hstart | hreq
    · cases hstart
    · exact hreq

/-! ## A peer without the token -/

/-- A user connects to a rule of client `c`; peer 1, which never authenticates, answers for the first
connection id. -/
def hijack : List TunnelLabel :=
  [.arrive 0 .stream "web" "c" none, .insertPending 0, .notified 0 true,
    .firstMessage 1 (.control (.newWorkConnResp { proxyName := "", connId := 1, success := true })),
    .register, .resume 0]

/-- A peer that never presents the token obtains a user's connection. -/
theorem hijack_bridges :
    ¬ ∀ (config : AuthConfig) (labels : List TunnelLabel) (s : TunnelState),
      exec (tunnelStep config) .start labels = some s → BridgesAuthentic s := by
  intro h
  let config : AuthConfig := { token := "secret", version := "1", isAlphanumeric := Char.isAlphanum }
  obtain ⟨s, hs⟩ : ∃ s, exec (tunnelStep config) .start hijack = some s := ⟨_, rfl⟩
  have hbridges := h config hijack s hs
  cases hs
  exact absurd (hbridges 0 _ _ rfl) (by decide)

end RustProxy.Server
