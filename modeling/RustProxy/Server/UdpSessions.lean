import Mathlib.Logic.Function.Basic
import RustProxy.Foundation.RwLock
import RustProxy.Foundation.Transition

/-!
# The sessions of the UDP listeners

`start_udp_listener` of `crates/server/src/proxy_listener.rs` spawns a task for every datagram, and
each of them runs `handle_udp_packet` on two tables of its listener: `sessions`, from source addresses
to connection ids, and `session_senders`, from connection ids to the channel of the session's worker.
All listeners draw their ids from one counter, and put their waiters into one `pending_work_conns`.

* `UdpState` has the tables of all listeners, and their locks as fair read-write locks.  A step is a
  request for a lock, a critical section, or an await that a task gets past.  Guards that are held
  across an await (`PacketPc.keeps`) stay in the lock.
* A task that has opened a session ends when it spawns the session's worker, which goes by the same
  number; channels are named by these numbers.
* What the worker does with the datagrams, and why it ends, is left open here: it may end at any time.
  So is what becomes of the waiters in `pending_work_conns`; its other users, the handlers of streams
  and of work connections, appear as users of its lock.
* `Act` is what a critical section does; `Move` is what a step does to the tables and to the part that
  one number plays for them, and `Course` where it takes a task or worker.
-/

namespace RustProxy.Server.Udp

open Transition

/-- `std::net::SocketAddr`. -/
abbrev SocketAddr := String

/-- `CONN_ID_COUNTER` and what is drawn from it. -/
abbrev ConnId := UInt64

/-- The payload of a datagram. -/
abbrev Bytes := List UInt8

/-- Where a datagram comes from: the listener that receives it, and `src_addr`. -/
structure Source where
  listener : ℕ
  addr : SocketAddr
  deriving DecidableEq, Repr

/-- `tokio::sync::mpsc::channel::<bytes::Bytes>(256)`. -/
def channelCapacity : ℕ := 256

/-- Where a run of `handle_udp_packet` is, or the worker it has spawned. -/
inductive PacketPc where
  | idle
  /-- About to look its source up in `sessions`. -/
  | looking (src : Source) (data : Bytes)
  /-- Its source has a session; about to read `session_senders`. -/
  | found (src : Source) (data : Bytes) (k : ConnId)
  /-- `tx.send(data).await` under the read guard. -/
  | sending (src : Source) (data : Bytes) (k : ConnId) (ch : ℕ)
  /-- The channel was closed; about to remove the source from `sessions`. -/
  | stale (src : Source) (k : ConnId)
  /-- About to remove the id from `session_senders`, with the write guard on `sessions` held. -/
  | staleHolding (src : Source) (k : ConnId)
  /-- About to insert its source into `sessions`. -/
  | inserting (src : Source) (data : Bytes) (k : ConnId)
  /-- `send_to(client_id, NewWorkConn)` is under way. -/
  | notifying (src : Source) (data : Bytes) (k : ConnId)
  /-- The client is offline; about to remove the source. -/
  | unsent (src : Source) (k : ConnId)
  /-- About to insert its waiter into `pending_work_conns`. -/
  | enrolling (src : Source) (data : Bytes) (k : ConnId)
  /-- Awaits the work connection. -/
  | waiting (src : Source) (data : Bytes) (k : ConnId)
  /-- The wait has failed; about to remove its waiter from `pending_work_conns`. -/
  | expired (src : Source) (k : ConnId)
  /-- About to remove the source, with the write guard on `pending_work_conns` held. -/
  | expiredHolding (src : Source) (k : ConnId)
  /-- About to insert the new channel into `session_senders`. -/
  | registering (src : Source) (data : Bytes) (k : ConnId)
  /-- `data_tx.send(data).await`, and then the worker is spawned. -/
  | firstSend (src : Source) (data : Bytes) (k : ConnId)
  /-- The worker, in `udp_session_worker` with the receiver of the channel. -/
  | running (src : Source) (k : ConnId)
  /-- The worker, about to remove the source from `sessions`. -/
  | cleaning (src : Source) (k : ConnId)
  /-- The worker, about to remove the id from `session_senders`. -/
  | dropping (src : Source) (k : ConnId)
  | done
  deriving DecidableEq, Repr

/-- The source whose datagram the task handles, or whose session the worker serves. -/
def PacketPc.source : PacketPc → Option Source
  | .idle => none
  | .looking src _ => some src
  | .found src _ _ => some src
  | .sending src _ _ _ => some src
  | .stale src _ => some src
  | .staleHolding src _ => some src
  | .inserting src _ _ => some src
  | .notifying src _ _ => some src
  | .unsent src _ => some src
  | .enrolling src _ _ => some src
  | .waiting src _ _ => some src
  | .expired src _ => some src
  | .expiredHolding src _ => some src
  | .registering src _ _ => some src
  | .firstSend src _ _ => some src
  | .running src _ => some src
  | .cleaning src _ => some src
  | .dropping src _ => some src
  | .done => none

/-- The receiver of the channel of this number has been dropped. -/
def PacketPc.rxDropped : PacketPc → Bool
  | .cleaning _ _ => true
  | .dropping _ _ => true
  | .done => true
  | _ => false

/-! ## Locks -/

/-- The locks: two of each listener, and the one all of them share. -/
inductive Lock where
  | sessions (listener : ℕ)
  | senders (listener : ℕ)
  | pending
  deriving DecidableEq, Repr

/-- Who uses the locks: the tasks and workers here, and the other users of `pending_work_conns`. -/
inductive LockUser where
  | task (i : ℕ)
  | other (n : ℕ)
  deriving DecidableEq, Repr

/-- A task is none of the others. -/
lemma LockUser.task_ne_other (i n : ℕ) : LockUser.task i ≠ .other n := nofun

/-- The others are no tasks. -/
lemma LockUser.other_ne_task (n i : ℕ) : LockUser.other n ≠ .task i := nofun

/-- The lock whose guard the task awaits, and what it wants it for. -/
def PacketPc.needs : PacketPc → Option (Lock × Access)
  | .looking src _ => some (.sessions src.listener, .read)
  | .found src _ _ => some (.senders src.listener, .read)
  | .stale src _ => some (.sessions src.listener, .write)
  | .staleHolding src _ => some (.senders src.listener, .write)
  | .inserting src _ _ => some (.sessions src.listener, .write)
  | .unsent src _ => some (.sessions src.listener, .write)
  | .enrolling _ _ _ => some (.pending, .write)
  | .expired _ _ => some (.pending, .write)
  | .expiredHolding src _ => some (.sessions src.listener, .write)
  | .registering src _ _ => some (.senders src.listener, .write)
  | .cleaning src _ => some (.sessions src.listener, .write)
  | .dropping src _ => some (.senders src.listener, .write)
  | _ => none

/-- The lock whose guard is held across the await. -/
def PacketPc.keeps : PacketPc → Option Lock
  | .sending src _ _ _ => some (.senders src.listener)
  | .staleHolding src _ => some (.sessions src.listener)
  | .expiredHolding _ _ => some .pending
  | _ => none

/-- The state of the UDP listeners. -/
structure UdpState where
  connIdCounter : ConnId
  sessions : Source → Option ConnId
  /-- The tables `session_senders`, by listener and id. -/
  senders : ℕ × ConnId → Option ℕ
  lock : Lock → RwLock LockUser
  queue : ℕ → List Bytes
  task : ℕ → PacketPc

/-- No listener has received a datagram; the counter is shared and may have any value. -/
def UdpState.start (connIdCounter : ConnId) : UdpState where
  connIdCounter := connIdCounter
  sessions := fun _ => none
  senders := fun _ => none
  lock := fun _ => .free
  queue := fun _ => []
  task := fun _ => .idle

/-- The steps; `ok` is what the environment decides where a step can go two ways. -/
inductive UdpLabel where
  /-- `recv_from` returns and a task is spawned. -/
  | datagram (i : ℕ) (src : Source) (data : Bytes)
  | task (i : ℕ) (ok : Bool)
  /-- A stream connection draws a connection id. -/
  | otherConnId
  /-- Somebody else calls `pending_work_conns.write()`. -/
  | otherAsks (n : ℕ)
  /-- Somebody else drops the guard. -/
  | otherReleases (n : ℕ)
  deriving DecidableEq, Repr

/-- The number of the task that a step concerns. -/
def UdpLabel.number : UdpLabel → Option ℕ
  | .datagram i _ _ => some i
  | .task i _ => some i
  | _ => none

namespace UdpState

/-- A task goes on to another await. -/
def setTask (s : UdpState) (i : ℕ) (pc : PacketPc) : UdpState :=
  { s with task := Function.update s.task i pc }

/-- A guard is asked for. -/
def ask (s : UdpState) (l : Lock) (u : LockUser) (access : Access) : UdpState :=
  { s with lock := Function.update s.lock l ((s.lock l).request u access) }

/-- A guard is dropped. -/
def unlock (s : UdpState) (l : Lock) (u : LockUser) : UdpState :=
  { s with lock := Function.update s.lock l ((s.lock l).release u) }

/-- `ss.insert(src_addr, conn_id)` -/
def insertSession (s : UdpState) (src : Source) (k : ConnId) : UdpState :=
  { s with sessions := Function.update s.sessions src (some k) }

/-- `ss.remove(&src_addr)` -/
def removeSession (s : UdpState) (src : Source) : UdpState :=
  { s with sessions := Function.update s.sessions src none }

/-- `senders.insert(conn_id, data_tx)` -/
def insertSender (s : UdpState) (src : Source) (k : ConnId) (ch : ℕ) : UdpState :=
  { s with senders := Function.update s.senders (src.listener, k) (some ch) }

/-- `senders.remove(&conn_id)` -/
def removeSender (s : UdpState) (src : Source) (k : ConnId) : UdpState :=
  { s with senders := Function.update s.senders (src.listener, k) none }

/-- A datagram goes into the channel `ch`. -/
def push (s : UdpState) (ch : ℕ) (data : Bytes) : UdpState :=
  { s with queue := Function.update s.queue ch (s.queue ch ++ [data]) }

/-- There is room in the channel `ch`. -/
def hasRoom (s : UdpState) (ch : ℕ) : Bool := (s.queue ch).length < channelCapacity

end UdpState

open UdpState

/-- The lookup in `sessions`, and `CONN_ID_COUNTER.fetch_add(1)` when there is no session. -/
def lookupSession (s : UdpState) (i : ℕ) (src : Source) (data : Bytes) : UdpState :=
  match s.sessions src with
  | some k => (s.unlock (.sessions src.listener) (.task i)).setTask i (.found src data k)
  | none =>
      ({ s with connIdCounter := s.connIdCounter + 1 }.unlock (.sessions src.listener)
        (.task i)).setTask i (.inserting src data s.connIdCounter)

/-- The lookup in `session_senders`; the read guard is kept while the datagram is sent. -/
def lookupSender (s : UdpState) (i : ℕ) (src : Source) (data : Bytes) (k : ConnId) : UdpState :=
  match s.senders (src.listener, k) with
  | some ch => s.setTask i (.sending src data k ch)
  | none => (s.unlock (.senders src.listener) (.task i)).setTask i .done

/-- What a task does once it has the guard it awaits, up to its next await.
Source: `proxy_listener.rs`, `handle_udp_packet` and the task it spawns. -/
def advance (s : UdpState) (i : ℕ) (ok : Bool) : Option UdpState :=
  match s.task i with
  | .idle => none
  | .looking src data => some (lookupSession s i src data)
  | .found src data k => some (lookupSender s i src data k)
  | .sending src data k ch =>
      if (s.task ch).rxDropped then
        some ((s.unlock (.senders src.listener) (.task i)).setTask i (.stale src k))
      else if s.hasRoom ch then
        some (((s.push ch data).unlock (.senders src.listener) (.task i)).setTask i .done)
      else none
  | .stale src k => some ((s.removeSession src).setTask i (.staleHolding src k))
  | .staleHolding src k =>
      some ((((s.removeSender src k).unlock (.senders src.listener) (.task i)).unlock
        (.sessions src.listener) (.task i)).setTask i .done)
  | .inserting src data k =>
      some (((s.insertSession src k).unlock (.sessions src.listener) (.task i)).setTask i
        (.notifying src data k))
  | .notifying src data k => some (s.setTask i (if ok then .enrolling src data k else .unsent src k))
  | .unsent src _ =>
      some (((s.removeSession src).unlock (.sessions src.listener) (.task i)).setTask i .done)
  | .enrolling src data k => some ((s.unlock .pending (.task i)).setTask i (.waiting src data k))
  | .waiting src data k => some (s.setTask i (if ok then .registering src data k else .expired src k))
  | .expired src k => some (s.setTask i (.expiredHolding src k))
  | .expiredHolding src _ =>
      some ((((s.removeSession src).unlock (.sessions src.listener) (.task i)).unlock .pending
        (.task i)).setTask i .done)
  | .registering src data k =>
      some (((s.insertSender src k i).unlock (.senders src.listener) (.task i)).setTask i
        (.firstSend src data k))
  | .firstSend src data k =>
      if s.hasRoom i then some ((s.push i data).setTask i (.running src k)) else none
  | .running src k =>
      if ok then some ({ s with queue := Function.update s.queue i (s.queue i).tail }.setTask i
        (.running src k))
      else some (s.setTask i (.cleaning src k))
  | .cleaning src k =>
      some (((s.removeSession src).unlock (.sessions src.listener) (.task i)).setTask i
        (.dropping src k))
  | .dropping src k =>
      some (((s.removeSender src k).unlock (.senders src.listener) (.task i)).setTask i .done)
  | .done => none

/-- The task has the guard it awaits, or awaits none. -/
def UdpState.ready (s : UdpState) (i : ℕ) : Bool :=
  match (s.task i).needs with
  | none => true
  | some (l, _) => (s.lock l).Holds (.task i)

/-- A task asks for the guard it awaits, and goes on when it has been granted. -/
def taskStep (s : UdpState) (i : ℕ) (ok : Bool) : Option UdpState :=
  match (s.task i).needs with
  | none => advance s i ok
  | some (l, access) =>
      if (s.lock l).Holds (.task i) then advance s i ok
      else if (s.lock l).Waits (.task i) then none
      else some (s.ask l (.task i) access)

/-- One step of the listeners. -/
def udpStep (s : UdpState) : UdpLabel → Option UdpState
  | .datagram i src data =>
      match s.task i with
      | .idle => some (s.setTask i (.looking src data))
      | _ => none
  | .task i ok => taskStep s i ok
  | .otherConnId => some { s with connIdCounter := s.connIdCounter + 1 }
  | .otherAsks n =>
      if .other n ∈ (s.lock .pending).users then none else some (s.ask .pending (.other n) .write)
  | .otherReleases n =>
      if (s.lock .pending).Holds (.other n) then some (s.unlock .pending (.other n)) else none

/-! ## Critical sections -/

/-- What a critical section of number `i` does: it leads from one await to another, and leaves the
state `t` but for that. -/
inductive Act (s : UdpState) (i : ℕ) : Bool → PacketPc → UdpState → PacketPc → Prop
  | find {ok : Bool} {src : Source} {data : Bytes} {k : ConnId} (h : s.sessions src = some k) :
      Act s i ok (.looking src data) (s.unlock (.sessions src.listener) (.task i)) (.found src data k)
  | miss {ok : Bool} {src : Source} {data : Bytes} (h : s.sessions src = none) :
      Act s i ok (.looking src data)
        ({ s with connIdCounter := s.connIdCounter + 1 }.unlock (.sessions src.listener) (.task i))
        (.inserting src data s.connIdCounter)
  | take {ok : Bool} {src : Source} {data : Bytes} {k : ConnId} {ch : ℕ}
      (h : s.senders (src.listener, k) = some ch) :
      Act s i ok (.found src data k) s (.sending src data k ch)
  | forget {ok : Bool} {src : Source} {data : Bytes} {k : ConnId}
      (h : s.senders (src.listener, k) = none) :
      Act s i ok (.found src data k) (s.unlock (.senders src.listener) (.task i)) .done
  | refuse {ok : Bool} {src : Source} {data : Bytes} {k : ConnId} {ch : ℕ}
      (h : (s.task ch).rxDropped = true) :
      Act s i ok (.sending src data k ch) (s.unlock (.senders src.listener) (.task i)) (.stale src k)
  | send {ok : Bool} {src : Source} {data : Bytes} {k : ConnId} {ch : ℕ}
      (h : (s.task ch).rxDropped = false) (hroom : s.hasRoom ch = true) :
      Act s i ok (.sending src data k ch)
        ((s.push ch data).unlock (.senders src.listener) (.task i)) .done
  | sweep {ok : Bool} {src : Source} {k : ConnId} :
      Act s i ok (.stale src k) (s.removeSession src) (.staleHolding src k)
  | sweepSender {ok : Bool} {src : Source} {k : ConnId} :
      Act s i ok (.staleHolding src k)
        (((s.removeSender src k).unlock (.senders src.listener) (.task i)).unlock
          (.sessions src.listener) (.task i)) .done
  | enter {ok : Bool} {src : Source} {data : Bytes} {k : ConnId} :
      Act s i ok (.inserting src data k)
        ((s.insertSession src k).unlock (.sessions src.listener) (.task i)) (.notifying src data k)
  | notify {src : Source} {data : Bytes} {k : ConnId} :
      Act s i true (.notifying src data k) s (.enrolling src data k)
  | offline {src : Source} {data : Bytes} {k : ConnId} :
      Act s i false (.notifying src data k) s (.unsent src k)
  | cancel {ok : Bool} {src : Source} {k : ConnId} :
      Act s i ok (.unsent src k)
        ((s.removeSession src).unlock (.sessions src.listener) (.task i)) .done
  | enroll {ok : Bool} {src : Source} {data : Bytes} {k : ConnId} :
      Act s i ok (.enrolling src data k) (s.unlock .pending (.task i)) (.waiting src data k)
  | connect {src : Source} {data : Bytes} {k : ConnId} :
      Act s i true (.waiting src data k) s (.registering src data k)
  | expire {src : Source} {data : Bytes} {k : ConnId} :
      Act s i false (.waiting src data k) s (.expired src k)
  | withdraw {ok : Bool} {src : Source} {k : ConnId} :
      Act s i ok (.expired src k) s (.expiredHolding src k)
  | giveUp {ok : Bool} {src : Source} {k : ConnId} :
      Act s i ok (.expiredHolding src k)
        (((s.removeSession src).unlock (.sessions src.listener) (.task i)).unlock .pending
          (.task i)) .done
  | serve {ok : Bool} {src : Source} {data : Bytes} {k : ConnId} :
      Act s i ok (.registering src data k)
        ((s.insertSender src k i).unlock (.senders src.listener) (.task i)) (.firstSend src data k)
  | spawn {ok : Bool} {src : Source} {data : Bytes} {k : ConnId} (hroom : s.hasRoom i = true) :
      Act s i ok (.firstSend src data k) (s.push i data) (.running src k)
  | receive {src : Source} {k : ConnId} :
      Act s i true (.running src k) { s with queue := Function.update s.queue i (s.queue i).tail }
        (.running src k)
  | stop {src : Source} {k : ConnId} : Act s i false (.running src k) s (.cleaning src k)
  | unserve {ok : Bool} {src : Source} {k : ConnId} :
      Act s i ok (.cleaning src k)
        ((s.removeSession src).unlock (.sessions src.listener) (.task i)) (.dropping src k)
  | drop {ok : Bool} {src : Source} {k : ConnId} :
      Act s i ok (.dropping src k)
        ((s.removeSender src k).unlock (.senders src.listener) (.task i)) .done

variable {s s' t : UdpState} {i : ℕ} {ok : Bool}

/-- What a task does once it has its guard is one of the actions. -/
lemma act_of_advance (h : advance s i ok = some s') :
    ∃ t pc, Act s i ok (s.task i) t pc ∧ s' = t.setTask i pc := by
  unfold advance at h
  split at h <;> rename_i hpc <;> rw [hpc]
  · cases h
  · case h_2 src data =>
    cases h
    unfold lookupSession
    split
    · case h_1 k hsession => exact ⟨_, _, .find hsession, rfl⟩
    · case h_2 hsession => exact ⟨_, _, .miss hsession, rfl⟩
  · case h_3 src data k =>
    cases h
    unfold lookupSender
    split
    · case h_1 ch hsender => exact ⟨_, _, .take hsender, rfl⟩
    · case h_2 hsender => exact ⟨_, _, .forget hsender, rfl⟩
  · case h_4 src data k ch =>
    split at h
    · case isTrue hdropped =>
      cases h
      exact ⟨_, _, .refuse hdropped, rfl⟩
    · case isFalse hup =>
      split at h <;> cases h
      case isTrue.refl hroom => exact ⟨_, _, .send (Bool.eq_false_iff.mpr hup) hroom, rfl⟩
  · cases h
    exact ⟨_, _, .sweep, rfl⟩
  · cases h
    exact ⟨_, _, .sweepSender, rfl⟩
  · cases h
    exact ⟨_, _, .enter, rfl⟩
  · cases h
    cases ok with
    | true => exact ⟨_, _, .notify, rfl⟩
    | false => exact ⟨_, _, .offline, rfl⟩
  · cases h
    exact ⟨_, _, .cancel, rfl⟩
  · cases h
    exact ⟨_, _, .enroll, rfl⟩
  · cases h
    cases ok with
    | true => exact ⟨_, _, .connect, rfl⟩
    | false => exact ⟨_, _, .expire, rfl⟩
  · cases h
    exact ⟨_, _, .withdraw, rfl⟩
  · cases h
    exact ⟨_, _, .giveUp, rfl⟩
  · cases h
    exact ⟨_, _, .serve, rfl⟩
  · split at h <;> cases h
    case isTrue.refl hroom => exact ⟨_, _, .spawn hroom, rfl⟩
  · cases ok with
    | true =>
        cases h
        exact ⟨_, _, .receive, rfl⟩
    | false =>
        cases h
        exact ⟨_, _, .stop, rfl⟩
  · cases h
    exact ⟨_, _, .unserve, rfl⟩
  · cases h
    exact ⟨_, _, .drop, rfl⟩
  · cases h

/-- A task asks for the guard it awaits, or goes on. -/
theorem taskStep_cases (h : taskStep s i ok = some s') :
    (∃ l access, (s.task i).needs = some (l, access) ∧ .task i ∉ (s.lock l).users ∧
        s' = s.ask l (.task i) access) ∨
      s.ready i = true ∧ ∃ t pc, Act s i ok (s.task i) t pc ∧ s' = t.setTask i pc := by
  unfold taskStep at h
  split at h
  · case h_1 hneeds =>
    refine Or.inr ⟨?_, act_of_advance h⟩
    rw [UdpState.ready, hneeds]
  · case h_2 l access hneeds =>
    split at h
    · case isTrue hholds =>
      refine Or.inr ⟨?_, act_of_advance h⟩
      rw [UdpState.ready, hneeds]
      exact decide_eq_true hholds
    · case isFalse hholds =>
      split at h <;> cases h
      case isFalse.refl hwaits =>
        refine Or.inl ⟨l, access, hneeds, ?_, rfl⟩
        rw [RwLock.mem_users_iff]
        exact not_or.mpr ⟨hholds, hwaits⟩

section

variable (s : UdpState) (i : ℕ) (pc : PacketPc) (l : Lock) (u : LockUser) (access : Access)

/-- No lock is touched. -/
@[simp] lemma setTask_lock : (s.setTask i pc).lock = s.lock := rfl

/-- Asking moves no task. -/
@[simp] lemma ask_task : (s.ask l u access).task = s.task := rfl

/-- Giving back moves no task. -/
@[simp] lemma unlock_task : (s.unlock l u).task = s.task := rfl

/-- No task is moved. -/
@[simp] lemma removeSession_task (src : Source) : (s.removeSession src).task = s.task := rfl

/-- No lock is touched. -/
@[simp] lemma removeSession_lock (src : Source) : (s.removeSession src).lock = s.lock := rfl

end

/-- The lock that is asked for. -/
@[simp] lemma lock_ask_self (s : UdpState) (l : Lock) (u : LockUser) (access : Access) :
    (s.ask l u access).lock l = (s.lock l).request u access := Function.update_self _ _ _

/-- The other locks stay. -/
lemma lock_ask_of_ne (s : UdpState) {l l' : Lock} (h : l' ≠ l) (u : LockUser) (access : Access) :
    (s.ask l u access).lock l' = s.lock l' := Function.update_of_ne h _ _

/-- The lock that is given back. -/
@[simp] lemma lock_unlock_self (s : UdpState) (l : Lock) (u : LockUser) :
    (s.unlock l u).lock l = (s.lock l).release u := Function.update_self _ _ _

/-- The other locks stay. -/
lemma lock_unlock_of_ne (s : UdpState) {l l' : Lock} (h : l' ≠ l) (u : LockUser) :
    (s.unlock l u).lock l' = s.lock l' := Function.update_of_ne h _ _

/-- The other awaits stay as they are. -/
lemma Act.task_eq {p pc : PacketPc} (h : Act s i ok p t pc) : t.task = s.task := by
  cases h <;> rfl

/-- The task that goes on. -/
lemma task_setTask_self (s : UdpState) (i : ℕ) (pc : PacketPc) : (s.setTask i pc).task i = pc :=
  Function.update_self _ _ _

/-- The other tasks stay. -/
lemma task_setTask_of_ne (s : UdpState) {i j : ℕ} (h : j ≠ i) (pc : PacketPc) :
    (s.setTask i pc).task j = s.task j := Function.update_of_ne h _ _

/-- A task that has the guard it awaits does not ask for it. -/
lemma act_of_ready (hready : s.ready i = true) (h : taskStep s i ok = some s') :
    ∃ t pc, Act s i ok (s.task i) t pc ∧ s' = t.setTask i pc := by
  rcases taskStep_cases h with ⟨l, access, hneeds, huser, -⟩ | ⟨-, hact⟩
  · rw [UdpState.ready, hneeds] at hready
    exact absurd (RwLock.mem_users_iff.mpr (Or.inl (of_decide_eq_true hready))) huser
  · exact hact

/-- A lookup in vain draws the next id. -/
lemma inserting_of_looking {src : Source} {data : Bytes} (hready : s.ready i = true)
    (hpc : s.task i = .looking src data) (hnone : s.sessions src = none)
    (h : taskStep s i ok = some s') : s'.task i = .inserting src data s.connIdCounter := by
  obtain ⟨t, pc, hact, rfl⟩ := act_of_ready hready h
  rw [hpc] at hact
  rw [task_setTask_self]
  cases hact with
  | find hsession => cases hnone.symm.trans hsession
  | miss => rfl

/-- A datagram goes to a number that has not been used. -/
lemma task_of_datagram {i : ℕ} {src : Source} {data : Bytes}
    (h : udpStep s (.datagram i src data) = some s') :
    s.task i = .idle ∧ s' = s.setTask i (.looking src data) := by
  rw [udpStep] at h
  split at h <;> cases h
  case h_1.refl hpc => exact ⟨hpc, rfl⟩

/-- The steps of the others touch the counter and the lock of `pending_work_conns` only. -/
lemma other_step {label : UdpLabel} (h : udpStep s label = some s') (hlabel : label.number = none) :
    s'.task = s.task ∧ s'.sessions = s.sessions ∧ s'.senders = s.senders ∧ s'.queue = s.queue := by
  cases label with
  | datagram | task => cases hlabel
  | otherConnId =>
      cases h
      exact ⟨rfl, rfl, rfl, rfl⟩
  | otherAsks n =>
      rw [udpStep] at h
      split at h <;> cases h
      exact ⟨rfl, rfl, rfl, rfl⟩
  | otherReleases n =>
      rw [udpStep] at h
      split at h <;> cases h
      exact ⟨rfl, rfl, rfl, rfl⟩

/-! ## Parts -/

/-- The part that a task or its worker plays for the tables. -/
inductive Part where
  /-- None. -/
  | outside
  /-- It has read an id. -/
  | found (src : Source) (k : ConnId)
  /-- It is sending on the channel of an id, and will remove the session if that fails. -/
  | sender (src : Source) (k : ConnId)
  /-- It has drawn an id. -/
  | fresh (src : Source) (k : ConnId)
  /-- It has entered its id into `sessions`; `up` says whether it is still being established. -/
  | mapped (up : Bool) (src : Source) (k : ConnId)
  /-- Its channel is in `session_senders` too; `up` says whether the worker still serves it. -/
  | served (up : Bool) (src : Source) (k : ConnId)
  /-- Its source has been removed, its channel not yet. -/
  | dropping (src : Source) (k : ConnId)
  deriving DecidableEq, Repr

def PacketPc.part : PacketPc → Part
  | .idle => .outside
  | .looking _ _ => .outside
  | .found src _ k => .found src k
  | .sending src _ k _ => .sender src k
  | .stale src k => .sender src k
  | .staleHolding src k => .sender src k
  | .inserting src _ k => .fresh src k
  | .notifying src _ k => .mapped true src k
  | .unsent src k => .mapped false src k
  | .enrolling src _ k => .mapped true src k
  | .waiting src _ k => .mapped true src k
  | .expired src k => .mapped false src k
  | .expiredHolding src k => .mapped false src k
  | .registering src _ k => .mapped true src k
  | .firstSend src _ k => .served true src k
  | .running src k => .served true src k
  | .cleaning src k => .served false src k
  | .dropping src k => .dropping src k
  | .done => .outside

/-- The part of the task or worker `i`. -/
def UdpState.part (s : UdpState) (i : ℕ) : Part := (s.task i).part

/-- The two tables. -/
structure Tables where
  sessions : Source → Option ConnId
  senders : ℕ × ConnId → Option ℕ

def UdpState.tables (s : UdpState) : Tables := { sessions := s.sessions, senders := s.senders }

/-- What a step of number `i` does to the tables and to its part.  `Missing src` is known when the
source is looked up in vain, `k₀` is the next id. -/
inductive Move (Missing : Source → Prop) (k₀ : ConnId) (i : ℕ) :
    Tables → Part → Tables → Part → Prop
  | stay (t : Tables) (p : Part) : Move Missing k₀ i t p t p
  | find {t : Tables} {src : Source} {k : ConnId} (h : t.sessions src = some k) :
      Move Missing k₀ i t .outside t (.found src k)
  | miss {t : Tables} {src : Source} (h : t.sessions src = none) (hmissing : Missing src) :
      Move Missing k₀ i t .outside t (.fresh src k₀)
  | take {t : Tables} {src : Source} {k : ConnId} {ch : ℕ} (h : t.senders (src.listener, k) = some ch) :
      Move Missing k₀ i t (.found src k) t (.sender src k)
  | forget {t : Tables} {src : Source} {k : ConnId} : Move Missing k₀ i t (.found src k) t .outside
  | sent {t : Tables} {src : Source} {k : ConnId} : Move Missing k₀ i t (.sender src k) t .outside
  | sweep {t : Tables} {src : Source} {k : ConnId} :
      Move Missing k₀ i t (.sender src k)
        { t with sessions := Function.update t.sessions src none } (.sender src k)
  | sweepSender {t : Tables} {src : Source} {k : ConnId} :
      Move Missing k₀ i t (.sender src k)
        { t with senders := Function.update t.senders (src.listener, k) none } .outside
  | enter {t : Tables} {src : Source} {k : ConnId} :
      Move Missing k₀ i t (.fresh src k)
        { t with sessions := Function.update t.sessions src (some k) } (.mapped true src k)
  | fail {t : Tables} {src : Source} {k : ConnId} :
      Move Missing k₀ i t (.mapped true src k) t (.mapped false src k)
  | unmap {t : Tables} {src : Source} {k : ConnId} :
      Move Missing k₀ i t (.mapped false src k)
        { t with sessions := Function.update t.sessions src none } .outside
  | serve {t : Tables} {src : Source} {k : ConnId} :
      Move Missing k₀ i t (.mapped true src k)
        { t with senders := Function.update t.senders (src.listener, k) (some i) } (.served true src k)
  | stop {t : Tables} {src : Source} {k : ConnId} :
      Move Missing k₀ i t (.served true src k) t (.served false src k)
  | unserve {t : Tables} {src : Source} {k : ConnId} :
      Move Missing k₀ i t (.served false src k)
        { t with sessions := Function.update t.sessions src none } (.dropping src k)
  | drop {t : Tables} {src : Source} {k : ConnId} :
      Move Missing k₀ i t (.dropping src k)
        { t with senders := Function.update t.senders (src.listener, k) none } .outside

/-- The source address is looked up in vain by this step. -/
def Misses (s : UdpState) (label : UdpLabel) (src : Source) : Prop :=
  ∃ i ok data, label = .task i ok ∧ s.ready i = true ∧ s.task i = .looking src data ∧
    s.sessions src = none

/-- The part of the task that goes on. -/
lemma part_setTask_self (s : UdpState) (i : ℕ) (pc : PacketPc) : (s.setTask i pc).part i = pc.part :=
  congrArg PacketPc.part (task_setTask_self s i pc)

/-- The parts of the other tasks stay. -/
lemma part_setTask_of_ne (s : UdpState) {i j : ℕ} (h : j ≠ i) (pc : PacketPc) :
    (s.setTask i pc).part j = s.part j := congrArg PacketPc.part (task_setTask_of_ne s h pc)

/-- A critical section is a move. -/
lemma Act.move {Missing : Source → Prop} {p pc : PacketPc} (h : Act s i ok p t pc)
    (hmissing : ∀ src data, p = .looking src data → s.sessions src = none → Missing src) :
    Move Missing s.connIdCounter i s.tables p.part t.tables pc.part := by
  cases h with
  | find h => exact .find h
  | miss h => exact .miss h (hmissing _ _ rfl h)
  | take h => exact .take h
  | forget => exact .forget
  | refuse => exact .stay _ _
  | send => exact .sent
  | sweep => exact .sweep
  | sweepSender => exact .sweepSender
  | enter => exact .enter
  | offline | expire => exact .fail
  | cancel | giveUp => exact .unmap
  | serve => exact .serve
  | stop => exact .stop
  | unserve => exact .unserve
  | drop => exact .drop
  | notify | enroll | connect | withdraw | spawn | receive => exact .stay _ _

/-- A step of number `i`: the other parts stay, its own moves. -/
def Moves (Missing : Source → Prop) (i : ℕ) (s s' : UdpState) : Prop :=
  (∀ j, j ≠ i → s'.part j = s.part j) ∧
    Move Missing s.connIdCounter i s.tables (s.part i) s'.tables (s'.part i)

/-- What a step of the listeners can do to the tables. -/
theorem moves_of_step {label : UdpLabel} (h : udpStep s label = some s') :
    ∃ i, Moves (Misses s label) i s s' := by
  have hstill (htask : s'.task = s.task) (hsessions : s'.sessions = s.sessions)
      (hsenders : s'.senders = s.senders) (i : ℕ) : Moves (Misses s label) i s s' := by
    have hpart : s'.part = s.part := funext fun j => congrArg PacketPc.part (congrFun htask j)
    have htables : s'.tables = s.tables := by rw [UdpState.tables, hsessions, hsenders, UdpState.tables]
    refine ⟨fun j _ => congrFun hpart j, ?_⟩
    rw [hpart, htables]
    exact .stay _ _
  cases label with
  | datagram i src data =>
      obtain ⟨hpc, rfl⟩ := task_of_datagram h
      refine ⟨i, fun j hj => part_setTask_of_ne s hj _, ?_⟩
      rw [part_setTask_self, UdpState.part, hpc]
      exact .stay _ _
  | task i ok =>
      refine ⟨i, ?_⟩
      rcases taskStep_cases h with ⟨l, access, -, -, rfl⟩ | ⟨hready, t, pc, hact, rfl⟩
      · exact hstill rfl rfl rfl i
      · refine ⟨?_, ?_⟩
        · intro j hj
          rw [part_setTask_of_ne t hj, UdpState.part, hact.task_eq, UdpState.part]
        · rw [part_setTask_self]
          exact hact.move fun src data hpc hnone => ⟨i, ok, data, rfl, hready, hpc, hnone⟩
  | otherConnId | otherAsks | otherReleases =>
      obtain ⟨htask, hsessions, hsenders, -⟩ := other_step h rfl
      exact ⟨0, hstill htask hsessions hsenders 0⟩

/-! ## Courses -/

/-- Where a step takes a task or worker in the state `s`. -/
inductive Course (s : UdpState) : PacketPc → PacketPc → Prop
  /-- It asks for a guard. -/
  | ask {pc : PacketPc} (h : pc.needs.isSome) : Course s pc pc
  | find {src : Source} {data : Bytes} {k : ConnId} (h : s.sessions src = some k) :
      Course s (.looking src data) (.found src data k)
  | miss {src : Source} {data : Bytes} (h : s.sessions src = none) :
      Course s (.looking src data) (.inserting src data s.connIdCounter)
  | take {src : Source} {data : Bytes} {k : ConnId} {ch : ℕ} (h : s.senders (src.listener, k) = some ch) :
      Course s (.found src data k) (.sending src data k ch)
  | forget {src : Source} {data : Bytes} {k : ConnId} (h : s.senders (src.listener, k) = none) :
      Course s (.found src data k) .done
  | refuse {src : Source} {data : Bytes} {k : ConnId} {ch : ℕ} (h : (s.task ch).rxDropped = true) :
      Course s (.sending src data k ch) (.stale src k)
  | send {src : Source} {data : Bytes} {k : ConnId} {ch : ℕ} (h : (s.task ch).rxDropped = false) :
      Course s (.sending src data k ch) .done
  | sweep {src : Source} {k : ConnId} : Course s (.stale src k) (.staleHolding src k)
  | sweepSender {src : Source} {k : ConnId} : Course s (.staleHolding src k) .done
  | enter {src : Source} {data : Bytes} {k : ConnId} :
      Course s (.inserting src data k) (.notifying src data k)
  | notify {src : Source} {data : Bytes} {k : ConnId} :
      Course s (.notifying src data k) (.enrolling src data k)
  | enroll {src : Source} {data : Bytes} {k : ConnId} :
      Course s (.enrolling src data k) (.waiting src data k)
  | offline {src : Source} {data : Bytes} {k : ConnId} :
      Course s (.notifying src data k) (.unsent src k)
  | cancel {src : Source} {k : ConnId} : Course s (.unsent src k) .done
  | connect {src : Source} {data : Bytes} {k : ConnId} :
      Course s (.waiting src data k) (.registering src data k)
  | expire {src : Source} {data : Bytes} {k : ConnId} :
      Course s (.waiting src data k) (.expired src k)
  | withdraw {src : Source} {k : ConnId} : Course s (.expired src k) (.expiredHolding src k)
  | giveUp {src : Source} {k : ConnId} : Course s (.expiredHolding src k) .done
  | serve {src : Source} {data : Bytes} {k : ConnId} :
      Course s (.registering src data k) (.firstSend src data k)
  | spawn {src : Source} {data : Bytes} {k : ConnId} :
      Course s (.firstSend src data k) (.running src k)
  | receive {src : Source} {k : ConnId} : Course s (.running src k) (.running src k)
  | stop {src : Source} {k : ConnId} : Course s (.running src k) (.cleaning src k)
  | unserve {src : Source} {k : ConnId} : Course s (.cleaning src k) (.dropping src k)
  | drop {src : Source} {k : ConnId} : Course s (.dropping src k) .done

/-- A critical section takes its course. -/
lemma Act.course {p pc : PacketPc} (h : Act s i ok p t pc) : Course s p pc := by
  cases h with
  | find h => exact .find h
  | miss h => exact .miss h
  | take h => exact .take h
  | forget h => exact .forget h
  | refuse h => exact .refuse h
  | send h => exact .send h
  | receive => exact .receive
  | _ => constructor

/-- A task keeps its source to its end. -/
lemma Course.source {pc pc' : PacketPc} (h : Course s pc pc') :
    ∃ src, pc.source = some src ∧ (pc'.source = some src ∨ pc'.source = none) := by
  cases h with
  | ask h => cases pc <;> first | exact ⟨_, rfl, Or.inl rfl⟩ | cases h
  | _ => first | exact ⟨_, rfl, Or.inl rfl⟩ | exact ⟨_, rfl, Or.inr rfl⟩

/-- A step of number `i`: the others stay where they are, it takes its course. -/
def Courses (i : ℕ) (s s' : UdpState) : Prop :=
  (∀ j, j ≠ i → s'.task j = s.task j) ∧ Course s (s.task i) (s'.task i)

/-- A step of a task or worker takes its course. -/
lemma course_of_taskStep (h : taskStep s i ok = some s') : Courses i s s' := by
  rcases taskStep_cases h with ⟨l, access, hneeds, -, rfl⟩ | ⟨-, t, pc, hact, rfl⟩
  · exact ⟨fun _ _ => rfl, .ask (by rw [hneeds]; rfl)⟩
  · refine ⟨?_, ?_⟩
    · intro j hj
      rw [task_setTask_of_ne t hj, hact.task_eq]
    · rw [task_setTask_self]
      exact hact.course

end RustProxy.Server.Udp
