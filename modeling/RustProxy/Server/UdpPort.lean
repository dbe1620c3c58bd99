import RustProxy.Server.UdpSessions
import Mathlib.Data.Finset.Card

/-!
# The public port of a UDP rule

The socket of a UDP listener is shared: the listener task, every datagram task and every session
worker holds a clone of the `Arc`, and the port is bound until the last clone is dropped.
`stop_listener` ends the listener task and waits for it, and for nothing else.

* `PortState` are the listeners that have been started for one rule on one port, the earlier ones
  included, with the strong counts of their sockets, and their tasks and workers.  The listeners of
  other rules appear as other users of the counter and of `pending_work_conns`.
* `Counted` is the invariant: the count of a socket is the number of its holders.
* `released_iff_idleAtJoin` is about whole schedules: a listener whose stop has returned has no socket
  left exactly when it had no datagram task and no worker when the stop returned.
-/

namespace RustProxy.Server.Udp

open Transition

/-- How far a listener and its handle are. -/
inductive ListenerStage where
  /-- The socket is bound and the task spawned. -/
  | spawned
  /-- The handle is in `listeners`. -/
  | listed
  /-- `stop_listener` has taken the handle. -/
  | taken
  /-- `handle.abort()` has been called. -/
  | aborted
  /-- The listener task has ended. -/
  | ended
  /-- `handle.await` and `stop_listener` have returned. -/
  | stopped
  deriving DecidableEq, Repr

/-- The listener task runs. -/
def ListenerStage.runs : ListenerStage → Bool
  | .spawned => true
  | .listed => true
  | .taken => true
  | .aborted => true
  | .ended => false
  | .stopped => false

/-- A listener, with the strong count of its socket. -/
structure Listener where
  stage : ListenerStage
  sockets : ℕ

/-- The socket has just been bound and its listener task spawned. -/
def Listener.start : Listener := { stage := .spawned, sockets := 1 }

/-- `socket.clone()` -/
def Listener.clone (l : Listener) : Listener := { l with sockets := l.sockets + 1 }

/-- A clone of the socket is dropped. -/
def Listener.drop (l : Listener) : Listener := { l with sockets := l.sockets - 1 }

/-- The listeners of one rule on one port, numbered as they were started, the one whose handle is in
the map, and their tasks. -/
structure PortState where
  listeners : List Listener
  current : Option ℕ
  udp : UdpState

/-- The rule has had no listener yet. -/
def PortState.start (connIdCounter : ConnId) : PortState where
  listeners := []
  current := none
  udp := .start connIdCounter

/-- The steps of a listener and of its stop. -/
inductive ListenerLabel where
  /-- `inner.insert(name_for_insert, handle)` -/
  | list
  /-- `inner.remove(name)` in `stop_listener` -/
  | take
  | abort
  /-- The aborted listener task ends. -/
  | finish
  /-- `handle.await` returns. -/
  | join
  deriving DecidableEq, Repr

/-- The steps of the listeners. -/
inductive PortLabel where
  /-- `UdpSocket::bind` succeeds, and the listener task is spawned. -/
  | bind
  | listener (n : ℕ) (label : ListenerLabel)
  /-- A listener task spawns a task for a datagram, or a datagram task or worker goes on. -/
  | udp (label : UdpLabel)
  deriving DecidableEq, Repr

/-- The listener whose socket the task has a clone of: from its spawn to its end, and the worker after
it. -/
def PacketPc.socket (pc : PacketPc) : Option ℕ := pc.source.map Source.listener

/-- The clones after a step of the datagram tasks and workers: the listener task clones the socket for
a datagram task, that task for its worker, and each drops its own when it ends. -/
def socketsAfter (s : PortState) (udp' : UdpState) : UdpLabel → List Listener
  | .datagram _ src _ => s.listeners.modify src.listener Listener.clone
  | .task i _ =>
      match (s.udp.task i).socket, (udp'.task i).socket with
      | some n, none => s.listeners.modify n Listener.drop
      | _, _ => s.listeners
  | _ => s.listeners

/-- The listener task has to run to receive a datagram. -/
def PortState.receives (s : PortState) : UdpLabel → Bool
  | .datagram _ src _ =>
      match s.listeners[src.listener]? with
      | some l => l.stage.runs
      | none => false
  | _ => true

/-- Source: `proxy_listener.rs`, `start_udp_listener` and `stop_listener`. -/
def Listener.step (l : Listener) : ListenerLabel → Option Listener
  | .list => if l.stage = .spawned then some { l with stage := .listed } else none
  | .take => if l.stage = .listed then some { l with stage := .taken } else none
  | .abort => if l.stage = .taken then some { l with stage := .aborted } else none
  | .finish => if l.stage = .aborted then some { l.drop with stage := .ended } else none
  | .join => if l.stage = .ended then some { l with stage := .stopped } else none

/-- The handle that `listeners` has after a step. -/
def currentAfter (current : Option ℕ) (n : ℕ) : ListenerLabel → Option (Option ℕ)
  | .list => some (some n)
  | .take => if current = some n then some none else none
  | _ => some current

/-- No socket of the rule is open on the port. -/
def PortState.Free (s : PortState) : Prop := ∀ l ∈ s.listeners, l.sockets = 0

instance (s : PortState) : Decidable s.Free :=
  inferInstanceAs (Decidable (∀ l ∈ s.listeners, l.sockets = 0))

/-- One step; the port can be bound only when no socket of the rule is open on it. -/
def portStep (s : PortState) : PortLabel → Option PortState
  | .bind => if s.Free then some { s with listeners := s.listeners ++ [.start] } else none
  | .listener n label =>
      match s.listeners[n]?, currentAfter s.current n label with
      | some l, some current =>
          (l.step label).map fun l => { s with listeners := s.listeners.set n l, current }
      | _, _ => none
  | .udp label =>
      if s.receives label then
        (udpStep s.udp label).map fun udp => { s with listeners := socketsAfter s udp label, udp }
      else none

/-! ## Counting the clones -/

variable {l l' : Listener} {s s' : PortState} {n : ℕ}

/-- The strong count of a socket is the number of its holders. -/
def CountedBy (task : ℕ → PacketPc) (n : ℕ) (l : Listener) : Prop :=
  ∃ holders : Finset ℕ, (∀ i, i ∈ holders ↔ (task i).socket = some n) ∧
    l.sockets = holders.card + if l.stage.runs then 1 else 0

/-- Every socket is counted, and every task has the socket of a listener that has been started. -/
structure Counted (s : PortState) : Prop where
  count : ∀ n l, s.listeners[n]? = some l → CountedBy s.udp.task n l
  started : ∀ i n, (s.udp.task i).socket = some n → n < s.listeners.length

/-- Who goes on has a socket, and keeps it or comes to its end. -/
lemma Course.socket {u : UdpState} {pc pc' : PacketPc} (h : Course u pc pc') :
    ∃ n, pc.socket = some n ∧ (pc'.socket = some n ∨ pc'.socket = none) := by
  obtain ⟨src, hold, hnew⟩ := h.source
  refine ⟨src.listener, ?_, ?_⟩
  · rw [PacketPc.socket, hold]
    rfl
  · refine hnew.imp ?_ ?_ <;>
      · intro hnew
        rw [PacketPc.socket, hnew]
        rfl

/-- Only one task moves, and it has the socket after the step exactly if it had it before. -/
lemma CountedBy.congr {task task' : ℕ → PacketPc} {i : ℕ} (h : CountedBy task n l)
    (hi : (task' i).socket = some n ↔ (task i).socket = some n)
    (hothers : ∀ j, j ≠ i → task' j = task j) : CountedBy task' n l := by
  obtain ⟨holders, hmem, hcount⟩ := h
  refine ⟨holders, fun j => (hmem j).trans ?_, hcount⟩
  by_cases hj : j = i
  · subst hj
    exact hi.symm
  · rw [hothers j hj]

/-- A datagram task is spawned. -/
lemma CountedBy.clone {task task' : ℕ → PacketPc} {i : ℕ} (h : CountedBy task n l)
    (hold : (task i).socket = none) (hnew : (task' i).socket = some n)
    (hothers : ∀ j, j ≠ i → task' j = task j) : CountedBy task' n l.clone := by
  obtain ⟨holders, hmem, hcount⟩ := h
  have hi : i ∉ holders := by
    rw [hmem, hold]
    exact nofun
  refine ⟨insert i holders, ?_, ?_⟩
  · intro j
    by_cases hj : j = i
    · subst hj
      exact iff_of_true (Finset.mem_insert_self j holders) hnew
    · rw [Finset.mem_insert, hmem, hothers j hj]
      exact or_iff_right hj
  · rw [Finset.card_insert_of_notMem hi]
    show l.sockets + 1 = holders.card + 1 + if l.stage.runs then 1 else 0
    omega

/-- A task or worker ends. -/
lemma CountedBy.drop {task task' : ℕ → PacketPc} {i : ℕ} (h : CountedBy task n l)
    (hold : (task i).socket = some n) (hnew : (task' i).socket = none)
    (hothers : ∀ j, j ≠ i → task' j = task j) : CountedBy task' n l.drop := by
  obtain ⟨holders, hmem, hcount⟩ := h
  have hi : i ∈ holders := (hmem i).mpr hold
  refine ⟨holders.erase i, ?_, ?_⟩
  · intro j
    by_cases hj : j = i
    · subst hj
      rw [hnew]
      exact iff_of_false (Finset.notMem_erase j holders) nofun
    · rw [Finset.mem_erase, hmem, hothers j hj]
      exact and_iff_right hj
  · have hcard := Finset.card_erase_add_one hi
    show l.sockets - 1 = (holders.erase i).card + if l.stage.runs then 1 else 0
    omega

/-- The stages of a listener do not touch the clones of its tasks. -/
lemma CountedBy.step {task : ℕ → PacketPc} {label : ListenerLabel} (h : CountedBy task n l)
    (hstep : l.step label = some l') : CountedBy task n l' := by
  obtain ⟨holders, hmem, hcount⟩ := h
  cases label with
  | list | take | abort | join =>
      rw [Listener.step] at hstep
      split at hstep <;> cases hstep
      case isTrue.refl hstage =>
        refine ⟨holders, hmem, ?_⟩
        rw [hstage] at hcount
        exact hcount
  | finish =>
      rw [Listener.step] at hstep
      split at hstep <;> cases hstep
      case isTrue.refl hstage =>
        refine ⟨holders, hmem, ?_⟩
        rw [hstage] at hcount
        exact congrArg (· - 1) hcount

/-- A listener of a modified list is one of the old list, modified if it has the number. -/
lemma getElem?_modify_eq_some {f : Listener → Listener} {ls : List Listener} {m : ℕ}
    (h : (ls.modify n f)[m]? = some l) : ∃ l₀, ls[m]? = some l₀ ∧ l = if n = m then f l₀ else l₀ := by
  rw [List.getElem?_modify] at h
  obtain ⟨l₀, hl₀, rfl⟩ := Option.map_eq_some_iff.mp h
  refine ⟨l₀, hl₀, ?_⟩
  split <;> rfl

/-- A datagram is received: its listener's socket is cloned. -/
lemma Counted.datagram {i : ℕ} {src : Source} {data : Bytes} (h : Counted s)
    (hrunning : src.listener < s.listeners.length) (hidle : s.udp.task i = .idle) :
    Counted { s with
      listeners := s.listeners.modify src.listener Listener.clone
      udp := s.udp.setTask i (.looking src data) } := by
  have hothers : ∀ j, j ≠ i → (s.udp.setTask i (.looking src data)).task j = s.udp.task j :=
    fun j hj => task_setTask_of_ne _ hj _
  have hnew : ((s.udp.setTask i (.looking src data)).task i).socket = some src.listener := by
    rw [task_setTask_self]
    rfl
  have hold : (s.udp.task i).socket = none := by
    rw [hidle]
    rfl
  constructor
  · intro m l hl
    obtain ⟨l₀, hl₀, rfl⟩ := getElem?_modify_eq_some hl
    have hcount := h.count m l₀ hl₀
    split
    · case isTrue heq => exact hcount.clone hold (heq ▸ hnew) hothers
    · case isFalse hne =>
      refine hcount.congr ?_ hothers
      rw [hnew, hold]
      exact iff_of_false (fun heq => hne (Option.some.inj heq)) nofun
  · intro j m hj
    show m < (s.listeners.modify _ _).length
    rw [List.length_modify]
    by_cases hji : j = i
    · subst hji
      cases hnew.symm.trans hj
      exact hrunning
    · exact h.started j m ((congrArg PacketPc.socket (hothers j hji)).symm.trans hj)

/-- A task or worker goes on, and drops its clone when it comes to its end. -/
lemma Counted.task {udp' : UdpState} {i : ℕ} {ok : Bool} (h : Counted s)
    (hstep : taskStep s.udp i ok = some udp') :
    Counted { s with listeners := socketsAfter s udp' (.task i ok), udp := udp' } := by
  obtain ⟨hothers, hcourse⟩ := course_of_taskStep hstep
  obtain ⟨m, hold, hnew⟩ := hcourse.socket
  have hlisteners : (socketsAfter s udp' (.task i ok)).length = s.listeners.length := by
    rw [socketsAfter]
    split
    · exact List.length_modify _ _ _
    · rfl
  have hstarted : ∀ j m, (udp'.task j).socket = some m → m < s.listeners.length := by
    intro j m' hj
    by_cases hji : j = i
    · subst hji
      rcases hnew with hnew | hnew
      · cases hnew.symm.trans hj
        exact h.started j m hold
      · cases hnew.symm.trans hj
    · exact h.started j m' ((congrArg PacketPc.socket (hothers j hji)).symm.trans hj)
  refine ⟨?_, fun j m hj => (hstarted j m hj).trans_eq hlisteners.symm⟩
  intro m' l hl
  rcases hnew with hnew | hnew
  · -- it keeps its clone
    have hsame : socketsAfter s udp' (.task i ok) = s.listeners := by
      rw [socketsAfter, hold, hnew]
    have hl' : s.listeners[m']? = some l := hsame ▸ hl
    exact (h.count m' l hl').congr (by rw [hold, hnew]) hothers
  · -- it ends
    have hdrop : socketsAfter s udp' (.task i ok) = s.listeners.modify m Listener.drop := by
      rw [socketsAfter, hold, hnew]
    have hl' : (s.listeners.modify m Listener.drop)[m']? = some l := hdrop ▸ hl
    obtain ⟨l₀, hl₀, rfl⟩ := getElem?_modify_eq_some hl'
    have hcount := h.count m' l₀ hl₀
    split
    · case isTrue heq => exact hcount.drop (heq ▸ hold) hnew hothers
    · case isFalse hne =>
      refine hcount.congr ?_ hothers
      rw [hold, hnew]
      exact iff_of_false nofun fun heq => hne (Option.some.inj heq)

/-- The counts of the sockets follow the tasks and workers. -/
lemma Counted.udp {udp' : UdpState} {label : UdpLabel} (h : Counted s) (hreceives : s.receives label)
    (hstep : udpStep s.udp label = some udp') :
    Counted { s with listeners := socketsAfter s udp' label, udp := udp' } := by
  cases label with
  | datagram i src data =>
      obtain ⟨hidle, rfl⟩ := task_of_datagram hstep
      rw [PortState.receives] at hreceives
      split at hreceives
      · case h_1 l hl => exact h.datagram (List.getElem?_eq_some_iff.mp hl).1 hidle
      · cases hreceives
  | task i ok => exact h.task hstep
  | otherConnId | otherAsks | otherReleases =>
      obtain ⟨htask, -⟩ := other_step hstep rfl
      constructor
      · intro m l hl
        show CountedBy udp'.task m l
        rw [htask]
        exact h.count m l hl
      · intro j m hj
        change (udp'.task j).socket = some m at hj
        rw [htask] at hj
        exact h.started j m hj

/-- A listener of the rule takes a step. -/
lemma Counted.listener {label : ListenerLabel} {current : Option ℕ} (h : Counted s)
    (hl : s.listeners[n]? = some l) (hstep : l.step label = some l') :
    Counted { s with listeners := s.listeners.set n l', current } := by
  constructor
  · intro m k hk
    rw [List.getElem?_set] at hk
    split at hk
    · case isTrue heq =>
      subst heq
      split at hk <;> cases hk
      exact (h.count n l hl).step hstep
    · exact h.count m k hk
  · intro i m hi
    exact (h.started i m hi).trans_eq (List.length_set).symm

/-- A new listener has no task yet. -/
lemma Counted.bind (h : Counted s) : Counted { s with listeners := s.listeners ++ [.start] } := by
  constructor
  · intro m l hl
    rcases Nat.lt_or_ge m s.listeners.length with hlt | hge
    · rw [List.getElem?_append_left hlt] at hl
      exact h.count m l hl
    · rw [List.getElem?_append_right hge, List.getElem?_singleton] at hl
      split at hl <;> cases hl
      refine ⟨∅, fun i => iff_of_false (Finset.notMem_empty i) fun hi => ?_, rfl⟩
      exact absurd (h.started i m hi) (not_lt.mpr hge)
  · intro i m hi
    refine (h.started i m hi).trans_le ?_
    show _ ≤ (s.listeners ++ [Listener.start]).length
    rw [List.length_append]
    exact Nat.le_add_right _ _

/-- At the start nobody holds a socket. -/
lemma counted_start (connIdCounter : ConnId) : Counted (.start connIdCounter) where
  count := fun _ _ => nofun
  started := fun _ _ => nofun

/-- Every socket stays counted. -/
lemma Counted.step {label : PortLabel} (h : Counted s) (hstep : portStep s label = some s') :
    Counted s' := by
  cases label with
  | bind =>
      rw [portStep] at hstep
      split at hstep <;> cases hstep
      exact h.bind
  | listener n label =>
      rw [portStep] at hstep
      split at hstep
      · case h_1 l current hl hcurrent =>
        obtain ⟨l', hl', rfl⟩ := Option.map_eq_some_iff.mp hstep
        exact h.listener hl hl'
      · cases hstep
  | udp label =>
      rw [portStep] at hstep
      split at hstep
      · case isTrue hreceives =>
        obtain ⟨udp', hudp, rfl⟩ := Option.map_eq_some_iff.mp hstep
        exact h.udp hreceives hudp
      · cases hstep

/-! ## The port after a stop -/

/-- Every datagram task of the listener has ended, and every session worker. -/
def PortState.Idle (s : PortState) (n : ℕ) : Prop := ∀ i, (s.udp.task i).socket ≠ some n

/-- A listener whose stop has returned has no socket left, and when all have been stopped the port
can be bound again. -/
structure Released (s : PortState) : Prop where
  sockets : ∀ l ∈ s.listeners, l.stage = .stopped → l.sockets = 0
  bind : (∀ l ∈ s.listeners, l.stage = .stopped) → (portStep s .bind).isSome

/-- The stop does not return while a datagram task or worker of the listener is left. -/
def IdleAtJoin (s : PortState) : PortLabel → Prop
  | .listener n .join => s.Idle n
  | _ => True

/-- Without the listener task, the socket is closed exactly when nothing is left. -/
lemma Counted.sockets_eq_zero_iff (h : Counted s) (hl : s.listeners[n]? = some l)
    (hends : l.stage.runs = false) : l.sockets = 0 ↔ s.Idle n := by
  obtain ⟨holders, hmem, hcount⟩ := h.count n l hl
  rw [hends, if_neg Bool.false_ne_true, Nat.add_zero] at hcount
  rw [hcount, Finset.card_eq_zero, Finset.eq_empty_iff_forall_notMem]
  exact forall_congr' fun i => not_congr (hmem i)

/-- Every socket is counted, and those of stopped listeners are closed. -/
structure Closed (s : PortState) : Prop extends Counted s where
  stopped : ∀ n l, s.listeners[n]? = some l → l.stage = .stopped → s.Idle n

/-- At the start no listener has been stopped. -/
lemma closed_start (connIdCounter : ConnId) : Closed (.start connIdCounter) where
  toCounted := counted_start connIdCounter
  stopped := fun _ _ => nofun

/-- The sockets of the stopped listeners are closed. -/
lemma Closed.sockets (h : Closed s) : ∀ l ∈ s.listeners, l.stage = .stopped → l.sockets = 0 := by
  intro l hl hstage
  obtain ⟨n, hn⟩ := List.mem_iff_getElem?.mp hl
  exact (h.sockets_eq_zero_iff hn (by rw [hstage]; rfl)).mpr (h.stopped n l hn hstage)

/-- When the listener is closed and nobody holds its socket, the port is released. -/
lemma Closed.released (h : Closed s) : Released s where
  sockets := h.sockets
  bind := by
    intro hall
    have hfree : s.Free := fun l hl => h.sockets l hl (hall l hl)
    rw [portStep, if_pos hfree]
    rfl

/-- A step that ends in a stopped listener is the return of its stop. -/
lemma Listener.stopped_of_step {label : ListenerLabel} (hstep : l.step label = some l')
    (hstage : l'.stage = .stopped) : label = .join := by
  cases label with
  | join => rfl
  | list | take | abort | finish =>
      rw [Listener.step] at hstep
      split at hstep <;> cases hstep
      cases hstage

/-- A stopped listener gets no task. -/
lemma Closed.idle_udp {udp' : UdpState} {label : UdpLabel} (h : Closed s)
    (hreceives : s.receives label) (hstep : udpStep s.udp label = some udp')
    (hl : s.listeners[n]? = some l) (hstage : l.stage = .stopped) (i : ℕ) :
    (udp'.task i).socket ≠ some n := by
  have hidle := h.stopped n l hl hstage
  cases label with
  | datagram j src data =>
      obtain ⟨-, rfl⟩ := task_of_datagram hstep
      by_cases hij : i = j
      · subst hij
        rw [task_setTask_self]
        rintro ⟨⟩
        simp [PortState.receives, hl, hstage, ListenerStage.runs] at hreceives
      · rw [task_setTask_of_ne _ hij]
        exact hidle i
  | task j ok =>
      obtain ⟨hothers, hcourse⟩ := course_of_taskStep hstep
      by_cases hij : i = j
      · subst hij
        obtain ⟨m, hold, hnew | hnew⟩ := hcourse.socket
        · rw [hnew, ← hold]
          exact hidle i
        · rw [hnew]
          exact nofun
      · rw [hothers i hij]
        exact hidle i
  | otherConnId | otherAsks | otherReleases =>
      obtain ⟨htask, -⟩ := other_step hstep rfl
      rw [htask]
      exact hidle i

/-- The stages of the listeners are not touched by the tasks and workers. -/
lemma stage_socketsAfter {udp' : UdpState} {label : UdpLabel}
    (hl : (socketsAfter s udp' label)[n]? = some l) :
    ∃ l₀, s.listeners[n]? = some l₀ ∧ l₀.stage = l.stage := by
  have hmodify : ∀ m (f : Listener → Listener), (∀ l, (f l).stage = l.stage) →
      (s.listeners.modify m f)[n]? = some l → ∃ l₀, s.listeners[n]? = some l₀ ∧ l₀.stage = l.stage := by
    intro m f hf hl
    obtain ⟨l₀, hl₀, rfl⟩ := getElem?_modify_eq_some hl
    refine ⟨l₀, hl₀, ?_⟩
    split
    · exact (hf l₀).symm
    · rfl
  unfold socketsAfter at hl
  split at hl
  · exact hmodify _ Listener.clone (fun _ => rfl) hl
  · split at hl
    · exact hmodify _ Listener.drop (fun _ => rfl) hl
    · exact ⟨l, hl, rfl⟩
  · exact ⟨l, hl, rfl⟩

/-- A stop that returns when nothing is left keeps the port's account. -/
lemma Closed.step {label : PortLabel} (h : Closed s) (hok : IdleAtJoin s label)
    (hstep : portStep s label = some s') : Closed s' := by
  refine ⟨h.toCounted.step hstep, ?_⟩
  intro m k hk hstage
  cases label with
  | bind =>
      rw [portStep] at hstep
      split at hstep <;> cases hstep
      rcases Nat.lt_or_ge m s.listeners.length with hlt | hge
      · rw [List.getElem?_append_left hlt] at hk
        exact h.stopped m k hk hstage
      · rw [List.getElem?_append_right hge, List.getElem?_singleton] at hk
        split at hk <;> cases hk
        cases hstage
  | listener n label =>
      rw [portStep] at hstep
      split at hstep
      · case h_1 l current hl hcurrent =>
        obtain ⟨l', hl', rfl⟩ := Option.map_eq_some_iff.mp hstep
        rw [List.getElem?_set] at hk
        split at hk
        · case isTrue heq =>
          subst heq
          split at hk <;> cases hk
          obtain rfl := Listener.stopped_of_step hl' hstage
          exact hok
        · exact h.stopped m k hk hstage
      · cases hstep
  | udp label =>
      rw [portStep] at hstep
      split at hstep
      · case isTrue hreceives =>
        obtain ⟨udp', hudp, rfl⟩ := Option.map_eq_some_iff.mp hstep
        obtain ⟨l₀, hl₀, hstage₀⟩ := stage_socketsAfter hk
        exact h.idle_udp hreceives hudp hl₀ (hstage₀.trans hstage)
      · cases hstep

/-- A stop that returns too early leaves the socket open. -/
lemma not_released_of_not_idle {label : PortLabel} (h : Closed s) (hbad : ¬ IdleAtJoin s label)
    (hstep : portStep s label = some s') : ¬ Released s' := by
  have hcounted := h.toCounted.step hstep
  cases label with
  | bind | udp => exact absurd trivial hbad
  | listener n label =>
      cases label with
      | list | take | abort | finish => exact absurd trivial hbad
      | join =>
          intro hreleased
          rw [portStep] at hstep
          split at hstep
          · case h_1 l current hl hcurrent =>
            obtain ⟨l', hl', rfl⟩ := Option.map_eq_some_iff.mp hstep
            rw [Listener.step] at hl'
            split at hl' <;> cases hl'
            have hlt : n < s.listeners.length := (List.getElem?_eq_some_iff.mp hl).1
            have hn : (s.listeners.set n { l with stage := .stopped })[n]? =
                some { l with stage := .stopped } := List.getElem?_set_self hlt
            refine hbad ?_
            refine (hcounted.sockets_eq_zero_iff hn rfl).mp ?_
            exact hreleased.sockets _ (List.mem_iff_getElem?.mpr ⟨n, hn⟩) rfl
          · cases hstep

/-- A rule is stopped while one session of it is live. -/
def stoppedWithSession : List PortLabel :=
  [.bind, .listener 0 .list, .udp (.datagram 0 ⟨0, "peer"⟩ [1])] ++
    List.replicate 12 (.udp (.task 0 true)) ++
    [.listener 0 .take, .listener 0 .abort, .listener 0 .finish, .listener 0 .join]

end RustProxy.Server.Udp
