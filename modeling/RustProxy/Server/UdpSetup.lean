import RustProxy.Server.UdpDeadlock
import Mathlib.Data.Set.Basic

/-!
# Datagrams that arrive while a session is set up

A task that finds no session of its source draws a connection id, enters the source into `sessions`,
notifies the client and waits for a work connection, for up to 30 s; only then it enters its channel
into `session_senders`.  The next datagrams of the source find the session at once.

* `Recorded` is the state of a listener with three histories: which datagrams have arrived during
  which set-up, which set-ups have succeeded, and the channel each datagram has been put into.
* `Lost` is a datagram that will not get into the channel of the set-up it arrived during; `lost_step`
  says which steps lose one.
* A task on its way to a channel can also be stuck, behind a session that is jammed.
* `delivered_iff_findsChannel` is about whole schedules.
-/

namespace RustProxy.Server.Udp

open Transition

/-! ## The listener with its history -/

/-- The source whose session a task is setting up: from the id it draws to the worker it spawns. -/
def PacketPc.settingUp : PacketPc → Option Source
  | .inserting src _ _ => some src
  | .notifying src _ _ => some src
  | .enrolling src _ _ => some src
  | .waiting src _ _ => some src
  | .registering src _ _ => some src
  | .firstSend src _ _ => some src
  | _ => none

/-- A UDP listener and what has happened in it. -/
structure Recorded where
  udp : UdpState
  /-- The datagram `j` arrived while task `i` was setting up a session of its source. -/
  due : ℕ → ℕ → Bool
  /-- The set-up of task `i` has succeeded: its channel has been entered. -/
  succeeded : ℕ → Bool
  /-- The channel the datagram `j` has been put into. -/
  put : ℕ → Option ℕ

/-- Nothing has happened yet. -/
def Recorded.start (connIdCounter : ConnId) : Recorded where
  udp := .start connIdCounter
  due := fun _ _ => false
  succeeded := fun _ => false
  put := fun _ => none

/-- A datagram is due in the channels of the set-ups it arrives during. -/
def dueAfter (s : Recorded) : UdpLabel → ℕ → ℕ → Bool
  | .datagram j src _ => Function.update s.due j fun i => (s.udp.task i).settingUp = some src
  | _ => s.due

/-- A set-up succeeds with `senders.insert(new_conn_id, data_tx.clone())`. -/
def succeededAfter (s : Recorded) : UdpLabel → ℕ → Bool
  | .task i _ =>
      match s.udp.task i with
      | .registering _ _ _ =>
          if s.udp.ready i then Function.update s.succeeded i true else s.succeeded
      | _ => s.succeeded
  | _ => s.succeeded

/-- A datagram is put into a channel by `tx.send(data)` and by `data_tx.send(data)`. -/
def putAfter (s : Recorded) : UdpLabel → ℕ → Option ℕ
  | .task i _ =>
      match s.udp.task i with
      | .sending _ _ _ ch =>
          if (s.udp.task ch).rxDropped then s.put else Function.update s.put i (some ch)
      | .firstSend _ _ _ => Function.update s.put i (some i)
      | _ => s.put
  | _ => s.put

/-- One step of the listener, with its history. -/
def recordedStep (s : Recorded) (label : UdpLabel) : Option Recorded :=
  (udpStep s.udp label).map fun udp =>
    { udp, due := dueAfter s label, succeeded := succeededAfter s label, put := putAfter s label }

/-! ## Lost datagrams -/

/-- The task may still put its datagram into the channel `ch`. -/
def PacketPc.headsFor : PacketPc → ℕ → Bool
  | .looking _ _, _ => true
  | .found _ _ _, _ => true
  | .sending _ _ _ ch', ch => ch' = ch
  | _, _ => false

/-- The datagram `j` will not get into the channel of the set-up `i`. -/
def Recorded.Lost (s : Recorded) (j i : ℕ) : Prop :=
  s.due j i = true ∧ (s.udp.task j).headsFor i = false ∧ s.put j ≠ some i

/-- A set-up that has succeeded has put its own datagram into its channel, and so have the tasks of all
datagrams that arrived during it; or the task is on its way there and not stuck. -/
structure Recorded.Delivered (s : Recorded) : Prop where
  first : ∀ i, s.succeeded i = true →
    s.put i = some i ∨ (∃ src data k, s.udp.task i = .firstSend src data k) ∧ ¬ Stuck s.udp i
  later : ∀ j i, s.succeeded i = true → s.due j i = true →
    s.put j = some i ∨ (s.udp.task j).headsFor i = true ∧ ¬ Stuck s.udp j

/-- What task `j` finds leads to the channel `i`: its source is in `sessions`, the channel is in
`session_senders` under the id found, and its worker has not dropped the receiver. -/
def Leads (s : UdpState) (j i : ℕ) : Prop :=
  match s.task j with
  | .looking src _ => s.sessions src ≠ none
  | .found src _ k => s.senders (src.listener, k) = some i
  | .sending _ _ _ ch => ch = i → (s.task ch).rxDropped = false
  | _ => True

/-- The task of a datagram that arrived during one of the set-ups `succeeds` is led to its channel. -/
def FindsChannel (succeeds : ℕ → Bool) (s : Recorded) : UdpLabel → Prop
  | .task j _ => s.udp.ready j = true →
      ∀ i, succeeds i = true → s.due j i = true → Leads s.udp j i
  | _ => True

variable {s s' : Recorded} {u : UdpState}

/-- The step of the listener that is recorded. -/
lemma udpStep_of_recordedStep {label : UdpLabel} (h : recordedStep s label = some s') :
    udpStep s.udp label = some s'.udp ∧ s'.due = dueAfter s label ∧
      s'.succeeded = succeededAfter s label ∧ s'.put = putAfter s label := by
  obtain ⟨udp, hudp, rfl⟩ := Option.map_eq_some_iff.mp h
  exact ⟨hudp, rfl, rfl, rfl⟩

/-! ## What is always so -/

/-- The task has not got its datagram into a channel, and may still do so. -/
def PacketPc.undecided : PacketPc → Bool
  | .idle => true
  | .looking _ _ => true
  | .found _ _ _ => true
  | .sending _ _ _ _ => true
  | pc => pc.settingUp.isSome

/-- Datagrams that are due have been received by other tasks than those that set the session up, and a
channel is chosen once. -/
structure Recorded.Consistent (s : Recorded) : Prop where
  other : ∀ i, s.due i i = false
  received : ∀ j i, s.udp.task j = .idle → s.due j i = false
  unput : ∀ j, (s.udp.task j).undecided = true → s.put j = none
  first : ∀ i, s.succeeded i = true →
    s.put i = some i ∨ ∃ src data k, s.udp.task i = .firstSend src data k
  entered : ∀ i src data k, s.udp.task i = .firstSend src data k → s.succeeded i = true

/-- At the start nothing is recorded. -/
lemma consistent_start (k : ConnId) : (Recorded.start k).Consistent where
  other := fun _ => rfl
  received := fun _ _ _ => rfl
  unput := fun _ _ => rfl
  first := fun _ h => absurd h Bool.false_ne_true
  entered := fun _ _ _ _ => nofun

/-- Who goes on has begun. -/
lemma Act.ne_idle {i : ℕ} {ok : Bool} {s t : UdpState} {pc pc' : PacketPc} (h : Act s i ok pc t pc') :
    pc' ≠ .idle := by
  cases h <;> exact PacketPc.noConfusion

/-- A set-up that is about to send its own datagram has succeeded. -/
lemma entered_self {i : ℕ} {ok : Bool} {pc pc' : PacketPc} (hact : Act s.udp i ok pc u pc')
    (hpc : s.udp.task i = pc) (hready : s.udp.ready i = true) {src : Source} {data : Bytes} {k : ConnId}
    (hnew : pc' = .firstSend src data k) : succeededAfter s (.task i ok) i = true := by
  rw [succeededAfter, hpc]
  cases hact with
  | serve =>
      dsimp only
      rw [if_pos hready]
      exact Function.update_self _ _ _
  | _ => cases hnew

/-- What a task step does to the history of the others. -/
lemma history_of_ne {i j : ℕ} (hj : j ≠ i) (ok : Bool) :
    succeededAfter s (.task i ok) j = s.succeeded j ∧ putAfter s (.task i ok) j = s.put j := by
  rw [succeededAfter, putAfter]
  generalize s.udp.task i = pc
  cases pc with
  | registering =>
      refine ⟨?_, rfl⟩
      dsimp only
      split
      · exact Function.update_of_ne hj _ _
      · rfl
  | firstSend => exact ⟨rfl, Function.update_of_ne hj _ _⟩
  | sending src data k ch =>
      refine ⟨rfl, ?_⟩
      dsimp only
      split
      · rfl
      · exact Function.update_of_ne hj _ _
  | _ => exact ⟨rfl, rfl⟩

/-- A task that goes on loses its datagram for the channel `x` of another task when what it finds does
not lead there. -/
lemma lost_self {i x : ℕ} {ok : Bool} {pc pc' : PacketPc} (hact : Act s.udp i ok pc u pc')
    (hpc : s.udp.task i = pc) (hix : i ≠ x) (hput : pc.undecided = true → s.put i = none) :
    (pc'.headsFor x = false ∧ putAfter s (.task i ok) i ≠ some x) ↔
      (pc.headsFor x = false ∧ s.put i ≠ some x) ∨ ¬ Leads s.udp i x := by
  rw [putAfter, Leads, hpc]
  cases hact with
  | find h => simp [PacketPc.headsFor, h]
  | miss h => simp [PacketPc.headsFor, h, hput rfl]
  | take h => simp [PacketPc.headsFor, h, hput rfl]
  | forget h => simp [PacketPc.headsFor, h, hput rfl]
  | refuse h =>
      simp [PacketPc.headsFor, h, hput rfl]
      exact (em _).symm
  | send h => simp [PacketPc.headsFor, h, hput rfl]
  | spawn => simp [PacketPc.headsFor, hput rfl, hix]
  | _ => simp [PacketPc.headsFor]

/-- A task that goes on and may still put its datagram somewhere has not done so. -/
lemma unput_self {i : ℕ} {ok : Bool} {pc pc' : PacketPc} (hact : Act s.udp i ok pc u pc')
    (hpc : s.udp.task i = pc) (hput : pc.undecided = true → s.put i = none)
    (hundecided : pc'.undecided = true) : putAfter s (.task i ok) i = none := by
  rw [putAfter, hpc]
  cases hact with
  | find | miss | take | enter | notify | enroll | connect | serve => exact hput rfl
  | _ => cases hundecided

/-- A set-up that succeeds sends its own datagram first. -/
lemma first_self {i : ℕ} {ok : Bool} {pc pc' : PacketPc} (hact : Act s.udp i ok pc u pc')
    (hpc : s.udp.task i = pc) (hput : pc.undecided = true → s.put i = none)
    (hfirst : s.succeeded i = true → s.put i = some i ∨ ∃ src data k, pc = .firstSend src data k)
    (hsucceeded : succeededAfter s (.task i ok) i = true) :
    putAfter s (.task i ok) i = some i ∨ ∃ src data k, pc' = .firstSend src data k := by
  rw [succeededAfter, hpc] at hsucceeded
  rw [putAfter, hpc]
  cases hact with
  | serve => exact Or.inr ⟨_, _, _, rfl⟩
  | spawn => exact Or.inl (Function.update_self _ _ _)
  | refuse | send =>
      rcases hfirst hsucceeded with hput' | ⟨_, _, _, hpc'⟩
      · cases (hput rfl).symm.trans hput'
      · cases hpc'
  | _ =>
      rcases hfirst hsucceeded with hput' | ⟨_, _, _, hpc'⟩
      · exact Or.inl hput'
      · cases hpc'

/-- A datagram that arrives starts a task, and nothing else. -/
lemma recorded_datagram {j : ℕ} {src : Source} {data : Bytes}
    (hstep : recordedStep s (.datagram j src data) = some s') :
    s.udp.task j = .idle ∧ s'.udp.task j = .looking src data ∧
      (∀ i, i ≠ j → s'.udp.task i = s.udp.task i) ∧
      s'.due = (Function.update s.due j fun i => (s.udp.task i).settingUp = some src) ∧
      s'.succeeded = s.succeeded ∧ s'.put = s.put := by
  obtain ⟨hudp, hdue, hsucceeded, hput⟩ := udpStep_of_recordedStep hstep
  obtain ⟨hidle, hudp'⟩ := task_of_datagram hudp
  refine ⟨hidle, ?_, ?_, hdue, hsucceeded, hput⟩
  · rw [hudp', task_setTask_self]
  · intro i hi
    rw [hudp', task_setTask_of_ne _ hi]

/-- A task goes on, and the others stay with their history. -/
lemma recorded_task {i : ℕ} {ok : Bool} (hready : s.udp.ready i = true)
    (hstep : recordedStep s (.task i ok) = some s') :
    (∃ u, Act s.udp i ok (s.udp.task i) u (s'.udp.task i)) ∧
      (∀ j, j ≠ i → s'.udp.task j = s.udp.task j ∧ s'.succeeded j = s.succeeded j ∧
        s'.put j = s.put j) ∧
      s'.due = s.due ∧ s'.succeeded i = succeededAfter s (.task i ok) i ∧
      s'.put i = putAfter s (.task i ok) i := by
  obtain ⟨hudp, hdue, hsucceeded, hput⟩ := udpStep_of_recordedStep hstep
  obtain ⟨u, pc, hact, hudp'⟩ := act_of_ready hready hudp
  refine ⟨⟨u, ?_⟩, ?_, hdue, congrFun hsucceeded i, congrFun hput i⟩
  · rw [hudp', task_setTask_self]
    exact hact
  · intro j hj
    obtain ⟨hsucceeded', hput'⟩ := history_of_ne (s := s) hj ok
    exact ⟨(course_of_taskStep hudp).1 j hj, (congrFun hsucceeded j).trans hsucceeded',
      (congrFun hput j).trans hput'⟩

/-- A task asks for a guard, or the step is not one of the tasks. -/
def UdpState.Still (s : UdpState) : UdpLabel → Prop
  | .datagram _ _ _ => False
  | .task i _ => s.ready i = false
  | _ => True

/-- Then the tasks stay where they are, and so does the history. -/
lemma recorded_still {label : UdpLabel} (hstill : s.udp.Still label)
    (hstep : recordedStep s label = some s') :
    s'.udp.task = s.udp.task ∧ s'.due = s.due ∧ s'.succeeded = s.succeeded ∧ s'.put = s.put := by
  obtain ⟨hudp, hdue, hsucceeded, hput⟩ := udpStep_of_recordedStep hstep
  cases label with
  | datagram => exact hstill.elim
  | task i ok =>
      rcases taskStep_cases hudp with ⟨l, access, hneeds, -, hudp'⟩ | ⟨hready, -⟩
      · rw [hdue, hsucceeded, hput, hudp']
        refine ⟨rfl, rfl, ?_, ?_⟩
        · rw [succeededAfter]
          split
          · exact if_neg (Bool.eq_false_iff.mp hstill)
          · rfl
        · rw [putAfter]
          split
          · case h_1 hpc =>
            rw [hpc] at hneeds
            cases hneeds
          · case h_2 hpc =>
            rw [hpc] at hneeds
            cases hneeds
          · rfl
      · cases hready.symm.trans hstill
  | otherConnId | otherAsks | otherReleases =>
      exact ⟨(other_step hudp rfl).1, hdue, hsucceeded, hput⟩

/-- A new datagram is due in the set-ups that are under way. -/
lemma consistent_datagram {j : ℕ} {src : Source} {data : Bytes} (h : s.Consistent)
    (hstep : recordedStep s (.datagram j src data) = some s') : s'.Consistent := by
  obtain ⟨hidle, hself, hothers, hdue, hsucceeded, hput⟩ := recorded_datagram hstep
  refine ⟨?_, ?_, ?_, ?_, ?_⟩
  · intro i
    rw [hdue]
    by_cases hi : i = j
    · subst hi
      rw [Function.update_self, hidle]
      rfl
    · rw [Function.update_of_ne hi]
      exact h.other i
  · intro i x hi
    have hne : i ≠ j := by
      rintro rfl
      cases hself.symm.trans hi
    rw [hdue, Function.update_of_ne hne]
    exact h.received i x ((hothers i hne).symm.trans hi)
  · intro i hi
    rw [hput]
    by_cases hij : i = j
    · subst hij
      exact h.unput i (by rw [hidle]; rfl)
    · exact h.unput i (by rw [← hothers i hij]; exact hi)
  · intro i hi
    rw [hsucceeded] at hi
    rw [hput]
    rcases h.first i hi with hfirst | ⟨src', data', k', hpc⟩
    · exact Or.inl hfirst
    · have hij : i ≠ j := by
        rintro rfl
        cases hidle.symm.trans hpc
      exact Or.inr ⟨src', data', k', (hothers i hij).trans hpc⟩
  · intro i src' data' k' hpc
    have hij : i ≠ j := by
      rintro rfl
      cases hself.symm.trans hpc
    rw [hsucceeded]
    exact h.entered i src' data' k' ((hothers i hij).symm.trans hpc)

/-- A task that goes on records what it does. -/
lemma consistent_task {i : ℕ} {ok : Bool} (h : s.Consistent) (hready : s.udp.ready i = true)
    (hstep : recordedStep s (.task i ok) = some s') : s'.Consistent := by
  obtain ⟨⟨u, hact⟩, hothers, hdue, hsucceeded, hput⟩ := recorded_task hready hstep
  refine ⟨?_, ?_, ?_, ?_, ?_⟩
  · rw [hdue]
    exact h.other
  · intro j x hj
    have hne : j ≠ i := by
      rintro rfl
      exact hact.ne_idle hj
    rw [hdue]
    exact h.received j x ((hothers j hne).1.symm.trans hj)
  · intro j hj
    by_cases hji : j = i
    · subst hji
      rw [hput]
      exact unput_self hact rfl (h.unput j) hj
    · obtain ⟨htask, -, hput'⟩ := hothers j hji
      rw [hput']
      exact h.unput j (by rw [← htask]; exact hj)
  · intro j hj
    by_cases hji : j = i
    · subst hji
      rw [hsucceeded] at hj
      rw [hput]
      exact first_self hact rfl (h.unput j) (h.first j) hj
    · obtain ⟨htask, hsucceeded', hput'⟩ := hothers j hji
      rw [hsucceeded'] at hj
      rw [hput', htask]
      exact h.first j hj
  · intro j src data k hj
    by_cases hji : j = i
    · subst hji
      rw [hsucceeded]
      exact entered_self hact rfl hready hj
    · obtain ⟨htask, hsucceeded', -⟩ := hothers j hji
      rw [hsucceeded']
      exact h.entered j src data k (htask ▸ hj)

/-- A step that leaves tasks and tables leaves the record. -/
lemma consistent_still {label : UdpLabel} (h : s.Consistent) (hstill : s.udp.Still label)
    (hstep : recordedStep s label = some s') : s'.Consistent := by
  obtain ⟨htask, hdue, hsucceeded, hput⟩ := recorded_still hstill hstep
  refine ⟨?_, ?_, ?_, ?_, ?_⟩
  · rw [hdue]
    exact h.other
  · rw [hdue, htask]
    exact h.received
  · rw [hput, htask]
    exact h.unput
  · rw [hsucceeded, hput, htask]
    exact h.first
  · rw [hsucceeded, htask]
    exact h.entered

/-- Every step keeps the record consistent. -/
lemma consistent_step {label : UdpLabel} (h : s.Consistent) (hstep : recordedStep s label = some s') :
    s'.Consistent := by
  cases label with
  | datagram j src data => exact consistent_datagram h hstep
  | task i ok =>
      cases hready : s.udp.ready i with
      | true => exact consistent_task h hready hstep
      | false =>
          have hstill : s.udp.Still (.task i ok) := hready
          exact consistent_still h hstill hstep
  | otherConnId | otherAsks | otherReleases =>
      refine consistent_still h ?_ hstep
      trivial

/-! ## Steps that lose a datagram -/

/-- A step loses the datagram `j` for the set-up `i` exactly if it is a critical section of its task and
what that finds does not lead to the channel. -/
lemma lost_step {label : UdpLabel} (h : s.Consistent) (hstep : recordedStep s label = some s')
    (j i : ℕ) : s'.Lost j i ↔
      s.Lost j i ∨ ((∃ ok, label = .task j ok) ∧ s.udp.ready j = true) ∧ s.due j i = true ∧
        ¬ Leads s.udp j i := by
  have hsame (hstill : s.udp.Still label) (hother : ∀ ok, label = .task j ok → s.udp.ready j = false) :
      s'.Lost j i ↔ s.Lost j i ∨ ((∃ ok, label = .task j ok) ∧ s.udp.ready j = true) ∧
        s.due j i = true ∧ ¬ Leads s.udp j i := by
    obtain ⟨htask, hdue, -, hput⟩ := recorded_still hstill hstep
    rw [Recorded.Lost, Recorded.Lost, htask, hdue, hput]
    refine (or_iff_left ?_).symm
    rintro ⟨⟨⟨ok, hlabel⟩, hready⟩, -⟩
    cases (hother ok hlabel).symm.trans hready
  cases label with
  | datagram j' src data =>
      obtain ⟨hidle, hself, hothers, hdue, -, hput⟩ := recorded_datagram hstep
      rw [Recorded.Lost, Recorded.Lost, hput, hdue]
      by_cases hj : j = j'
      · subst hj
        rw [hself, h.received j i hidle]
        refine iff_of_false ?_ ?_
        · rintro ⟨-, ⟨⟩, -⟩
        · rintro (⟨⟨⟩, -⟩ | ⟨-, ⟨⟩, -⟩)
      · rw [Function.update_of_ne hj, hothers j hj]
        exact (or_iff_left (by rintro ⟨⟨⟨_, ⟨⟩⟩, -⟩, -⟩)).symm
  | task i' ok =>
      cases hready : s.udp.ready i' with
      | false =>
          refine hsame hready fun ok' heq => ?_
          cases heq
          exact hready
      | true =>
          obtain ⟨⟨u, hact⟩, hothers, hdue, -, hput⟩ := recorded_task hready hstep
          rw [Recorded.Lost, Recorded.Lost, hdue]
          by_cases hj : j = i'
          · subst hj
            by_cases hdue' : s.due j i = true
            · have hji : j ≠ i := by
                rintro rfl
                cases hdue'.symm.trans (h.other j)
              rw [hput, lost_self hact rfl hji (h.unput j)]
              tauto
            · tauto
          · obtain ⟨htask, -, hput'⟩ := hothers j hj
            rw [htask, hput']
            refine (or_iff_left ?_).symm
            rintro ⟨⟨⟨_, heq⟩, -⟩, -⟩
            exact hj (UdpLabel.task.inj heq).1.symm
  | otherConnId | otherAsks | otherReleases => exact hsame trivial nofun

/-- The datagrams that are lost for one of the set-ups `succeeds`. -/
def Recorded.lost (succeeds : ℕ → Bool) (s : Recorded) : Set (ℕ × ℕ) :=
  { p | succeeds p.2 = true ∧ s.Lost p.1 p.2 }

variable {succeeds : ℕ → Bool}

/-- A step that finds its channel loses nothing. -/
lemma lost_of_findsChannel {label : UdpLabel} (h : s.Consistent)
    (hok : FindsChannel succeeds s label) (hstep : recordedStep s label = some s') :
    s'.lost succeeds = s.lost succeeds := by
  ext ⟨j, i⟩
  refine and_congr_right fun hi => ?_
  rw [lost_step h hstep]
  refine or_iff_left ?_
  rintro ⟨⟨⟨ok, rfl⟩, hready⟩, hdue, hleads⟩
  exact hleads (hok hready i hi hdue)

/-- A datagram whose task may still be led astray is not lost yet. -/
lemma not_lost_of_not_leads {j i : ℕ} (hleads : ¬ Leads s.udp j i) : ¬ s.Lost j i := by
  rintro ⟨-, hheads, -⟩
  unfold Leads at hleads
  cases hpc : s.udp.task j with
  | looking | found =>
      rw [hpc] at hheads
      cases hheads
  | sending src data k ch =>
      rw [hpc] at hheads hleads
      exact hleads fun heq => absurd heq (of_decide_eq_false hheads)
  | _ =>
      rw [hpc] at hleads
      exact hleads trivial

/-- A step that does not find its channel loses a datagram for good. -/
lemma lost_of_not_findsChannel {label : UdpLabel} (h : s.Consistent)
    (hbad : ¬ FindsChannel succeeds s label) (hstep : recordedStep s label = some s') :
    s.lost succeeds ⊆ s'.lost succeeds ∧ ¬ s'.lost succeeds ⊆ s.lost succeeds := by
  cases label with
  | datagram | otherConnId | otherAsks | otherReleases => exact absurd trivial hbad
  | task j ok =>
      unfold FindsChannel at hbad
      push Not at hbad
      obtain ⟨hready, i, hi, hdue, hleads⟩ := hbad
      refine ⟨?_, Set.not_subset.mpr ⟨(j, i), ?_, ?_⟩⟩
      · rintro ⟨j', i'⟩ ⟨hi', hlost⟩
        exact ⟨hi', (lost_step h hstep j' i').mpr (Or.inl hlost)⟩
      · exact ⟨hi, (lost_step h hstep j i).mpr (Or.inr ⟨⟨⟨ok, rfl⟩, hready⟩, hdue, hleads⟩)⟩
      · exact fun hlost => not_lost_of_not_leads hleads hlost.2

/-! ## Runs -/

/-- What is known of every state of a run. -/
structure Recorded.Reached (s : Recorded) : Prop where
  consistent : s.Consistent
  udp : ∃ n, Udp.Reached n s.udp

/-- The start has been reached. -/
lemma recordedReached_start (k : ConnId) : (Recorded.start k).Reached where
  consistent := consistent_start k
  udp := ⟨0, reached_start k⟩

/-- Every step reaches a state. -/
lemma recordedReached_step {label : UdpLabel} (h : s.Reached) (hstep : recordedStep s label = some s') :
    s'.Reached where
  consistent := consistent_step h.consistent hstep
  udp := reached_step h.udp (udpStep_of_recordedStep hstep).1

/-- The datagrams of the set-ups that have succeeded are delivered when none of them is lost and no
session is jammed. -/
lemma delivered_iff_lost_empty (h : s.Reached) :
    s.Delivered ↔ s.lost s.succeeded = ∅ ∧ ∀ i, ¬ Jammed s.udp i := by
  rw [Set.eq_empty_iff_forall_notMem]
  constructor
  · intro hdelivered
    refine ⟨?_, ?_⟩
    · rintro ⟨j, i⟩ ⟨hi, hdue, hheads, hput⟩
      rcases hdelivered.later j i hi hdue with hput' | ⟨hheads', -⟩
      · exact hput hput'
      · cases hheads'.symm.trans hheads
    · intro i hjam
      obtain ⟨src, data, k, hpc, -⟩ := id hjam
      rcases hdelivered.first i (h.consistent.entered i src data k hpc) with hput | ⟨-, hstuck⟩
      · cases (h.consistent.unput i (by rw [hpc]; rfl)).symm.trans hput
      · exact hstuck (stuck_of_jammed hjam)
  · rintro ⟨hnone, hjam⟩
    obtain ⟨n, hudp⟩ := h.udp
    refine ⟨?_, ?_⟩
    · exact fun i hi => (h.consistent.first i hi).imp_right fun hfirst => ⟨hfirst, not_stuck hudp hjam i⟩
    · intro j i hi hdue
      refine (em (s.put j = some i)).imp_right fun hput => ⟨?_, not_stuck hudp hjam j⟩
      by_contra hheads
      exact hnone (j, i) ⟨hi, hdue, Bool.eq_false_iff.mpr hheads, hput⟩

/-- Along a run, no session is jammed at the end exactly if every step has left room. -/
lemma unjammed_iff_leavesRoom {k : ConnId} {labels : List UdpLabel} {t : Recorded}
    (hrun : exec recordedStep (.start k) labels = some t) :
    (∀ i, ¬ Jammed t.udp i) ↔
      EachStep recordedStep (fun s => LeavesRoom s.udp) (.start k) labels := by
  have hgood : ∀ (s : Recorded) label s', ((∃ n, Udp.Reached n s.udp) ∧ ∀ i, ¬ Jammed s.udp i) →
      True → recordedStep s label = some s' →
      (LeavesRoom s.udp label ∧ (∃ n, Udp.Reached n s'.udp) ∧ ∀ i, ¬ Jammed s'.udp i) ∨
        (¬ LeavesRoom s.udp label ∧ ∃ i, Jammed s'.udp i) := by
    intro s label s' hs _ hstep
    have hudp := (udpStep_of_recordedStep hstep).1
    by_cases hfills : Fills s.udp label
    · exact Or.inr ⟨not_not.mpr hfills, jammed_of_fills hfills hudp⟩
    · exact Or.inl ⟨hfills, unjammed_of_leavesRoom hs hfills hudp⟩
  have hstay : ∀ (s : Recorded) label s', (∃ i, Jammed s.udp i) → True →
      recordedStep s label = some s' → ∃ i, Jammed s'.udp i := by
    rintro s label s' ⟨i, hi⟩ _ hstep
    exact ⟨i, (jammed_step hi (udpStep_of_recordedStep hstep).1).1⟩
  rcases good_or_bad hgood hstay (unjammed_start k) (eachStep_of_forall_mem fun _ _ => trivial) hrun with
    ⟨⟨-, hjam⟩, hsteps⟩ | ⟨⟨i, hi⟩, hsteps⟩
  · exact iff_of_true hjam hsteps
  · exact iff_of_false (fun hjam => hjam i hi) hsteps

/-- The task of a datagram that arrived during one of the set-ups `succeeds` is led to its channel, and
no step takes the last place in a channel whose session still has to put its own first datagram there. -/
def LeadsOn (succeeds : ℕ → Bool) (s : Recorded) (label : UdpLabel) : Prop :=
  FindsChannel succeeds s label ∧ LeavesRoom s.udp label

/-- Over any datagrams and any interleaving of the tasks and workers: of every set-up that has
succeeded, the first datagram and all those that arrived meanwhile are in its channel, or on their way
there and not stuck, exactly if the tasks of these datagrams have always found the way and every step
has left room for the first datagrams; and then they are in the channel when their tasks have ended. -/
theorem delivered_iff_leadsOn (k : ConnId) (labels : List UdpLabel) (t : Recorded)
    (hrun : exec recordedStep (.start k) labels = some t) :
    (t.Delivered ↔ EachStep recordedStep (LeadsOn t.succeeded) (.start k) labels) ∧
      (EachStep recordedStep (LeadsOn t.succeeded) (.start k) labels →
        ∀ j i, t.succeeded i = true → j = i ∨ t.due j i = true → (t.udp.task j).Ended →
          t.put j = some i) := by
  have hstart : (Recorded.start k).lost t.succeeded = ∅ := by
    rw [Set.eq_empty_iff_forall_notMem]
    rintro ⟨j, i⟩ ⟨-, hdue, -⟩
    cases hdue
  obtain ⟨-, hlost⟩ := exec_measure (m := Recorded.lost t.succeeded) (I := Recorded.Consistent)
    (L := fun _ => True) (fun _ _ _ h _ hstep => consistent_step h hstep)
    (fun _ _ _ h _ hok hstep => lost_of_findsChannel h hok hstep)
    (fun _ _ _ h _ hbad hstep => lt_iff_le_not_ge.mpr (lost_of_not_findsChannel h hbad hstep))
    (consistent_start k) (fun _ _ => trivial) hrun
  have hreached := exec_invariant (fun _ _ _ => recordedReached_step) (recordedReached_start k) hrun
  have hiff : t.Delivered ↔ EachStep recordedStep (LeadsOn t.succeeded) (.start k) labels := by
    rw [delivered_iff_lost_empty hreached, unjammed_iff_leavesRoom hrun, ← hstart, hlost]
    constructor
    · rintro ⟨hfinds, hleaves⟩
      exact hfinds.and hleaves
    · intro hsteps
      exact ⟨hsteps.imp fun _ _ h => h.1, hsteps.imp fun _ _ h => h.2⟩
  refine ⟨hiff, ?_⟩
  intro hsteps j i hi hji hended
  have hdelivered := hiff.mpr hsteps
  rcases hji with rfl | hdue
  · rcases hdelivered.first j hi with hput | ⟨⟨src, data, k', hpc⟩, -⟩
    · exact hput
    · rw [hpc] at hended
      rcases hended with ⟨⟨⟩⟩ | ⟨⟨⟩⟩
  · rcases hdelivered.later j i hi hdue with hput | ⟨hheads, -⟩
    · exact hput
    · rcases hended with hpc | hpc
      · rw [hpc] at hheads
        cases hheads
      · rw [hpc] at hheads
        cases hheads

/-- The set-up of task 0 succeeds; the second datagram of its source arrives meanwhile, and its task
runs when the channel has been entered. -/
def secondInTime : List UdpLabel :=
  [.datagram 0 ⟨0, "peer"⟩ [1]] ++ List.replicate 4 (.task 0 true) ++ [.datagram 1 ⟨0, "peer"⟩ [2]] ++
    List.replicate 7 (.task 0 true) ++ List.replicate 5 (.task 1 true)

/-- The same datagrams; the second task runs at once, when its source is in `sessions` and the channel
is not in `session_senders` yet. -/
def secondTooEarly : List UdpLabel :=
  [.datagram 0 ⟨0, "peer"⟩ [1]] ++ List.replicate 4 (.task 0 true) ++ [.datagram 1 ⟨0, "peer"⟩ [2]] ++
    List.replicate 4 (.task 1 true) ++ List.replicate 7 (.task 0 true)

/-- The second datagram comes in time. -/
theorem delivered_secondInTime :
    ∃ t, exec recordedStep (.start 0) secondInTime = some t ∧ t.put 0 = some 0 ∧ t.put 1 = some 0 ∧
      (t.Delivered ↔ EachStep recordedStep (LeadsOn t.succeeded) (.start 0) secondInTime) := by
  refine ⟨_, rfl, rfl, rfl, ?_⟩
  exact (delivered_iff_leadsOn 0 secondInTime _ rfl).1

/-- The second datagram is dropped without a word. -/
theorem datagram_lost_during_setup :
    ¬ ∀ (k : ConnId) (labels : List UdpLabel) (t : Recorded),
      exec recordedStep (.start k) labels = some t → t.Delivered := by
  intro h
  obtain ⟨t, ht⟩ : ∃ t, exec recordedStep (.start 0) secondTooEarly = some t := ⟨_, rfl⟩
  have hdelivered := h 0 secondTooEarly t ht
  cases ht
  rcases hdelivered.later 1 0 rfl rfl with hput | ⟨hheads, -⟩
  · cases hput
  · cases hheads

end RustProxy.Server.Udp
