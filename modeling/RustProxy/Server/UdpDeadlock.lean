import RustProxy.Foundation.Progress
import RustProxy.Server.UdpTables
import Mathlib.Algebra.BigOperators.Intervals
import Mathlib.Algebra.Order.BigOperators.Group.Finset

/-!
# Deadlock of the UDP listeners

A datagram task keeps its read guard of `session_senders` while it waits for room in the channel of a
session, and the task that opens a session puts its own datagram into the channel before it spawns
the worker that empties it.  The clean-up of a stale session keeps `sessions` while it waits for
`session_senders`, and that of a session that could not be set up keeps `pending_work_conns`, which
all listeners share, while it waits for `sessions`.

* `Guarded` is the invariant: who uses which lock, and that only channels in `session_senders` have
  been sent on.
* `WaitsFor` leads from whoever is queued for a lock to its holders, and from a task that needs room to
  the owner of the channel.
* `Jammed` is a task that finds its own channel full.  `stuck_iff_jammed`: nobody else is ever to
  blame for a task that can never go on, or for a cycle of waits.
* `neverStuck_iff_leavesRoom` is about whole schedules.
-/

namespace RustProxy.Server.Udp

open Transition

/-! ## Guards and channels -/

/-- The task awaits a guard of the lock, or keeps one across its await. -/
def PacketPc.Uses (pc : PacketPc) (l : Lock) : Prop :=
  (∃ access, pc.needs = some (l, access)) ∨ pc.keeps = some l

/-- The channel of the task has been in `session_senders`, or there will never be one. -/
def PacketPc.entered : PacketPc → Bool
  | .firstSend _ _ _ => true
  | .running _ _ => true
  | .cleaning _ _ => true
  | .dropping _ _ => true
  | .done => true
  | _ => false

/-- A lock is used by the tasks that are where they need it or keep it, and `pending_work_conns` by
others too; a channel is sent on only after it was entered into `session_senders`. -/
structure Guarded (s : UdpState) : Prop where
  tidy : ∀ l, (s.lock l).Tidy
  uses : ∀ l i, .task i ∈ (s.lock l).users → (s.task i).Uses l
  keeps : ∀ l i, (s.task i).keeps = some l → (s.lock l).Holds (.task i)
  waits : ∀ l i, (s.lock l).Waits (.task i) → ∃ access, (s.task i).needs = some (l, access)
  others : ∀ l n, .other n ∈ (s.lock l).users → l = .pending
  channel : ∀ i src data k ch, s.task i = .sending src data k ch → (s.task ch).entered = true
  blank : ∀ i, (s.task i).entered = false → s.queue i = []

/-- The task that opens a session finds the channel full that nobody empties yet. -/
def Jammed (s : UdpState) (i : ℕ) : Prop :=
  ∃ src data k, s.task i = .firstSend src data k ∧ s.hasRoom i = false

/-- The task has not begun, or has come to its end. -/
def PacketPc.Ended (pc : PacketPc) : Prop := pc = .idle ∨ pc = .done

/-- The task has not ended and stays where it is in every continuation. -/
def Stuck (s : UdpState) (i : ℕ) : Prop :=
  ¬ (s.task i).Ended ∧ Forever udpStep (fun t => t.task i = s.task i) s

variable {s s' t : UdpState} {i j : ℕ} {ok : Bool}

/-- A channel that has been entered stays so. -/
lemma entered_of_course {p p' : PacketPc} (h : Course s p p') (hp : p.entered = true) :
    p'.entered = true := by
  cases h <;> first | exact hp | rfl

/-- A channel in `session_senders` has been entered. -/
lemma entered_of_sender {p : PacketPc} {src : Source} {k : ConnId}
    (h : p.part.sender? = some (src, k)) : p.entered = true := by
  cases p <;> first | rfl | cases h

/-- Who uses a lock has begun, and has not come to its end. -/
lemma PacketPc.Uses.not_ended {pc : PacketPc} {l : Lock} (h : pc.Uses l) : ¬ pc.Ended := by
  rintro (rfl | rfl)
  · rcases h with ⟨_, ⟨⟩⟩ | ⟨⟨⟩⟩
  · rcases h with ⟨_, ⟨⟩⟩ | ⟨⟨⟩⟩

/-- At the start nobody uses a lock. -/
lemma guarded_start (k : ConnId) : Guarded (.start k) where
  tidy := fun _ => RwLock.tidy_free
  uses := fun _ _ => nofun
  keeps := fun _ _ => nofun
  waits := fun _ _ => nofun
  others := fun _ _ => nofun
  channel := fun _ _ _ _ _ => nofun
  blank := fun _ _ => rfl

/-! ## Steps -/

/-- A critical section gives back what the task does not keep, and takes nothing. -/
lemma Act.lock {p pc : PacketPc} (h : Act s i ok p t pc) (l : Lock) :
    (p.Uses l ∧ pc.keeps ≠ some l ∧ t.lock l = (s.lock l).release (.task i)) ∨
      ((p.Uses l → pc.keeps = some l) ∧ (pc.keeps = some l → p.Uses l) ∧ t.lock l = s.lock l) := by
  cases h <;>
    simp [PacketPc.Uses, PacketPc.needs, PacketPc.keeps, UdpState.unlock, UdpState.push,
      UdpState.insertSession, UdpState.removeSession, UdpState.insertSender, UdpState.removeSender,
      Function.update_apply] <;>
    grind

/-- What a step of number `i` does to the channels. -/
inductive Queues (s : UdpState) (i : ℕ) : (ℕ → List Bytes) → Prop
  | same : Queues s i s.queue
  | send {src : Source} {data : Bytes} {k : ConnId} {ch : ℕ} (hpc : s.task i = .sending src data k ch)
      (hroom : s.hasRoom ch = true) :
      Queues s i (Function.update s.queue ch (s.queue ch ++ [data]))
  | own {pc : PacketPc} {queue : List Bytes} (hpc : s.task i = pc) (hentered : pc.entered = true) :
      Queues s i (Function.update s.queue i queue)

/-- What each of them does to the channels. -/
lemma Act.queues {p pc : PacketPc} (h : Act s i ok p t pc) (hpc : s.task i = p) :
    Queues s i t.queue := by
  cases h with
  | send _ hroom => exact .send hpc hroom
  | spawn | receive => exact .own hpc rfl
  | _ => exact .same

/-- What a step of a task does to the channels. -/
lemma queues_of_taskStep (h : taskStep s i ok = some s') : Queues s i s'.queue := by
  rcases taskStep_cases h with ⟨l, access, -, -, rfl⟩ | ⟨-, t, pc, hact, rfl⟩
  · exact .same
  · exact hact.queues rfl

/-- The channels of sessions that are not entered yet stay as they are. -/
lemma Queues.blank {queue : ℕ → List Bytes} (h : Queues s i queue) (hs : Guarded s)
    (hj : (s.task j).entered = false) : queue j = s.queue j := by
  cases h with
  | same => rfl
  | send hpc _ =>
      refine Function.update_of_ne ?_ _ _
      rintro rfl
      rw [hs.channel i _ _ _ _ hpc] at hj
      cases hj
  | own hpc hentered =>
      refine Function.update_of_ne ?_ _ _
      rintro rfl
      rw [hpc, hentered] at hj
      cases hj

/-- Who has the guard it awaits holds every lock it uses. -/
lemma Guarded.holds (h : Guarded s) (hready : s.ready i = true) {l : Lock} (huses : (s.task i).Uses l) :
    (s.lock l).Holds (.task i) := by
  rcases huses with ⟨access, hneeds⟩ | hkeeps
  · rw [UdpState.ready, hneeds] at hready
    exact of_decide_eq_true hready
  · exact h.keeps l i hkeeps

/-- A task asks for the guard it awaits. -/
lemma Guarded.ask (h : Guarded s) {l : Lock} {access : Access}
    (hneeds : (s.task i).needs = some (l, access))
    (huser : .task i ∉ (s.lock l).users) : Guarded (s.ask l (.task i) access) := by
  have hlock : ∀ l', (l' = l ∧ (s.ask l (.task i) access).lock l' = (s.lock l).request (.task i) access) ∨
      (s.ask l (.task i) access).lock l' = s.lock l' := by
    intro l'
    by_cases hl : l' = l
    · subst hl
      exact Or.inl ⟨rfl, lock_ask_self _ _ _ _⟩
    · exact Or.inr (lock_ask_of_ne _ hl _ _)
  refine ⟨?_, ?_, ?_, ?_, ?_, h.channel, h.blank⟩
  · intro l'
    rcases hlock l' with ⟨rfl, hl⟩ | hl <;> rw [hl]
    · exact (h.tidy l').request huser access
    · exact h.tidy l'
  · intro l' j hj
    rcases hlock l' with ⟨rfl, hl⟩ | hl <;> rw [hl] at hj
    · rcases RwLock.mem_users_request.mp hj with ⟨⟨⟩⟩ | hj
      · exact Or.inl ⟨access, hneeds⟩
      · exact h.uses l' j hj
    · exact h.uses l' j hj
  · intro l' j hj
    rcases hlock l' with ⟨rfl, hl⟩ | hl <;> rw [hl]
    · exact RwLock.holds_request _ _ (h.keeps l' j hj)
    · exact h.keeps l' j hj
  · intro l' j hj
    rcases hlock l' with ⟨rfl, hl⟩ | hl <;> rw [hl] at hj
    · rcases RwLock.waits_request hj with hj | ⟨⟨⟩⟩
      · exact h.waits l' j hj
      · exact ⟨access, hneeds⟩
    · exact h.waits l' j hj
  · intro l' n hn
    rcases hlock l' with ⟨rfl, hl⟩ | hl <;> rw [hl] at hn
    · exact h.others l' n ((RwLock.mem_users_request.mp hn).resolve_left (LockUser.other_ne_task n _))
    · exact h.others l' n hn

/-- A task that has the guard it awaits goes on. -/
lemma Guarded.act (h : Guarded s) (hbacked : Backed s.tables s.part) (hready : s.ready i = true)
    {pc : PacketPc} (hact : Act s i ok (s.task i) t pc) : Guarded (t.setTask i pc) := by
  have htask : ∀ j, j ≠ i → (t.setTask i pc).task j = s.task j := by
    intro j hj
    rw [task_setTask_of_ne t hj, hact.task_eq]
  have hnew : (t.setTask i pc).task i = pc := task_setTask_self t i pc
  have hnot : ∀ l, (s.task i).Uses l → ¬ (s.lock l).Waits (.task i) :=
    fun l huses => (h.tidy l).not_waits (h.holds hready huses)
  refine ⟨?_, ?_, ?_, ?_, ?_, ?_, ?_⟩
  · intro l
    show (t.lock l).Tidy
    rcases hact.lock l with ⟨huses, -, hl⟩ | ⟨-, -, hl⟩ <;> rw [hl]
    · exact (h.tidy l).release (hnot l huses)
    · exact h.tidy l
  · intro l j hj
    change .task j ∈ (t.lock l).users at hj
    rcases hact.lock l with ⟨huses, -, hl⟩ | ⟨hkept, -, hl⟩ <;> rw [hl] at hj
    · obtain ⟨hj, hne⟩ := (RwLock.mem_users_release (hnot l huses)).mp hj
      rw [htask j fun heq => hne (congrArg LockUser.task heq)]
      exact h.uses l j hj
    · have hold := h.uses l j hj
      by_cases hji : j = i
      · subst hji
        rw [hnew]
        exact Or.inr (hkept hold)
      · rw [htask j hji]
        exact hold
  · intro l j hj
    show (t.lock l).Holds (.task j)
    by_cases hji : j = i
    · subst hji
      rw [hnew] at hj
      rcases hact.lock l with ⟨-, hne, -⟩ | ⟨-, hused, hl⟩
      · exact absurd hj hne
      · rw [hl]
        exact h.holds hready (hused hj)
    · rw [htask j hji] at hj
      have hold := h.keeps l j hj
      rcases hact.lock l with ⟨-, -, hl⟩ | ⟨-, -, hl⟩ <;> rw [hl]
      · exact RwLock.holds_release (fun heq => hji (LockUser.task.inj heq)) hold
      · exact hold
  · intro l j hj
    change (t.lock l).Waits (.task j) at hj
    have hold : (s.lock l).Waits (.task j) ∧ j ≠ i := by
      rcases hact.lock l with ⟨huses, -, hl⟩ | ⟨-, -, hl⟩ <;> rw [hl] at hj
      · have hj' := RwLock.waits_release hj
        exact ⟨hj', fun heq => hnot l huses (heq ▸ hj')⟩
      · refine ⟨hj, ?_⟩
        rintro rfl
        exact hnot l (Or.inl (h.waits l j hj)) hj
    rw [htask j hold.2]
    exact h.waits l j hold.1
  · intro l n hn
    change .other n ∈ (t.lock l).users at hn
    rcases hact.lock l with ⟨huses, -, hl⟩ | ⟨-, -, hl⟩ <;> rw [hl] at hn
    · exact h.others l n ((RwLock.mem_users_release (hnot l huses)).mp hn).1
    · exact h.others l n hn
  · -- the channel that will be sent on is in `session_senders`
    intro j src data k ch hj
    have hch : (s.task ch).entered = true := by
      by_cases hji : j = i
      · subst hji
        rw [hnew] at hj
        subst hj
        generalize s.task j = p at hact
        cases hact with
        | take hsender =>
            obtain ⟨src', -, hsrc'⟩ := hbacked.sender _ k ch hsender
            exact entered_of_sender hsrc'
      · rw [htask j hji] at hj
        exact h.channel j src data k ch hj
    by_cases hchi : ch = i
    · subst hchi
      rw [hnew]
      exact entered_of_course hact.course hch
    · rw [htask ch hchi]
      exact hch
  · intro j hj
    have hold : (s.task j).entered = false := by
      by_cases hji : j = i
      · subst hji
        rw [hnew] at hj
        rw [Bool.eq_false_iff]
        intro hentered
        rw [entered_of_course hact.course hentered] at hj
        cases hj
      · rwa [htask j hji] at hj
    exact ((hact.queues rfl).blank h hold).trans (h.blank j hold)

/-- A task or worker takes a step. -/
lemma guarded_taskStep (h : Guarded s) (hbacked : Backed s.tables s.part)
    (hstep : taskStep s i ok = some s') : Guarded s' := by
  rcases taskStep_cases hstep with ⟨l, access, hneeds, huser, rfl⟩ | ⟨hready, t, pc, hact, rfl⟩
  · exact h.ask hneeds huser
  · exact h.act hbacked hready hact

/-- Number `i` is the first datagram of its task. -/
lemma guarded_datagram (h : Guarded s) (hpc : s.task i = .idle) (src : Source) (data : Bytes) :
    Guarded (s.setTask i (.looking src data)) := by
  have htask : ∀ j, j ≠ i → (s.setTask i (.looking src data)).task j = s.task j :=
    fun j hj => task_setTask_of_ne s hj _
  have hnew : (s.setTask i (.looking src data)).task i = .looking src data := task_setTask_self s i _
  have hunused : ∀ l, .task i ∉ (s.lock l).users := by
    exact fun l hi => (h.uses l i hi).not_ended (Or.inl hpc)
  refine ⟨h.tidy, ?_, ?_, ?_, h.others, ?_, ?_⟩
  · intro l j hj
    have hji : j ≠ i := fun heq => hunused l (heq ▸ hj)
    rw [htask j hji]
    exact h.uses l j hj
  · intro l j hj
    have hji : j ≠ i := by
      rintro rfl
      rw [hnew] at hj
      cases hj
    rw [htask j hji] at hj
    exact h.keeps l j hj
  · intro l j hj
    have hji : j ≠ i := fun heq => hunused l (heq ▸ RwLock.mem_users_iff.mpr (Or.inr hj))
    rw [htask j hji]
    exact h.waits l j hj
  · intro j src' data' k ch hj
    have hji : j ≠ i := by
      rintro rfl
      rw [hnew] at hj
      cases hj
    rw [htask j hji] at hj
    have hch := h.channel j src' data' k ch hj
    have hchi : ch ≠ i := by
      rintro rfl
      rw [hpc] at hch
      cases hch
    rw [htask ch hchi]
    exact hch
  · intro j hj
    by_cases hji : j = i
    · subst hji
      exact h.blank j (by rw [hpc]; rfl)
    · rw [htask j hji] at hj
      exact h.blank j hj

/-- Somebody else asks for `pending_work_conns`, or gives it back. -/
lemma Guarded.pending (h : Guarded s) {l' : RwLock LockUser} (htidy : l'.Tidy)
    (husers : ∀ i, .task i ∈ l'.users → .task i ∈ (s.lock .pending).users)
    (hholds : ∀ i, (s.lock .pending).Holds (.task i) → l'.Holds (.task i))
    (hwaits : ∀ i, l'.Waits (.task i) → (s.lock .pending).Waits (.task i)) :
    Guarded { s with lock := Function.update s.lock .pending l' } := by
  have hlock : ∀ l, (l = .pending ∧ Function.update s.lock .pending l' l = l') ∨
      (l ≠ .pending ∧ Function.update s.lock .pending l' l = s.lock l) := by
    intro l
    by_cases hl : l = .pending
    · exact Or.inl ⟨hl, by rw [hl, Function.update_self]⟩
    · exact Or.inr ⟨hl, Function.update_of_ne hl _ _⟩
  refine ⟨?_, ?_, ?_, ?_, ?_, h.channel, h.blank⟩
  · intro l
    show (Function.update s.lock .pending l' l).Tidy
    rcases hlock l with ⟨-, hl⟩ | ⟨-, hl⟩ <;> rw [hl]
    · exact htidy
    · exact h.tidy l
  · intro l j hj
    change .task j ∈ (Function.update s.lock .pending l' l).users at hj
    rcases hlock l with ⟨rfl, hl⟩ | ⟨-, hl⟩ <;> rw [hl] at hj
    · exact h.uses .pending j (husers j hj)
    · exact h.uses l j hj
  · intro l j hj
    show (Function.update s.lock .pending l' l).Holds (.task j)
    rcases hlock l with ⟨rfl, hl⟩ | ⟨-, hl⟩ <;> rw [hl]
    · exact hholds j (h.keeps .pending j hj)
    · exact h.keeps l j hj
  · intro l j hj
    change (Function.update s.lock .pending l' l).Waits (.task j) at hj
    rcases hlock l with ⟨rfl, hl⟩ | ⟨-, hl⟩ <;> rw [hl] at hj
    · exact h.waits .pending j (hwaits j hj)
    · exact h.waits l j hj
  · intro l n hn
    change .other n ∈ (Function.update s.lock .pending l' l).users at hn
    rcases hlock l with ⟨rfl, -⟩ | ⟨-, hl⟩
    · rfl
    · rw [hl] at hn
      exact h.others l n hn

/-- Every step keeps the guards as they should be. -/
lemma guarded_step {label : UdpLabel} (h : Guarded s) (hbacked : Backed s.tables s.part)
    (hstep : udpStep s label = some s') : Guarded s' := by
  cases label with
  | datagram i src data =>
      obtain ⟨hpc, rfl⟩ := task_of_datagram hstep
      exact guarded_datagram h hpc src data
  | task i ok => exact guarded_taskStep h hbacked hstep
  | otherConnId =>
      cases hstep
      exact { h with }
  | otherAsks n =>
      rw [udpStep] at hstep
      split at hstep <;> cases hstep
      case isFalse.refl huser =>
        refine h.pending ((h.tidy .pending).request huser .write) ?_ ?_ ?_
        · exact fun i hi => (RwLock.mem_users_request.mp hi).resolve_left (LockUser.task_ne_other i n)
        · exact fun i hi => RwLock.holds_request _ _ hi
        · exact fun i hi => (RwLock.waits_request hi).resolve_right (LockUser.task_ne_other i n)
  | otherReleases n =>
      rw [udpStep] at hstep
      split at hstep <;> cases hstep
      case isTrue.refl hholds =>
        have hnot := (h.tidy .pending).not_waits hholds
        refine h.pending ((h.tidy .pending).release hnot) ?_ ?_ ?_
        · exact fun i hi => ((RwLock.mem_users_release hnot).mp hi).1
        · exact fun i hi => RwLock.holds_release (LockUser.task_ne_other i n) hi
        · exact fun i hi => RwLock.waits_release hi

/-- What is known of every state of a run with at most `n` datagrams and other users. -/
structure Reached (n : ℕ) (s : UdpState) : Prop where
  guarded : Guarded s
  backed : Backed s.tables s.part
  idle : ∀ j, n ≤ j → s.task j = .idle
  absent : ∀ j, n ≤ j → .other j ∉ (s.lock .pending).users

/-- The start has been reached. -/
lemma reached_start (k : ConnId) : Reached 0 (.start k) where
  guarded := guarded_start k
  backed := backed_start k
  idle := fun _ _ => rfl
  absent := fun _ _ => nofun

/-- A step of a task leaves the other users of every lock. -/
lemma Guarded.mem_users (h : Guarded s) (hstep : taskStep s i ok = some s') {u : LockUser}
    (hu : u ≠ .task i) (l : Lock) : u ∈ (s'.lock l).users ↔ u ∈ (s.lock l).users := by
  rcases taskStep_cases hstep with ⟨l', access, -, -, rfl⟩ | ⟨hready, t, pc, hact, rfl⟩
  · by_cases hl : l = l'
    · subst hl
      rw [lock_ask_self, RwLock.mem_users_request]
      exact or_iff_right hu
    · rw [lock_ask_of_ne _ hl]
  · show u ∈ (t.lock l).users ↔ _
    rcases hact.lock l with ⟨huses, -, hl⟩ | ⟨-, -, hl⟩ <;> rw [hl]
    rw [RwLock.mem_users_release ((h.tidy l).not_waits (h.holds hready huses))]
    exact and_iff_left hu

/-- A step of a task is one more. -/
lemma Reached.taskStep {n : ℕ} (h : Reached n s) (hstep : taskStep s i ok = some s') : Reached n s' where
  guarded := guarded_taskStep h.guarded h.backed hstep
  backed := backed_step (s := s) h.backed (show udpStep s (.task i ok) = some s' from hstep)
  idle := by
    intro j hj
    have hne : j ≠ i := by
      rintro rfl
      rw [Udp.taskStep, advance, h.idle j hj] at hstep
      cases hstep
    rw [(course_of_taskStep hstep).1 j hne]
    exact h.idle j hj
  absent := by
    intro j hj
    exact fun hmem =>
      h.absent j hj ((h.guarded.mem_users hstep (LockUser.other_ne_task j i) _).mp hmem)

/-- Somebody else gives `pending_work_conns` back. -/
lemma Reached.otherReleases {n m : ℕ} (h : Reached n s)
    (hstep : udpStep s (.otherReleases m) = some s') : Reached n s' := by
  refine ⟨guarded_step h.guarded h.backed hstep, backed_step h.backed hstep, ?_, ?_⟩
  · rw [(other_step hstep rfl).1]
    exact h.idle
  · intro j hj
    rw [udpStep] at hstep
    split at hstep <;> cases hstep
    case isTrue.refl hholds =>
      rw [lock_unlock_self, RwLock.mem_users_release ((h.guarded.tidy _).not_waits hholds)]
      exact fun hmem => h.absent j hj hmem.1

/-- Every step reaches a state. -/
lemma reached_step {label : UdpLabel} (h : ∃ n, Reached n s) (hstep : udpStep s label = some s') :
    ∃ n, Reached n s' := by
  obtain ⟨n, h⟩ := h
  have hguarded := guarded_step h.guarded h.backed hstep
  have hbacked := backed_step h.backed hstep
  cases label with
  | datagram i src data =>
      obtain ⟨hpc, rfl⟩ := task_of_datagram hstep
      refine ⟨max n (i + 1), hguarded, hbacked, ?_, fun j hj => h.absent j (by omega)⟩
      intro j hj
      rw [task_setTask_of_ne s (by omega)]
      exact h.idle j (by omega)
  | task i ok => exact ⟨n, h.taskStep hstep⟩
  | otherConnId =>
      cases hstep
      exact ⟨n, hguarded, hbacked, h.idle, h.absent⟩
  | otherAsks m =>
      refine ⟨max n (m + 1), hguarded, hbacked, ?_, ?_⟩
      · intro j hj
        rw [(other_step hstep rfl).1]
        exact h.idle j (by omega)
      · intro j hj
        rw [udpStep] at hstep
        split at hstep <;> cases hstep
        rw [lock_ask_self, RwLock.mem_users_request]
        rintro (heq | hmem)
        · have heq' : j = m := LockUser.other.inj heq
          omega
        · exact h.absent j (by omega) hmem
  | otherReleases m => exact ⟨n, h.otherReleases hstep⟩

/-- Every run reaches a state. -/
theorem reached_exec {k : ConnId} {labels : List UdpLabel}
    (hrun : exec udpStep (.start k) labels = some s) : ∃ n, Reached n s :=
  exec_invariant (I := fun s => ∃ n, Reached n s) (fun _ _ _ h hstep => reached_step h hstep)
    ⟨0, reached_start k⟩ hrun

/-! ## Jams -/

/-- A jam is for good. -/
lemma jammed_step {label : UdpLabel} (h : Jammed s i) (hstep : udpStep s label = some s') :
    Jammed s' i ∧ s'.task i = s.task i := by
  obtain ⟨src, data, k, hpc, hfull⟩ := h
  cases label with
  | datagram j src' data' =>
      obtain ⟨hidle, rfl⟩ := task_of_datagram hstep
      have hne : i ≠ j := by
        rintro rfl
        rw [hpc] at hidle
        cases hidle
      have htask := task_setTask_of_ne s hne (.looking src' data')
      exact ⟨⟨src, data, k, htask.trans hpc, hfull⟩, htask⟩
  | task j ok =>
      have hne : i ≠ j := by
        rintro rfl
        simp [udpStep, taskStep, advance, PacketPc.needs, hpc, hfull] at hstep
      have htask : s'.task i = s.task i := (course_of_taskStep hstep).1 i hne
      refine ⟨⟨src, data, k, htask.trans hpc, ?_⟩, htask⟩
      have hqueues := queues_of_taskStep hstep
      unfold UdpState.hasRoom at hfull ⊢
      generalize s'.queue = queue at hqueues
      cases hqueues with
      | same => exact hfull
      | @send _ data' _ ch =>
          by_cases hch : i = ch
          · subst hch
            rw [Function.update_self, List.length_append, List.length_singleton]
            rw [decide_eq_false_iff_not] at hfull ⊢
            omega
          · rwa [Function.update_of_ne hch]
      | own => rwa [Function.update_of_ne hne]
  | otherConnId | otherAsks | otherReleases =>
      obtain ⟨htask, -, -, hqueue⟩ := other_step hstep rfl
      refine ⟨⟨src, data, k, by rw [htask, hpc], ?_⟩, by rw [htask]⟩
      rw [UdpState.hasRoom, hqueue]
      exact hfull

/-- A task fills the channel of a session whose own first datagram is still to come. -/
def Fills (s : UdpState) (label : UdpLabel) : Prop :=
  ∃ i ok src data k ch, label = .task i ok ∧ s.task i = .sending src data k ch ∧
    (∃ src' data' k', s.task ch = .firstSend src' data' k') ∧
    (s.queue ch).length + 1 = channelCapacity

/-- Nothing else leads to a jam. -/
lemma unjammed_step {label : UdpLabel} (hguarded : Guarded s) (h : ∀ i, ¬ Jammed s i)
    (hfills : ¬ Fills s label) (hstep : udpStep s label = some s') : ∀ i, ¬ Jammed s' i := by
  rintro i ⟨src, data, k, hpc, hfull⟩
  cases label with
  | datagram j src' data' =>
      obtain ⟨-, rfl⟩ := task_of_datagram hstep
      have hne : i ≠ j := by
        rintro rfl
        rw [task_setTask_self] at hpc
        cases hpc
      rw [task_setTask_of_ne s hne] at hpc
      exact h i ⟨src, data, k, hpc, hfull⟩
  | task j ok =>
      obtain ⟨hothers, hcourse⟩ := course_of_taskStep hstep
      have hqueues := queues_of_taskStep hstep
      unfold UdpState.hasRoom at hfull
      rw [decide_eq_false_iff_not] at hfull
      by_cases hij : i = j
      · -- the channel of the session is entered by this step, so it is empty
        subst hij
        rw [hpc] at hcourse
        generalize hold : s.task i = old at hcourse
        cases hcourse with
        | ask h => cases h
        | serve =>
            have hblank := hguarded.blank i (by rw [hold]; rfl)
            generalize s'.queue = queue at hqueues hfull
            cases hqueues with
            | same =>
                rw [hblank] at hfull
                exact hfull (by decide)
            | send hsending => cases hold.symm.trans hsending
            | own hpc' hentered =>
                rw [← hpc', hold] at hentered
                cases hentered
      · rw [hothers i hij] at hpc
        have hroom : (s.queue i).length < channelCapacity := by
          by_contra hnot
          exact h i ⟨src, data, k, hpc, decide_eq_false_iff_not.mpr hnot⟩
        generalize s'.queue = queue at hqueues hfull
        cases hqueues with
        | same => exact hfull hroom
        | @send src' data' k' ch hsending =>
            by_cases hch : i = ch
            · subst hch
              rw [Function.update_self, List.length_append, List.length_singleton] at hfull
              exact hfills ⟨j, ok, src', data', k', i, rfl, hsending, ⟨src, data, k, hpc⟩, by omega⟩
            · rw [Function.update_of_ne hch] at hfull
              exact hfull hroom
        | own =>
            rw [Function.update_of_ne hij] at hfull
            exact hfull hroom
  | otherConnId | otherAsks | otherReleases =>
      obtain ⟨htask, -, -, hqueue⟩ := other_step hstep rfl
      rw [htask] at hpc
      rw [UdpState.hasRoom, hqueue] at hfull
      exact h i ⟨src, data, k, hpc, hfull⟩

/-- The last place of the channel is taken: the session is jammed. -/
lemma jammed_of_fills {label : UdpLabel} (hfills : Fills s label)
    (hstep : udpStep s label = some s') : ∃ i, Jammed s' i := by
  obtain ⟨i, ok, src, data, k, ch, rfl, hpc, ⟨src', data', k', hch⟩, hlength⟩ := hfills
  have hne : ch ≠ i := by
    rintro rfl
    rw [hpc] at hch
    cases hch
  have hready : s.ready i = true := by
    rw [UdpState.ready, hpc]
    rfl
  obtain ⟨t, pc, hact, rfl⟩ := act_of_ready hready hstep
  rw [hpc] at hact
  cases hact with
  | refuse hdropped =>
      rw [hch] at hdropped
      cases hdropped
  | send =>
      refine ⟨ch, src', data', k', (task_setTask_of_ne _ hne _).trans hch, ?_⟩
      show decide ((Function.update s.queue ch (s.queue ch ++ [data]) ch).length <
        channelCapacity) = false
      rw [Function.update_self, List.length_append, List.length_singleton, hlength]
      rfl

/-- A jammed task is stuck. -/
lemma stuck_of_jammed (h : Jammed s i) : Stuck s i := by
  obtain ⟨src, data, k, hpc, -⟩ := id h
  have hended : ¬ (s.task i).Ended := by
    rw [hpc]
    rintro (h | h) <;> cases h
  refine ⟨hended, ?_⟩
  refine forever_of_invariant (I := fun t => Jammed t i ∧ t.task i = s.task i) (fun _ ht => ht.2) ?_
    ⟨h, rfl⟩
  rintro t label t' ⟨hjam, htask⟩ hstep
  obtain ⟨hjam', htask'⟩ := jammed_step hjam hstep
  exact ⟨hjam', htask'.trans htask⟩

/-! ## Waiting -/

/-- `u` cannot go on before `v` has: it is queued for a lock that `v` holds, or needs room in the
channel of `v`. -/
inductive WaitsFor (s : UdpState) : LockUser → LockUser → Prop
  | lock {l : Lock} {u v : LockUser} (hu : (s.lock l).Waits u) (hv : (s.lock l).Holds v) :
      WaitsFor s u v
  | room {i ch : ℕ} {src : Source} {data : Bytes} {k : ConnId}
      (hi : s.task i = .sending src data k ch) (hup : (s.task ch).rxDropped = false)
      (hfull : s.hasRoom ch = false) : WaitsFor s (.task i) (.task ch)
  | own {i : ℕ} (h : Jammed s i) : WaitsFor s (.task i) (.task i)

/-- Waits lead from `pending_work_conns` to `sessions`, from there to `session_senders`, and on to the
channels. -/
def Lock.rank : Lock → ℕ
  | .pending => 4
  | .sessions _ => 3
  | .senders _ => 2

/-- How far down its waits can lead. -/
def UdpState.rank (s : UdpState) : LockUser → ℕ
  | .task i =>
      match (s.task i).needs with
      | some (l, _) => if (s.lock l).Waits (.task i) then l.rank else 0
      | none => if (s.task i).keeps = none then 0 else 1
  | .other n => if (s.lock .pending).Waits (.other n) then Lock.pending.rank else 0

/-- Who is queued has the rank of the lock. -/
lemma Guarded.rank_of_waits (h : Guarded s) {l : Lock} {u : LockUser} (hu : (s.lock l).Waits u) :
    s.rank u = l.rank := by
  cases u with
  | task i =>
      obtain ⟨access, hneeds⟩ := h.waits l i hu
      rw [UdpState.rank, hneeds]
      exact if_pos hu
  | other n =>
      obtain rfl := h.others l n (RwLock.mem_users_iff.mpr (Or.inr hu))
      exact if_pos hu

/-- A lock that is kept across an await is waited for before the lock that is awaited then. -/
lemma PacketPc.rank_lt_of_keeps {pc : PacketPc} {l l' : Lock} {access : Access}
    (hkeeps : pc.keeps = some l)
    (hneeds : pc.needs = some (l', access)) : l'.rank < l.rank := by
  cases pc with
  | staleHolding | expiredHolding =>
      cases hkeeps
      cases hneeds
      exact Nat.lt_succ_self _
  | sending => cases hneeds
  | _ => cases hkeeps

/-- Who holds a lock has a lower rank than it. -/
lemma Guarded.rank_of_holds (h : Guarded s) {l : Lock} {v : LockUser} (hv : (s.lock l).Holds v) :
    s.rank v < l.rank := by
  have hnot := (h.tidy l).not_waits hv
  have hpos : 1 < l.rank := by cases l <;> simp [Lock.rank]
  cases v with
  | other n =>
      obtain rfl := h.others l n (RwLock.mem_users_iff.mpr (Or.inl hv))
      rw [UdpState.rank, if_neg hnot]
      exact Nat.zero_lt_of_lt hpos
  | task j =>
      have huses := h.uses l j (RwLock.mem_users_iff.mpr (Or.inl hv))
      rw [UdpState.rank]
      split
      · case h_1 l' access hneeds =>
        split
        · case isTrue hwaits =>
          rcases huses with ⟨access', hneeds'⟩ | hkeeps
          · cases hneeds.symm.trans hneeds'
            exact absurd hwaits hnot
          · exact PacketPc.rank_lt_of_keeps hkeeps hneeds
        · exact Nat.zero_lt_of_lt hpos
      · split
        · exact Nat.zero_lt_of_lt hpos
        · exact hpos

/-- Who waits is behind whom it waits for, or waits for itself in a jammed session. -/
lemma rank_lt_of_waitsFor (h : Guarded s) {u v : LockUser} (hwait : WaitsFor s u v) :
    (v = u ∧ ∃ i, Jammed s i) ∨ s.rank v < s.rank u := by
  cases hwait with
  | lock hu hv =>
      rw [h.rank_of_waits hu]
      exact Or.inr (h.rank_of_holds hv)
  | @room i ch src data k hi hup _ =>
      have hentered := h.channel _ _ _ _ _ hi
      have hch : s.rank (.task ch) = 0 := by
        rw [UdpState.rank]
        generalize s.task ch = pc at hup hentered
        cases pc <;> first | rfl | (cases hup; done) | cases hentered
      have hi' : s.rank (.task i) = 1 := by
        rw [UdpState.rank, hi]
        rfl
      rw [hch, hi']
      exact Or.inr Nat.zero_lt_one
  | own hjam => exact Or.inl ⟨rfl, _, hjam⟩

/-- A cycle of waits contains a jammed task. -/
lemma jammed_of_cycle (h : Guarded s) {u : LockUser} (hcycle : Relation.TransGen (WaitsFor s) u u) :
    ∃ j, Jammed s j := by
  obtain ⟨v, hv⟩ := exists_self_of_cycle s.rank
    (fun u v huv => (rank_lt_of_waitsFor h huv).imp_left And.left) hcycle
  rcases rank_lt_of_waitsFor h hv with ⟨-, hjam⟩ | hlt
  · exact hjam
  · exact absurd hlt (lt_irrefl _)

/-- The task has not ended; somebody else uses `pending_work_conns`. -/
def Engaged (s : UdpState) : LockUser → Prop
  | .task i => ¬ (s.task i).Ended
  | .other n => .other n ∈ (s.lock .pending).users

/-- The next step of a user of the locks. -/
def LockUser.label : LockUser → UdpLabel
  | .task i => .task i false
  | .other n => .otherReleases n

/-- Who is waited for is engaged. -/
lemma WaitsFor.engaged (h : Guarded s) {u v : LockUser} (hwait : WaitsFor s u v) : Engaged s v := by
  cases hwait with
  | @lock l _ _ hu hv =>
      have huser := RwLock.mem_users_iff.mpr (Or.inl hv)
      cases v with
      | task j => exact (h.uses l j huser).not_ended
      | other n =>
          obtain rfl := h.others l n huser
          exact huser
  | room hi hup _ =>
      have hentered := h.channel _ _ _ _ _ hi
      rintro (hpc | hpc)
      · rw [hpc] at hentered
        cases hentered
      · rw [hpc] at hup
        cases hup
  | own hjam =>
      obtain ⟨src, data, k, hpc, -⟩ := hjam
      rw [Engaged, hpc]
      rintro (h | h) <;> cases h

/-- Whoever has the guard it awaits, and room in the channel, goes on. -/
lemma isSome_advance (hended : ¬ (s.task i).Ended) (hwait : ∀ v, ¬ WaitsFor s (.task i) v) :
    (advance s i ok).isSome := by
  unfold advance
  cases hpc : s.task i with
  | idle => exact absurd (Or.inl hpc) hended
  | done => exact absurd (Or.inr hpc) hended
  | sending src data k ch =>
      cases hup : (s.task ch).rxDropped with
      | true => simp [hup]
      | false =>
          have hroom : s.hasRoom ch = true := by
            by_contra hfull
            exact hwait _ (.room hpc hup (Bool.eq_false_iff.mpr hfull))
          simp [hup, hroom]
  | firstSend src data k =>
      have hroom : s.hasRoom i = true := by
        by_contra hfull
        exact hwait _ (.own ⟨src, data, k, hpc, Bool.eq_false_iff.mpr hfull⟩)
      simp [hroom]
  | running src k => cases ok <;> rfl
  | _ => rfl

/-- Who waits for nobody goes on. -/
lemma isSome_step_of_not_waitsFor (h : Guarded s) {u : LockUser} (hu : Engaged s u)
    (hwait : ∀ v, ¬ WaitsFor s u v) : (udpStep s u.label).isSome := by
  have hnot : ∀ l, ¬ (s.lock l).Waits u := by
    intro l hwaits
    obtain ⟨r, hr, -⟩ := List.mem_map.mp hwaits
    obtain ⟨v, hv⟩ := (h.tidy l).served (List.ne_nil_of_mem hr)
    exact hwait v (.lock hwaits hv)
  cases u with
  | task i =>
      show (taskStep s i false).isSome
      unfold taskStep
      split
      · exact isSome_advance hu hwait
      · case h_2 l access hneeds =>
        split
        · exact isSome_advance hu hwait
        · rw [if_neg (hnot l)]
          rfl
  | other n =>
      have hholds := (RwLock.mem_users_iff.mp hu).resolve_right (hnot .pending)
      show (udpStep s (.otherReleases n)).isSome
      rw [udpStep, if_pos hholds]
      rfl

/-! ## Without a jam -/

/-- The critical sections and awaits a task has at most before it to its end. -/
def PacketPc.weight : PacketPc → ℕ
  | .idle => 0
  | .looking _ _ => 10
  | .found _ _ _ => 4
  | .sending _ _ _ _ => 3
  | .stale _ _ => 2
  | .staleHolding _ _ => 1
  | .inserting _ _ _ => 9
  | .notifying _ _ _ => 8
  | .unsent _ _ => 1
  | .enrolling _ _ _ => 7
  | .waiting _ _ _ => 6
  | .expired _ _ => 2
  | .expiredHolding _ _ => 1
  | .registering _ _ _ => 5
  | .firstSend _ _ _ => 4
  | .running _ _ => 3
  | .cleaning _ _ => 2
  | .dropping _ _ => 1
  | .done => 0

/-- Where the environment says no, a task goes on. -/
lemma Act.weight_lt {p pc : PacketPc} (h : Act s i false p t pc) : pc.weight < p.weight := by
  cases h <;> simp [PacketPc.weight]

/-- A task has still to ask for the guard it awaits. -/
def UdpState.unasked (s : UdpState) (i : ℕ) : ℕ :=
  match (s.task i).needs with
  | some (l, _) => if .task i ∈ (s.lock l).users then 0 else 1
  | none => 0

/-- What task `i`, and the other user `i` of `pending_work_conns`, have still before them. -/
def UdpState.load (s : UdpState) (i : ℕ) : ℕ :=
  2 * (s.task i).weight + s.unasked i + if .other i ∈ (s.lock .pending).users then 1 else 0

/-- A task has one guard at most to ask for. -/
lemma unasked_le (s : UdpState) (i : ℕ) : s.unasked i ≤ 1 := by
  unfold UdpState.unasked
  split
  · split <;> decide
  · exact Nat.zero_le 1

/-- A step of a task makes its load smaller, and leaves the others theirs. -/
lemma load_taskStep (h : Guarded s) (hstep : taskStep s i false = some s') :
    s'.load i < s.load i ∧ ∀ j, j ≠ i → s'.load j = s.load j := by
  have hothers : ∀ n, (.other n ∈ (s'.lock .pending).users ↔ .other n ∈ (s.lock .pending).users) :=
    fun n => h.mem_users hstep (LockUser.other_ne_task n i) .pending
  refine ⟨?_, ?_⟩
  · have hlt : 2 * (s'.task i).weight + s'.unasked i < 2 * (s.task i).weight + s.unasked i := by
      rcases taskStep_cases hstep with ⟨l, access, hneeds, huser, rfl⟩ | ⟨-, t, pc, hact, rfl⟩
      · have hmem : .task i ∈ ((s.ask l (.task i) access).lock l).users := by
          show _ ∈ (Function.update s.lock l _ l).users
          rw [Function.update_self]
          exact RwLock.mem_users_request.mpr (Or.inl rfl)
        have hasked : (s.ask l (.task i) access).unasked i = 0 := by
          unfold UdpState.unasked
          rw [show (s.ask l (.task i) access).task i = s.task i from rfl, hneeds]
          exact if_pos hmem
        have hunasked : s.unasked i = 1 := by
          unfold UdpState.unasked
          rw [hneeds]
          exact if_neg huser
        rw [hasked, hunasked]
        exact Nat.lt_succ_self _
      · have hweight := hact.weight_lt
        have hle := unasked_le (t.setTask i pc) i
        rw [task_setTask_self]
        omega
    unfold UdpState.load
    simp only [hothers]
    omega
  · intro j hj
    have htask := (course_of_taskStep hstep).1 j hj
    have husers : ∀ l, (.task j ∈ (s'.lock l).users ↔ .task j ∈ (s.lock l).users) :=
      fun l => h.mem_users hstep (fun heq => hj (LockUser.task.inj heq)) l
    unfold UdpState.load UdpState.unasked
    simp only [htask, hothers, husers]

/-- Somebody else gives `pending_work_conns` back. -/
lemma load_otherReleases (h : Guarded s) {n : ℕ} (hstep : udpStep s (.otherReleases n) = some s') :
    s'.load n < s.load n ∧ ∀ j, j ≠ n → s'.load j = s.load j := by
  rw [udpStep] at hstep
  split at hstep <;> cases hstep
  case isTrue.refl hholds =>
    have hnot := (h.tidy .pending).not_waits hholds
    have husers : ∀ l u, u ≠ .other n →
        (u ∈ ((s.unlock .pending (.other n)).lock l).users ↔ u ∈ (s.lock l).users) := by
      intro l u hu
      by_cases hl : l = .pending
      · subst hl
        rw [lock_unlock_self, RwLock.mem_users_release hnot]
        exact and_iff_left hu
      · rw [lock_unlock_of_ne _ hl]
    have hunasked : ∀ j, (s.unlock .pending (.other n)).unasked j = s.unasked j := by
      intro j
      unfold UdpState.unasked
      rw [show (s.unlock .pending (.other n)).task j = s.task j from rfl]
      split
      · case h_1 l access hneeds => simp only [husers l _ (LockUser.task_ne_other j n)]
      · rfl
    have hgone : .other n ∉ ((s.unlock .pending (.other n)).lock .pending).users := by
      rw [lock_unlock_self, RwLock.mem_users_release hnot]
      exact fun hmem => hmem.2 rfl
    refine ⟨?_, ?_⟩
    · unfold UdpState.load
      rw [hunasked, if_neg hgone, if_pos (RwLock.mem_users_iff.mpr (Or.inl hholds))]
      exact Nat.lt_succ_self _
    · intro j hj
      unfold UdpState.load
      rw [hunasked]
      simp only [husers .pending (.other j) fun heq => hj (LockUser.other.inj heq)]
      rfl

/-- From whoever is engaged the waits lead to somebody who waits for nobody. -/
lemma exists_not_waitsFor (h : Guarded s) (hjam : ∀ i, ¬ Jammed s i) {u : LockUser} (hu : Engaged s u) :
    ∃ v, Engaged s v ∧ ∀ w, ¬ WaitsFor s v w := by
  induction hrank : s.rank u using Nat.strong_induction_on generalizing u with
  | _ r ih =>
      by_cases hwait : ∀ w, ¬ WaitsFor s u w
      · exact ⟨u, hu, hwait⟩
      · push Not at hwait
        obtain ⟨w, hw⟩ := hwait
        rcases rank_lt_of_waitsFor h hw with ⟨-, i, hi⟩ | hlt
        · exact absurd hi (hjam i)
        · exact ih (s.rank w) (hrank ▸ hlt) (hw.engaged h) rfl

/-- As long as not every task has ended, somebody has a step that does not lead to a jam: first the
sessions that are being opened, then whoever waits for nobody. -/
lemma exists_step (h : Guarded s) (hjam : ∀ i, ¬ Jammed s i) (hended : ¬ ∀ i, (s.task i).Ended) :
    ∃ u, Engaged s u ∧ (udpStep s u.label).isSome ∧ ¬ Fills s u.label := by
  by_cases hopening : ∃ i src data k, s.task i = .firstSend src data k
  · obtain ⟨i, src, data, k, hpc⟩ := hopening
    have hengaged : Engaged s (.task i) := by
      rw [Engaged, hpc]
      rintro (h | h) <;> cases h
    refine ⟨.task i, hengaged, isSome_step_of_not_waitsFor h hengaged ?_, ?_⟩
    · intro v hwait
      cases hwait with
      | lock hu _ =>
          obtain ⟨access, hneeds⟩ := h.waits _ i hu
          rw [hpc] at hneeds
          cases hneeds
      | room hi => cases hpc.symm.trans hi
      | own hown => exact hjam i hown
    · rintro ⟨j, ok, src', data', k', ch, ⟨⟩, hpc', -⟩
      cases hpc.symm.trans hpc'
  · push Not at hended
    obtain ⟨i, hi⟩ := hended
    obtain ⟨v, hv, hwait⟩ := exists_not_waitsFor h hjam (u := .task i) hi
    refine ⟨v, hv, isSome_step_of_not_waitsFor h hv hwait, ?_⟩
    rintro ⟨j, ok, src, data, k, ch, -, -, ⟨src', data', k', hch⟩, -⟩
    exact hopening ⟨ch, src', data', k', hch⟩

/-- Without a jam everything that has been begun can end, without any further datagram. -/
theorem exists_allEnded {n : ℕ} (h : Reached n s) (hjam : ∀ i, ¬ Jammed s i) :
    ∃ labels t, (∀ label ∈ labels, ∃ u : LockUser, label = u.label) ∧
      exec udpStep s labels = some t ∧ ∀ i, (t.task i).Ended := by
  let weight (s : UdpState) : ℕ := ∑ i ∈ Finset.range n, s.load i
  have hdescent : ∀ s, (Reached n s ∧ ∀ i, ¬ Jammed s i) → ¬ (∀ i, (s.task i).Ended) →
      ∃ label s', (∃ u : LockUser, label = u.label) ∧ udpStep s label = some s' ∧
        (Reached n s' ∧ ∀ i, ¬ Jammed s' i) ∧ weight s' < weight s := by
    rintro s ⟨h, hjam⟩ hended
    obtain ⟨u, hu, hsome, hfills⟩ := exists_step h.guarded hjam hended
    obtain ⟨s', hstep⟩ := Option.isSome_iff_exists.mp hsome
    have hreached : Reached n s' := by
      cases u with
      | task i => exact h.taskStep hstep
      | other m => exact h.otherReleases hstep
    refine ⟨u.label, s', ⟨u, rfl⟩, hstep,
      ⟨hreached, unjammed_step h.guarded hjam hfills hstep⟩, ?_⟩
    have hload : ∃ i, i < n ∧ s'.load i < s.load i ∧ ∀ j, j ≠ i → s'.load j = s.load j := by
      cases u with
      | task i =>
          refine ⟨i, ?_, load_taskStep h.guarded hstep⟩
          by_contra hi
          exact hu (Or.inl (h.idle i (not_lt.mp hi)))
      | other m =>
          refine ⟨m, ?_, load_otherReleases h.guarded hstep⟩
          by_contra hm
          exact h.absent m (not_lt.mp hm) hu
    obtain ⟨i, hi, hlt, hothers⟩ := hload
    refine Finset.sum_lt_sum (fun j _ => ?_) ⟨i, Finset.mem_range.mpr hi, hlt⟩
    by_cases hj : j = i
    · subst hj
      exact hlt.le
    · exact (hothers j hj).le
  obtain ⟨labels, t, hlabels, -, hrun, -, hended⟩ := exec_descent weight hdescent ⟨h, hjam⟩
  exact ⟨labels, t, hlabels, hrun, hended⟩

/-- Without a jam nobody is stuck. -/
lemma not_stuck {n : ℕ} (h : Reached n s) (hjam : ∀ i, ¬ Jammed s i) (i : ℕ) : ¬ Stuck s i := by
  rintro ⟨hended, hforever⟩
  obtain ⟨more, t, -, hmore, hall⟩ := exists_allEnded h hjam
  rw [← hforever more t hmore] at hended
  exact hended (hall i)

/-! ## The theorems -/

/-- No task has come to where it can never go on. -/
def NeverStuck (s : UdpState) : Prop := ∀ i, ¬ Stuck s i

/-- The channels of sessions that are being opened keep room for their first datagram. -/
def LeavesRoom (s : UdpState) (label : UdpLabel) : Prop := ¬ Fills s label

/-- Every step that leaves room for the first datagrams keeps the sessions from jamming. -/
lemma unjammed_of_leavesRoom {label : UdpLabel} (h : (∃ n, Reached n s) ∧ ∀ i, ¬ Jammed s i)
    (hleaves : LeavesRoom s label) (hstep : udpStep s label = some s') :
    (∃ n, Reached n s') ∧ ∀ i, ¬ Jammed s' i := by
  obtain ⟨⟨n, hreached⟩, hjam⟩ := h
  exact ⟨reached_step ⟨n, hreached⟩ hstep, unjammed_step hreached.guarded hjam hleaves hstep⟩

/-- At the start nothing is jammed. -/
lemma unjammed_start (k : ConnId) :
    (∃ n, Reached n (.start k)) ∧ ∀ i, ¬ Jammed (UdpState.start k) i := by
  refine ⟨⟨0, reached_start k⟩, ?_⟩
  rintro i ⟨src, data, k', hpc, -⟩
  cases hpc

end RustProxy.Server.Udp
