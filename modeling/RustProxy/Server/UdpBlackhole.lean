import RustProxy.Server.UdpDeadlock
import Mathlib.Tactic.IntervalCases

/-!
# No source is shut out

An entry of `sessions` or `session_senders` that nobody removes would swallow every later datagram of
its source.  That there is none is `Backed`; but a source whose entries have gone has to get its next
datagram looked up, and to enter its session, under a lock that others hold.

* `TablesTrue` is what the tables say, in every run; `NoBlackhole` adds that the task of the next
  datagram can always come to enter a session.
* `ShutOut` is how it may not: a session is jammed, a task that sends on its channel keeps
  `session_senders`, and the clean-up of a stale session waits for that lock and keeps `sessions`.
* `no_blackhole` is about whole schedules.
-/

namespace RustProxy.Server.Udp

open Transition

/-- An entry of either table belongs to a session that has not ended; when every session of a source
has ended, neither table mentions it, and a lookup draws a new id for it. -/
structure TablesTrue (s : UdpState) : Prop where
  session : ∀ src k, s.sessions src = some k → ∃ i, s.Open i src k
  sender : ∀ n k ch, s.senders (n, k) = some ch → ∃ src, src.listener = n ∧ s.Open ch src k
  ended : ∀ src, (∀ i k, ¬ s.Open i src k) →
    s.sessions src = none ∧
    ∀ k, (∀ i src', src'.listener = src.listener → s.Open i src' k → src' = src) →
      s.senders (src.listener, k) = none
  fresh : ∀ src, (∀ i k, ¬ s.Open i src k) →
    ∀ i ok data s', s.task i = .looking src data → s.ready i = true → taskStep s i ok = some s' →
      s'.task i = .inserting src data s.connIdCounter

/-- Moreover, when all tasks and workers of a source have ended but the task of its next datagram, that
can come to enter a session of its own. -/
structure NoBlackhole (s : UdpState) : Prop extends TablesTrue s where
  opens : ∀ src j data, s.task j = .looking src data → (∀ i, i ≠ j → (s.task i).source ≠ some src) →
    ∃ labels t k, exec udpStep s labels = some t ∧ t.task j = .notifying src data k ∧
      t.sessions src = some k

variable {s s' t : UdpState} {src : Source} {data : Bytes} {i j : ℕ}

/-! ## What the tables say -/

/-- Entries that are backed say what is so. -/
lemma Backed.tablesTrue (h : Backed s.tables s.part) : TablesTrue s := by
  have hnone : ∀ src, (∀ i k, ¬ s.Open i src k) → s.sessions src = none := by
    intro src hended
    refine Option.eq_none_iff_forall_ne_some.mpr fun k hentry => ?_
    obtain ⟨i, hi⟩ := h.session src k hentry
    exact hended i k (Part.owner_of_entry hi)
  refine ⟨?_, ?_, ?_, ?_⟩
  · intro src k hentry
    obtain ⟨i, hi⟩ := h.session src k hentry
    exact ⟨i, Part.owner_of_entry hi⟩
  · intro n k ch hentry
    obtain ⟨src, hn, hsrc⟩ := h.sender n k ch hentry
    exact ⟨src, hn, Part.owner_of_sender hsrc⟩
  · intro src hended
    refine ⟨hnone src hended, fun k hk => ?_⟩
    refine Option.eq_none_iff_forall_ne_some.mpr fun ch hentry => ?_
    obtain ⟨src', hn, hsrc'⟩ := h.sender _ k ch hentry
    have hopen : s.Open ch src' k := Part.owner_of_sender hsrc'
    obtain rfl := hk ch src' hn hopen
    exact hended ch k hopen
  · intro src hended i ok data s' hpc hready hstep
    exact inserting_of_looking hready hpc (hnone src hended) hstep

/-! ## The next datagram -/

/-- Who backs an entry of a source is concerned with it. -/
lemma source_of_entry {pc : PacketPc} {k : ConnId} (h : pc.part.entry = some (src, k)) :
    pc.source = some src := by
  cases pc <;> first | (cases h; rfl) | cases h

/-- Task `j` looks its source up or is about to enter it, and no other task or worker is concerned with
it. -/
structure Alone (src : Source) (data : Bytes) (j : ℕ) (s : UdpState) : Prop where
  backed : Backed s.tables s.part
  others : ∀ i, i ≠ j → (s.task i).source ≠ some src
  here : s.task j = .looking src data ∨ ∃ k, s.task j = .inserting src data k

/-- Without a further datagram it stays alone until it has entered its session. -/
lemma Alone.step (h : Alone src data j s) (u : LockUser) (hstep : udpStep s u.label = some s') :
    Alone src data j s' ∨ ∃ k, s'.task j = .notifying src data k ∧ s'.sessions src = some k := by
  have hbacked := backed_step h.backed hstep
  cases u with
  | other n =>
      obtain ⟨htask, -⟩ := other_step hstep rfl
      exact Or.inl ⟨hbacked, by rw [htask]; exact h.others, by rw [htask]; exact h.here⟩
  | task i =>
      obtain ⟨hothers, hcourse⟩ := course_of_taskStep hstep
      by_cases hij : i = j
      · subst hij
        have hothers' : ∀ m, m ≠ i → (s'.task m).source ≠ some src := by
          intro m hm
          rw [hothers m hm]
          exact h.others m hm
        rcases taskStep_cases hstep with ⟨l, access, -, -, rfl⟩ | ⟨-, t, pc, hact, rfl⟩
        · exact Or.inl ⟨hbacked, hothers', h.here⟩
        · rw [task_setTask_self]
          rcases h.here with hpc | ⟨k, hpc⟩ <;> rw [hpc] at hact
          · cases hact with
            | find hsession =>
                -- an entry of the source would be somebody else's
                obtain ⟨m, hm⟩ := h.backed.session src _ hsession
                have hne : m ≠ i := by
                  rintro rfl
                  rw [UdpState.part, hpc] at hm
                  cases hm
                exact absurd (source_of_entry hm) (h.others m hne)
            | miss =>
                exact Or.inl ⟨hbacked, hothers', Or.inr ⟨_, task_setTask_self _ _ _⟩⟩
          · cases hact with
            | enter => exact Or.inr ⟨k, rfl, Function.update_self _ _ _⟩
      · refine Or.inl ⟨hbacked, ?_, ?_⟩
        · intro m hm
          by_cases hmi : m = i
          · subst hmi
            obtain ⟨src', hold, hnew | hnew⟩ := hcourse.source
            · rw [hnew, ← hold]
              exact h.others m hm
            · simp [hnew]
          · rw [hothers m hmi]
            exact h.others m hm
        · rw [hothers j (Ne.symm hij)]
          exact h.here

/-- If it comes to its end, it has entered its session on the way. -/
lemma Alone.enters {labels : List UdpLabel} (h : Alone src data j s)
    (hlabels : ∀ label ∈ labels, ∃ u : LockUser, label = u.label)
    (hrun : exec udpStep s labels = some t) (hended : (t.task j).Ended) :
    ∃ labels t k, exec udpStep s labels = some t ∧ t.task j = .notifying src data k ∧
      t.sessions src = some k := by
  induction labels generalizing s with
  | nil =>
      cases hrun
      have hbegun : ¬ (t.task j).Ended := by
        rcases h.here with hpc | ⟨k, hpc⟩ <;> rw [hpc] <;> rintro (h | h) <;> cases h
      exact absurd hended hbegun
  | cons label labels ih =>
      obtain ⟨s', hstep, hrest⟩ := exec_cons_eq_some.mp hrun
      obtain ⟨⟨u, rfl⟩, hmore⟩ := List.forall_mem_cons.mp hlabels
      rcases h.step u hstep with h' | ⟨k, hpc, hsession⟩
      · obtain ⟨more, t', k, hrun', ht'⟩ := ih h' hmore hrest
        exact ⟨u.label :: more, t', k, exec_cons_eq_some.mpr ⟨s', hstep, hrun'⟩, ht'⟩
      · exact ⟨[u.label], s', k, exec_cons_eq_some.mpr ⟨s', hstep, rfl⟩, hpc, hsession⟩

/-- Without a jam no source is shut out. -/
lemma noBlackhole_of_unjammed {n : ℕ} (h : Reached n s) (hjam : ∀ i, ¬ Jammed s i) : NoBlackhole s where
  toTablesTrue := h.backed.tablesTrue
  opens := by
    intro src j data hpc hothers
    obtain ⟨labels, t, hlabels, hrun, hended⟩ := exists_allEnded h hjam
    exact Alone.enters ⟨h.backed, hothers, Or.inl hpc⟩ hlabels hrun (hended j)

/-- Over any datagrams and any interleaving of tasks and workers: the tables say what is so; and if no
step takes the last place in a channel whose session still has to put its own first datagram there, no
source is ever shut out. -/
theorem no_blackhole (k : ConnId) (labels : List UdpLabel) :
    Always udpStep TablesTrue (.start k) labels ∧
      (EachStep udpStep LeavesRoom (.start k) labels → Always udpStep NoBlackhole (.start k) labels) := by
  refine ⟨?_, ?_⟩
  · have hkeep : ∀ s label s', Backed s.tables s.part → True → udpStep s label = some s' →
        Backed s'.tables s'.part := fun _ _ _ hs _ hstep => backed_step hs hstep
    exact always_of_eachStep (fun _ hs => Backed.tablesTrue hs) hkeep (backed_start k)
      (eachStep_of_forall_mem fun _ _ => trivial)
  · refine always_of_eachStep (I := fun s => (∃ n, Reached n s) ∧ ∀ i, ¬ Jammed s i) ?_ ?_
      (unjammed_start k)
    · rintro s ⟨⟨n, h⟩, hjam⟩
      exact noBlackhole_of_unjammed h hjam
    · exact fun s label s' h hleaves hstep => unjammed_of_leavesRoom h hleaves hstep

/-- A task that is not about to send leaves room. -/
lemma leavesRoom_of_ne_sending {ok : Bool} (h : ∀ src data k ch, s.task i ≠ .sending src data k ch) :
    LeavesRoom s (.task i ok) := by
  rintro ⟨_, _, src, data, k, ch, ⟨⟩, hpc, -⟩
  exact h src data k ch hpc

/-- The first datagram of a source is looked up and its session is entered. -/
def firstEntered : List UdpLabel := .datagram 0 ⟨0, "a"⟩ [1] :: List.replicate 4 (.task 0 true)

/-- No step of it fills a channel, so no source is shut out. -/
theorem no_blackhole_firstEntered :
    ∃ s, exec udpStep (.start 1) firstEntered = some s ∧ s.sessions ⟨0, "a"⟩ = some 1 ∧
      NoBlackhole s := by
  refine ⟨_, rfl, rfl, ((no_blackhole 1 firstEntered).2 ?_).last rfl⟩
  refine fun _ h => ⟨by rintro ⟨_, _, _, _, _, _, ⟨⟩, -⟩, ?_⟩
  cases h
  refine fun _ h => ⟨leavesRoom_of_ne_sending nofun, ?_⟩
  cases h
  refine fun _ h => ⟨leavesRoom_of_ne_sending nofun, ?_⟩
  cases h
  refine fun _ h => ⟨leavesRoom_of_ne_sending nofun, ?_⟩
  cases h
  exact fun _ h => ⟨leavesRoom_of_ne_sending nofun, trivial⟩

/-! ## A source that is shut out -/

/-- Of listener `n`: the session that task `i` opens is jammed, task `x` sends on its channel, the
clean-up `y` of a stale session waits for `session_senders` and keeps `sessions`, and task `j` looks its
source up. -/
structure ShutOut (n i x y j : ℕ) (src : Source) (data : Bytes) (s : UdpState) : Prop where
  guarded : Guarded s
  backed : Backed s.tables s.part
  jam : Jammed s i
  late : ∃ src data k, s.task x = .sending src data k i ∧ src.listener = n
  cleaner : ∃ src k, s.task y = .staleHolding src k ∧ src.listener = n
  here : s.task j = .looking src data ∧ src.listener = n
  kept : (s.lock (.senders n)).Holds (.task x)
  queued : (.task y, .write) ∈ (s.lock (.senders n)).queue
  writer : (s.lock (.sessions n)).writer = some (.task y)

/-- The locks keep their holder and their writer when somebody else uses them. -/
lemma ShutOut.locks {n x y j : ℕ} {s s' : UdpState} (h : ShutOut n i x y j src data s) {u : LockUser}
    (hx : u ≠ .task x) (hy : u ≠ .task y)
    (hlock : ∀ l, (∃ access, s'.lock l = (s.lock l).request u access) ∨
      s'.lock l = (s.lock l).release u ∨ s'.lock l = s.lock l) :
    (s'.lock (.senders n)).Holds (.task x) ∧ (.task y, .write) ∈ (s'.lock (.senders n)).queue ∧
      (s'.lock (.sessions n)).writer = some (.task y) := by
  refine ⟨?_, ?_, ?_⟩
  · rcases hlock (.senders n) with ⟨access, hl⟩ | hl | hl <;> rw [hl]
    · exact RwLock.holds_request _ _ h.kept
    · exact RwLock.holds_release hx.symm h.kept
    · exact h.kept
  · rcases hlock (.senders n) with ⟨access, hl⟩ | hl | hl <;> rw [hl]
    · exact RwLock.mem_queue_request _ _ h.queued
    · exact RwLock.mem_queue_release hx.symm h.kept h.queued
    · exact h.queued
  · rcases hlock (.sessions n) with ⟨access, hl⟩ | hl | hl <;> rw [hl]
    · exact RwLock.writer_request _ _ h.writer
    · exact RwLock.writer_release hy.symm h.writer
    · exact h.writer

/-- Whatever happens, the source stays shut out. -/
lemma ShutOut.step {n x y j : ℕ} {label : UdpLabel} (h : ShutOut n i x y j src data s)
    (hstep : udpStep s label = some s') : ShutOut n i x y j src data s' := by
  have hguarded := guarded_step h.guarded h.backed hstep
  have hbacked := backed_step h.backed hstep
  have hjam := (jammed_step h.jam hstep).1
  obtain ⟨srcx, datax, kx, hx, hxn⟩ := h.late
  obtain ⟨srcy, ky, hy, hyn⟩ := h.cleaner
  obtain ⟨hj, hjn⟩ := h.here
  -- It is enough that the three tasks stay where they are, and who acts is neither of the first two.
  have hstay (u : LockUser) (hux : u ≠ .task x) (huy : u ≠ .task y)
      (htask : s'.task x = s.task x ∧ s'.task y = s.task y ∧ s'.task j = s.task j)
      (hlock : ∀ l, (∃ access, s'.lock l = (s.lock l).request u access) ∨
        s'.lock l = (s.lock l).release u ∨ s'.lock l = s.lock l) : ShutOut n i x y j src data s' := by
    obtain ⟨hkept, hqueued, hwriter⟩ := h.locks hux huy hlock
    exact ⟨hguarded, hbacked, hjam, ⟨srcx, datax, kx, htask.1.trans hx, hxn⟩,
      ⟨srcy, ky, htask.2.1.trans hy, hyn⟩, ⟨htask.2.2.trans hj, hjn⟩, hkept, hqueued, hwriter⟩
  have hother (m : ℕ) := hstay (.other m) (LockUser.other_ne_task m x) (LockUser.other_ne_task m y)
  cases label with
  | datagram m src' data' =>
      obtain ⟨hidle, rfl⟩ := task_of_datagram hstep
      have hne : ∀ m', s.task m' ≠ .idle → m' ≠ m := by
        rintro m' hm' rfl
        exact hm' hidle
      have hstays : ∀ m', s.task m' ≠ .idle → (s.setTask m (.looking src' data')).task m' = s.task m' :=
        fun m' hm' => task_setTask_of_ne s (hne m' hm') _
      refine hother 0 ⟨?_, ?_, ?_⟩ fun l => Or.inr (Or.inr rfl)
      · exact hstays x (by simp [hx])
      · exact hstays y (by simp [hy])
      · exact hstays j (by simp [hj])
  | task m ok =>
      have hmx : m ≠ x := by
        -- its channel is full, and its owner is still to open the session
        rintro rfl
        obtain ⟨_, _, _, hi, hfull⟩ := h.jam
        simp [udpStep, taskStep, advance, hx, hi, hfull, PacketPc.needs, PacketPc.rxDropped] at hstep
      have hmy : m ≠ y := by
        -- it is queued for `session_senders`
        rintro rfl
        have hwaits : (s.lock (.senders n)).Waits (.task m) := List.mem_map.mpr ⟨_, h.queued, rfl⟩
        have hholds : ¬ (s.lock (.senders n)).Holds (.task m) :=
          fun hholds => (h.guarded.tidy _).not_waits hholds hwaits
        simp [udpStep, taskStep, hy, PacketPc.needs, hyn, hwaits, hholds] at hstep
      obtain ⟨hothers, -⟩ := course_of_taskStep hstep
      rcases taskStep_cases hstep with ⟨l, access, -, -, rfl⟩ | ⟨hready, u, pc, hact, rfl⟩
      · refine hstay (.task m) ?_ ?_ ⟨rfl, rfl, rfl⟩ fun l' => ?_
        · exact fun heq => hmx (LockUser.task.inj heq)
        · exact fun heq => hmy (LockUser.task.inj heq)
        · by_cases hl : l' = l
          · subst hl
            exact Or.inl ⟨access, lock_ask_self _ _ _ _⟩
          · exact Or.inr (Or.inr (lock_ask_of_ne _ hl _ _))
      · have hmj : m ≠ j := by
          -- `sessions` has a writer
          rintro rfl
          have hholds := h.guarded.holds hready (Or.inl ⟨.read, by rw [hj, PacketPc.needs, hjn]⟩)
          exact hmy (LockUser.task.inj (RwLock.eq_of_holds_of_writer h.writer hholds))
        refine hstay (.task m) ?_ ?_ ⟨?_, ?_, ?_⟩ fun l' => ?_
        · exact fun heq => hmx (LockUser.task.inj heq)
        · exact fun heq => hmy (LockUser.task.inj heq)
        · exact hothers x (Ne.symm hmx)
        · exact hothers y (Ne.symm hmy)
        · exact hothers j (Ne.symm hmj)
        · rcases hact.lock l' with ⟨-, -, hl⟩ | ⟨-, -, hl⟩
          · exact Or.inr (Or.inl hl)
          · exact Or.inr (Or.inr hl)
  | otherConnId =>
      cases hstep
      exact hother 0 ⟨rfl, rfl, rfl⟩ fun l => Or.inr (Or.inr rfl)
  | otherAsks m =>
      rw [udpStep] at hstep
      split at hstep <;> cases hstep
      refine hother m ⟨rfl, rfl, rfl⟩ fun l => ?_
      by_cases hl : l = .pending
      · subst hl
        exact Or.inl ⟨.write, lock_ask_self _ _ _ _⟩
      · exact Or.inr (Or.inr (lock_ask_of_ne _ hl _ _))
  | otherReleases m =>
      rw [udpStep] at hstep
      split at hstep <;> cases hstep
      refine hother m ⟨rfl, rfl, rfl⟩ fun l => ?_
      by_cases hl : l = .pending
      · subst hl
        exact Or.inr (Or.inl (lock_unlock_self _ _ _))
      · exact Or.inr (Or.inr (lock_unlock_of_ne _ hl _))

/-- A source that is shut out is blackholed. -/
lemma ShutOut.not_noBlackhole {n x y j : ℕ} (h : ShutOut n i x y j src data s)
    (hothers : ∀ m, m ≠ j → (s.task m).source ≠ some src) : ¬ NoBlackhole s := by
  intro hno
  obtain ⟨labels, t, k, hrun, hpc, -⟩ := hno.opens src j data h.here.1 hothers
  have hlooking := (exec_invariant (fun _ _ _ h hstep => ShutOut.step h hstep) h hrun).here.1
  cases hpc.symm.trans hlooking

/-! ## It comes to that -/

/-- Its session is jammed. -/
def opener : Source := ⟨0, "192.0.2.1:53"⟩

/-- Its session has ended, and the worker has not cleaned up yet. -/
def lapsed : Source := ⟨0, "192.0.2.2:53"⟩

/-- It has no session yet. -/
def newcomer : Source := ⟨0, "192.0.2.3:53"⟩

/-- The tasks of the first datagrams. -/
def firstTasks : ℕ → PacketPc
  | 0 => .firstSend opener [] 0
  | 1 => .cleaning lapsed 1
  | 2 => .found opener [] 0
  | 3 => .found lapsed [] 1
  | 4 => .looking newcomer []
  | _ => .idle

/-- They come to where `firstTasks` has them. -/
def beforeJam : List UdpLabel :=
  [.datagram 0 opener []] ++ List.replicate 10 (.task 0 true) ++
    [.datagram 1 lapsed []] ++ List.replicate 11 (.task 1 true) ++ [.task 1 false] ++
    [.datagram 2 opener []] ++ List.replicate 2 (.task 2 true) ++
    [.datagram 3 lapsed []] ++ List.replicate 2 (.task 3 true) ++ [.datagram 4 newcomer []]

/-- Steps that do not concern a task leave it where it is. -/
lemma task_of_exec {labels : List UdpLabel} (hlabels : ∀ label ∈ labels, label.number ≠ some j)
    (hrun : exec udpStep s labels = some t) : t.task j = s.task j := by
  induction labels generalizing s with
  | nil =>
      cases hrun
      rfl
  | cons label labels ih =>
      obtain ⟨s', hstep, hrest⟩ := exec_cons_eq_some.mp hrun
      obtain ⟨hlabel, hlabels⟩ := List.forall_mem_cons.mp hlabels
      refine (ih hlabels hrest).trans ?_
      cases label with
      | datagram i src data =>
          obtain ⟨-, rfl⟩ := task_of_datagram hstep
          exact task_setTask_of_ne s (fun heq => hlabel (congrArg some heq.symm)) _
      | task i ok => exact (course_of_taskStep hstep).1 j fun heq => hlabel (congrArg some heq.symm)
      | otherConnId | otherAsks | otherReleases =>
          rw [(other_step hstep rfl).1]

/-- A task that does not use the lock it needs asks for it. -/
lemma step_ask {l : Lock} {access : Access} {ok : Bool} (hneeds : (s.task i).needs = some (l, access))
    (huser : .task i ∉ (s.lock l).users) : udpStep s (.task i ok) = some (s.ask l (.task i) access) := by
  rw [RwLock.mem_users_iff, not_or] at huser
  rw [udpStep, taskStep, hneeds]
  dsimp only
  rw [if_neg huser.1, if_neg huser.2]

/-- A task that has the guard it needs goes on. -/
lemma step_act {ok : Bool} (hready : s.ready i = true) : udpStep s (.task i ok) = advance s i ok := by
  rw [udpStep, taskStep]
  split
  · rfl
  · case h_2 l access hneeds =>
    rw [UdpState.ready, hneeds] at hready
    exact if_pos (of_decide_eq_true hready)

/-- A task that finds its lock unused asks for it and goes on. -/
lemma exec_section {l : Lock} {access : Access} {ok : Bool} (hneeds : (s.task i).needs = some (l, access))
    (hfree : s.lock l = .free) :
    exec udpStep s [.task i true, .task i ok] = advance (s.ask l (.task i) access) i ok := by
  have hready : (s.ask l (.task i) access).ready i = true := by
    have hneeds' : ((s.ask l (.task i) access).task i).needs = some (l, access) := hneeds
    rw [UdpState.ready, hneeds']
    refine decide_eq_true ?_
    rw [lock_ask_self, hfree]
    exact RwLock.holds_free_request _ _
  rw [exec_cons, step_ask hneeds (by rw [hfree]; exact RwLock.not_mem_users_free _), Option.bind_some,
    exec_cons, step_act hready]
  exact Option.bind_fun_some _

/-- What was asked for and given back leaves no trace. -/
lemma ask_unlock {l : Lock} {access : Access} (hfree : s.lock l = .free) :
    (s.ask l (.task i) access).unlock l (.task i) = s := by
  rw [UdpState.unlock, lock_ask_self, hfree, RwLock.release_free_request]
  show { s with lock := Function.update (Function.update s.lock l _) l _ } = s
  rw [Function.update_idem, ← hfree, Function.update_eq_self]

/-- A task that finds the sender of its session keeps the guard for the send. -/
lemma exec_lookupSender {k : ConnId} {ch : ℕ} (hpc : s.task i = .found src data k)
    (hfree : s.lock (.senders src.listener) = .free) (hsender : s.senders (src.listener, k) = some ch) :
    exec udpStep s [.task i true, .task i true] =
      some ((s.ask (.senders src.listener) (.task i) .read).setTask i (.sending src data k ch)) := by
  have hsender' : (s.ask (.senders src.listener) (.task i) .read).senders (src.listener, k) = some ch :=
    hsender
  rw [exec_section (l := .senders src.listener) (by rw [hpc]; rfl) hfree, advance,
    show (s.ask _ _ _).task i = _ from hpc]
  dsimp only
  rw [lookupSender, hsender']

/-- The first tasks are where `firstTasks` has them, and `n` datagrams have been put into the channel
that task 0 has entered and not sent on yet. -/
structure Filling (n : ℕ) (s : UdpState) : Prop where
  first : ∀ i, i < 5 → s.task i = firstTasks i
  later : ∀ i, 5 ≤ i → (s.task i).source = none
  idle : ∀ i, n + 5 ≤ i → s.task i = .idle
  session : s.sessions opener = some 0
  opened : s.senders (0, 0) = some 0
  left : s.senders (0, 1) = some 1
  sessionsFree : s.lock (.sessions 0) = .free
  sendersFree : s.lock (.senders 0) = .free
  queue : (s.queue 0).length = n

/-- They come there, with nothing filled yet. -/
lemma exists_filling : ∃ s, exec udpStep (.start 0) beforeJam = some s ∧ Filling 0 s := by
  obtain ⟨s, hrun, hfirst, hsession, hopened, hleft, hsessions, hsenders, hqueue⟩ :
      ∃ s, exec udpStep (.start 0) beforeJam = some s ∧
        (s.task 0 = firstTasks 0 ∧ s.task 1 = firstTasks 1 ∧ s.task 2 = firstTasks 2 ∧
          s.task 3 = firstTasks 3 ∧ s.task 4 = firstTasks 4) ∧
        s.sessions opener = some 0 ∧ s.senders (0, 0) = some 0 ∧ s.senders (0, 1) = some 1 ∧
        s.lock (.sessions 0) = .free ∧ s.lock (.senders 0) = .free ∧ s.queue 0 = [] :=
    ⟨_, rfl, ⟨rfl, rfl, rfl, rfl, rfl⟩, rfl, rfl, rfl, rfl, rfl, rfl⟩
  have hidle : ∀ i, 5 ≤ i → s.task i = .idle := by
    intro i hi
    have hnumbers : ∀ label ∈ beforeJam, ∀ n ∈ label.number, n < 5 := by decide
    refine task_of_exec ?_ hrun
    intro label hlabel hnumber
    exact absurd (hnumbers label hlabel i hnumber) (not_lt.mpr hi)
  refine ⟨s, hrun, ?_, ?_, hidle, hsession, hopened, hleft, hsessions, hsenders, by rw [hqueue]; rfl⟩
  · obtain ⟨h₀, h₁, h₂, h₃, h₄⟩ := hfirst
    intro i hi
    interval_cases i <;> assumption
  · intro i hi
    rw [hidle i hi]
    rfl

/-- One more datagram of the opener goes into the channel. -/
lemma Filling.step {n : ℕ} (h : Filling n s) (hn : n < channelCapacity) :
    ∃ labels t, exec udpStep s labels = some t ∧ Filling (n + 1) t := by
  set i := n + 5 with hi
  have hidle : s.task i = .idle := h.idle i le_rfl
  have hopener : s.task 0 = .firstSend opener [] 0 := h.first 0 (by decide)
  have hne : (0 : ℕ) ≠ i := by omega
  let s₁ := s.setTask i (.looking opener [])
  let s₂ := s₁.setTask i (.found opener [] 0)
  let s₃ := (s₂.ask (.senders 0) (.task i) .read).setTask i (.sending opener [] 0 0)
  let s₄ := ((s₃.push 0 []).unlock (.senders 0) (.task i)).setTask i .done
  have h₁ : exec udpStep s [.datagram i opener []] = some s₁ := by
    rw [exec_cons, udpStep, hidle]
    rfl
  have h₂ : exec udpStep s₁ [.task i true, .task i true] = some s₂ := by
    have hpc : s₁.task i = .looking opener [] := task_setTask_self _ _ _
    have hfree : s₁.lock (.sessions 0) = .free := h.sessionsFree
    have hsession : (s₁.ask (.sessions 0) (.task i) .read).sessions opener = some 0 := h.session
    rw [exec_section (l := .sessions 0) (by rw [hpc]; rfl) hfree, advance,
      show (s₁.ask _ _ _).task i = _ from hpc]
    dsimp only
    rw [lookupSession, hsession]
    exact congrArg (fun u : UdpState => some (u.setTask i (.found opener [] 0))) (ask_unlock hfree)
  have h₃ : exec udpStep s₂ [.task i true, .task i true] = some s₃ := by
    have hpc : s₂.task i = .found opener [] 0 := task_setTask_self _ _ _
    exact exec_lookupSender hpc h.sendersFree h.opened
  have htask : ∀ j, j ≠ i → s₃.task j = s.task j := by
    intro j hj
    calc s₃.task j = s₂.task j := task_setTask_of_ne _ hj _
      _ = s₁.task j := task_setTask_of_ne s₁ hj _
      _ = s.task j := task_setTask_of_ne s hj _
  have h₄ : exec udpStep s₃ [.task i true] = some s₄ := by
    have hpc : s₃.task i = .sending opener [] 0 0 := task_setTask_self _ _ _
    have hup : ¬ (s₃.task 0).rxDropped = true := by
      rw [htask 0 hne, hopener]
      exact Bool.false_ne_true
    have hroom : s₃.hasRoom 0 = true := decide_eq_true (h.queue ▸ hn : (s.queue 0).length < _)
    rw [exec_cons, udpStep, taskStep, hpc]
    dsimp only [PacketPc.needs]
    rw [advance, hpc]
    dsimp only
    rw [if_neg hup, if_pos hroom]
    rfl
  refine ⟨[.datagram i opener []] ++ ([.task i true, .task i true] ++ ([.task i true, .task i true] ++
    [.task i true])), s₄, ?_, ?_⟩
  · rw [exec_append, h₁, Option.bind_some, exec_append, h₂, Option.bind_some, exec_append, h₃,
      Option.bind_some, h₄]
  have hlater : ∀ j, j ≠ i → s₄.task j = s.task j :=
    fun j hj => (task_setTask_of_ne _ hj _).trans (htask j hj)
  refine ⟨?_, ?_, ?_, h.session, h.opened, h.left, ?_, ?_, ?_⟩
  · intro j hj
    rw [hlater j (by omega)]
    exact h.first j hj
  · intro j hj
    by_cases hji : j = i
    · rw [hji, show s₄.task i = .done from task_setTask_self _ _ _]
      rfl
    · rw [hlater j hji]
      exact h.later j hj
  · intro j hj
    rw [hlater j (by omega)]
    exact h.idle j (by omega)
  · show ((s₃.push 0 []).unlock (.senders 0) (.task i)).lock (.sessions 0) = _
    rw [lock_unlock_of_ne _ (by decide)]
    show (s₂.ask (.senders 0) (.task i) .read).lock (.sessions 0) = _
    rw [lock_ask_of_ne _ (by decide)]
    exact h.sessionsFree
  · show ((s₃.push 0 []).unlock (.senders 0) (.task i)).lock (.senders 0) = _
    rw [lock_unlock_self]
    show ((s₂.ask (.senders 0) (.task i) .read).lock (.senders 0)).release _ = _
    rw [lock_ask_self, show s₂.lock (.senders 0) = .free from h.sendersFree]
    exact RwLock.release_free_request _ _
  · show (Function.update s.queue 0 (s.queue 0 ++ [[]]) 0).length = n + 1
    rw [Function.update_self, List.length_append, h.queue, List.length_singleton]

/-- Task 2 waits for room in the full channel and keeps the guard of `session_senders`. -/
def keepsSenders (s : UdpState) : UdpState :=
  (s.ask (.senders 0) (.task 2) .read).setTask 2 (.sending opener [] 0 0)

/-- Task 3 has queued for `session_senders`, and has found its channel. -/
def findsLapsed (s : UdpState) : UdpState :=
  (s.ask (.senders 0) (.task 3) .read).setTask 3 (.sending lapsed [] 1 1)

/-- The channel is closed, and task 3 asks for `session_senders` with the guard of `sessions` held. -/
def cleansUp (s : UdpState) : UdpState :=
  let stale := (s.unlock (.senders 0) (.task 3)).setTask 3 (.stale lapsed 1)
  (((stale.ask (.sessions 0) (.task 3) .write).removeSession lapsed).setTask 3
    (.staleHolding lapsed 1)).ask (.senders 0) (.task 3) .write

/-- Where the three of them leave the other tasks. -/
lemma task_cleansUp {m : ℕ} (h₂ : m ≠ 2) (h₃ : m ≠ 3) :
    (cleansUp (findsLapsed (keepsSenders s))).task m = s.task m := by
  simp [cleansUp, findsLapsed, keepsSenders, task_setTask_of_ne _ h₂, task_setTask_of_ne _ h₃]

/-- Task 2 is still in its send. -/
lemma task_two_cleansUp :
    (cleansUp (findsLapsed (keepsSenders s))).task 2 = .sending opener [] 0 0 := by
  have hne : (2 : ℕ) ≠ 3 := by decide
  simp [cleansUp, findsLapsed, keepsSenders, task_setTask_of_ne _ hne, task_setTask_self]

/-- The lock of `session_senders` while task 2 keeps its guard. -/
lemma Filling.lock_keepsSenders {n : ℕ} (h : Filling n s) :
    (keepsSenders s).lock (.senders 0) = (RwLock.free : RwLock LockUser).request (.task 2) .read := by
  simp [keepsSenders, h.sendersFree]

/-- The lock of `session_senders` in the end: task 2 reads, and task 3 waits to write. -/
lemma Filling.sendersLock {n : ℕ} (h : Filling n s) :
    (cleansUp (findsLapsed (keepsSenders s))).lock (.senders 0) =
      ((((RwLock.free : RwLock LockUser).request (.task 2) .read).request (.task 3) .read).release
        (.task 3)).request (.task 3) .write := by
  have hne : (.senders 0 : Lock) ≠ .sessions 0 := by decide
  simp [cleansUp, findsLapsed, lock_ask_of_ne _ hne, h.lock_keepsSenders]

/-- The lock of `sessions` before task 3 cleans up. -/
lemma Filling.sessionsLock_findsLapsed {n : ℕ} (h : Filling n s) :
    (findsLapsed (keepsSenders s)).lock (.sessions 0) = .free := by
  have hne : (.sessions 0 : Lock) ≠ .senders 0 := by decide
  simp [findsLapsed, keepsSenders, lock_ask_of_ne _ hne, h.sessionsFree]

/-- The lock of `sessions` in the end: task 3 writes. -/
lemma Filling.sessionsLock {n : ℕ} (h : Filling n s) :
    (cleansUp (findsLapsed (keepsSenders s))).lock (.sessions 0) =
      (RwLock.free : RwLock LockUser).request (.task 3) .write := by
  have hne : (.sessions 0 : Lock) ≠ .senders 0 := by decide
  simp [cleansUp, lock_ask_of_ne _ hne, lock_unlock_of_ne _ hne, h.sessionsLock_findsLapsed]

/-- Task 3 finds its channel beside task 2. -/
lemma Filling.exec_findsLapsed {n : ℕ} (h : Filling n s) :
    exec udpStep (keepsSenders s) [.task 3 true, .task 3 true] = some (findsLapsed (keepsSenders s)) := by
  have hpc : (keepsSenders s).task 3 = .found lapsed [] 1 :=
    (task_setTask_of_ne _ (by decide) _).trans (h.first 3 (by decide))
  have hask : udpStep (keepsSenders s) (.task 3 true) =
      some ((keepsSenders s).ask (.senders 0) (.task 3) .read) := by
    refine step_ask (l := .senders 0) (by rw [hpc]; rfl) ?_
    rw [h.lock_keepsSenders]
    decide
  have hsender : ((keepsSenders s).ask (.senders 0) (.task 3) .read).senders (lapsed.listener, 1) =
      some 1 := h.left
  have hready : ((keepsSenders s).ask (.senders 0) (.task 3) .read).ready 3 = true := by
    rw [UdpState.ready, show ((keepsSenders s).ask _ _ _).task 3 = _ from hpc]
    refine decide_eq_true ?_
    show (((keepsSenders s).ask (.senders 0) (.task 3) .read).lock (.senders 0)).Holds (.task 3)
    rw [lock_ask_self, h.lock_keepsSenders]
    decide
  rw [exec_cons, hask, Option.bind_some, exec_cons, step_act hready, advance,
    show ((keepsSenders s).ask _ _ _).task 3 = _ from hpc]
  dsimp only
  rw [lookupSender, hsender]
  rfl

/-- The worker of the session has ended, so task 3 cleans up. -/
lemma Filling.exec_cleansUp {n : ℕ} (h : Filling n s) :
    exec udpStep (findsLapsed (keepsSenders s)) (List.replicate 4 (.task 3 true)) =
      some (cleansUp (findsLapsed (keepsSenders s))) := by
  set t := findsLapsed (keepsSenders s) with ht
  let t₁ := (t.unlock (.senders 0) (.task 3)).setTask 3 (.stale lapsed 1)
  let t₂ := ((t₁.ask (.sessions 0) (.task 3) .write).removeSession lapsed).setTask 3
    (.staleHolding lapsed 1)
  have h₁ : udpStep t (.task 3 true) = some t₁ := by
    have hpc : t.task 3 = .sending lapsed [] 1 1 := task_setTask_self _ _ _
    have hdropped : (t.task 1).rxDropped = true := by
      have h₂ : (1 : ℕ) ≠ 2 := by decide
      have h₃ : (1 : ℕ) ≠ 3 := by decide
      have htask : t.task 1 = firstTasks 1 := by
        simp [t, findsLapsed, keepsSenders, task_setTask_of_ne _ h₂, task_setTask_of_ne _ h₃, h.first]
      rw [htask]
      rfl
    rw [step_act (by rw [UdpState.ready, hpc]; rfl), advance, hpc]
    dsimp only
    rw [if_pos hdropped]
    rfl
  have h₂ : exec udpStep t₁ [.task 3 true, .task 3 true] = some t₂ := by
    have hpc : t₁.task 3 = .stale lapsed 1 := task_setTask_self _ _ _
    have hne : (.sessions 0 : Lock) ≠ .senders 0 := by decide
    have hfree : t₁.lock (.sessions 0) = .free := by
      simp [t₁, ht, lock_unlock_of_ne _ hne, h.sessionsLock_findsLapsed]
    rw [exec_section (l := .sessions 0) (by rw [hpc]; rfl) hfree, advance,
      show (t₁.ask _ _ _).task 3 = _ from hpc]
  have h₃ : udpStep t₂ (.task 3 true) = some (cleansUp t) := by
    have hpc : t₂.task 3 = .staleHolding lapsed 1 := task_setTask_self _ _ _
    have hne : (.senders 0 : Lock) ≠ .sessions 0 := by decide
    refine step_ask (l := .senders 0) (by rw [hpc]; rfl) ?_
    have hlock : t₂.lock (.senders 0) = (((RwLock.free : RwLock LockUser).request (.task 2)
        .read).request (.task 3) .read).release (.task 3) := by
      simp [t₂, t₁, ht, findsLapsed, lock_ask_of_ne _ hne, h.lock_keepsSenders]
    rw [hlock]
    decide
  show exec udpStep t ([.task 3 true] ++ ([.task 3 true, .task 3 true] ++ [.task 3 true])) = _
  rw [exec_append, exec_cons, h₁, Option.bind_some, exec_nil, Option.bind_some, exec_append, h₂,
    Option.bind_some, exec_cons, h₃]
  rfl

/-- In the end the newcomer's task is the only one of its source. -/
lemma Filling.source_ne_newcomer {n : ℕ} (h : Filling n s) {m : ℕ} (hm : m ≠ 4) :
    ((cleansUp (findsLapsed (keepsSenders s))).task m).source ≠ some newcomer := by
  by_cases h₂ : m = 2
  · subst h₂
    rw [task_two_cleansUp]
    decide
  by_cases h₃ : m = 3
  · subst h₃
    rw [show (cleansUp (findsLapsed (keepsSenders s))).task 3 = .staleHolding lapsed 1 from rfl]
    decide
  rw [task_cleansUp h₂ h₃]
  rcases Nat.lt_or_ge m 5 with hlt | hge
  · rw [h.first m hlt]
    have hm' : m = 0 ∨ m = 1 := by omega
    rcases hm' with rfl | rfl <;> decide
  · rw [h.later m hge]
    exact (Option.some_ne_none _).symm

/-- When the channel is full, the task that has found it keeps `session_senders`, and the one that finds
a session that has ended gets stuck in its clean-up. -/
lemma Filling.shutOut (h : Filling channelCapacity s) (hreached : ∃ n, Reached n s) :
    ∃ labels t, exec udpStep s labels = some t ∧ ShutOut 0 0 2 3 4 newcomer [] t ∧
      ∀ m, m ≠ 4 → (t.task m).source ≠ some newcomer := by
  have hrun : exec udpStep s ([.task 2 true, .task 2 true] ++ ([.task 3 true, .task 3 true] ++
      List.replicate 4 (.task 3 true))) = some (cleansUp (findsLapsed (keepsSenders s))) := by
    have hkeeps : exec udpStep s [.task 2 true, .task 2 true] = some (keepsSenders s) :=
      exec_lookupSender (h.first 2 (by decide)) h.sendersFree h.opened
    rw [exec_append, hkeeps, Option.bind_some, exec_append, h.exec_findsLapsed, Option.bind_some,
      h.exec_cleansUp]
  refine ⟨_, _, hrun, ?_, fun m => h.source_ne_newcomer⟩
  obtain ⟨n, hguarded, hbacked, -, -⟩ :=
    exec_invariant (I := fun s => ∃ n, Reached n s) (fun _ _ _ h hstep => reached_step h hstep)
      hreached hrun
  have hopener : (cleansUp (findsLapsed (keepsSenders s))).task 0 = .firstSend opener [] 0 :=
    (task_cleansUp (by decide) (by decide)).trans (h.first 0 (by decide))
  have hnewcomer : (cleansUp (findsLapsed (keepsSenders s))).task 4 = .looking newcomer [] :=
    (task_cleansUp (by decide) (by decide)).trans (h.first 4 (by decide))
  refine ⟨hguarded, hbacked, ⟨opener, [], 0, hopener, ?_⟩, ⟨opener, [], 0, task_two_cleansUp, rfl⟩,
    ⟨lapsed, 1, rfl, rfl⟩, ⟨hnewcomer, rfl⟩, ?_, ?_, ?_⟩
  · show decide ((s.queue 0).length < channelCapacity) = false
    rw [h.queue]
    exact decide_eq_false (lt_irrefl _)
  · rw [h.sendersLock]
    decide
  · rw [h.sendersLock]
    decide
  · rw [h.sessionsLock]
    decide

/-- As many datagrams of a new source as its channel has places jam its session; one more, and one of a
source whose session has just ended, and the next source is never looked up. -/
theorem source_shut_out :
    ¬ ∀ (k : ConnId) (labels : List UdpLabel) (s : UdpState),
      exec udpStep (.start k) labels = some s → NoBlackhole s := by
  intro hall
  have hfill : ∀ n ≤ channelCapacity,
      ∃ labels s, exec udpStep (.start 0) labels = some s ∧ Filling n s := by
    intro n hn
    induction n with
    | zero =>
        obtain ⟨s, hrun, hs⟩ := exists_filling
        exact ⟨beforeJam, s, hrun, hs⟩
    | succ n ih =>
        obtain ⟨labels, s, hrun, hs⟩ := ih (Nat.le_of_succ_le hn)
        obtain ⟨more, t, hmore, ht⟩ := hs.step hn
        exact ⟨labels ++ more, t, by rw [exec_append, hrun, Option.bind_some, hmore], ht⟩
  obtain ⟨labels, s, hrun, hs⟩ := hfill channelCapacity le_rfl
  obtain ⟨more, t, hmore, hshut, hothers⟩ := hs.shutOut (reached_exec hrun)
  refine hshut.not_noBlackhole hothers (hall 0 (labels ++ more) t ?_)
  rw [exec_append, hrun, Option.bind_some, hmore]

end RustProxy.Server.Udp
