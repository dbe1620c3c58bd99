import RustProxy.Bridge.Fidelity

/-!
# Delivery after the end of the source

Once the source of a direction has ended, in a run without errors whose destination stays open, the
destination bridge can take everything off the tunnel and write it, unless it is blocked: it waits in a
send of its own for room in a queue that the source bridge will not read any more.

* `exists_delivery` is a continuation that delivers everything, for a destination that receives.
* `not_arrives_of_blocked` and `arrives_of_not_blocked` say what becomes of a destination that sends.
* `stream_fidelity_iff` is about whole schedules.
-/

namespace RustProxy.Bridge

open RustProxy.Proto Transition

variable {cap : Side → ℕ} {connId : UInt64} {s s' : System}

/-- The source has ended and the bridge will not read it again. -/
def Pc.PastEof : Pc → Prop
  | .sendingClose => True
  | .closing => True
  | .ended => True
  | _ => False

/-- A message that is being written has bytes left. -/
def Pc.HasRest (pc : Pc) : Prop := ∀ n rest, pc = .writing n rest → rest ≠ []

/-- What a bridge has still to write stays non-empty along a move. -/
lemma Move.hasRest {src src' : Pc} {event : Event} (h : Move src event src') : src'.HasRest := by
  intro n rest hpc
  cases h with
  | nextData id hne =>
      cases hpc
      exact hne
  | wrotePart n hpos hlt =>
      cases hpc
      simpa using hlt
  | _ => cases hpc

/-- The end of the source is noted in a direction only by a bridge that then is past it. -/
lemma Move.pastEof {src src' : Pc} {event : Event} {d : Direction} (h : Move src event src')
    (heof : d.eof = true → src.PastEof) :
    (d.feed connId src event).eof = true → src'.PastEof := by
  cases h with
  | readEof | closed | sentClose | sendFailed | sendCloseFailed | readErr | nextErr | nextNone
  | writeFailed | shutDown => exact fun _ => trivial
  | @readChunk data hne => simpa [Direction.feed, hne, Pc.PastEof] using heof
  | _ => exact heof

/-- What holds of both bridges in every state of every run. -/
structure System.Paced (s : System) : Prop where
  hasRest : ∀ x, (s.bridge x).pc.HasRest
  pastEof : ∀ x, (s.out x).eof = true → (s.bridge x).pc.PastEof

/-- The receiving end does not change whether the source has ended. -/
lemma Direction.drain_eof (pc : Pc) (d : Direction) (event : Event) :
    (d.drain pc event).eof = d.eof := by
  unfold Direction.drain
  split
  · rfl
  · split <;> rfl
  · rfl
  · rfl

/-- Neither side's bridge comes to write nothing. -/
lemma hasRest_step (h : ∀ x, (s.bridge x).pc.HasRest) {label : Side × Event}
    (hstep : step cap connId s label = some s') (x : Side) : (s'.bridge x).pc.HasRest := by
  obtain ⟨z, event⟩ := label
  obtain ⟨-, hmove, hother, -, -⟩ := step_eq_some hstep
  rcases z.eq_or_eq_other x with rfl | rfl
  · exact hmove.hasRest
  · rw [hother]
    exact h z.other

/-- Every step keeps the system paced. -/
lemma paced_step (h : s.Paced) {label : Side × Event}
    (hstep : step cap connId s label = some s') : s'.Paced := by
  refine ⟨hasRest_step h.hasRest hstep, ?_⟩
  obtain ⟨z, event⟩ := label
  obtain ⟨-, hmove, hother, hfeed, hdrain⟩ := step_eq_some hstep
  intro x
  rcases z.eq_or_eq_other x with rfl | rfl
  · rw [hfeed]
    exact hmove.pastEof (h.pastEof x)
  · rw [hdrain, hother, Direction.drain_eof]
    exact h.pastEof z.other

/-- The start is paced. -/
lemma paced_start : System.start.Paced where
  hasRest := fun _ _ _ hpc => by simp [System.start, Locals.start] at hpc
  pastEof := fun _ heof => by simp [System.start, Direction.start] at heof

/-! ## The continuation -/

/-- The steps a bridge needs to be done with what it has taken off the tunnel. -/
def Pc.dstWork : Pc → ℕ
  | .writing _ _ => 1
  | .shuttingDown => 1
  | _ => 0

/-- The steps the marker takes that is not yet on the queue. -/
def Pc.srcWork : Pc → ℕ
  | .sendingClose => 3
  | _ => 0

/-- A bound on the steps left until the destination has everything. -/
def System.remaining (s : System) (x : Side) : ℕ :=
  2 * (s.out x).queue.length + (s.bridge x.other).pc.dstWork + (s.bridge x).pc.srcWork

/-- The events of a continuation: they hand over what is already under way. -/
def Event.Handover : Event → Prop
  | .next (.message _) => True
  | .sent => True
  | .wrote _ => True
  | .shutDown => True
  | _ => False

/-- Handing over causes no failure anywhere. -/
lemma Event.Handover.clean {event : Event} (h : event.Handover) (x y : Side) :
    Clean x (y, event) := by
  refine ⟨?_, ?_⟩
  · unfold Event.Handover at h
    split at h <;> trivial
  · rintro - rfl
    exact h

/-- The source has ended, and the destination bridge does not wait for the tunnel to take a chunk of
its own. -/
structure System.Delivering (connId : UInt64) (s : System) (x : Side) : Prop where
  ordered : s.OrderlyFrom connId x
  paced : s.Paced
  receiving : ∀ data, (s.bridge x.other).pc ≠ .sending data
  eof : (s.out x).eof = true

/-- A bridge that only hands over never begins another send. -/
lemma Move.ne_sending {src src' : Pc} {event : Event} (h : Move src event src')
    (hevent : event.Handover) (data : Bytes) : src' ≠ .sending data := by
  cases h with
  | readChunk => exact absurd hevent id
  | _ => simp

/-- Handing over reads nothing more from the source. -/
lemma Event.Handover.feed {event : Event} (h : event.Handover) (pc : Pc) (d : Direction) :
    (d.feed connId pc event).got = d.got ∧ (d.feed connId pc event).eof = d.eof := by
  unfold Event.Handover at h
  split at h <;> first | exact ⟨rfl, rfl⟩ | exact absurd h id

/-- The receiving end does not change what was read. -/
lemma Direction.drain_got (pc : Pc) (d : Direction) (event : Event) :
    (d.drain pc event).got = d.got := by
  unfold Direction.drain
  split
  · rfl
  · split <;> rfl
  · rfl
  · rfl

/-- Handing over reads nothing from the source and starts no chunk of the destination. -/
lemma System.Delivering.handover {x y : Side} {event : Event} (h : s.Delivering connId x)
    (hevent : event.Handover) (hstep : step cap connId s (y, event) = some s') :
    s'.Delivering connId x ∧ (s'.out x).got = (s.out x).got := by
  have hordered := orderlyFrom_step h.ordered (hevent.clean x y) hstep
  have hpaced := paced_step h.paced hstep
  obtain ⟨-, hmove, hother, hfeed, hdrain⟩ := step_eq_some hstep
  rcases x.eq_or_eq_other y with rfl | rfl
  · obtain ⟨hgot, heof⟩ := @Event.Handover.feed connId event hevent (s.bridge y).pc (s.out y)
    rw [← hfeed] at hgot heof
    exact ⟨⟨hordered, hpaced, by rw [hother]; exact h.receiving, heof.trans h.eof⟩, hgot⟩
  · rw [Side.other_other] at hdrain
    refine ⟨⟨hordered, hpaced, fun data => hmove.ne_sending hevent data, ?_⟩, ?_⟩
    · rw [hdrain, Direction.drain_eof]
      exact h.eof
    · rw [hdrain, Direction.drain_got]

/-- Some step hands over and shortens what is left. -/
def System.CanHandOver (cap : Side → ℕ) (connId : UInt64) (s : System) (x : Side) : Prop :=
  ∃ y event s', event.Handover ∧ step cap connId s (y, event) = some s' ∧
    s'.remaining x < s.remaining x

/-- The destination bridge can hand over, if its moves shorten what is left. -/
lemma canHandOver_dst {x : Side} {event : Event} {pc : Pc}
    (hmove : Move (s.bridge x.other).pc event pc) (hevent : event.Handover)
    (hadmits : admits cap s x.other event)
    (hless : ∀ pc', Move (s.bridge x.other).pc event pc' →
      2 * ((s.out x).drain (s.bridge x.other).pc event).queue.length + pc'.dstWork <
        2 * (s.out x).queue.length + (s.bridge x.other).pc.dstWork) :
    s.CanHandOver cap connId x := by
  obtain ⟨s', hstep⟩ := @step_isSome_of_move cap connId s _ _ _ hadmits hmove
  obtain ⟨-, hmove', hother, -, hdrain⟩ := step_eq_some hstep
  rw [Side.other_other] at hother hdrain
  have hlt := hless _ hmove'
  rw [← hdrain] at hlt
  refine ⟨x.other, event, s', hevent, hstep, ?_⟩
  rw [System.remaining, System.remaining, hother]
  omega

/-- A bridge in its loop takes the next message. -/
lemma canHandOver_next {x : Side} {msg : Message} {msgs : List Message}
    (hdst : (s.bridge x.other).pc = .select) (hqueue : (s.out x).queue = msg :: msgs) :
    s.CanHandOver cap connId x := by
  have hadmits : admits cap s x.other (.next (.message msg)) := by
    simp [admits, hqueue]
  have hmove : ∃ pc, Move .select (.next (.message msg)) pc := by
    rcases msg with ctrl | ⟨id, _ | ⟨a, l⟩⟩
    · exact ⟨_, .nextControl ctrl⟩
    · exact ⟨_, .nextMarker id⟩
    · exact ⟨_, .nextData id (List.cons_ne_nil a l)⟩
  obtain ⟨pc, hmove⟩ := hmove
  rw [← hdst] at hmove
  apply canHandOver_dst hmove trivial hadmits
  intro pc' hpc
  rw [hdst] at hpc ⊢
  have hwork : pc'.dstWork ≤ 1 := by
    cases hpc <;> simp [Pc.dstWork]
  have hlen : ((s.out x).drain .select (.next (.message msg))).queue.length + 1
      = (s.out x).queue.length := by
    simp [Direction.drain, hqueue]
  have hselect : Pc.dstWork .select = 0 := rfl
  omega

/-- The source bridge puts the marker on the empty queue. -/
lemma canHandOver_marker {x : Side} (hcap : 0 < cap x) (hsrc : (s.bridge x).pc = .sendingClose)
    (hqueue : (s.out x).queue = []) : s.CanHandOver cap connId x := by
  have hadmits : admits cap s x .sent := by
    simp [admits, hqueue, hcap]
  have hmove : Move (s.bridge x).pc .sent .closing := by
    rw [hsrc]
    exact .sentClose
  obtain ⟨s', hstep⟩ := @step_isSome_of_move cap connId s _ _ _ hadmits hmove
  obtain ⟨-, hmove', hother, hfeed, -⟩ := step_eq_some hstep
  refine ⟨x, .sent, s', trivial, hstep, ?_⟩
  rw [hsrc] at hmove' hfeed
  rw [System.remaining, System.remaining, hother, hfeed, hsrc, hqueue]
  generalize (s'.bridge x).pc = pc at hmove'
  cases hmove'
  simp [Direction.feed, hqueue, Pc.outgoing, Pc.srcWork]
  omega

/-- As long as the destination stream is not shut down, handing over can go on. -/
lemma System.Delivering.canHandOver {x : Side} (h : s.Delivering connId x) (hcap : 0 < cap x)
    (hshut : (s.out x).shut ≠ true) : s.CanHandOver cap connId x := by
  cases hdst : (s.bridge x.other).pc with
  | sending data => exact absurd hdst (h.receiving data)
  | sendingClose => exact absurd hdst h.ordered.orderly.dst_ne.1
  | closing => exact absurd hdst h.ordered.orderly.dst_ne.2
  | ended => exact absurd (h.ordered.orderly.shut hdst) hshut
  | writing n rest =>
      have hmove : Move (s.bridge x.other).pc (.wrote rest.length) .select := by
        rw [hdst]
        exact .wroteAll n (h.paced.hasRest x.other n rest hdst)
      apply canHandOver_dst hmove trivial rfl
      intro pc' hpc
      rw [hdst] at hpc ⊢
      cases hpc with
      | wroteAll => simp [Direction.drain, Pc.dstWork]
      | wrotePart _ _ hlt => exact absurd hlt (lt_irrefl _)
  | shuttingDown =>
      have hmove : Move (s.bridge x.other).pc .shutDown .ended := by
        rw [hdst]
        exact .shutDown
      apply canHandOver_dst hmove trivial rfl
      intro pc' hpc
      rw [hdst] at hpc ⊢
      cases hpc
      simp [Direction.drain, Pc.dstWork]
  | select =>
      cases hqueue : (s.out x).queue with
      | cons msg msgs => exact canHandOver_next hdst hqueue
      | nil =>
          have hsrc : (s.bridge x).pc = .sendingClose := by
            have hpast := h.paced.pastEof x h.eof
            have hdone := h.ordered.orderly.src_done
            rw [hqueue, hdst] at hdone
            cases hpc : (s.bridge x).pc <;> simp_all [Pc.PastEof, Pc.Done]
          exact canHandOver_marker hcap hsrc hqueue

/-- Handing over can go on until the destination stream is shut down. -/
theorem System.Delivering.exists_delivery {x : Side} (h : s.Delivering connId x)
    (hcap : 0 < cap x) : ∃ labels t, (∀ label ∈ labels, label.2.Handover) ∧
      exec (step cap connId) s labels = some t ∧ (t.out x).shut = true ∧
      (t.out x).put = (s.out x).got := by
  induction hn : s.remaining x using Nat.strong_induction_on generalizing s with
  | _ n ih =>
      by_cases hshut : (s.out x).shut = true
      · have hflow : Flow connId (s.bridge x).pc (s.bridge x.other).pc (s.out x) :=
          h.ordered.flow x
        exact ⟨[], s, by simp, rfl, hshut, (hflow.shut hshut).2.all⟩
      · obtain ⟨y, event, s', hevent, hstep, hless⟩ := h.canHandOver hcap hshut
        obtain ⟨h', hgot⟩ := h.handover hevent hstep
        obtain ⟨labels, t, hall, hrun, ht, hput⟩ := ih _ (hn ▸ hless) h' rfl
        refine ⟨(y, event) :: labels, t, ?_, ?_, ht, hput.trans hgot⟩
        · simpa [hevent] using hall
        · exact exec_cons_eq_some.mpr ⟨s', hstep, hrun⟩

/-! ## A destination that is blocked -/

/-- The bridge waits for room in its full outgoing queue. -/
def Blocked (cap : Side → ℕ) (s : System) (x : Side) : Prop :=
  (∃ data, (s.bridge x).pc = .sending data) ∧ cap x ≤ (s.out x).queue.length

instance Blocked.decidable (cap : Side → ℕ) (s : System) (x : Side) : Decidable (Blocked cap s x) :=
  match h : (s.bridge x).pc with
  | .sending data =>
      decidable_of_iff (cap x ≤ (s.out x).queue.length) ⟨fun hfull => ⟨⟨data, h⟩, hfull⟩, And.right⟩
  | .select | .sendingClose | .closing | .writing _ _ | .shuttingDown | .ended =>
      .isFalse fun ⟨⟨_, hsending⟩, _⟩ => nomatch h.symm.trans hsending

/-- Without an error, and without an end of its own stream, the destination can still be given
everything that was read from the source, and is shut down after that. -/
def Arrives (cap : Side → ℕ) (connId : UInt64) (s : System) (x : Side) : Prop :=
  ∃ more t, (∀ label ∈ more, Clean x label) ∧ exec (step cap connId) s more = some t ∧
    (t.out x).shut = true ∧ (t.out x).put = (s.out x).got

/-- Past the end of its stream a bridge takes no message any more. -/
lemma Move.pastEof_stays {src src' : Pc} {event : Event} (h : Move src event src')
    (hpast : src.PastEof) : src'.PastEof ∧ ∀ msg, event ≠ .next (.message msg) := by
  cases h with
  | sentClose | sendCloseFailed | closed => exact ⟨trivial, nofun⟩
  | _ => exact absurd hpast id

/-- Only a message that is taken leaves the queue. -/
lemma Direction.drain_queue {pc : Pc} {d : Direction} {event : Event}
    (h : ∀ msg, event ≠ .next (.message msg)) : (d.drain pc event).queue = d.queue := by
  unfold Direction.drain
  split
  · exact absurd rfl (h _)
  · split <;> rfl
  · rfl
  · rfl

/-- A destination that is blocked when the source is past its end stays so, as long as there is no
error. -/
lemma blocked_step {x : Side} (hpast : (s.bridge x).pc.PastEof) (hblocked : Blocked cap s x.other)
    {label : Side × Event} (hclean : Clean x label) (hstep : step cap connId s label = some s') :
    (s'.bridge x).pc.PastEof ∧ Blocked cap s' x.other := by
  obtain ⟨z, event⟩ := label
  obtain ⟨hadmits, hmove, hother, hfeed, hdrain⟩ := step_eq_some hstep
  obtain ⟨⟨data, hpc⟩, hfull⟩ := hblocked
  rcases x.eq_or_eq_other z with rfl | rfl
  · obtain ⟨hpast', hnext⟩ := hmove.pastEof_stays hpast
    refine ⟨hpast', ⟨data, by rw [hother, hpc]⟩, ?_⟩
    rw [hdrain, Direction.drain_queue hnext]
    exact hfull
  · exfalso
    rw [hpc] at hmove
    generalize (s'.bridge x.other).pc = pc at hmove
    cases hmove with
    | sent =>
        have hroom : (s.out x.other).queue.length < cap x.other := by
          simpa [admits] using hadmits
        omega
    | sendFailed => exact hclean.1

/-- The bridge that has moved is blocked only if it has just read a chunk for a full queue. -/
lemma blocked_of_step {x : Side} {event : Event}
    (hstep : step cap connId s (x, event) = some s') (hblocked : Blocked cap s' x) :
    ∃ data, event = .read (.ok data) ∧ data ≠ [] ∧ cap x ≤ (s.out x).queue.length ∧
      (Blocked cap s' x.other → Blocked cap s x.other) := by
  obtain ⟨⟨data, hpc⟩, hfull⟩ := hblocked
  obtain ⟨-, hmove, hother, hfeed, hdrain⟩ := step_eq_some hstep
  rw [hpc] at hmove
  rw [hfeed] at hfull
  generalize (s.bridge x).pc = pc at hmove hfull hdrain
  cases hmove with
  | readChunk hne =>
      refine ⟨data, rfl, hne, hfull, ?_⟩
      unfold Blocked
      rw [hother, hdrain]
      exact id

/-- Nothing arrives at a destination that is blocked when the source is past its end. -/
lemma not_arrives_of_blocked {x : Side} (hflows : ∀ y, s.FlowFrom connId y)
    (hpast : (s.bridge x).pc.PastEof) (hblocked : Blocked cap s x.other) :
    ¬ Arrives cap connId s x := by
  rintro ⟨more, t, hclean, hrun, hshut, -⟩
  have hkeep : ((t.bridge x).pc.PastEof ∧ Blocked cap t x.other) ∧ ∀ y, t.FlowFrom connId y := by
    refine exec_invariant_of_eachStep
      (I := fun u => ((u.bridge x).pc.PastEof ∧ Blocked cap u x.other) ∧ ∀ y, u.FlowFrom connId y)
      ?_ ⟨⟨hpast, hblocked⟩, hflows⟩ (eachStep_of_forall_mem hclean) hrun
    rintro u label u' ⟨⟨hpast, hblocked⟩, hflows⟩ hok hstep
    exact ⟨blocked_step hpast hblocked hok hstep, flowFrom_step hflows hstep⟩
  obtain ⟨⟨-, ⟨data, hpc⟩, -⟩, hflows'⟩ := hkeep
  have hended := ((hflows' x).shut hshut).1
  rw [hpc] at hended
  cases hended

/-- Everything arrives at a destination that is not blocked. -/
lemma arrives_of_not_blocked {x : Side} (hcap : 0 < cap x) (hordered : s.OrderlyFrom connId x)
    (hpaced : s.Paced) (heof : (s.out x).eof = true) (hfree : ¬ Blocked cap s x.other) :
    Arrives cap connId s x := by
  have hhandover : ∀ {u : System}, u.Delivering connId x → Arrives cap connId u x := by
    intro u hu
    obtain ⟨more, t, hmore, hrun, hshut, hput⟩ := hu.exists_delivery hcap
    exact ⟨more, t, fun label hlabel => (hmore label hlabel).clean x label.1, hrun, hshut, hput⟩
  by_cases hsending : ∃ data, (s.bridge x.other).pc = .sending data
  · -- there is room for the chunk of the destination, which receives after that
    obtain ⟨data, hpc⟩ := hsending
    have hroom : admits cap s x.other .sent := by
      have hlt : (s.out x.other).queue.length < cap x.other := by
        by_contra hfull
        exact hfree ⟨⟨data, hpc⟩, not_lt.mp hfull⟩
      simpa [admits] using hlt
    have hmove : Move (s.bridge x.other).pc .sent .select := by
      rw [hpc]
      exact .sent data
    obtain ⟨s', hstep⟩ := @step_isSome_of_move cap connId s x.other .sent .select hroom hmove
    have hsent : Event.Handover .sent := trivial
    have hclean : Clean x (x.other, .sent) := hsent.clean x x.other
    obtain ⟨-, hmove', -, -, hdrain⟩ := step_eq_some hstep
    rw [Side.other_other] at hdrain
    have hdelivering : s'.Delivering connId x := by
      refine ⟨orderlyFrom_step hordered hclean hstep, paced_step hpaced hstep,
        fun data' => hmove'.ne_sending trivial data', ?_⟩
      rw [hdrain, Direction.drain_eof]
      exact heof
    obtain ⟨more, t, hmore, hrun, hshut, hput⟩ := hhandover hdelivering
    refine ⟨(x.other, .sent) :: more, t, List.forall_mem_cons.mpr ⟨hclean, hmore⟩,
      exec_cons_eq_some.mpr ⟨s', hstep, hrun⟩, hshut, hput.trans ?_⟩
    rw [hdrain, Direction.drain_got]
  · push Not at hsending
    exact hhandover ⟨hordered, hpaced, hsending, heof⟩

/-! ## The theorem -/

/-- What is written is a prefix of what was read, and the destination stream is shut down only after the
end of the source, with everything written. -/
structure Faithful (x : Side) (s : System) : Prop where
  put_prefix : (s.out x).put <+: (s.out x).got
  shut : (s.out x).shut = true → (s.out x).eof = true ∧ (s.out x).put = (s.out x).got

/-- The destination bridge does not end before everything is written; and once the source has ended,
everything arrives. -/
structure Delivers (cap : Side → ℕ) (connId : UInt64) (x : Side) (s : System) : Prop where
  ended : (s.bridge x.other).pc = .ended → (s.out x).eof = true ∧ (s.out x).put = (s.out x).got
  arrives : (s.out x).eof = true → Arrives cap connId s x

/-- The source does not end while the destination bridge is blocked, and after its end the destination
bridge starts no chunk for a full queue. -/
def NotBlockedAtEof (cap : Side → ℕ) (x : Side) (s : System) : Side × Event → Prop
  | (y, .read (.ok [])) => y = x → ¬ Blocked cap s x.other
  | (y, .read (.ok (_ :: _))) => y = x.other → (s.out x).eof = true →
      (s.out x.other).queue.length < cap x.other
  | _ => True

instance NotBlockedAtEof.decidable (cap : Side → ℕ) (x : Side) (s : System) :
    ∀ label, Decidable (NotBlockedAtEof cap x s label)
  | (y, .read (.ok [])) => inferInstanceAs (Decidable (y = x → ¬ Blocked cap s x.other))
  | (y, .read (.ok (_ :: _))) =>
      inferInstanceAs (Decidable (y = x.other → (s.out x).eof = true →
        (s.out x.other).queue.length < cap x.other))
  | (_, .read .err) => .isTrue trivial
  | (_, .next _) => .isTrue trivial
  | (_, .sent) => .isTrue trivial
  | (_, .sendFailed _) => .isTrue trivial
  | (_, .closed) => .isTrue trivial
  | (_, .wrote _) => .isTrue trivial
  | (_, .writeFailed) => .isTrue trivial
  | (_, .shutDown) => .isTrue trivial

/-- The invariant of the runs in which everything arrives. -/
structure Arriving (cap : Side → ℕ) (connId : UInt64) (x : Side) (s : System) : Prop where
  ordered : s.OrderlyFrom connId x
  paced : s.Paced
  free : (s.out x).eof = true → ¬ Blocked cap s x.other

/-- A direction whose receiver can come back for its messages delivers everything. -/
lemma Arriving.delivers {x : Side} (hcap : 0 < cap x) (h : Arriving cap connId x s) :
    Delivers cap connId x s where
  ended := by
    intro hended
    have hflow : Flow connId (s.bridge x).pc (s.bridge x.other).pc (s.out x) := h.ordered.flow x
    have hshut := (hflow.shut (h.ordered.orderly.shut hended)).2
    exact ⟨hshut.eof, hshut.all⟩
  arrives := fun heof => arrives_of_not_blocked hcap h.ordered h.paced heof (h.free heof)

/-- The end of a stream is noticed by the bridge that reads it. -/
lemma eof_of_step {x z : Side} {event : Event} (hstep : step cap connId s (z, event) = some s')
    (heof : (s'.out x).eof = true) : (s.out x).eof = true ∨ z = x ∧ event = .read (.ok []) := by
  obtain ⟨-, -, -, hfeed, hdrain⟩ := step_eq_some hstep
  rcases x.eq_or_eq_other z with rfl | rfl
  · rw [hfeed] at heof
    unfold Direction.feed at heof
    split at heof
    · case h_1 data =>
      cases data with
      | nil => exact Or.inr ⟨rfl, rfl⟩
      | cons a l => exact Or.inl (by simpa using heof)
    all_goals exact Or.inl heof
  · rw [Side.other_other] at hdrain
    rw [hdrain, Direction.drain_eof] at heof
    exact Or.inl heof

/-- A destination that is blocked after a step of the source was so before. -/
lemma blocked_of_step_other {x : Side} {event : Event}
    (hstep : step cap connId s (x, event) = some s') (hblocked : Blocked cap s' x.other) :
    Blocked cap s x.other := by
  obtain ⟨-, -, hother, -, hdrain⟩ := step_eq_some hstep
  obtain ⟨hsending, hfull⟩ := hblocked
  rw [hother] at hsending
  refine ⟨hsending, hfull.trans ?_⟩
  rw [hdrain]
  unfold Direction.drain
  split
  · rw [List.length_tail]
    exact Nat.sub_le _ _
  · split <;> exact le_rfl
  · exact le_rfl
  · exact le_rfl

/-- A step that does not block the receiver at the end of the source keeps the rest on its way. -/
lemma arriving_step {x : Side} (h : Arriving cap connId x s) {label : Side × Event}
    (hclean : Clean x label) (hok : NotBlockedAtEof cap x s label)
    (hstep : step cap connId s label = some s') : Arriving cap connId x s' := by
  refine ⟨orderlyFrom_step h.ordered hclean hstep, paced_step h.paced hstep, ?_⟩
  obtain ⟨z, event⟩ := label
  intro heof hblocked
  rcases x.eq_or_eq_other z with rfl | rfl
  · have hold := blocked_of_step_other hstep hblocked
    rcases eof_of_step hstep heof with heof | ⟨-, rfl⟩
    · exact h.free heof hold
    · exact hok rfl hold
  · obtain ⟨data, rfl, hne, hfull, -⟩ := blocked_of_step hstep hblocked
    obtain ⟨a, l, rfl⟩ := List.exists_cons_of_ne_nil hne
    rcases eof_of_step hstep heof with heof | ⟨-, hevent⟩
    · exact absurd (hok rfl heof) (not_lt.mpr hfull)
    · cases hevent

/-- A source that ends while the destination is blocked. -/
lemma not_arrives_of_readEof {x : Side} (h : Arriving cap connId x s)
    (hblocked : Blocked cap s x.other) (hstep : step cap connId s (x, .read (.ok [])) = some s') :
    (s'.out x).eof = true ∧ ¬ Arrives cap connId s' x := by
  obtain ⟨-, hmove, hother, hfeed, hdrain⟩ := step_eq_some hstep
  have hpast : (s'.bridge x).pc.PastEof := by
    generalize (s.bridge x).pc = pc, (s'.bridge x).pc = pc' at hmove
    cases hmove with
    | readEof => trivial
    | readChunk hne => exact absurd rfl hne
  have hblocked' : Blocked cap s' x.other := by
    rw [Blocked, hother, hdrain]
    exact hblocked
  refine ⟨?_, not_arrives_of_blocked (flowFrom_step h.ordered.flow hstep) hpast hblocked'⟩
  rw [hfeed]
  exact Bool.or_true _

/-- A destination that starts a chunk for a full queue after the source has ended. -/
lemma not_arrives_of_readChunk {x : Side} {data : Bytes} (hne : data ≠ [])
    (h : Arriving cap connId x s) (heof : (s.out x).eof = true)
    (hfull : cap x.other ≤ (s.out x.other).queue.length)
    (hstep : step cap connId s (x.other, .read (.ok data)) = some s') :
    (s'.out x).eof = true ∧ ¬ Arrives cap connId s' x := by
  obtain ⟨-, hmove, hother, hfeed, hdrain⟩ := step_eq_some hstep
  rw [Side.other_other] at hother hdrain
  have hpast : (s'.bridge x).pc.PastEof := by
    rw [hother]
    exact h.paced.pastEof x heof
  have hblocked : Blocked cap s' x.other := by
    refine ⟨?_, ?_⟩
    · generalize (s.bridge x.other).pc = pc, (s'.bridge x.other).pc = pc' at hmove
      cases hmove with
      | readEof => exact absurd rfl hne
      | readChunk => exact ⟨data, rfl⟩
    · rw [hfeed]
      exact hfull
  refine ⟨?_, not_arrives_of_blocked (flowFrom_step h.ordered.flow hstep) hpast hblocked⟩
  rw [hdrain, Direction.drain_eof]
  exact heof

/-- A step that does leaves something that never arrives. -/
lemma not_delivers_step {x : Side} (h : Arriving cap connId x s) {label : Side × Event}
    (hbad : ¬ NotBlockedAtEof cap x s label) (hstep : step cap connId s label = some s') :
    ¬ Delivers cap connId x s' := by
  suffices hlost : (s'.out x).eof = true ∧ ¬ Arrives cap connId s' x from
    fun hdelivers => hlost.2 (hdelivers.arrives hlost.1)
  unfold NotBlockedAtEof at hbad
  split at hbad
  · push Not at hbad
    obtain ⟨rfl, hblocked⟩ := hbad
    exact not_arrives_of_readEof h hblocked hstep
  · push Not at hbad
    obtain ⟨rfl, heof, hfull⟩ := hbad
    exact not_arrives_of_readChunk (List.cons_ne_nil _ _) h heof hfull hstep
  · exact absurd trivial hbad

/-- End-to-end fidelity of a tunnelled TCP connection, in the direction whose source is at `x`.  In every
run, what is written is a prefix of what was read, and the destination stream is shut down only with
everything written.  In a run without errors whose destination stream does not end, everything arrives
once the source has ended, exactly if the destination bridge is not caught in a send into its full
queue: it takes nothing off the tunnel then, and past the end of its stream the source bridge does not
either. -/
theorem stream_fidelity_iff (cap : Side → ℕ) (connId : UInt64) (x : Side) (hcap : 0 < cap x)
    (labels : List (Side × Event)) :
    Always (step cap connId) (Faithful x) .start labels ∧
      ((∀ label ∈ labels, Clean x label) →
        (Always (step cap connId) (Delivers cap connId x) .start labels ↔
          EachStep (step cap connId) (NotBlockedAtEof cap x) .start labels)) := by
  have hany : EachStep (step cap connId) (fun _ _ => True) .start labels :=
    eachStep_of_forall_mem fun _ _ => trivial
  constructor
  · refine always_of_eachStep (I := fun s : System => ∀ y, s.FlowFrom connId y) ?_ ?_
      (orderlyFrom_start x).flow hany
    · intro s hflow
      have hx : Flow connId (s.bridge x).pc (s.bridge x.other).pc (s.out x) := hflow x
      exact ⟨hx.put_prefix, fun hshut => ⟨(hx.shut hshut).2.eof, (hx.shut hshut).2.all⟩⟩
    · intro s label s' hflow _ hstep
      exact flowFrom_step hflow hstep
  · intro hclean
    have hstart : Arriving cap connId x .start :=
      ⟨orderlyFrom_start x, paced_start, fun heof => by simp [System.start, Direction.start] at heof⟩
    exact always_iff_eachStep_of_mem (fun s hs => hs.delivers hcap)
      (fun s label s' hs hok hready hstep => arriving_step hs hok hready hstep)
      (fun s label s' hs _ hbad hstep => not_delivers_step hs hbad hstep) hstart hclean

/-- Two bytes from the user, then the end of the user's stream. -/
def sampleTransfer : List (Side × Event) :=
  [(.server, .read (.ok [1, 2])), (.server, .sent), (.server, .read (.ok [])),
    (.client, .next (.message (chunk 7 [1, 2]))), (.server, .sent), (.client, .wrote 1),
    (.server, .closed), (.client, .wrote 1), (.client, .next (.message (chunk 7 []))),
    (.client, .shutDown)]

/-- Every state of the sample transfer delivers. -/
theorem stream_fidelity_sample :
    Always (step (fun _ => 1) 7) (Delivers (fun _ => 1) 7 .server) .start sampleTransfer := by
  refine ((stream_fidelity_iff (fun _ => 1) 7 .server Nat.one_pos sampleTransfer).2 ?_).mpr ?_
  · simp [sampleTransfer, Clean, Event.NoError, Side.other]
  · decide

/-- A byte of the user fills one queue, a byte of the local service the other, which the service's next
byte waits for; then the user's stream ends. -/
def endsWhileBlocked : List (Side × Event) :=
  [(.server, .read (.ok [1])), (.server, .sent), (.client, .read (.ok [2])), (.client, .sent),
    (.client, .read (.ok [3])), (.server, .read (.ok []))]

/-- The byte of the user is never written to the local service. -/
theorem rest_never_arrives :
    ¬ ∀ (cap : Side → ℕ) (connId : UInt64) (x : Side) (labels : List (Side × Event)) (s : System),
      (∀ y, 0 < cap y) → (∀ label ∈ labels, Clean x label) →
        exec (step cap connId) .start labels = some s → (s.out x).eof = true →
          Arrives cap connId s x := by
  intro h
  obtain ⟨s, hs⟩ : ∃ s, exec (step (fun _ => 1) 7) .start endsWhileBlocked = some s := ⟨_, rfl⟩
  have hclean : ∀ label ∈ endsWhileBlocked, Clean .server label := by
    simp [endsWhileBlocked, Clean, Event.NoError, Side.other]
  have hpc : (s.bridge .server).pc = .sendingClose := by
    cases hs
    rfl
  have hpast : (s.bridge .server).pc.PastEof := by
    rw [hpc]
    trivial
  have hblocked : Blocked (fun _ => 1) s .client := by
    cases hs
    exact ⟨⟨[3], rfl⟩, le_rfl⟩
  have heof : (s.out .server).eof = true := by
    cases hs
    rfl
  exact not_arrives_of_blocked (flowFrom_of_exec hs) hpast hblocked
    (h (fun _ => 1) 7 .server endsWhileBlocked s (fun _ => Nat.one_pos) hclean hs heof)

end RustProxy.Bridge
