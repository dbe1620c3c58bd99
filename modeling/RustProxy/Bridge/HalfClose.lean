import RustProxy.Bridge.Delivery

/-!
# Half-close

An endpoint that has sent everything may shut down its sending side and go on reading.  The bridge
at its side reads the end of the stream, passes the marker on, closes the work connection and ends:
it does not take another message off the tunnel.

* `streamStep` is a step of a connection whose endpoints send `total` and in which no operation
  fails; the end of a stream is read after everything its endpoint sends.
* `StillDelivers` says that an endpoint whose end was read can still be given all the other one
  sends.
* `frozen_step` is the reason it fails: past the end of its stream a bridge writes nothing.
  `stillDelivers_iff` says when it holds.
-/

namespace RustProxy.Bridge

open RustProxy.Proto Transition

instance Event.NoError.decidable : ∀ event : Event, Decidable event.NoError
  | .read (.ok _) => .isTrue trivial
  | .read .err => .isFalse id
  | .next (.message _) => .isTrue trivial
  | .next .err => .isFalse id
  | .next .none => .isTrue trivial
  | .sent => .isTrue trivial
  | .sendFailed _ => .isFalse id
  | .closed => .isTrue trivial
  | .wrote _ => .isTrue trivial
  | .writeFailed => .isFalse id
  | .shutDown => .isTrue trivial

/-- What a read gives follows what the endpoint sends; the end comes after all of it. -/
def Event.Follows (sent got : Bytes) : Event → Prop
  | .read (.ok data) => got ++ data <+: sent ∧ (data = [] → got = sent)
  | _ => True

instance Event.Follows.decidable (sent got : Bytes) :
    ∀ event : Event, Decidable (event.Follows sent got)
  | .read (.ok data) =>
      inferInstanceAs (Decidable (got ++ data <+: sent ∧ (data = [] → got = sent)))
  | .read .err => .isTrue trivial
  | .next _ => .isTrue trivial
  | .sent => .isTrue trivial
  | .sendFailed _ => .isTrue trivial
  | .closed => .isTrue trivial
  | .wrote _ => .isTrue trivial
  | .writeFailed => .isTrue trivial
  | .shutDown => .isTrue trivial

variable (cap : Side → ℕ) (connId : UInt64) (total : Side → Bytes)

/-- A step of a connection without errors whose endpoints send `total`. -/
def streamStep (s : System) (label : Side × Event) : Option System :=
  if label.2.NoError ∧ label.2.Follows (total label.1) (s.out label.1).got then
    step cap connId s label
  else none

/-- From here on, everything the other endpoint sends can be delivered to an endpoint whose end has
been read. -/
def StillDelivers (s : System) : Prop :=
  ∀ x, (s.out x).eof = true → ∃ more t, exec (streamStep cap connId total) s more = some t ∧
    (t.out x.other).put = total x.other

/-- When the end of an endpoint's stream is read, everything the other endpoint sends has been
written to it. -/
def DeliveredAtEof (s : System) (label : Side × Event) : Prop :=
  label.2 = .read (.ok []) → (s.out label.1.other).put = total label.1.other

variable {cap connId total} {s s' : System} {label : Side × Event}

/-- A step with given streams is a step that reads only what the stream has next. -/
lemma streamStep_eq_some (h : streamStep cap connId total s label = some s') :
    label.2.Follows (total label.1) (s.out label.1).got ∧ step cap connId s label = some s' := by
  unfold streamStep at h
  split at h
  case isTrue hadmits => exact ⟨hadmits.2, h⟩
  case isFalse => cases h

/-! ## Nothing is written past the end -/

/-- A bridge past the end of its stream stays there and writes nothing. -/
lemma Move.past_eof {src src' : Pc} {event : Event} {d : Direction} (h : Move src event src')
    (hpast : src.PastEof) : src'.PastEof ∧ (d.drain src event).put = d.put := by
  cases h with
  | sentClose | sendCloseFailed | closed => exact ⟨trivial, rfl⟩
  | _ => exact absurd hpast id

/-- The other bridge does not touch what is written to this endpoint. -/
lemma Direction.feed_put (pc : Pc) (d : Direction) (event : Event) :
    (d.feed connId pc event).put = d.put := by
  unfold Direction.feed
  split <;> rfl

/-- Past the end of its stream, a bridge writes nothing more to it. -/
lemma frozen_step {x : Side} (hpast : (s.bridge x).pc.PastEof)
    (hstep : step cap connId s label = some s') :
    (s'.bridge x).pc.PastEof ∧ (s'.out x.other).put = (s.out x.other).put := by
  obtain ⟨z, event⟩ := label
  obtain ⟨-, hmove, hother, hfeed, hdrain⟩ := step_eq_some hstep
  rcases x.eq_or_eq_other z with rfl | rfl
  · rw [hdrain]
    exact hmove.past_eof hpast
  · rw [Side.other_other] at hother
    rw [hother, hfeed, Direction.feed_put]
    exact ⟨hpast, rfl⟩

/-- Whatever happens from there on. -/
lemma frozen {x : Side} {t : System} {more : List (Side × Event)}
    (hpast : (s.bridge x).pc.PastEof) (hrun : exec (streamStep cap connId total) s more = some t) :
    (t.out x.other).put = (s.out x.other).put := by
  have hinv : (t.bridge x).pc.PastEof ∧ (t.out x.other).put = (s.out x.other).put := by
    apply exec_invariant (I := fun u : System =>
      (u.bridge x).pc.PastEof ∧ (u.out x.other).put = (s.out x.other).put) _ ⟨hpast, rfl⟩ hrun
    intro u label u' hu hstep
    obtain ⟨-, hstep⟩ := streamStep_eq_some hstep
    obtain ⟨hpast', hput⟩ := frozen_step hu.1 hstep
    exact ⟨hpast', hput.trans hu.2⟩
  exact hinv.2

/-! ## When it is delivered -/

/-- What holds along a run in which every end was read late enough. -/
structure System.Complete (total : Side → Bytes) (s : System) : Prop where
  paced : s.Paced
  got : ∀ x, (s.out x).got <+: total x
  put : ∀ x, (s.out x).eof = true → (s.out x.other).put = total x.other

/-- At the start everything is still to come. -/
lemma complete_start : System.start.Complete total where
  paced := ⟨fun _ _ _ hpc => by simp [System.start, Locals.start] at hpc,
    fun _ heof => by simp [System.start, Direction.start] at heof⟩
  got := fun _ => List.nil_prefix
  put := fun _ heof => by simp [System.start, Direction.start] at heof

/-- Only a read of the end ends a stream. -/
lemma Direction.feed_eof (pc : Pc) (d : Direction) (event : Event)
    (h : (d.feed connId pc event).eof = true) : d.eof = true ∨ event = .read (.ok []) := by
  unfold Direction.feed at h
  split at h
  · simpa using h
  · exact Or.inl h
  · exact Or.inl h
  · exact Or.inl h

/-- What was read stays within what the endpoint sends. -/
lemma Event.Follows.feed {event : Event} {sent : Bytes} {d : Direction} (pc : Pc)
    (h : event.Follows sent d.got) (hgot : d.got <+: sent) :
    (d.feed connId pc event).got <+: sent := by
  unfold Direction.feed
  split
  · exact h.1
  · exact hgot
  · exact hgot
  · exact hgot

/-- A stream that has ended was over before the step, or the step read its end. -/
lemma eof_step {x : Side} (hstep : step cap connId s label = some s')
    (heof : (s'.out x).eof = true) :
    (s.out x).eof = true ∨ (label = (x, .read (.ok []))) := by
  obtain ⟨z, event⟩ := label
  obtain ⟨-, -, -, hfeed, hdrain⟩ := step_eq_some hstep
  rcases z.eq_or_eq_other x with rfl | rfl
  · rw [hfeed] at heof
    rcases Direction.feed_eof _ _ _ heof with hwas | rfl
    · exact Or.inl hwas
    · exact Or.inr rfl
  · rw [hdrain, Direction.drain_eof] at heof
    exact Or.inl heof

/-- Reading the end takes a bridge past it. -/
lemma pastEof_of_readEof {x : Side} (hstep : step cap connId s (x, .read (.ok [])) = some s') :
    (s'.bridge x).pc.PastEof ∧ (s'.out x).eof = true ∧
      (s'.out x.other).put = (s.out x.other).put := by
  obtain ⟨-, hmove, -, hfeed, hdrain⟩ := step_eq_some hstep
  rw [hfeed, hdrain]
  generalize (s.bridge x).pc = src at hmove
  generalize (s'.bridge x).pc = src' at hmove
  cases hmove with
  | readEof => exact ⟨trivial, by simp [Direction.feed], rfl⟩
  | readChunk hne => exact absurd rfl hne

/-- What a side has read is a prefix of its stream. -/
lemma got_step (h : ∀ x, (s.out x).got <+: total x)
    (hfollows : label.2.Follows (total label.1) (s.out label.1).got)
    (hstep : step cap connId s label = some s') (x : Side) : (s'.out x).got <+: total x := by
  obtain ⟨z, event⟩ := label
  obtain ⟨-, -, -, hfeed, hdrain⟩ := step_eq_some hstep
  rcases z.eq_or_eq_other x with rfl | rfl
  · rw [hfeed]
    exact hfollows.feed _ (h x)
  · rw [hdrain, Direction.drain_got]
    exact h z.other

/-- If everything is delivered before the end of a stream is read, the system stays complete. -/
lemma complete_step (h : s.Complete total) (hlate : DeliveredAtEof total s label)
    (hstream : streamStep cap connId total s label = some s') : s'.Complete total := by
  obtain ⟨hfollows, hstep⟩ := streamStep_eq_some hstream
  refine ⟨paced_step h.paced hstep, got_step h.got hfollows hstep, ?_⟩
  intro x heof
  rcases eof_step hstep heof with hwas | rfl
  · obtain ⟨-, hput⟩ := frozen_step (h.paced.pastEof x hwas) hstep
    rw [hput]
    exact h.put x hwas
  · obtain ⟨-, -, hput⟩ := pastEof_of_readEof hstep
    rw [hput]
    exact hlate rfl

/-- An end that is read too early is followed by no delivery of the rest. -/
lemma not_stillDelivers (hlate : ¬ DeliveredAtEof total s label)
    (hstream : streamStep cap connId total s label = some s') :
    ¬ StillDelivers cap connId total s' := by
  obtain ⟨-, hstep⟩ := streamStep_eq_some hstream
  obtain ⟨x, event⟩ := label
  unfold DeliveredAtEof at hlate
  push Not at hlate
  obtain ⟨rfl, hmissing⟩ := hlate
  obtain ⟨hpast, heof, hput⟩ := pastEof_of_readEof hstep
  intro hstill
  obtain ⟨more, t, hrun, ht⟩ := hstill x heof
  rw [frozen hpast hrun, hput] at ht
  exact hmissing ht

/-- An endpoint that shuts down its sending side while it is still reading is given all the other one
sends exactly when it already had all of it when its end was read: then it has all of it in every
later state, and otherwise no continuation delivers the rest. -/
theorem stillDelivers_iff (cap : Side → ℕ) (connId : UInt64) (total : Side → Bytes)
    (labels : List (Side × Event)) :
    (Always (streamStep cap connId total) (StillDelivers cap connId total) .start labels ↔
      EachStep (streamStep cap connId total) (DeliveredAtEof total) .start labels) ∧
    (EachStep (streamStep cap connId total) (DeliveredAtEof total) .start labels →
      Always (streamStep cap connId total)
        (fun s => ∀ x, (s.out x).eof = true → (s.out x.other).put = total x.other)
        .start labels) := by
  constructor
  · apply always_iff_eachStep (I := fun s => s.Complete total) _ _ _ complete_start
    · intro s hs x heof
      exact ⟨[], s, rfl, hs.put x heof⟩
    · intro s label s' hs hlate hstep
      exact complete_step hs hlate hstep
    · intro s label s' _ hlate hstep
      exact not_stillDelivers hlate hstep
  · apply always_of_eachStep (I := fun s => s.Complete total) (fun s hs => hs.put) _ complete_start
    intro s label s' hs hlate hstep
    exact complete_step hs hlate hstep

/-- The user sends one byte and the service another one. -/
def halfSent : Side → Bytes
  | .server => [1]
  | .client => [2]

/-- The answer of the service is on its way when the end of the user's stream is read. -/
def halfClosed : List (Side × Event) :=
  [(.server, .read (.ok [1])), (.server, .sent), (.client, .next (.message (chunk 7 [1]))),
    (.client, .wrote 1), (.client, .read (.ok [2])), (.client, .sent), (.server, .read (.ok []))]

/-- A half-closed connection loses what the other side had still to send. -/
theorem stillDelivers_halfClosed :
    ¬ ∀ cap connId total labels, Always (streamStep cap connId total)
      (StillDelivers cap connId total) .start labels := by
  intro hall
  obtain ⟨s, hs, heof, hput⟩ : ∃ s,
      exec (streamStep (fun _ => 1) 7 halfSent) .start halfClosed = some s ∧
        (s.out .server).eof = true ∧ (s.out .client).put = [] :=
    ⟨_, rfl, rfl, rfl⟩
  have hpaced : s.Paced := by
    apply exec_invariant _ (@complete_start halfSent).paced hs
    intro u label u' hu hstep
    exact paced_step hu (streamStep_eq_some hstep).2
  obtain ⟨more, t, hrun, ht⟩ := (hall _ 7 halfSent halfClosed).last hs .server heof
  have hfrozen := frozen (hpaced.pastEof .server heof) hrun
  have hempty : (t.out .client).put = [] := hfrozen.trans hput
  have hall : (t.out .client).put = [2] := ht
  rw [hempty] at hall
  cases hall

end RustProxy.Bridge
