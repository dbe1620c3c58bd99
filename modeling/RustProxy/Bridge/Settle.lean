import RustProxy.Bridge.Progress
import RustProxy.Bridge.Wire
import RustProxy.Foundation.Progress

/-!
# When the bytes of a connection come to rest

Nothing new is read from the local streams of a connection, and neither side has closed.  The bytes that
are under way go on: out of the buffer of a codec, into the buffer of the other, into a message, into
the local stream.

* `Connection.inFlight` counts what is under way, a byte the more the further it has to go.  Every step
  that hands bytes on makes it smaller (`inFlight_step`), so such a run comes to an end.
* `Connection.Running` is what such a run keeps.
* `settled_iff` says what the end looks like: everything has arrived, or each bridge sends into a stream
  that is full.  `wire_settles` is about runs.
* `wire_jams`: no room in the streams is enough to exclude the second end.
-/

namespace RustProxy.Bridge

open RustProxy.Proto Transition FramedPipe

/-- The step hands bytes on that have been read before. -/
def WireLabel.forward : WireLabel → Bool
  | .bridge _ .sent => true
  | .bridge _ (.next (.message _)) => true
  | .bridge _ (.wrote _) => true
  | .bridge _ _ => false
  | .flush _ _ => true
  | .fetch _ _ => true

/-- What is under way to a bridge at this await. -/
def Line.inFlight (dst : Pc) (l : Line) : ℕ :=
  4 * l.pipe.writeBuf.length + 3 * l.pipe.wire.length + 2 * l.pipe.readBuf.length + dst.unwritten.length

/-- What is under way. -/
def Connection.inFlight (s : Connection) : ℕ :=
  (s.line .server).inFlight (s.bridge .client).pc + (s.line .client).inFlight (s.bridge .server).pc

/-- Nothing that has been read can be handed on. -/
def Connection.Settled (serde : PayloadSerde) (cap : Side → ℕ) (connId : UInt64) (s : Connection) :
    Prop :=
  ∀ label : WireLabel, label.forward = true → wireStep serde cap connId s label = none

/-- The bridge sends a chunk into a stream that is full. -/
def Connection.Jammed (cap : Side → ℕ) (s : Connection) (x : Side) : Prop :=
  (∃ data, (s.bridge x).pc = .sending data) ∧ cap x ≤ (s.line x).pipe.wire.length

variable {serde : PayloadSerde} {cap : Side → ℕ} {connId : UInt64} {s s' : Connection}
  {pc dst dst' : Pc} {l : Line} {room : ℕ} {event : Event}

/-! ## A step hands bytes on -/

/-- What is under way is under way in one of the two directions. -/
lemma Connection.inFlight_eq (s : Connection) (x : Side) :
    s.inFlight = (s.line x).inFlight (s.bridge x.other).pc +
      (s.line x.other).inFlight (s.bridge x).pc := by
  cases x with
  | server => rfl
  | client => exact Nat.add_comm _ _

/-- A bridge that sends has a part of a frame to send. -/
lemma Line.Sound.writeBuf_ne_nil (h : l.Sound serde room connId pc)
    (hpc : (∃ data, pc = .sending data) ∨ pc = .sendingClose) : l.pipe.writeBuf ≠ [] := by
  obtain ⟨items, pending, hcarrying⟩ := h.carrying
  have hholds := hcarrying.holds
  rcases hpc with ⟨data, rfl⟩ | rfl
  · obtain rfl : pending = some (chunk connId data) := hholds
    exact hcarrying.carries.writeBuf_ne_nil
  · obtain rfl : pending = some (chunk connId []) := hholds
    exact hcarrying.carries.writeBuf_ne_nil

/-- A send that ends takes the weight of the send off its line. -/
lemma Line.Sound.inFlight_sent (h : l.Sound serde room connId pc) {pc' : Pc}
    (hmove : Move pc .sent pc') :
    (l.feed serde connId .sent).inFlight dst < l.inFlight dst ∧ pc'.unwritten = pc.unwritten := by
  have hne : l.pipe.writeBuf ≠ [] ∧ pc'.unwritten = pc.unwritten := by
    cases hmove with
    | sent data => exact ⟨h.writeBuf_ne_nil (.inl ⟨data, rfl⟩), rfl⟩
    | sentClose => exact ⟨h.writeBuf_ne_nil (.inr rfl), rfl⟩
  have hpos := List.length_pos_iff.mpr hne.1
  refine ⟨?_, hne.2⟩
  simp only [Line.inFlight, Line.feed, FramedPipe.flush, List.drop_length, List.take_length,
    List.length_append, List.length_nil]
  omega

/-- A message that is decoded takes its frame off its line. -/
lemma Line.Sound.inFlight_next {src : Pc} (h : l.Sound serde room connId src) {msg : Message}
    (hdecode : (decode serde l.pipe.readBuf).1 = .ok (some msg))
    (hmove : Move dst (.next (.message msg)) dst') :
    (l.drain serde dst (.next (.message msg))).inFlight dst' < l.inFlight dst := by
  obtain ⟨items, pending, hcarrying⟩ := h.carrying
  rcases hcarrying.carries.decode_cases decode_nil with hneed | ⟨m, items', rest, rfl, hanswer, hbuf, -⟩
  · have hnone : (decode serde l.pipe.readBuf).1 = .ok none := congrArg Prod.fst hneed
    rw [hdecode] at hnone
    cases hnone
  · have hsome : decode serde l.pipe.readBuf = (.ok (some m), rest) := hanswer
    obtain rfl : msg = m := by
      rw [hsome] at hdecode
      cases hdecode
      rfl
    obtain ⟨data, rfl, -⟩ := hcarrying.chunks msg (by simp)
    have hlength := congrArg List.length hbuf
    rw [List.length_append] at hlength
    have hframe := @length_encoded_chunk serde connId data
    have hunwritten : dst'.unwritten.length ≤ data.length := by
      cases hmove with
      | nextMarker => exact Nat.zero_le _
      | nextData => exact le_rfl
    have hrest : (decode serde l.pipe.readBuf).2 = rest := congrArg Prod.snd hsome
    simp only [Line.inFlight, Line.drain, hrest]
    omega

/-- A write takes the written bytes off its line. -/
lemma Line.inFlight_wrote (l : Line) {k : ℕ} (hmove : Move dst (.wrote k) dst') :
    (l.drain serde dst (.wrote k)).inFlight dst' < l.inFlight dst := by
  cases hmove with
  | @wroteAll n rest hne =>
      have hpos := List.length_pos_iff.mpr hne
      simp only [Line.inFlight, Line.drain, Pc.unwritten, List.length_nil]
      omega
  | @wrotePart n rest k hpos hlt =>
      simp only [Line.inFlight, Line.drain, Pc.unwritten, List.length_drop]
      omega

/-- A step that hands bytes on makes less of what is under way. -/
theorem inFlight_step (h : s.Sound serde cap connId) {label : WireLabel}
    (hforward : label.forward = true) (hstep : wireStep serde cap connId s label = some s') :
    s'.inFlight < s.inFlight := by
  cases label with
  | bridge x event =>
      obtain ⟨hadmits, hcode, hother, hline⟩ := wireStep_bridge hstep
      have hmove := move_of_code hcode
      rw [s.inFlight_eq x, s'.inFlight_eq x, hother, hline, Connection.lineAfter_self,
        Connection.lineAfter_other]
      unfold WireLabel.forward at hforward
      split at hforward <;> rename_i heq <;> cases heq
      · obtain ⟨hlt, hunwritten⟩ := @Line.Sound.inFlight_sent serde connId _ (s.bridge x.other).pc _ _
          (h x) _ hmove
        have hkeep : ((s.line x.other).drain serde (s.bridge x).pc .sent).inFlight (s'.bridge x).pc =
            (s.line x.other).inFlight (s.bridge x).pc := by
          simp only [Line.inFlight, Line.drain, hunwritten]
        omega
      · exact Nat.add_lt_add_left ((h x.other).inFlight_next (decode_of_admits hadmits _ rfl) hmove) _
      · exact Nat.add_lt_add_left ((s.line x.other).inFlight_wrote hmove) _
      · cases hforward
  | flush x k =>
      obtain ⟨hpos, hk, -, rfl⟩ := wireStep_flush hstep
      have hle : k ≤ (s.line x).pipe.writeBuf.length := by
        generalize (s.bridge x).pc = pc at hk
        cases pc <;> simp [Pc.mayFlush] at hk <;> omega
      rw [s.inFlight_eq x, Connection.inFlight_eq _ x, Connection.setPipe_self,
        Connection.setPipe_of_ne s x.other_ne, Connection.setPipe_bridge]
      simp only [Line.inFlight, FramedPipe.flush, List.length_drop, List.length_append,
        List.length_take]
      omega
  | fetch x k =>
      obtain ⟨hpos, hk, -, -, rfl⟩ := wireStep_fetch hstep
      rw [s.inFlight_eq x, Connection.inFlight_eq _ x, Connection.setPipe_self,
        Connection.setPipe_of_ne s x.ne_other, Connection.setPipe_bridge]
      simp only [Line.inFlight, FramedPipe.fetch, List.length_drop, List.length_append,
        List.length_take]
      omega

/-! ## What a run that hands bytes on keeps -/

/-- Neither side of a connection has closed. -/
structure Connection.Running (serde : PayloadSerde) (cap : Side → ℕ) (connId : UInt64)
    (s : Connection) : Prop where
  sound : s.Sound serde cap connId
  flow : ∀ x, (s.view serde).FlowFrom connId x
  hasRest : ∀ x, (s.bridge x).pc.HasRest
  live : ∀ x, (s.bridge x).pc.Live

/-- A live bridge is not done. -/
lemma Pc.Live.not_done (h : pc.Live) : ¬ pc.Done := by
  cases pc <;> simp_all [Pc.Live, Pc.Done]

/-- A live bridge has not begun to close. -/
lemma Pc.Live.ne (h : pc.Live) : pc ≠ .closing ∧ pc ≠ .ended ∧ pc ≠ .shuttingDown := by
  cases pc <;> simp_all [Pc.Live]

/-- The queue is a list of chunks that are not empty, and nothing is lost. -/
lemma Connection.Running.exists_open (h : s.Running serde cap connId) (x : Side) :
    ∃ chunks, [] ∉ chunks ∧
      Open connId (s.bridge x).pc (s.bridge x.other).pc ((s.line x).view serde) chunks := by
  have hflow : Flow connId ((s.bridge x).view (s.line x)).pc
      ((s.bridge x.other).view (s.line x.other)).pc ((s.line x).view serde) := h.flow x
  rw [view_of_ne_closing (h.live x).ne.1, view_of_ne_closing (h.live x.other).ne.1] at hflow
  rcases hflow.transit (h.live x.other).ne.2.1 with ⟨chunks, hne, hopen | hmarked⟩ | ⟨hdown, -⟩
  · exact ⟨chunks, hne, hopen⟩
  · exact absurd hmarked.src_done (h.live x).not_done
  · exact absurd hdown (h.live x.other).ne.2.2

/-- No marker comes out of the queue. -/
lemma Connection.Running.next_ne_marker (h : s.Running serde cap connId) {x : Side} {msg : Message}
    (hdecode : (decode serde (s.line x.other).pipe.readBuf).1 = .ok (some msg)) :
    ∃ data, data ≠ [] ∧ msg = chunk connId data := by
  obtain ⟨chunks, hne, hopen⟩ := h.exists_open x.other
  obtain ⟨items, pending, hcarrying⟩ := (h.sound x.other).carrying
  obtain ⟨items', rfl, -⟩ := hcarrying.next hdecode .select
  have hqueue : msg :: items' = chunks.map (chunk connId) := by
    rw [← hcarrying.queue_eq, hopen.queue_eq]
  cases chunks with
  | nil => cases hqueue
  | cons data chunks =>
      refine ⟨data, ?_, (List.cons.inj hqueue).1⟩
      rintro rfl
      exact hne List.mem_cons_self

/-- The bridge that hands bytes on stays in its loop. -/
lemma live_of_forward {x : Side} (h : s.Running serde cap connId)
    (hforward : (WireLabel.bridge x event).forward = true)
    (hadmits : wireAdmits serde cap s x event = true) (hmove : Move (s.bridge x).pc event pc) :
    pc.Live := by
  have hlive := h.live x
  generalize (s.bridge x).pc = src at hmove hlive
  cases hmove with
  | nextMarker id =>
      obtain ⟨data, hne, hmsg⟩ := h.next_ne_marker (decode_of_admits hadmits _ rfl)
      cases hmsg
      exact absurd rfl hne
  | sent | nextData | nextControl | wroteAll | wrotePart => trivial
  | sentClose => exact hlive
  | _ => cases hforward

/-- Nothing is read from the local streams. -/
lemma got_of_forward {label : WireLabel} (hforward : label.forward = true)
    (hstep : wireStep serde cap connId s label = some s') (y : Side) :
    (s'.line y).got = (s.line y).got := by
  cases label with
  | bridge x event =>
      obtain ⟨-, -, -, hline⟩ := wireStep_bridge hstep
      rw [hline]
      unfold WireLabel.forward at hforward
      rcases x.eq_or_eq_other y with rfl | rfl
      · rw [Connection.lineAfter_self]
        split at hforward <;> rename_i heq <;> cases heq <;> first | rfl | cases hforward
      · rw [Connection.lineAfter_other]
        unfold Line.drain
        split
        · rfl
        · split <;> rfl
        · rfl
        · rfl
  | flush x k =>
      obtain ⟨-, -, -, rfl⟩ := wireStep_flush hstep
      rcases x.eq_or_eq_other y with rfl | rfl
      · rw [Connection.setPipe_self]
      · rw [Connection.setPipe_of_ne s x.other_ne]
  | fetch x k =>
      obtain ⟨-, -, -, -, rfl⟩ := wireStep_fetch hstep
      rcases x.eq_or_eq_other y with rfl | rfl
      · rw [Connection.setPipe_of_ne s y.ne_other]
      · rw [Connection.setPipe_self]

/-- No step of the bytes lets a bridge come to write nothing. -/
lemma hasRest_wireStep (h : ∀ x, (s.bridge x).pc.HasRest) {label : WireLabel}
    (hstep : wireStep serde cap connId s label = some s') (y : Side) : (s'.bridge y).pc.HasRest := by
  cases label with
  | bridge x event =>
      obtain ⟨-, hcode, hother, -⟩ := wireStep_bridge hstep
      rcases x.eq_or_eq_other y with rfl | rfl
      · exact (move_of_code hcode).hasRest
      · rw [hother]
        exact h x.other
  | flush x k =>
      obtain ⟨-, -, -, rfl⟩ := wireStep_flush hstep
      exact h y
  | fetch x k =>
      obtain ⟨-, -, -, -, rfl⟩ := wireStep_fetch hstep
      exact h y

/-- By messages, the step is some steps, which keep the invariant of a direction. -/
lemma flow_wireStep (hsound : s.Sound serde cap connId)
    (h : ∀ x, (s.view serde).FlowFrom connId x) {label : WireLabel}
    (hstep : wireStep serde cap connId s label = some s') (x : Side) :
    (s'.view serde).FlowFrom connId x := by
  obtain ⟨steps, hsteps⟩ := wireStep_refines.refines s label s' hsound hstep
  exact exec_invariant (I := fun t : System => ∀ x, t.FlowFrom connId x)
    (fun _ _ _ hflow hmove => flowFrom_step hflow hmove) h hsteps x

/-- Forward steps keep the connection running. -/
lemma running_step (h : s.Running serde cap connId) {label : WireLabel}
    (hforward : label.forward = true) (hstep : wireStep serde cap connId s label = some s') :
    s'.Running serde cap connId where
  sound := sound_step h.sound hstep
  flow := flow_wireStep h.sound h.flow hstep
  hasRest := hasRest_wireStep h.hasRest hstep
  live := by
    intro y
    cases label with
    | bridge x event =>
        obtain ⟨hadmits, hcode, hother, -⟩ := wireStep_bridge hstep
        rcases x.eq_or_eq_other y with rfl | rfl
        · exact live_of_forward h hforward hadmits (move_of_code hcode)
        · rw [hother]
          exact h.live x.other
    | flush x k =>
        obtain ⟨-, -, -, rfl⟩ := wireStep_flush hstep
        exact h.live y
    | fetch x k =>
        obtain ⟨-, -, -, -, rfl⟩ := wireStep_fetch hstep
        exact h.live y

/-! ## When nothing can be handed on -/

/-- A move with an admitted outcome is enabled. -/
lemma wireStep_isSome_of_move {x : Side} (hadmits : wireAdmits serde cap s x event = true)
    (hmove : Move (s.bridge x).pc event pc) :
    (wireStep serde cap connId s (.bridge x event)).isSome = true := by
  have hcode : (code x (s.bridge x) event).isSome = true := by
    cases x with
    | server => exact bridge_isSome_of_move true hmove
    | client => exact bridge_isSome_of_move false hmove
  rw [wireStep, if_pos hadmits, Option.isSome_map]
  exact hcode

/-- What is admitted and is a move of the bridge can be taken. -/
lemma exists_wireStep {x : Side} (hadmits : wireAdmits serde cap s x event = true)
    (hmove : Move (s.bridge x).pc event pc) :
    ∃ s', wireStep serde cap connId s (.bridge x event) = some s' ∧
      Move (s.bridge x).pc event (s'.bridge x).pc ∧ s'.bridge x.other = s.bridge x.other ∧
        s'.line = s.lineAfter serde connId x event := by
  obtain ⟨s', hstep⟩ := Option.isSome_iff_exists.mp
    (@wireStep_isSome_of_move serde cap connId s _ event x hadmits hmove)
  obtain ⟨-, hcode, hother, hline⟩ := wireStep_bridge hstep
  exact ⟨s', hstep, move_of_code hcode, hother, hline⟩

/-- A settled connection has no forward step left. -/
lemma Connection.Settled.not_isSome (h : s.Settled serde cap connId) {label : WireLabel}
    (hforward : label.forward = true) : (wireStep serde cap connId s label).isSome ≠ true := by
  rw [h label hforward]
  nofun

/-- A bridge that sends has come to rest in a stream that is full. -/
lemma Connection.Settled.jammed_of_sending (h : s.Settled serde cap connId)
    (hrunning : s.Running serde cap connId) {x : Side} {data : Bytes}
    (hpc : (s.bridge x).pc = .sending data) : s.Jammed cap x := by
  refine ⟨⟨data, hpc⟩, ?_⟩
  by_contra hroom
  push Not at hroom
  have hpos := List.length_pos_iff.mpr ((hrunning.sound x).writeBuf_ne_nil (.inl ⟨data, hpc⟩))
  -- the last byte of the frame leaves with the outcome of the send
  by_cases hlast : (s.line x).pipe.writeBuf.length = 1
  · have hfits : wireAdmits serde cap s x .sent = true := by
      simp only [wireAdmits, Connection.fits, decide_eq_true_eq]
      omega
    have hmove : Move (s.bridge x).pc .sent .select := by
      rw [hpc]
      exact .sent data
    exact absurd (wireStep_isSome_of_move hfits hmove) (h.not_isSome rfl)
  · refine @Connection.Settled.not_isSome _ _ _ _ h (.flush x 1) rfl ?_
    have hmay : (s.bridge x).pc.mayFlush (s.line x).pipe.writeBuf 1 = true := by
      rw [hpc]
      simp only [Pc.mayFlush, decide_eq_true_eq]
      omega
    rw [wireStep, if_pos ⟨Nat.one_pos, hmay, hroom⟩]
    rfl

/-- A bridge that waits in `select!` has come to rest with nothing left to read and to take. -/
lemma Connection.Settled.of_select (h : s.Settled serde cap connId)
    (hrunning : s.Running serde cap connId) {x : Side} (hpc : (s.bridge x).pc = .select) :
    (s.line x.other).pipe.wire = [] ∧ ((s.line x.other).view serde).queue = [] := by
  obtain ⟨items, pending, hcarrying⟩ := (hrunning.sound x.other).carrying
  rcases hcarrying.carries.decode_cases decode_nil with hneed | ⟨m, items', rest, rfl, hanswer, -, -⟩
  · have hdecode : (decode serde (s.line x.other).pipe.readBuf).1 = .ok none := congrArg Prod.fst hneed
    have hwire : (s.line x.other).pipe.wire = [] := by
      by_contra hne
      have hpos := List.length_pos_iff.mpr hne
      refine @Connection.Settled.not_isSome _ _ _ _ h (.fetch x 1) rfl ?_
      have hasks : asksMore serde (s.line x.other).pipe.readBuf = true := by
        rw [asksMore, hdecode]
      rw [wireStep, if_pos ⟨Nat.one_pos, hpos, hpc, hasks⟩]
      rfl
    refine ⟨hwire, ?_⟩
    rw [hcarrying.queue_eq]
    exact hcarrying.carries.items_eq_nil hneed hwire
  · have hdecode : (decode serde (s.line x.other).pipe.readBuf).1 = .ok (some m) :=
      congrArg Prod.fst hanswer
    obtain ⟨data, hne, rfl⟩ := hrunning.next_ne_marker hdecode
    have hadmits : wireAdmits serde cap s x (.next (.message (chunk connId data))) = true := by
      simp [wireAdmits, hdecode]
    have hmove : Move (s.bridge x).pc (.next (.message (chunk connId data)))
        (.writing data.length data) := by
      rw [hpc]
      exact .nextData connId hne
    exact absurd (wireStep_isSome_of_move hadmits hmove) (h.not_isSome rfl)

/-- A bridge that neither sends nor waits in `select!` can write. -/
lemma Connection.Settled.select_or_sending (h : s.Settled serde cap connId)
    (hrunning : s.Running serde cap connId) (x : Side) :
    (s.bridge x).pc = .select ∨ ∃ data, (s.bridge x).pc = .sending data := by
  have hlive := hrunning.live x
  cases hpc : (s.bridge x).pc with
  | select => exact .inl rfl
  | sending data => exact .inr ⟨data, rfl⟩
  | writing n rest =>
      have hmove : Move (s.bridge x).pc (.wrote rest.length) .select := by
        rw [hpc]
        exact .wroteAll n (hrunning.hasRest x n rest hpc)
      exact absurd (wireStep_isSome_of_move rfl hmove) (h.not_isSome rfl)
  | sendingClose | closing | shuttingDown | ended => simp [hpc, Pc.Live] at hlive

/-- Everything has arrived when nothing is left to be taken, to be written or to be sent. -/
lemma Connection.Running.put_eq_got (h : s.Running serde cap connId) {x : Side}
    (hqueue : ((s.line x).view serde).queue = []) (hsrc : (s.bridge x).pc.unsent = [])
    (hdst : (s.bridge x.other).pc.unwritten = []) : (s.line x).put = (s.line x).got := by
  obtain ⟨chunks, -, hopen⟩ := h.exists_open x
  have hall := hopen.all_of_running (h.live x).ne.2.1
  have hchunks : chunks = [] := List.map_eq_nil_iff.mp (hopen.queue_eq.symm.trans hqueue)
  rw [hchunks, hsrc, hdst] at hall
  simpa [Line.view] using hall

/-- Where everything has arrived, nothing is left to be taken, to be written or to be sent. -/
lemma Connection.Running.of_put_eq_got (h : s.Running serde cap connId) {x : Side}
    (hall : (s.line x).put = (s.line x).got) : ((s.line x).view serde).queue = [] ∧
      (s.bridge x).pc.unsent = [] ∧ (s.bridge x.other).pc.unwritten = [] := by
  obtain ⟨chunks, hne, hopen⟩ := h.exists_open x
  have hgot := hopen.all_of_running (h.live x).ne.2.1
  have hput : ((s.line x).view serde).put = ((s.line x).view serde).got := hall
  rw [← hput, List.append_assoc, List.append_assoc] at hgot
  obtain ⟨hunwritten, hflatten, hunsent⟩ : (s.bridge x.other).pc.unwritten = [] ∧
      chunks.flatten = [] ∧ (s.bridge x).pc.unsent = [] := by
    simpa only [List.append_eq_nil_iff] using List.append_right_eq_self.mp hgot
  refine ⟨?_, hunsent, hunwritten⟩
  rw [hopen.queue_eq, List.map_eq_nil_iff]
  cases chunks with
  | nil => rfl
  | cons data chunks =>
      obtain ⟨rfl, -⟩ := List.append_eq_nil_iff.mp (List.flatten_cons ▸ hflatten)
      exact absurd List.mem_cons_self hne

/-- A bridge with no bytes to send has no frame to send. -/
lemma Connection.Running.pending_eq_none (h : s.Running serde cap connId) {x : Side}
    (hunsent : (s.bridge x).pc.unsent = []) {items : List Message} {pending : Option Message}
    (hcarrying : (s.line x).Carrying serde connId (s.bridge x).pc items pending) : pending = none := by
  have hholds := hcarrying.holds
  have hlive := h.live x
  have hsending : ∀ data, (s.bridge x).pc = .sending data → data ≠ [] := by
    intro data hpc
    refine (h.flow x).sending_ne data ?_
    change ((s.bridge x).view (s.line x)).pc = .sending data
    rw [view_of_ne_closing hlive.ne.1, hpc]
  generalize (s.bridge x).pc = pc at hunsent hholds hlive hsending
  cases pc with
  | select | writing n rest => exact hholds
  | sending data => exact absurd hunsent (hsending data rfl)
  | sendingClose | closing | shuttingDown | ended => exact hlive.elim

/-- Where everything has arrived, nothing is under way. -/
lemma Connection.Running.inFlight_eq_zero (h : s.Running serde cap connId)
    (hall : ∀ x, (s.line x).put = (s.line x).got) : s.inFlight = 0 := by
  have hway : ∀ x, (s.line x).inFlight (s.bridge x.other).pc = 0 := by
    intro x
    obtain ⟨hqueue, hunsent, hunwritten⟩ := h.of_put_eq_got (hall x)
    obtain ⟨items, pending, hcarrying⟩ := (h.sound x).carrying
    have hbytes : (s.line x).pipe.readBuf ++ ((s.line x).pipe.wire ++ (s.line x).pipe.writeBuf) = [] := by
      rw [hcarrying.carries.bytes, ← hcarrying.queue_eq, hqueue, h.pending_eq_none hunsent hcarrying]
      rfl
    obtain ⟨hread, hwire, hwrite⟩ : (s.line x).pipe.readBuf = [] ∧ (s.line x).pipe.wire = [] ∧
        (s.line x).pipe.writeBuf = [] := by
      simpa only [List.append_eq_nil_iff] using hbytes
    rw [Line.inFlight, hread, hwire, hwrite, hunwritten]
    rfl
  calc s.inFlight = (s.line .server).inFlight (s.bridge .client).pc +
      (s.line .client).inFlight (s.bridge .server).pc := rfl
    _ = 0 := Nat.add_eq_zero_iff.mpr ⟨hway .server, hway .client⟩

/-- Only a send that fails moves two bridges that send into streams that are full. -/
lemma failed_of_jammed (hsound : s.Sound serde cap connId) (h : ∀ x, s.Jammed cap x) {label : WireLabel}
    (hstep : wireStep serde cap connId s label = some s') :
    ∃ x queued, label = .bridge x (.sendFailed queued) := by
  cases label with
  | bridge x event =>
      obtain ⟨⟨data, hpc⟩, hfull⟩ := h x
      obtain ⟨hadmits, hcode, -, -⟩ := wireStep_bridge hstep
      have hmove := move_of_code hcode
      have hpos := List.length_pos_iff.mpr ((hsound x).writeBuf_ne_nil (.inl ⟨data, hpc⟩))
      rw [hpc] at hmove
      generalize (s'.bridge x).pc = pc at hmove
      cases hmove with
      | sent =>
          have hfits := fits_of_admits hadmits (.inl rfl)
          omega
      | sendFailed data queued => exact ⟨x, queued, rfl⟩
  | flush x k =>
      obtain ⟨hpos, -, hroom, -⟩ := wireStep_flush hstep
      have hfull := (h x).2
      omega
  | fetch x k =>
      obtain ⟨-, -, hselect, -, -⟩ := wireStep_fetch hstep
      obtain ⟨data, hpc⟩ := (h x).1
      rw [hpc] at hselect
      cases hselect

/-- Two bridges that send into streams that are full hand nothing on. -/
lemma settled_of_jammed (hsound : s.Sound serde cap connId) (h : ∀ x, s.Jammed cap x) :
    s.Settled serde cap connId := by
  intro label hforward
  rw [Option.eq_none_iff_forall_ne_some]
  intro s' hstep
  obtain ⟨x, queued, rfl⟩ := failed_of_jammed hsound h hstep
  cases hforward

/-- The end of a run that hands bytes on: everything has arrived, or both bridges send into streams that
are full. -/
theorem settled_iff (hcap : ∀ x, 0 < cap x) (h : s.Running serde cap connId) :
    s.Settled serde cap connId ↔
      (∀ x, (s.line x).put = (s.line x).got) ∨ ∀ x, s.Jammed cap x := by
  constructor
  · intro hsettled
    by_cases hsending : ∃ x data, (s.bridge x).pc = .sending data
    · right
      obtain ⟨x, data, hpc⟩ := hsending
      have hjammed := hsettled.jammed_of_sending h hpc
      have hother : s.Jammed cap x.other := by
        rcases hsettled.select_or_sending h x.other with hselect | ⟨data', hpc'⟩
        · have hwire := (hsettled.of_select h hselect).1
          rw [Side.other_other] at hwire
          have hfull := hjammed.2
          have hpos := hcap x
          rw [hwire, List.length_nil] at hfull
          omega
        · exact hsettled.jammed_of_sending h hpc'
      intro y
      rcases x.eq_or_eq_other y with rfl | rfl
      · exact hjammed
      · exact hother
    · left
      have hselect : ∀ x, (s.bridge x).pc = .select := fun x =>
        (hsettled.select_or_sending h x).resolve_right fun ⟨data, hpc⟩ => hsending ⟨x, data, hpc⟩
      intro x
      have hqueue := (hsettled.of_select h (hselect x.other)).2
      rw [Side.other_other] at hqueue
      exact h.put_eq_got hqueue (by rw [hselect]; rfl) (by rw [hselect]; rfl)
  · rintro (hall | hjammed)
    · intro label hforward
      rw [Option.eq_none_iff_forall_ne_some]
      intro s' hstep
      have hlt := inFlight_step h.sound hforward hstep
      rw [h.inFlight_eq_zero hall] at hlt
      exact absurd hlt (Nat.not_lt_zero _)
    · exact settled_of_jammed h.sound hjammed

/-! ## Runs -/

/-- A run after which both bridges are live ends in a running connection. -/
lemma running_of_exec {labels : List WireLabel}
    (h : exec (wireStep serde cap connId) .start labels = some s) (hlive : ∀ x, (s.bridge x).pc.Live) :
    s.Running serde cap connId where
  sound := sound_of_exec h
  flow := by
    obtain ⟨steps, hsteps⟩ := exec_refinement wireStep_refines sound_start h
    rw [view_start] at hsteps
    exact flowFrom_of_exec hsteps
  hasRest := exec_invariant (I := fun s : Connection => ∀ x, (s.bridge x).pc.HasRest)
    (fun _ _ _ hrest hstep => hasRest_wireStep hrest hstep)
    (fun _ _ _ hpc => by simp [Connection.start, Locals.start] at hpc) h
  live := hlive

/-- A run that hands bytes on reads nothing, and neither side closes in it. -/
lemma running_of_forward {more : List WireLabel} {t : Connection} (h : s.Running serde cap connId)
    (hmore : ∀ label ∈ more, label.forward = true)
    (hrun : exec (wireStep serde cap connId) s more = some t) :
    t.Running serde cap connId ∧ ∀ x, (t.line x).got = (s.line x).got := by
  induction more generalizing s with
  | nil =>
      cases hrun
      exact ⟨h, fun _ => rfl⟩
  | cons label more ih =>
      obtain ⟨s', hstep, hrest⟩ := exec_cons_eq_some.mp hrun
      obtain ⟨hlabel, hmore'⟩ := List.forall_mem_cons.mp hmore
      obtain ⟨hrunning, hgot⟩ := ih (running_step h hlabel hstep) hmore' hrest
      exact ⟨hrunning, fun x => (hgot x).trans (got_of_forward hlabel hstep x)⟩

/-- **Bytes come to rest.**  Neither side of a connection over two streams of bytes has closed, and
nothing new is read from the local streams.  However the bytes that are under way are portioned, and
whoever moves first, they come to rest after as many steps as `inFlight` says at most, and some run
gets there.  At rest, either everything that was read has been written at the other end, or both bridges
send a chunk into a stream that is full. -/
theorem wire_settles (serde : PayloadSerde) (cap : Side → ℕ) (connId : UInt64) (hcap : ∀ x, 0 < cap x)
    {labels : List WireLabel} {s : Connection}
    (h : exec (wireStep serde cap connId) .start labels = some s)
    (hlive : ∀ x, (s.bridge x).pc.Live) :
    (∀ more t, (∀ label ∈ more, label.forward = true) →
      exec (wireStep serde cap connId) s more = some t →
        more.length + t.inFlight ≤ s.inFlight ∧
          (t.Settled serde cap connId ↔
            (∀ x, (t.line x).put = (s.line x).got) ∨ ∀ x, t.Jammed cap x)) ∧
      ∃ more t, (∀ label ∈ more, label.forward = true) ∧
        exec (wireStep serde cap connId) s more = some t ∧ t.Settled serde cap connId := by
  have hrunning := running_of_exec h hlive
  refine ⟨fun more t hmore hrun => ⟨?_, ?_⟩, ?_⟩
  · exact exec_bounded (I := Connection.Running serde cap connId) Connection.inFlight
      (fun s label s' hs hlabel hstep =>
        ⟨running_step hs hlabel hstep, inFlight_step hs.sound hlabel hstep⟩) hrunning hmore hrun
  · obtain ⟨hend, hgot⟩ := running_of_forward hrunning hmore hrun
    rw [settled_iff hcap hend]
    simp only [hgot]
  · have hmoves : ∀ s : Connection, s.Running serde cap connId → ¬ s.Settled serde cap connId →
        ∃ label s', label.forward = true ∧ wireStep serde cap connId s label = some s' ∧
          s'.Running serde cap connId ∧ s'.inFlight < s.inFlight := by
      intro s hs hnot
      unfold Connection.Settled at hnot
      push Not at hnot
      obtain ⟨label, hlabel, hne⟩ := hnot
      obtain ⟨s', hstep⟩ := Option.ne_none_iff_exists'.mp hne
      exact ⟨label, s', hlabel, hstep, running_step hs hlabel hstep, inFlight_step hs.sound hlabel hstep⟩
    obtain ⟨more, t, hmore, -, hrun, -, hsettled⟩ := exec_descent Connection.inFlight hmoves hrunning
    exact ⟨more, t, hmore, hrun, hsettled⟩

/-- A chunk and its portions settle. -/
theorem wire_settles_sample : ∃ s t,
    exec (wireStep sampleSerde (fun _ => 10) 7) .start (samplePortions.take 1) = some s ∧
      exec (wireStep sampleSerde (fun _ => 10) 7) s (samplePortions.drop 1) = some t ∧
        t.Settled sampleSerde (fun _ => 10) 7 := by
  obtain ⟨hruns, -⟩ := @wire_settles sampleSerde (fun _ => 10) 7 (fun _ => Nat.succ_pos 9)
    (samplePortions.take 1) _ rfl (fun x => by cases x <;> trivial)
  obtain ⟨-, hsettled⟩ := hruns (samplePortions.drop 1) _ (by decide) rfl
  exact ⟨_, _, rfl, rfl, hsettled.mpr (.inl fun x => by cases x <;> rfl)⟩

/-! ## Streams that are full -/

/-- The bridge at `y` and the way from there are as they were. -/
def Connection.SameAt (y : Side) (s s' : Connection) : Prop :=
  s'.bridge y = s.bridge y ∧ s'.line y = s.line y

/-- What is the same twice is the same. -/
lemma Connection.SameAt.trans {y : Side} {t : Connection} (h : s.SameAt y s') (h' : s'.SameAt y t) :
    s.SameAt y t :=
  ⟨h'.1.trans h.1, h'.2.trans h.2⟩

/-- A jam depends only on what a side's step does not touch. -/
lemma Connection.Jammed.of_sameAt {y : Side} (h : s.Jammed cap y) (hsame : s.SameAt y s') :
    s'.Jammed cap y := by
  rw [Connection.Jammed, hsame.1, hsame.2]
  exact h

/-- A bridge in its loop reads a byte. -/
lemma exists_read {x : Side} (hpc : (s.bridge x).pc = .select) :
    ∃ s', wireStep serde cap connId s (.bridge x (.read (.ok [0]))) = some s' ∧ s.SameAt x.other s' ∧
      (s'.bridge x).pc = .sending [0] ∧
        (s'.line x).pipe = (s.line x).pipe.write (encoded serde (chunk connId [0])) := by
  have hmove : Move (s.bridge x).pc (.read (.ok [0])) (.sending [0]) := by
    rw [hpc]
    exact .readChunk (List.cons_ne_nil 0 [])
  obtain ⟨s', hstep, hmove', hother, hline⟩ :=
    @exists_wireStep serde cap connId s _ (.read (.ok [0])) x rfl hmove
  refine ⟨s', hstep, ⟨hother, ?_⟩, ?_, ?_⟩
  · rw [hline, Connection.lineAfter_other]
    rfl
  · rw [hpc] at hmove'
    generalize (s'.bridge x).pc = pc at hmove'
    cases hmove'
    rfl
  · rw [hline, Connection.lineAfter_self]
    rfl

/-- The stream has room for the rest of the frame. -/
lemma exists_sent {x : Side} {data : Bytes} (hpc : (s.bridge x).pc = .sending data)
    (hfits : s.fits cap x = true) :
    ∃ s', wireStep serde cap connId s (.bridge x .sent) = some s' ∧ s.SameAt x.other s' ∧
      (s'.bridge x).pc = .select ∧
        (s'.line x).pipe = (s.line x).pipe.flush (s.line x).pipe.writeBuf.length := by
  have hmove : Move (s.bridge x).pc .sent .select := by
    rw [hpc]
    exact .sent data
  obtain ⟨s', hstep, hmove', hother, hline⟩ :=
    @exists_wireStep serde cap connId s _ .sent x hfits hmove
  refine ⟨s', hstep, ⟨hother, ?_⟩, ?_, ?_⟩
  · rw [hline, Connection.lineAfter_other]
    rfl
  · rw [hpc] at hmove'
    generalize (s'.bridge x).pc = pc at hmove'
    cases hmove'
    rfl
  · rw [hline, Connection.lineAfter_self]
    rfl

/-- A send that its stream has no room for fills the stream. -/
lemma exists_full {x : Side} {data : Bytes} (hpc : (s.bridge x).pc = .sending data)
    (hwire : (s.line x).pipe.wire.length ≤ cap x) (hfits : s.fits cap x ≠ true) :
    ∃ labels t, exec (wireStep serde cap connId) s labels = some t ∧ s.SameAt x.other t ∧
      t.Jammed cap x := by
  have hlt : cap x < (s.line x).pipe.wire.length + (s.line x).pipe.writeBuf.length := by
    simpa [Connection.fits] using hfits
  rcases hwire.eq_or_lt with hfull | hspace
  · exact ⟨[], s, rfl, ⟨rfl, rfl⟩, ⟨data, hpc⟩, hfull.ge⟩
  · -- the part of the frame that still fits leaves
    let k := cap x - (s.line x).pipe.wire.length
    have hmay : (s.bridge x).pc.mayFlush (s.line x).pipe.writeBuf k = true := by
      rw [hpc]
      simp only [Pc.mayFlush, decide_eq_true_eq]
      omega
    have hflush : wireStep serde cap connId s (.flush x k) =
        some (s.setPipe x ((s.line x).pipe.flush k)) := by
      rw [wireStep, if_pos ⟨Nat.sub_pos_of_lt hspace, hmay, by omega⟩]
    refine ⟨[.flush x k], _, exec_cons_eq_some.mpr ⟨_, hflush, rfl⟩,
      ⟨rfl, Connection.setPipe_of_ne s x.other_ne _⟩, ⟨data, hpc⟩, ?_⟩
    rw [Connection.setPipe_self]
    simp only [FramedPipe.flush, List.length_append, List.length_take]
    omega

/-- A bridge that reads byte after byte comes to a send that its stream has no room for. -/
lemma exists_jammed {x : Side} (hpc : (s.bridge x).pc = .select)
    (hbuf : (s.line x).pipe.writeBuf = []) (hwire : (s.line x).pipe.wire.length ≤ cap x) :
    ∃ labels t, exec (wireStep serde cap connId) s labels = some t ∧ s.SameAt x.other t ∧
      t.Jammed cap x := by
  induction hroom : cap x - (s.line x).pipe.wire.length using Nat.strong_induction_on
    generalizing s with
  | _ room ih =>
      obtain ⟨s₁, hread, hsame, hsending, hpipe⟩ := @exists_read serde cap connId s x hpc
      have hframe : (s₁.line x).pipe.writeBuf = encoded serde (chunk connId [0]) := by
        rw [hpipe, FramedPipe.write, hbuf, List.nil_append]
      have hwire₁ : (s₁.line x).pipe.wire = (s.line x).pipe.wire := by
        rw [hpipe]
        rfl
      by_cases hfits : s₁.fits cap x = true
      · obtain ⟨s₂, hsent, hsame₂, hselect, hpipe₂⟩ := @exists_sent serde cap connId s₁ x _ hsending hfits
        have hbuf₂ : (s₂.line x).pipe.writeBuf = [] := by
          rw [hpipe₂, FramedPipe.flush, List.drop_length]
        have hwire₂ : (s₂.line x).pipe.wire.length =
            (s.line x).pipe.wire.length + (s₁.line x).pipe.writeBuf.length := by
          rw [hpipe₂, FramedPipe.flush, List.take_length, List.length_append, hwire₁]
        have hle : (s.line x).pipe.wire.length + (s₁.line x).pipe.writeBuf.length ≤ cap x := by
          simpa [Connection.fits, hwire₁] using hfits
        have hlength := congrArg List.length hframe
        rw [length_encoded_chunk] at hlength
        obtain ⟨labels, t, hrun, hsame₃, hjammed⟩ := ih _ (by omega) hselect hbuf₂ (by omega) rfl
        refine ⟨.bridge x (.read (.ok [0])) :: .bridge x .sent :: labels, t, ?_,
          (hsame.trans hsame₂).trans hsame₃, hjammed⟩
        exact exec_cons_eq_some.mpr ⟨s₁, hread, exec_cons_eq_some.mpr ⟨s₂, hsent, hrun⟩⟩
      · obtain ⟨labels, t, hrun, hsame', hjammed⟩ :=
          @exists_full serde cap connId s₁ x _ hsending (by rw [hwire₁]; exact hwire) hfits
        exact ⟨.bridge x (.read (.ok [0])) :: labels, t, exec_cons_eq_some.mpr ⟨s₁, hread, hrun⟩,
          hsame.trans hsame', hjammed⟩

/-- A jammed bridge is live. -/
lemma Connection.Jammed.live {x : Side} (h : s.Jammed cap x) : (s.bridge x).pc.Live := by
  obtain ⟨⟨data, hpc⟩, -⟩ := h
  rw [hpc]
  trivial

/-- What a bridge is sending has not arrived. -/
lemma Connection.Running.put_ne_got (h : s.Running serde cap connId) {x : Side}
    (hjammed : s.Jammed cap x) : (s.line x).put ≠ (s.line x).got := by
  intro hput
  obtain ⟨-, hunsent, -⟩ := h.of_put_eq_got hput
  obtain ⟨items, pending, hcarrying⟩ := (h.sound x).carrying
  obtain rfl := h.pending_eq_none hunsent hcarrying
  exact (h.sound x).writeBuf_ne_nil (.inl hjammed.1) hcarrying.carries.writeBuf_eq_nil

end RustProxy.Bridge
