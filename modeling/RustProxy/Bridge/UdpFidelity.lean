import RustProxy.Bridge.UdpLoop
import RustProxy.Foundation.Transition

/-!
# Fidelity of a UDP session

The datagrams of a way are in five places: sent out, taken off the work connection and not yet sent
out, in frames on the work connection, in the hands of the loop at the beginning, and behind it.

* `Flow` is the invariant of a way: as long as the loop at its end runs, the five parts in this
  order make up what was put in.  It holds in every run, I/O errors included, so what is sent out is
  always a prefix of what was put in.
* The frames are taken off the way they were put on by the round trip of the codec
  (`Transit.decode`).
* Whether the loops go on is another matter: the frame of an empty datagram is the marker that ends a
  session, and `datagram_fidelity` says that nothing else is.
-/

namespace RustProxy.Bridge.Udp

open RustProxy.Proto Transition

variable (serde : PayloadSerde) (connId : UInt64)

/-- The datagram a loop has taken off the work connection and not sent out. -/
def UdpPc.undelivered : UdpPc → List Bytes
  | .delivering data => [data]
  | _ => []

/-- The datagram a loop has taken and not handed to the work connection. -/
def UdpPc.unsent : UdpPc → List Bytes
  | .sending data => [data]
  | _ => []

/-- The frames of some datagrams, one after another. -/
def frames (datagrams : List Bytes) : Bytes :=
  ((datagrams.map (chunk connId)).map (encoded serde)).flatten

/-- Where the datagrams are that have not been taken off.  After a failed send the last frame may be
cut off by `lost`. -/
structure Transit (src dst : UdpPc) (w : Way) (onWire behind : List Bytes) (lost : Bytes) :
    Prop where
  frames_eq : w.buffer ++ (w.wire ++ lost) = frames serde connId onWire
  all : w.putIn = w.sentOut ++ dst.undelivered ++ onWire ++ behind
  running : src ≠ .ended → lost = [] ∧ behind = src.unsent ++ w.queue

/-- The invariant of a way. -/
structure Flow (src dst : UdpPc) (w : Way) : Prop where
  fits : ∀ data ∈ w.putIn, data.length ≤ maxDatagram
  sent : w.sentOut <+: w.putIn
  transit : dst ≠ .ended → ∃ onWire behind lost, Transit serde connId src dst w onWire behind lost

variable {serde connId} {src src' dst dst' : UdpPc} {w : Way} {event : UdpEvent}
  {onWire behind : List Bytes} {lost : Bytes}

/-- The buffers are large enough for any datagram. -/
lemma received_of_fits {data : Bytes} (h : data.length ≤ maxDatagram) : received data = data := by
  refine List.take_of_length_le (h.trans ?_)
  unfold maxDatagram udpBufSize
  omega

/-- A datagram that fits is enqueued as a whole. -/
lemma enqueued_of_fits (x : Side) {data : Bytes} (h : data.length ≤ maxDatagram) :
    enqueued x data = data := by
  cases x with
  | server => exact received_of_fits h
  | client => rfl

/-- A datagram that fits is taken as a whole. -/
lemma taken_of_fits (x : Side) {data : Bytes} (h : data.length ≤ maxDatagram) :
    taken x data = data := by
  cases x with
  | server => rfl
  | client => exact received_of_fits h

/-- A datagram fits in a frame. -/
lemma frames_chunk (serde : PayloadSerde) (connId : UInt64) {data : Bytes}
    (h : data.length ≤ maxDatagram) :
    (frameDecoder serde).Frames (encoded serde) (chunk connId data) := by
  apply frames_data
  rw [DataMessage.length_encode]
  show 8 + data.length ≤ maxFrameSize
  unfold maxDatagram at h
  unfold maxFrameSize
  omega

/-- One more datagram is one more frame. -/
lemma frames_concat (datagrams : List Bytes) (data : Bytes) :
    frames serde connId (datagrams ++ [data]) =
      frames serde connId datagrams ++ encoded serde (chunk connId data) := by
  simp [frames]

/-- Nothing is under way at the start. -/
lemma Flow.start : Flow serde connId .select .select .start where
  fits := fun _ => nofun
  sent := List.prefix_refl []
  transit := fun _ => ⟨[], [], [], rfl, rfl, fun _ => ⟨rfl, rfl⟩⟩

/-! ## Steps at the beginning of a way -/

/-- A datagram that fits is put at the end. -/
lemma Flow.put (h : Flow serde connId src dst w) (x : Side) {data : Bytes}
    (hdata : data.length ≤ maxDatagram) : Flow serde connId src dst (w.put x data) where
  fits := by
    intro data' hmem
    rcases List.mem_append.mp hmem with hold | hnew
    · exact h.fits data' hold
    · obtain rfl := List.mem_singleton.mp hnew
      exact hdata
  sent := h.sent.trans (List.prefix_append _ _)
  transit := by
    intro hdst
    obtain ⟨onWire, behind, lost, ht⟩ := h.transit hdst
    refine ⟨onWire, behind ++ [data], lost, ht.frames_eq, ?_, ?_⟩
    · show w.putIn ++ [data] = _
      rw [ht.all, List.append_assoc]
      rfl
    · intro hsrc
      obtain ⟨hlost, hbehind⟩ := ht.running hsrc
      refine ⟨hlost, ?_⟩
      show behind ++ [data] = src.unsent ++ (w.queue ++ [enqueued x data])
      rw [hbehind, enqueued_of_fits x hdata, List.append_assoc]

/-- The loop at the beginning moves without touching the way. -/
lemma Flow.src_step (h : Flow serde connId src dst w)
    (hrun : src' ≠ .ended → src ≠ .ended ∧ src'.unsent = src.unsent) :
    Flow serde connId src' dst w where
  fits := h.fits
  sent := h.sent
  transit := by
    intro hdst
    obtain ⟨onWire, behind, lost, ht⟩ := h.transit hdst
    refine ⟨onWire, behind, lost, ht.frames_eq, ht.all, ?_⟩
    intro hsrc'
    obtain ⟨hsrc, hunsent⟩ := hrun hsrc'
    rw [hunsent]
    exact ht.running hsrc

/-- A part of the frame leaves, all of it unless the send fails. -/
lemma Flow.src_send {data : Bytes} (h : Flow serde connId (.sending data) dst w) {sent lost' : Bytes}
    (hsent : sent ++ lost' = encoded serde (chunk connId data)) (hunsent : src'.unsent = [])
    (hlost : src' ≠ .ended → lost' = []) :
    Flow serde connId src' dst { w with wire := w.wire ++ sent } where
  fits := h.fits
  sent := h.sent
  transit := by
    intro hdst
    obtain ⟨onWire, behind, lost, ht⟩ := h.transit hdst
    obtain ⟨rfl, hbehind⟩ := ht.running nofun
    have hbehind' : behind = data :: w.queue := hbehind
    refine ⟨onWire ++ [data], w.queue, lost', ?_, ?_, ?_⟩
    · have hframes := ht.frames_eq
      rw [List.append_nil] at hframes
      rw [frames_concat, ← hframes, ← hsent]
      simp only [List.append_assoc]
    · show w.putIn = _
      rw [ht.all, hbehind']
      simp only [List.append_assoc, List.singleton_append]
    · intro hsrc'
      rw [hunsent]
      exact ⟨hlost hsrc', rfl⟩

/-- The loop at the beginning takes the next datagram. -/
lemma Flow.src_input (h : Flow serde connId .select dst w) {x : Side} {data : Bytes}
    (hhead : w.queue.head?.map (taken x) = some data) :
    Flow serde connId (.sending data) dst { w with queue := w.queue.tail } where
  fits := h.fits
  sent := h.sent
  transit := by
    intro hdst
    obtain ⟨onWire, behind, lost, ht⟩ := h.transit hdst
    obtain ⟨hlost, hbehind⟩ := ht.running nofun
    refine ⟨onWire, behind, lost, ht.frames_eq, ht.all, fun _ => ⟨hlost, ?_⟩⟩
    cases hqueue : w.queue with
    | nil =>
        rw [hqueue] at hhead
        cases hhead
    | cons data' rest =>
        rw [hqueue] at hhead hbehind
        have hput : data' ∈ w.putIn := by
          rw [ht.all, hbehind]
          simp [UdpPc.unsent]
        have htaken : taken x data' = data := Option.some.inj hhead
        rw [taken_of_fits x (h.fits data' hput)] at htaken
        rw [← htaken]
        exact hbehind

/-- A step of the loop at the beginning of a way. -/
theorem Flow.feed (h : Flow serde connId src dst w) {x : Side} (hmove : UdpMove src event src')
    (hinput : ∀ data, event = .input data → w.queue.head?.map (taken x) = some data) :
    Flow serde connId src' dst (w.feed serde connId src event) := by
  cases hmove with
  | input data => exact h.src_input (hinput data rfl)
  | sent data => exact h.src_send (List.append_nil _) rfl fun _ => rfl
  | sendFailed data left =>
      exact h.src_send (List.take_append_drop left _) rfl fun hne => absurd rfl hne
  | nextData | nextControl | delivered => exact h.src_step fun _ => ⟨nofun, rfl⟩
  | inputFailed | nextEmpty | nextErr | nextNone | readFailed | deliverFailed =>
      exact h.src_step fun hne => absurd rfl hne

/-! ## Steps at the end of a way -/

/-- Bytes that arrive move on without a change. -/
lemma Flow.arrive (h : Flow serde connId src dst w) (n : ℕ) :
    Flow serde connId src dst (w.arrive n) where
  fits := h.fits
  sent := h.sent
  transit := by
    intro hdst
    obtain ⟨onWire, behind, lost, ht⟩ := h.transit hdst
    refine ⟨onWire, behind, lost, ?_, ht.all, ht.running⟩
    show w.buffer ++ w.wire.take n ++ (w.wire.drop n ++ lost) = _
    rw [← ht.frames_eq, List.append_assoc, ← List.append_assoc (w.wire.take n),
      List.take_append_drop]

/-- The codec at the end of a way waits for more bytes, or takes off the next datagram. -/
lemma Transit.decode (ht : Transit serde connId src dst w onWire behind lost)
    (hfits : ∀ data ∈ w.putIn, data.length ≤ maxDatagram) :
    Proto.decode serde w.buffer = (.ok none, w.buffer) ∨ ∃ data rest buffer,
      onWire = data :: rest ∧ Proto.decode serde w.buffer = (.ok (some (chunk connId data)), buffer) ∧
      buffer ++ (w.wire ++ lost) = frames serde connId rest := by
  have hframes : ∀ m ∈ onWire.map (chunk connId), (frameDecoder serde).Frames (encoded serde) m := by
    intro m hm
    obtain ⟨data, hdata, rfl⟩ := List.mem_map.mp hm
    apply frames_chunk
    apply hfits
    rw [ht.all]
    simp [hdata]
  rcases StreamDecoder.decode_prefix rfl hframes ht.frames_eq with
    hneed | ⟨m, ms, buffer, hms, hdec, hrest⟩
  · exact Or.inl hneed
  · cases onWire with
    | nil => cases hms
    | cons data rest =>
        cases hms
        exact Or.inr ⟨data, rest, buffer, rfl, hdec, hrest⟩

/-- The loop at the end moves without touching the way. -/
lemma Flow.dst_step (h : Flow serde connId src dst w)
    (hrun : dst' ≠ .ended → dst ≠ .ended ∧ dst'.undelivered = dst.undelivered) :
    Flow serde connId src dst' w where
  fits := h.fits
  sent := h.sent
  transit := by
    intro hdst'
    obtain ⟨hdst, hundelivered⟩ := hrun hdst'
    obtain ⟨onWire, behind, lost, ht⟩ := h.transit hdst
    exact ⟨onWire, behind, lost, ht.frames_eq, by rw [hundelivered]; exact ht.all, ht.running⟩

/-- The datagram that has been taken off is sent out. -/
lemma Flow.dst_delivered {data : Bytes} (h : Flow serde connId src (.delivering data) w) :
    Flow serde connId src .select { w with sentOut := w.sentOut ++ [data] } := by
  obtain ⟨onWire, behind, lost, ht⟩ := h.transit nofun
  refine ⟨h.fits, ?_, fun _ => ⟨onWire, behind, lost, ht.frames_eq, ?_, ht.running⟩⟩
  · refine ⟨onWire ++ behind, ?_⟩
    show w.sentOut ++ [data] ++ (onWire ++ behind) = w.putIn
    rw [ht.all, List.append_assoc _ onWire]
    rfl
  · show w.putIn = w.sentOut ++ [data] ++ [] ++ onWire ++ behind
    rw [ht.all, List.append_nil]
    rfl

/-- The messages on a way are the frames of datagrams put in. -/
lemma Flow.decoded (h : Flow serde connId src .select w) {msg : Message}
    (hdec : (Proto.decode serde w.buffer).1 = .ok (some msg)) :
    ∃ data ∈ w.putIn, msg = chunk connId data ∧ ∀ dst', dst'.undelivered = [data] →
      Flow serde connId src dst' { w with buffer := (Proto.decode serde w.buffer).2 } := by
  obtain ⟨onWire, behind, lost, ht⟩ := h.transit nofun
  rcases ht.decode h.fits with hneed | ⟨data, rest, buffer, rfl, hsome, hrest⟩
  · rw [hneed] at hdec
    cases hdec
  · rw [hsome] at hdec
    cases hdec
    refine ⟨data, ?_, rfl, ?_⟩
    · rw [ht.all]
      simp
    · intro dst' hdst'
      refine ⟨h.fits, h.sent, fun _ => ⟨rest, behind, lost, ?_, ?_, ht.running⟩⟩
      · rw [hsome]
        exact hrest
      · rw [hdst']
        show w.putIn = _
        rw [ht.all]
        simp [UdpPc.undelivered]

/-- The codec finds no error on a way. -/
lemma Flow.decode_ne_error (h : Flow serde connId src .select w) (e : FrameError) :
    (Proto.decode serde w.buffer).1 ≠ .error e := by
  obtain ⟨onWire, behind, lost, ht⟩ := h.transit nofun
  rcases ht.decode h.fits with hneed | ⟨data, rest, buffer, rfl, hsome, hrest⟩
  · rw [hneed]
    nofun
  · rw [hsome]
    nofun

/-- What is admitted as the next message is what the codec takes off. -/
lemma decoded_of_admits {s : Session} {x : Side} {msg : Message}
    (h : udpAdmits serde s x (.next (.message msg))) :
    (Proto.decode serde (s.way x.other).buffer).1 = .ok (some msg) := by
  rw [udpAdmits] at h
  split at h
  · case h_1 msg' hdec =>
    rw [hdec, of_decide_eq_true h]
  · cases h

/-- A step of the loop at the end of a way. -/
theorem Flow.drain (h : Flow serde connId src dst w) (hmove : UdpMove dst event dst')
    (hnext : ∀ msg, event = .next (.message msg) →
      (Proto.decode serde w.buffer).1 = .ok (some msg)) :
    Flow serde connId src dst' (w.drain serde dst event) := by
  cases hmove with
  | nextEmpty => exact ⟨h.fits, h.sent, fun hne => absurd rfl hne⟩
  | nextData id hne =>
      obtain ⟨data, -, hmsg, hflow⟩ := h.decoded (hnext _ rfl)
      cases hmsg
      exact hflow _ rfl
  | nextControl ctrl =>
      obtain ⟨data, -, hmsg, -⟩ := h.decoded (hnext _ rfl)
      cases hmsg
  | delivered data => exact h.dst_delivered
  | input | sent => exact h.dst_step fun _ => ⟨nofun, rfl⟩
  | inputFailed | nextErr | nextNone | readFailed | sendFailed | deliverFailed =>
      exact h.dst_step fun hne => absurd rfl hne

/-! ## Runs -/

variable {s s' t : Session} {x : Side} {label : SessionLabel} {labels : List SessionLabel}

/-- The invariant of the way that begins at `x`. -/
def FlowFrom (serde : PayloadSerde) (connId : UInt64) (s : Session) (x : Side) : Prop :=
  Flow serde connId (s.bridge x).pc (s.bridge x.other).pc (s.way x)

/-- Every step of the session keeps the flow in both directions. -/
lemma flowFrom_step (h : ∀ x, FlowFrom serde connId s x)
    (hstep : sessionStep serde connId s label = some s') (x : Side) :
    FlowFrom serde connId s' x := by
  cases label with
  | put z datagram =>
      rw [sessionStep] at hstep
      split at hstep <;> cases hstep
      rw [FlowFrom, Session.setWay_bridge]
      by_cases hx : x = z
      · subst hx
        rw [Session.setWay_self]
        exact (h x).put x datagram.fits
      · rw [Session.setWay_of_ne _ hx]
        exact h x
  | arrive z n =>
      cases hstep
      rw [FlowFrom, Session.setWay_bridge]
      by_cases hx : x = z.other
      · subst hx
        rw [Session.setWay_self]
        exact (h z.other).arrive n
      · rw [Session.setWay_of_ne _ hx]
        exact h x
  | bridge z event =>
      obtain ⟨hadmits, hmove, hother, hfeed, hdrain⟩ := sessionStep_bridge hstep
      rw [FlowFrom]
      rcases z.eq_or_eq_other x with rfl | rfl
      · rw [hother, hfeed]
        refine (h x).feed (x := x) hmove ?_
        rintro data rfl
        exact of_decide_eq_true hadmits
      · have hflow := h z.other
        rw [FlowFrom, Side.other_other] at hflow
        rw [hother, hdrain, Side.other_other]
        refine hflow.drain hmove ?_
        rintro msg rfl
        exact decoded_of_admits hadmits

/-- In every state of a run the flow is kept in both directions. -/
theorem flowFrom_of_exec (h : exec (sessionStep serde connId) .start labels = some s) (x : Side) :
    FlowFrom serde connId s x := by
  have hall : ∀ y, FlowFrom serde connId s y :=
    exec_invariant (I := fun s => ∀ y, FlowFrom serde connId s y)
      (fun _ _ _ hs hstep => flowFrom_step hs hstep)
      (fun _ => show Flow serde connId _ _ _ from Flow.start) h
  exact hall x

/-- The datagram that a step puts in at `x`. -/
def SessionLabel.puts (x : Side) : SessionLabel → List Datagram
  | .put y datagram => if y = x then [datagram] else []
  | _ => []

/-- The datagrams that a schedule puts in at `x`. -/
def putAt (x : Side) (labels : List SessionLabel) : List Datagram := labels.flatMap (·.puts x)

/-- No label of the schedule is an I/O error. -/
def Clean : SessionLabel → Prop
  | .bridge _ .inputFailed => False
  | .bridge _ .readFailed => False
  | .bridge _ (.sendFailed _) => False
  | .bridge _ .deliverFailed => False
  | _ => True

/-- Reading and sending put no datagram in. -/
lemma Way.feed_putIn (pc : UdpPc) (w : Way) (event : UdpEvent) :
    (w.feed serde connId pc event).putIn = w.putIn := by
  unfold Way.feed
  split <;> rfl

/-- Receiving and writing put no datagram in. -/
lemma Way.drain_putIn (pc : UdpPc) (w : Way) (event : UdpEvent) :
    (w.drain serde pc event).putIn = w.putIn := by
  unfold Way.drain
  split
  · rfl
  · split <;> rfl
  · rfl

/-- What has been put in grows by what the step puts in. -/
lemma putIn_step (hstep : sessionStep serde connId s label = some s') (x : Side) :
    (s'.way x).putIn = (s.way x).putIn ++ (label.puts x).map Datagram.data := by
  cases label with
  | put z datagram =>
      rw [sessionStep] at hstep
      split at hstep <;> cases hstep
      by_cases hx : x = z
      · subst hx
        rw [Session.setWay_self, SessionLabel.puts, if_pos rfl]
        rfl
      · rw [Session.setWay_of_ne _ hx, SessionLabel.puts, if_neg (Ne.symm hx)]
        exact (List.append_nil _).symm
  | arrive z n =>
      cases hstep
      refine Eq.trans ?_ (List.append_nil _).symm
      by_cases hx : x = z.other
      · subst hx
        rw [Session.setWay_self]
        rfl
      · rw [Session.setWay_of_ne _ hx]
  | bridge z event =>
      obtain ⟨-, -, -, hfeed, hdrain⟩ := sessionStep_bridge hstep
      refine Eq.trans ?_ (List.append_nil _).symm
      rcases z.eq_or_eq_other x with rfl | rfl
      · rw [hfeed, Way.feed_putIn]
      · rw [hdrain, Way.drain_putIn]

/-- What has been put in is what the schedule puts in. -/
lemma putIn_of_exec (h : exec (sessionStep serde connId) s labels = some t) (x : Side) :
    (t.way x).putIn = (s.way x).putIn ++ (putAt x labels).map Datagram.data := by
  induction labels generalizing s with
  | nil =>
      cases h
      exact (List.append_nil _).symm
  | cons label labels ih =>
      obtain ⟨s', hstep, hrun⟩ := exec_cons_eq_some.mp h
      rw [ih hrun, putIn_step hstep x, putAt, putAt, List.flatMap_cons, List.map_append,
        List.append_assoc]

/-! ## Nothing but an empty datagram ends a loop -/

/-- Both loops run. -/
def Running (s : Session) : Prop := ∀ x, (s.bridge x).pc ≠ .ended

/-- Without empty datagrams and failures, the session keeps running. -/
lemma running_step (hflow : ∀ x, FlowFrom serde connId s x) (h : Running s)
    (hne : ∀ x, [] ∉ (s.way x).putIn) (hclean : Clean label)
    (hstep : sessionStep serde connId s label = some s') : Running s' := by
  cases label with
  | put z datagram =>
      rw [sessionStep] at hstep
      split at hstep <;> cases hstep
      exact h
  | arrive z n =>
      cases hstep
      exact h
  | bridge z event =>
      obtain ⟨hadmits, hmove, hother, -, -⟩ := sessionStep_bridge hstep
      have hin := hflow z.other
      rw [FlowFrom, Side.other_other] at hin
      intro x
      rcases z.eq_or_eq_other x with rfl | rfl
      · generalize (s.bridge x).pc = pc at hmove hin
        generalize (s'.bridge x).pc = pc' at hmove
        cases hmove with
        | nextEmpty =>
            obtain ⟨data, hput, hmsg, -⟩ := hin.decoded (decoded_of_admits hadmits)
            cases hmsg
            exact absurd hput (hne x.other)
        | nextErr =>
            rw [udpAdmits] at hadmits
            split at hadmits
            · cases hadmits
            · case h_2 e hdec => exact absurd hdec (hin.decode_ne_error e)
        | nextNone => exact absurd (of_decide_eq_true hadmits).2.2 (h x.other)
        | inputFailed | readFailed | sendFailed | deliverFailed => exact hclean.elim
        | input | nextData | nextControl | sent | delivered => exact UdpPc.noConfusion
      · rw [hother]
        exact h z.other

/-! ## A transfer -/

/-- The two loops are at these awaits, and this is on the way that begins at `x`. -/
structure Stage (s : Session) (x : Side) (src dst : UdpPc) (queue : List Bytes) (wire buffer : Bytes) :
    Prop where
  src_pc : (s.bridge x).pc = src
  dst_pc : (s.bridge x.other).pc = dst
  queue_eq : (s.way x).queue = queue
  wire_eq : (s.way x).wire = wire
  buffer_eq : (s.way x).buffer = buffer

variable {queue : List Bytes} {wire buffer : Bytes} (serde connId)

/-- A datagram can be put in at any time. -/
lemma Stage.put (h : Stage s x src dst [] wire buffer) (d : Datagram) :
    ∃ s', sessionStep serde connId s (.put x d) = some s' ∧
      Stage s' x src dst [d.data] wire buffer := by
  have hroom : hasRoom x (s.way x) = true := by
    cases x with
    | server => exact decide_eq_true (by rw [h.queue_eq]; exact Nat.zero_lt_succ _)
    | client => rfl
  refine ⟨_, if_pos hroom, h.src_pc, h.dst_pc, ?_, ?_, ?_⟩
  · rw [Session.setWay_self]
    show (s.way x).queue ++ [enqueued x d.data] = _
    rw [h.queue_eq, enqueued_of_fits x d.fits]
    rfl
  · rw [Session.setWay_self]
    exact h.wire_eq
  · rw [Session.setWay_self]
    exact h.buffer_eq

/-- An outcome for the loop at the beginning of the way. -/
lemma Stage.src_step (h : Stage s x src dst queue wire buffer)
    (hmove : UdpMove src event src') (hunique : ∀ pc, UdpMove src event pc → pc = src')
    (hadmits : udpAdmits serde s x event) :
    ∃ s', sessionStep serde connId s (.bridge x event) = some s' ∧
      Stage s' x src' dst ((s.way x).feed serde connId src event).queue
        ((s.way x).feed serde connId src event).wire
        ((s.way x).feed serde connId src event).buffer := by
  obtain ⟨s', hstep⟩ := sessionStep_isSome_of_move connId hadmits (h.src_pc ▸ hmove)
  obtain ⟨-, hmove', hother, hfeed, -⟩ := sessionStep_bridge hstep
  rw [h.src_pc] at hmove' hfeed
  refine ⟨s', hstep, hunique _ hmove', hother ▸ h.dst_pc, ?_, ?_, ?_⟩ <;> rw [hfeed]

/-- An outcome for the loop at the end of the way. -/
lemma Stage.dst_step (h : Stage s x src dst queue wire buffer)
    (hmove : UdpMove dst event dst') (hunique : ∀ pc, UdpMove dst event pc → pc = dst')
    (hadmits : udpAdmits serde s x.other event) :
    ∃ s', sessionStep serde connId s (.bridge x.other event) = some s' ∧
      Stage s' x src dst' ((s.way x).drain serde dst event).queue
        ((s.way x).drain serde dst event).wire ((s.way x).drain serde dst event).buffer := by
  obtain ⟨s', hstep⟩ := sessionStep_isSome_of_move connId hadmits (h.dst_pc ▸ hmove)
  obtain ⟨-, hmove', hother, -, hdrain⟩ := sessionStep_bridge hstep
  rw [Side.other_other] at hother hdrain
  rw [h.dst_pc] at hmove' hdrain
  refine ⟨s', hstep, hother ▸ h.src_pc, hunique _ hmove', ?_, ?_, ?_⟩ <;> rw [hdrain]

/-- The steps that bring a datagram to the codec at the other end. -/
def carrying (serde : PayloadSerde) (connId : UInt64) (x : Side) (d : Datagram) :
    List SessionLabel :=
  [.put x d, .bridge x (.input d.data), .bridge x .sent,
    .arrive x.other (encoded serde (chunk connId d.data)).length]

/-- A datagram that finds both loops waiting and the way empty gets to the other end. -/
lemma Stage.carrying (h : Stage s x .select .select [] [] []) (d : Datagram) :
    ∃ s', exec (sessionStep serde connId) s (Udp.carrying serde connId x d) = some s' ∧
      Stage s' x .select .select [] [] (encoded serde (chunk connId d.data)) := by
  obtain ⟨s₁, hstep₁, h₁⟩ := h.put serde connId d
  obtain ⟨s₂, hstep₂, h₂⟩ := h₁.src_step serde connId (.input d.data)
    (by rintro _ ⟨⟩; rfl) (by rw [udpAdmits, h₁.queue_eq]; simp [taken_of_fits x d.fits])
  obtain ⟨s₃, hstep₃, h₃⟩ := h₂.src_step serde connId (.sent d.data)
    (by rintro _ ⟨⟩; rfl) rfl
  refine ⟨s₃.setWay x ((s₃.way x).arrive (encoded serde (chunk connId d.data)).length), ?_, ?_⟩
  · rw [Udp.carrying, exec_cons, hstep₁, Option.bind_some, exec_cons, hstep₂, Option.bind_some,
      exec_cons, hstep₃, Option.bind_some, exec_cons, sessionStep, Side.other_other]
    rfl
  · have hqueue : (s₃.way x).queue = [] := by
      rw [h₃.queue_eq]
      exact h₂.queue_eq.trans (by simp [Way.feed, h₁.queue_eq])
    have hwire : (s₃.way x).wire = encoded serde (chunk connId d.data) := by
      rw [h₃.wire_eq]
      show (s₂.way x).wire ++ _ = _
      rw [h₂.wire_eq]
      show (s₁.way x).wire ++ _ = _
      rw [h₁.wire_eq]
      rfl
    have hbuffer : (s₃.way x).buffer = [] :=
      h₃.buffer_eq.trans (h₂.buffer_eq.trans h₁.buffer_eq)
    refine ⟨h₃.src_pc, h₃.dst_pc, ?_, ?_, ?_⟩ <;> rw [Session.setWay_self]
    · exact hqueue
    · show (s₃.way x).wire.drop _ = []
      rw [hwire, List.drop_length]
    · show (s₃.way x).buffer ++ (s₃.way x).wire.take _ = _
      rw [hbuffer, hwire, List.take_length]
      rfl

/-- The frame of a datagram is admitted as the next message. -/
lemma Stage.admits_next {data : Bytes} (hfits : data.length ≤ maxDatagram)
    (h : Stage s x src dst queue wire (encoded serde (chunk connId data))) :
    Proto.decode serde (s.way x).buffer = (.ok (some (chunk connId data)), []) ∧
      udpAdmits serde s x.other (.next (.message (chunk connId data))) = true := by
  have hdec : Proto.decode serde (s.way x).buffer = (.ok (some (chunk connId data)), []) := by
    rw [h.buffer_eq]
    have hcomplete := (frames_chunk serde connId hfits).complete []
    rw [List.append_nil] at hcomplete
    exact hcomplete
  refine ⟨hdec, ?_⟩
  rw [udpAdmits, Side.other_other, hdec]
  exact decide_eq_true rfl

/-- A schedule without I/O errors that puts in one datagram, at `x`. -/
structure PutsOne (x : Side) (d : Datagram) (labels : List SessionLabel) : Prop where
  clean : ∀ label ∈ labels, Clean label
  puts : putAt x labels = [d]
  other : putAt x.other labels = []

/-- The run that carries a datagram puts exactly that one in. -/
lemma putsOne_carrying (x : Side) (d : Datagram) {more : List SessionLabel}
    (hclean : ∀ label ∈ more, Clean label) (hmore : ∀ y, putAt y more = []) :
    PutsOne x d (carrying serde connId x d ++ more) := by
  have hputs : ∀ y, putAt y (carrying serde connId x d ++ more) = if x = y then [d] else [] := by
    intro y
    rw [putAt, List.flatMap_append]
    show _ ++ putAt y more = _
    rw [hmore, List.append_nil]
    simp [carrying, SessionLabel.puts]
  refine ⟨?_, ?_, ?_⟩
  · intro label hlabel
    rcases List.mem_append.mp hlabel with hcarry | hrest
    · simp only [carrying, List.mem_cons, List.not_mem_nil, or_false] at hcarry
      rcases hcarry with rfl | rfl | rfl | rfl <;> trivial
    · exact hclean label hrest
  · rw [hputs, if_pos rfl]
  · rw [hputs, if_neg (Side.ne_other x)]

/-- A chunk that is not empty is delivered. -/
lemma UdpMove.eq_delivering {id : UInt64} {data : Bytes} {pc : UdpPc} (hne : data ≠ [])
    (h : UdpMove .select (.next (.message (chunk id data))) pc) : pc = .delivering data := by
  cases data with
  | nil => exact absurd rfl hne
  | cons a l =>
      cases h
      rfl

/-- A datagram that is not empty is brought to the other side and leaves the session as it was. -/
lemma Stage.transfer (h : Stage s x .select .select [] [] []) {d : Datagram} (hne : d.data ≠ []) :
    ∃ labels s', PutsOne x d labels ∧ exec (sessionStep serde connId) s labels = some s' ∧
      Stage s' x .select .select [] [] [] := by
  obtain ⟨s₁, hrun₁, h₁⟩ := h.carrying serde connId d
  obtain ⟨hdec, hadmits⟩ := h₁.admits_next serde connId d.fits
  obtain ⟨s₂, hstep₂, h₂⟩ := h₁.dst_step serde connId (.nextData connId hne)
    (fun _ hmove => hmove.eq_delivering hne) hadmits
  obtain ⟨s₃, hstep₃, h₃⟩ := h₂.dst_step serde connId (.delivered d.data)
    (by rintro _ ⟨⟩; rfl) rfl
  refine ⟨Udp.carrying serde connId x d ++ [.bridge x.other (.next (.message (chunk connId d.data))),
    .bridge x.other .delivered], s₃, ?_, ?_, ?_⟩
  · apply putsOne_carrying serde connId
    · intro label hlabel
      simp only [List.mem_cons, List.not_mem_nil, or_false] at hlabel
      rcases hlabel with rfl | rfl <;> trivial
    · exact fun _ => rfl
  · rw [exec_append, hrun₁, Option.bind_some, exec_cons]
    show (sessionStep serde connId s₁
      (.bridge x.other (.next (.message (.data ⟨connId, d.data⟩))))).bind
      _ = _
    rw [hstep₂, Option.bind_some, exec_cons, hstep₃]
    rfl
  · refine ⟨h₃.src_pc, h₃.dst_pc, ?_, ?_, ?_⟩
    · exact h₃.queue_eq.trans (h₂.queue_eq.trans h₁.queue_eq)
    · exact h₃.wire_eq.trans (h₂.wire_eq.trans h₁.wire_eq)
    · refine h₃.buffer_eq.trans (h₂.buffer_eq.trans ?_)
      show (Proto.decode serde (s₁.way x).buffer).2 = []
      rw [hdec]

/-- An empty datagram ends the loop at the other side. -/
lemma Stage.marker (h : Stage s x .select .select [] [] []) {d : Datagram} (hempty : d.data = []) :
    ∃ labels s', PutsOne x d labels ∧ exec (sessionStep serde connId) s labels = some s' ∧
      (s'.bridge x.other).pc = .ended := by
  obtain ⟨s₁, hrun₁, h₁⟩ := h.carrying serde connId d
  obtain ⟨-, hadmits⟩ := h₁.admits_next serde connId d.fits
  rw [hempty] at hadmits
  obtain ⟨s₂, hstep₂, h₂⟩ := h₁.dst_step serde connId (.nextEmpty connId)
    (by rintro _ ⟨⟩ <;> first | rfl | contradiction) hadmits
  refine ⟨Udp.carrying serde connId x d ++ [.bridge x.other (.next (.message (chunk connId [])))],
    s₂, ?_, ?_, h₂.dst_pc⟩
  · apply putsOne_carrying serde connId
    · intro label hlabel
      obtain rfl := List.mem_singleton.mp hlabel
      trivial
    · exact fun _ => rfl
  · rw [exec_append, hrun₁, Option.bind_some, exec_cons]
    show (sessionStep serde connId s₁
      (.bridge x.other (.next (.message (.data ⟨connId, []⟩))))).bind _ = _
    rw [hstep₂]
    rfl

/-- Bringing over some datagrams of which one is empty ends a loop. -/
lemma Stage.exists_ended (h : Stage s x .select .select [] [] []) {datagrams : List Datagram}
    {d : Datagram} (hd : d ∈ datagrams) (hempty : d.data = []) :
    ∃ labels s', (∀ label ∈ labels, Clean label) ∧ putAt x labels <+: datagrams ∧
      putAt x.other labels = [] ∧ exec (sessionStep serde connId) s labels = some s' ∧
      (s'.bridge x.other).pc = .ended := by
  induction datagrams generalizing s with
  | nil => cases hd
  | cons d' datagrams ih =>
      by_cases hne : d'.data = []
      · obtain ⟨labels, s', hputs, hrun, hended⟩ :=
          h.marker serde connId hne
        refine ⟨labels, s', hputs.clean, ?_, hputs.other, hrun, hended⟩
        rw [hputs.puts]
        exact ⟨datagrams, rfl⟩
      · obtain ⟨labels, s', hputs, hrun, h'⟩ := h.transfer serde connId hne
        have hd' : d ∈ datagrams := by
          rcases List.mem_cons.mp hd with rfl | hmem
          · exact absurd hempty hne
          · exact hmem
        obtain ⟨more, t, hclean, hstart, hother, hrun', hended⟩ := ih h' hd'
        refine ⟨labels ++ more, t, ?_, ?_, ?_, ?_, hended⟩
        · intro label hlabel
          exact (List.mem_append.mp hlabel).elim (hputs.clean label) (hclean label)
        · rw [putAt, List.flatMap_append]
          show putAt x labels ++ putAt x more <+: _
          rw [hputs.puts]
          exact (List.prefix_append_right_inj [d']).mpr hstart
        · rw [putAt, List.flatMap_append]
          show putAt x.other labels ++ putAt x.other more = _
          rw [hputs.other, hother]
          rfl
        · rw [exec_append, hrun, Option.bind_some, hrun']

/-! ## The theorem -/

variable {serde connId}

/-- What has been sent out is a prefix of what the schedule has put in, and no loop has ended. -/
def Faithful (labels : List SessionLabel) (s : Session) : Prop :=
  ∀ x, (s.way x).sentOut <+: (putAt x labels).map Datagram.data ∧ (s.bridge x).pc ≠ .ended

/-- What comes out is a prefix of what was put in. -/
lemma prefix_sentOut (h : exec (sessionStep serde connId) .start labels = some s) (x : Side) :
    (s.way x).sentOut <+: (putAt x labels).map Datagram.data := by
  have hput := putIn_of_exec h x
  have hsent : (s.way x).sentOut <+: (s.way x).putIn := (flowFrom_of_exec h x).sent
  rw [hput] at hsent
  exact hsent

/-- As long as no empty datagram is put in and no I/O error occurs, both loops run. -/
lemma running_of_exec (hne : ∀ x, ∀ d ∈ putAt x labels, d.data ≠ [])
    (hclean : ∀ label ∈ labels, Clean label)
    (h : exec (sessionStep serde connId) .start labels = some s) : Running s := by
  induction labels using List.reverseRecOn generalizing s with
  | nil =>
      cases h
      exact fun _ => nofun
  | append_singleton labels label ih =>
      rw [exec_append] at h
      obtain ⟨s₀, hrun, hlast⟩ := Option.bind_eq_some_iff.mp h
      obtain ⟨s₁, hstep, hnil⟩ := exec_cons_eq_some.mp hlast
      cases hnil
      have hne' : ∀ x, ∀ d ∈ putAt x labels, d.data ≠ [] := by
        intro x d hd
        apply hne x
        rw [putAt, List.flatMap_append]
        exact List.mem_append_left _ hd
      have hrunning := ih hne' (fun l hl => hclean l (List.mem_append_left _ hl)) hrun
      refine running_step (fun x => flowFrom_of_exec hrun x) hrunning ?_
        (hclean label (List.mem_append_right _ (List.mem_singleton_self _))) hstep
      intro x hmem
      rw [putIn_of_exec hrun x] at hmem
      obtain ⟨d, hd, hempty⟩ := List.mem_map.mp hmem
      exact hne' x d hd hempty

/-- Fidelity of a UDP session.  What is sent out at the far end is always a prefix of what was put in.
For given datagrams no schedule without I/O errors ends a loop, exactly when none of them is empty. -/
theorem datagram_fidelity (serde : PayloadSerde) (connId : UInt64) :
    (∀ labels s, exec (sessionStep serde connId) .start labels = some s →
      ∀ x, (s.way x).sentOut <+: (putAt x labels).map Datagram.data) ∧
    ∀ datagrams : Side → List Datagram,
      (∀ labels s, (∀ x, putAt x labels <+: datagrams x) → (∀ label ∈ labels, Clean label) →
        exec (sessionStep serde connId) .start labels = some s → Faithful labels s) ↔
      ∀ x, ∀ d ∈ datagrams x, d.data ≠ [] := by
  refine ⟨fun labels s h x => prefix_sentOut h x, fun datagrams => ⟨?_, ?_⟩⟩
  · intro h x d hd hempty
    have hstart : Stage .start x .select .select [] [] [] := ⟨rfl, rfl, rfl, rfl, rfl⟩
    obtain ⟨labels, s, hclean, hstart, hother, hrun, hended⟩ :=
      hstart.exists_ended serde connId hd hempty
    have hputs : ∀ y, putAt y labels <+: datagrams y := by
      intro y
      rcases x.eq_or_eq_other y with rfl | rfl
      · exact hstart
      · rw [hother]
        exact List.nil_prefix
    exact (h labels s hputs hclean hrun x.other).2 hended
  · intro hne labels s hputs hclean hrun x
    refine ⟨prefix_sentOut hrun x, ?_⟩
    exact running_of_exec (fun y d hd => hne y d ((hputs y).subset hd)) hclean hrun x

/-- The user sends an empty datagram. -/
def emptyDatagram : List SessionLabel :=
  [.put .server ⟨[], Nat.zero_le _⟩, .bridge .server (.input []), .bridge .server .sent,
    .arrive .client 15, .bridge .client (.next (.message (chunk 7 [])))]

/-- An empty datagram ends the loop of the client. -/
theorem empty_datagram_ends_session :
    ¬ ∀ (serde : PayloadSerde) (connId : UInt64) (labels : List SessionLabel) (s : Session),
      (∀ label ∈ labels, Clean label) → exec (sessionStep serde connId) .start labels = some s →
        Faithful labels s := by
  intro h
  obtain ⟨s, hs⟩ : ∃ s, exec (sessionStep sampleSerde 7) .start emptyDatagram = some s := ⟨_, rfl⟩
  have hclean : ∀ label ∈ emptyDatagram, Clean label := by
    intro label hlabel
    simp only [emptyDatagram, List.mem_cons, List.not_mem_nil, or_false] at hlabel
    rcases hlabel with rfl | rfl | rfl | rfl | rfl <;> trivial
  have hfaithful := h sampleSerde 7 emptyDatagram s hclean hs
  cases hs
  exact (hfaithful .client).2 rfl

end RustProxy.Bridge.Udp
