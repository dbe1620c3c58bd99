import RustProxy.Bridge.Fidelity
import RustProxy.Foundation.FramedPipe
import RustProxy.Proto.Frame
import RustProxy.Foundation.Simulation

/-!
# A tunnelled connection, byte by byte

The two bridges of a connection over a work connection as it is: a stream of bytes each way that takes
so many bytes, and a codec at each end.  A `send` puts the frame into a buffer of the codec and lasts
until the stream has taken it all; `next` reads while the decoder asks for more, and only while the
bridge waits in `select!`.

* `wireStep` is one step: of a bridge, or of one of the codecs.  The bridges are those of the messages.
  The last bytes of a frame leave with the outcome of the send.  A send that fails leaves the rest of its
  frame in the buffer of the codec, and `close` tries to send it once more.
* `Connection.view` is the connection by messages: what is queued is what the decoder would make of the
  bytes on the way.
* `wire_refines` is about runs: a connection by bytes is a connection by messages, no error ever comes
  from the decoder, and what is written to a local stream is a prefix of what was read from the other.
-/

namespace RustProxy.Bridge

open RustProxy.Proto Transition FramedPipe

/-- One way through the connection. -/
structure Line where
  got : Bytes
  eof : Bool
  pipe : FramedPipe UInt8
  put : Bytes
  shut : Bool
  deriving DecidableEq, Repr

/-- Nothing has moved yet. -/
def Line.start : Line := { got := [], eof := false, pipe := .empty, put := [], shut := false }

/-- The state of a connection; `line x` is the way whose source is at `x`. -/
structure Connection where
  bridge : Side → Locals
  line : Side → Line

/-- The work connection has just been bridged. -/
def Connection.start : Connection := { bridge := fun _ => .start, line := fun _ => .start }

/-- Who moves. -/
inductive WireLabel where
  | bridge (x : Side) (event : Event)
  /-- The stream takes `k` of the bytes that the codec at `x` has to send. -/
  | flush (x : Side) (k : ℕ)
  /-- The codec at `x` reads `k` bytes. -/
  | fetch (x : Side) (k : ℕ)
  deriving DecidableEq, Repr

variable (serde : PayloadSerde) (cap : Side → ℕ) (connId : UInt64)

/-- What an event at the source side does to the way. -/
def Line.feed (l : Line) : Event → Line
  | .read (.ok data) =>
      { l with
        got := l.got ++ data
        eof := l.eof || data.isEmpty
        pipe := l.pipe.write (encoded serde (chunk connId data)) }
  | .sent => { l with pipe := l.pipe.flush l.pipe.writeBuf.length }
  | .sendFailed true => { l with pipe := l.pipe.flush l.pipe.writeBuf.length }
  | _ => l

/-- What an event at the destination side does to the way. -/
def Line.drain (pc : Pc) (l : Line) : Event → Line
  | .next (.message _) =>
      { l with pipe := { l.pipe with readBuf := (decode serde l.pipe.readBuf).2 } }
  | .wrote k =>
      match pc with
      | .writing _ rest => { l with put := l.put ++ rest.take k }
      | _ => l
  | .shutDown => { l with shut := true }
  | _ => l

/-- The stream at the source side has room for the rest of the frame. -/
def Connection.fits (s : Connection) (x : Side) : Bool :=
  (s.line x).pipe.wire.length + (s.line x).pipe.writeBuf.length ≤ cap x

/-- The decoder asks for more. -/
def asksMore (buf : Bytes) : Bool :=
  match (decode serde buf).1 with
  | .ok none => true
  | _ => false

/-- The outcomes that the streams and the codecs can give the bridge at `x`. -/
def wireAdmits (s : Connection) (x : Side) : Event → Bool
  | .read (.ok data) => data.length ≤ bufSize
  | .sent => s.fits cap x
  | .sendFailed true => s.fits cap x
  | .next (.message msg) =>
      match (decode serde (s.line x.other).pipe.readBuf).1 with
      | .ok (some msg') => msg' = msg
      | _ => false
  | .next .none =>
      (s.line x.other).pipe.readBuf = [] ∧ (s.line x.other).pipe.wire = [] ∧
        (s.bridge x.other).pc = .ended
  | _ => true

/-- How many bytes may leave the codec before the send, or the close, is over. -/
def Pc.mayFlush (writeBuf : Bytes) (k : ℕ) : Pc → Bool
  | .sending _ => k < writeBuf.length
  | .sendingClose => k < writeBuf.length
  | .closing => k ≤ writeBuf.length
  | _ => false

/-- The ways after an event at `x`. -/
def Connection.lineAfter (s : Connection) (x : Side) (event : Event) (y : Side) : Line :=
  if y = x then (s.line y).feed serde connId event
  else (s.line y).drain serde (s.bridge x).pc event

/-- The bytes of one way move. -/
def Connection.setPipe (s : Connection) (x : Side) (p : FramedPipe UInt8) : Connection :=
  { s with line := Function.update s.line x { s.line x with pipe := p } }

/-- One step of a connection. -/
def wireStep (s : Connection) : WireLabel → Option Connection
  | .bridge x event =>
      if wireAdmits serde cap s x event then
        (code x (s.bridge x) event).map fun b =>
          { bridge := Function.update s.bridge x b, line := s.lineAfter serde connId x event }
      else none
  | .flush x k =>
      let p := (s.line x).pipe
      if 0 < k ∧ (s.bridge x).pc.mayFlush p.writeBuf k ∧ p.wire.length + k ≤ cap x then
        some (s.setPipe x (p.flush k))
      else none
  | .fetch x k =>
      let p := (s.line x.other).pipe
      if 0 < k ∧ k ≤ p.wire.length ∧ (s.bridge x).pc = .select ∧ asksMore serde p.readBuf then
        some (s.setPipe x.other (p.fetch k))
      else none

/-! ## What a step is -/

variable {serde cap connId} {s s' : Connection}

/-- A pipe is not part of the bridges. -/
@[simp] lemma Connection.setPipe_bridge (s : Connection) (x : Side) (p : FramedPipe UInt8) :
    (s.setPipe x p).bridge = s.bridge := rfl

/-- The pipe that was set. -/
@[simp] lemma Connection.setPipe_self (s : Connection) (x : Side) (p : FramedPipe UInt8) :
    (s.setPipe x p).line x = { s.line x with pipe := p } := Function.update_self _ _ _

/-- The pipe back stays. -/
lemma Connection.setPipe_of_ne (s : Connection) {x y : Side} (h : y ≠ x) (p : FramedPipe UInt8) :
    (s.setPipe x p).line y = s.line y := Function.update_of_ne h _ _

/-- What a step of a bridge does: it is admitted, the code runs, and only its lines change. -/
lemma wireStep_bridge {x : Side} {event : Event}
    (h : wireStep serde cap connId s (.bridge x event) = some s') :
    wireAdmits serde cap s x event = true ∧ code x (s.bridge x) event = some (s'.bridge x) ∧
      s'.bridge x.other = s.bridge x.other ∧ s'.line = s.lineAfter serde connId x event := by
  rw [wireStep] at h
  split at h
  case isFalse => cases h
  case isTrue hadmits =>
    obtain ⟨b, hb, rfl⟩ := Option.map_eq_some_iff.mp h
    refine ⟨hadmits, ?_, Function.update_of_ne x.other_ne _ _, rfl⟩
    change _ = some (Function.update s.bridge x b x)
    rw [Function.update_self]
    exact hb

/-- What a flush does: a portion of the write buffer goes on the wire, which has room for it. -/
lemma wireStep_flush {x : Side} {k : ℕ}
    (h : wireStep serde cap connId s (.flush x k) = some s') :
    0 < k ∧ (s.bridge x).pc.mayFlush (s.line x).pipe.writeBuf k = true ∧
      (s.line x).pipe.wire.length + k ≤ cap x ∧ s' = s.setPipe x ((s.line x).pipe.flush k) := by
  simp only [wireStep] at h
  split_ifs at h with hcond
  cases h
  exact ⟨hcond.1, hcond.2.1, hcond.2.2, rfl⟩

/-- What a fetch does: a portion of the wire goes into the read buffer of a decoder that asks for
more. -/
lemma wireStep_fetch {x : Side} {k : ℕ}
    (h : wireStep serde cap connId s (.fetch x k) = some s') :
    0 < k ∧ k ≤ (s.line x.other).pipe.wire.length ∧ (s.bridge x).pc = .select ∧
      asksMore serde (s.line x.other).pipe.readBuf = true ∧
        s' = s.setPipe x.other ((s.line x.other).pipe.fetch k) := by
  simp only [wireStep] at h
  split_ifs at h with hcond
  cases h
  exact ⟨hcond.1, hcond.2.1, hcond.2.2.1, hcond.2.2.2, rfl⟩

/-- The sending end of a step. -/
@[simp] lemma Connection.lineAfter_self (s : Connection) (x : Side) (event : Event) :
    s.lineAfter serde connId x event x = (s.line x).feed serde connId event := if_pos rfl

/-- The receiving end of a step. -/
@[simp] lemma Connection.lineAfter_other (s : Connection) (x : Side) (event : Event) :
    s.lineAfter serde connId x event x.other = (s.line x.other).drain serde (s.bridge x).pc event :=
  if_neg (by simp)

/-! ## The connection by messages -/

variable (serde) in
/-- The way by messages. -/
def Line.view (l : Line) : Direction :=
  { got := l.got, eof := l.eof, queue := l.pipe.queue (frameDecoder serde), put := l.put, shut := l.shut }

/-- The bridge by messages.  As long as `close` still has the rest of the marker to send, the send of the
marker is not over. -/
def Locals.view (l : Line) (b : Locals) : Locals :=
  if b.pc = .closing ∧ l.pipe.writeBuf ≠ [] then b.goto .sendingClose else b

variable (serde) in
/-- The connection by messages. -/
def Connection.view (s : Connection) : System where
  bridge x := (s.bridge x).view (s.line x)
  out x := (s.line x).view serde

/-- A chunk as the bridges send it, or the marker. -/
def IsChunk (connId : UInt64) (m : Message) : Prop :=
  ∃ data, m = chunk connId data ∧ data.length ≤ bufSize

/-- The longest frame of a bridge: header, `conn_id` and a full buffer. -/
def longestFrame : ℕ := headerSize + 8 + bufSize

/-- The frame of a chunk is a frame of the decoder. -/
lemma frames_of_isChunk {m : Message} (h : IsChunk connId m) :
    (frameDecoder serde).Frames (encoded serde) m := by
  obtain ⟨data, rfl, hlength⟩ := h
  refine frames_data ?_
  rw [DataMessage.length_encode]
  unfold bufSize at hlength
  unfold maxFrameSize
  exact (Nat.add_le_add_left hlength 8).trans (by decide)

/-- Header, `conn_id` and data. -/
lemma length_encoded_chunk (data : Bytes) :
    (encoded serde (chunk connId data)).length = headerSize + 8 + data.length := by
  have hpayload : framePayload serde (chunk connId data) =
      .ok (.data, (DataMessage.mk connId data).encode) := rfl
  rw [encoded_of_payload hpayload, length_frameBytes, DataMessage.length_encode, Nat.add_assoc]

/-- A read is at most one buffer long, so no frame is longer than the longest one. -/
lemma length_le_longestFrame {m : Message} (h : IsChunk connId m) :
    (encoded serde m).length ≤ longestFrame := by
  obtain ⟨data, rfl, hlength⟩ := h
  rw [length_encoded_chunk]
  exact Nat.add_le_add_left hlength _

/-- What a bridge at this await has to do with the frame that is being sent. -/
def Pc.Holds (connId : UInt64) (pending : Option Message) : Pc → Prop
  | .sending data => pending = some (chunk connId data)
  | .sendingClose => pending = some (chunk connId [])
  | .closing => ∀ m, pending = some m → m = chunk connId []
  | .ended => True
  | _ => pending = none

/-- What is on the way. -/
structure Line.Carrying (serde : PayloadSerde) (connId : UInt64) (pc : Pc) (l : Line)
    (items : List Message) (pending : Option Message) : Prop where
  carries : Carries (frameDecoder serde) (encoded serde) l.pipe items pending
  chunks : ∀ m ∈ items ++ pending.toList, IsChunk connId m
  holds : pc.Holds connId pending

/-- The invariant of a way. -/
structure Line.Sound (serde : PayloadSerde) (room : ℕ) (connId : UInt64) (pc : Pc) (l : Line) :
    Prop where
  carrying : ∃ items pending, l.Carrying serde connId pc items pending
  wire_le : l.pipe.wire.length ≤ room
  readBuf_le : l.pipe.readBuf.length ≤ longestFrame + room

variable {pc pc' : Pc} {l : Line} {room : ℕ} {items : List Message} {pending : Option Message}
  {event : Event} {data : Bytes}

/-- An empty buffer asks for more. -/
lemma decode_nil : (frameDecoder serde).decode [] = (.ok none, []) := rfl

/-- The line is empty at the start. -/
lemma Line.sound_start : Line.start.Sound serde room connId .select where
  carrying := ⟨[], none, carries_empty, nofun, rfl⟩
  wire_le := Nat.zero_le _
  readBuf_le := Nat.zero_le _

/-- The messages a line carries are those that are seen on it. -/
lemma Line.Carrying.queue_eq (h : l.Carrying serde connId pc items pending) :
    (l.view serde).queue = items := h.carries.queue_eq decode_nil

/-! ## Steps at the source -/

/-- A bridge that waits in `select!` puts a frame into the buffer. -/
lemma Line.Carrying.write (h : l.Carrying serde connId .select items pending)
    (next : Pc) (hdata : data.length ≤ bufSize)
    (hholds : next.Holds connId (some (chunk connId data))) :
    (l.feed serde connId (.read (.ok data))).Carrying serde connId next items
      (some (chunk connId data)) := by
  have hnone : pending = none := h.holds
  subst hnone
  have hchunk : IsChunk connId (chunk connId data) := ⟨data, rfl, hdata⟩
  refine ⟨h.carries.write (frames_of_isChunk hchunk), ?_, hholds⟩
  intro m hm
  rcases List.mem_append.mp hm with hold | hnew
  · exact h.chunks m (List.mem_append_left _ hold)
  · obtain rfl : m = chunk connId data := by simpa using hnew
    exact hchunk

/-- The last bytes of the frame leave. -/
lemma Line.Carrying.flush_all {m : Message} (h : l.Carrying serde connId pc items (some m))
    (next : Pc) (hholds : next.Holds connId none) :
    ({ l with pipe := l.pipe.flush l.pipe.writeBuf.length } : Line).Carrying serde connId next
      (items ++ [m]) none :=
  ⟨h.carries.flush_all, by simpa using h.chunks, hholds⟩

/-- Some of the bytes that may leave do. -/
lemma Line.Carrying.flush (h : l.Carrying serde connId pc items pending) {k : ℕ} (hpos : 0 < k)
    (hk : pc.mayFlush l.pipe.writeBuf k = true) :
    (∃ m, pending = some m ∧ k < l.pipe.writeBuf.length ∧
      ({ l with pipe := l.pipe.flush k } : Line).Carrying serde connId pc items pending) ∨
    (pc = .closing ∧ pending = some (chunk connId []) ∧ k = l.pipe.writeBuf.length ∧
      ({ l with pipe := l.pipe.flush k } : Line).Carrying serde connId pc
        (items ++ [chunk connId []]) none) := by
  have hle : k ≤ l.pipe.writeBuf.length := by
    cases pc <;> simp [Pc.mayFlush] at hk <;> omega
  cases pending with
  | none =>
      rw [h.carries.writeBuf_eq_nil, List.length_nil] at hle
      omega
  | some m =>
      by_cases hall : k = l.pipe.writeBuf.length
      · right
        cases pc with
        | closing =>
            obtain rfl : m = chunk connId [] := h.holds m rfl
            refine ⟨rfl, rfl, hall, ?_⟩
            rw [hall]
            exact h.flush_all .closing nofun
        | _ => simp [Pc.mayFlush, hall] at hk
      · left
        have hlt : k < l.pipe.writeBuf.length := by omega
        exact ⟨m, rfl, hlt, h.carries.flush hlt, h.chunks, h.holds⟩

/-- The way is left alone. -/
lemma Line.Carrying.keep (h : l.Carrying serde connId pc items pending)
    (hholds : pc'.Holds connId pending) :
    l.Carrying serde connId pc' (l.view serde).queue pending := by
  rw [h.queue_eq]
  exact ⟨h.carries, h.chunks, hholds⟩

/-- What a line carries depends on its pipe only. -/
lemma Line.Carrying.of_pipe_eq {l' : Line} (h : l.Carrying serde connId pc items pending)
    (hpipe : l'.pipe = l.pipe) : l'.Carrying serde connId pc items pending where
  carries := by
    rw [hpipe]
    exact h.carries
  chunks := h.chunks
  holds := h.holds

/-- What the bridge at the source does to what is on the way is what it does to the queue. -/
lemma Line.Carrying.feed (h : l.Carrying serde connId pc items pending) (hmove : Move pc event pc')
    (hread : ∀ data, event = .read (.ok data) → data.length ≤ bufSize) :
    ∃ pending', (l.feed serde connId event).Carrying serde connId pc'
      ((l.view serde).feed connId pc event).queue pending' := by
  have hqueue := h.queue_eq
  cases hmove with
  | readEof =>
      refine ⟨some (chunk connId []), ?_⟩
      have hwrite := h.write .sendingClose (hread [] rfl) rfl
      rw [← hqueue] at hwrite
      exact hwrite
  | @readChunk data hne =>
      refine ⟨some (chunk connId data), ?_⟩
      have hwrite := h.write (.sending data) (hread data rfl) rfl
      rw [← hqueue] at hwrite
      exact hwrite
  | sent data =>
      obtain rfl : pending = some (chunk connId data) := h.holds
      refine ⟨none, ?_⟩
      have hflush := h.flush_all .select rfl
      rw [← hqueue] at hflush
      exact hflush
  | sentClose =>
      obtain rfl : pending = some (chunk connId []) := h.holds
      refine ⟨none, ?_⟩
      have hflush := h.flush_all .closing nofun
      rw [← hqueue] at hflush
      exact hflush
  | sendFailed data queued =>
      obtain rfl : pending = some (chunk connId data) := h.holds
      cases queued with
      | true =>
          refine ⟨none, ?_⟩
          have hflush := h.flush_all .ended trivial
          rw [← hqueue] at hflush
          exact hflush
      | false => exact ⟨_, h.keep trivial⟩
  | sendCloseFailed queued =>
      obtain rfl : pending = some (chunk connId []) := h.holds
      cases queued with
      | true =>
          refine ⟨none, ?_⟩
          have hflush := h.flush_all .closing nofun
          rw [← hqueue] at hflush
          exact hflush
      | false => exact ⟨_, h.keep fun m hm => (Option.some.inj hm).symm⟩
  | readErr | nextErr | nextNone | closed | writeFailed | shutDown => exact ⟨_, h.keep trivial⟩
  | nextMarker | nextData | nextControl | wroteAll | wrotePart => exact ⟨_, h.keep h.holds⟩

/-- Feeding the line keeps it sound, if it has room for what is sent. -/
lemma Line.Sound.feed (h : l.Sound serde room connId pc) (hmove : Move pc event pc')
    (hread : ∀ data, event = .read (.ok data) → data.length ≤ bufSize)
    (hfits : event = .sent ∨ event = .sendFailed true →
      l.pipe.wire.length + l.pipe.writeBuf.length ≤ room) :
    (l.feed serde connId event).Sound serde room connId pc' := by
  obtain ⟨items, pending, hcarrying⟩ := h.carrying
  obtain ⟨pending', hcarrying'⟩ := hcarrying.feed hmove hread
  have hflush : event = .sent ∨ event = .sendFailed true →
      (l.pipe.flush l.pipe.writeBuf.length).wire.length ≤ room := by
    intro hevent
    simpa [FramedPipe.flush] using hfits hevent
  refine ⟨⟨_, _, hcarrying'⟩, ?_, ?_⟩
  · unfold Line.feed
    split
    · exact h.wire_le
    · exact hflush (.inl rfl)
    · exact hflush (.inr rfl)
    · exact h.wire_le
  · unfold Line.feed
    split <;> exact h.readBuf_le

/-- The way by messages, after the step. -/
lemma Line.Carrying.view_feed (h : l.Carrying serde connId pc items pending)
    (hmove : Move pc event pc') (hread : ∀ data, event = .read (.ok data) → data.length ≤ bufSize) :
    (l.feed serde connId event).view serde = (l.view serde).feed connId pc event := by
  obtain ⟨pending', h'⟩ := h.feed hmove hread
  have hrest : (l.feed serde connId event).view serde =
      { (l.view serde).feed connId pc event with
        queue := ((l.feed serde connId event).view serde).queue } := by
    cases event with
    | read result => cases result <;> rfl
    | sendFailed queued => cases queued <;> rfl
    | _ => rfl
  rw [hrest, h'.queue_eq]

/-! ## Steps at the destination -/

/-- The decoder gives the first message of the queue. -/
lemma Line.Carrying.next (h : l.Carrying serde connId pc items pending) {msg : Message}
    (hdecode : (decode serde l.pipe.readBuf).1 = .ok (some msg)) (dst : Pc) :
    ∃ items', items = msg :: items' ∧
      (l.drain serde dst (.next (.message msg))).Carrying serde connId pc items' pending := by
  rcases h.carries.decode_cases decode_nil with hneed | ⟨m, items', rest, rfl, hanswer, -, hcarries⟩
  · have hnone : (decode serde l.pipe.readBuf).1 = .ok none := congrArg Prod.fst hneed
    rw [hdecode] at hnone
    cases hnone
  · have hsome : decode serde l.pipe.readBuf = (.ok (some m), rest) := hanswer
    obtain rfl : msg = m := by
      rw [hsome] at hdecode
      cases hdecode
      rfl
    refine ⟨items', rfl, ?_, fun m hm => h.chunks m (List.mem_cons_of_mem _ hm), h.holds⟩
    simp only [Line.drain, hsome]
    exact hcarries

/-- The step leaves what is on the way, or takes the first message off it. -/
lemma Line.Carrying.drain (h : l.Carrying serde connId pc items pending) (dst : Pc)
    (hnext : ∀ msg, event = .next (.message msg) →
      (decode serde l.pipe.readBuf).1 = .ok (some msg)) :
    (l.drain serde dst event).Carrying serde connId pc ((l.view serde).drain dst event).queue
      pending := by
  have hkeep := h.keep h.holds
  cases event with
  | next result =>
      cases result with
      | message msg =>
          obtain ⟨items', rfl, h'⟩ := h.next (hnext msg rfl) dst
          have hqueue : ((l.view serde).drain dst (.next (.message msg))).queue = items' :=
            congrArg List.tail h.queue_eq
          rw [hqueue]
          exact h'
      | err => exact hkeep
      | none => exact hkeep
  | wrote k => cases dst <;> exact hkeep.of_pipe_eq rfl
  | shutDown => exact hkeep.of_pipe_eq rfl
  | _ => exact hkeep

/-- What is seen on the line is drained as the queue of messages is. -/
lemma Line.Carrying.view_drain (h : l.Carrying serde connId pc items pending) {dst : Pc}
    (hnext : ∀ msg, event = .next (.message msg) →
      (decode serde l.pipe.readBuf).1 = .ok (some msg)) :
    (l.drain serde dst event).view serde = (l.view serde).drain dst event := by
  have h' := h.drain dst hnext
  have hrest : (l.drain serde dst event).view serde =
      { (l.view serde).drain dst event with
        queue := ((l.drain serde dst event).view serde).queue } := by
    cases event with
    | next result => cases result <;> rfl
    | wrote k => cases dst <;> rfl
    | _ => rfl
  rw [hrest, h'.queue_eq]

/-- Draining the line keeps it sound, if what is taken was decoded. -/
lemma Line.Sound.drain (h : l.Sound serde room connId pc) {dst : Pc}
    (hnext : ∀ msg, event = .next (.message msg) →
      (decode serde l.pipe.readBuf).1 = .ok (some msg)) :
    (l.drain serde dst event).Sound serde room connId pc := by
  obtain ⟨items, pending, hcarrying⟩ := h.carrying
  refine ⟨⟨_, _, hcarrying.drain dst hnext⟩, ?_, ?_⟩
  · unfold Line.drain
    split
    · exact h.wire_le
    · split <;> exact h.wire_le
    · exact h.wire_le
    · exact h.wire_le
  · unfold Line.drain
    split
    · next msg =>
        have hlt := decode_shrinks l.pipe.readBuf msg (decode serde l.pipe.readBuf).2
          (Prod.ext (hnext msg rfl) rfl)
        exact hlt.le.trans h.readBuf_le
    · split <;> exact h.readBuf_le
    · exact h.readBuf_le
    · exact h.readBuf_le

/-! ## Steps of the codecs -/

/-- A flush keeps the line sound. -/
lemma Line.Sound.flush (h : l.Sound serde room connId pc) {k : ℕ} (hpos : 0 < k)
    (hk : pc.mayFlush l.pipe.writeBuf k = true) (hroom : l.pipe.wire.length + k ≤ room) :
    ({ l with pipe := l.pipe.flush k } : Line).Sound serde room connId pc := by
  obtain ⟨items, pending, hcarrying⟩ := h.carrying
  refine ⟨?_, ?_, h.readBuf_le⟩
  · rcases hcarrying.flush hpos hk with ⟨m, -, -, hflush⟩ | ⟨-, -, -, hflush⟩
    · exact ⟨_, _, hflush⟩
    · exact ⟨_, _, hflush⟩
  · have htake : (l.pipe.writeBuf.take k).length ≤ k := List.length_take_le k _
    change (l.pipe.wire ++ l.pipe.writeBuf.take k).length ≤ room
    rw [List.length_append]
    omega

/-- A decoder that asks for more has no message. -/
lemma decode_of_asksMore {buf : Bytes} (h : asksMore serde buf = true) :
    (decode serde buf).1 = .ok none := by
  unfold asksMore at h
  split at h
  · assumption
  · cases h

/-- Bytes are read only behind a part of a frame. -/
lemma Line.Sound.fetch (h : l.Sound serde room connId pc) (k : ℕ)
    (hasks : asksMore serde l.pipe.readBuf = true) :
    ({ l with pipe := l.pipe.fetch k } : Line).Sound serde room connId pc := by
  obtain ⟨items, pending, hcarrying⟩ := h.carrying
  have hneed : (frameDecoder serde).decode l.pipe.readBuf = (.ok none, l.pipe.readBuf) := by
    rcases hcarrying.carries.decode_cases decode_nil with hneed | ⟨m, items', rest, -, hanswer, -, -⟩
    · exact hneed
    · have hsome : (decode serde l.pipe.readBuf).1 = .ok (some m) := congrArg Prod.fst hanswer
      rw [decode_of_asksMore hasks] at hsome
      cases hsome
  have hshort := hcarrying.carries.length_readBuf_le hneed fun m hm =>
    length_le_longestFrame (hcarrying.chunks m hm)
  have hwire := h.wire_le
  refine ⟨⟨items, pending, hcarrying.carries.fetch k, hcarrying.chunks, hcarrying.holds⟩, ?_, ?_⟩
  · change (l.pipe.wire.drop k).length ≤ room
    rw [List.length_drop]
    omega
  · change (l.pipe.readBuf ++ l.pipe.wire.take k).length ≤ longestFrame + room
    rw [List.length_append, List.length_take]
    omega

/-! ## Runs -/

/-- The invariant of a connection. -/
def Connection.Sound (serde : PayloadSerde) (cap : Side → ℕ) (connId : UInt64) (s : Connection) :
    Prop :=
  ∀ x, (s.line x).Sound serde (cap x) connId (s.bridge x).pc

/-- A read is at most one buffer long. -/
lemma read_of_admits {x : Side} (h : wireAdmits serde cap s x event = true) (data : Bytes)
    (hevent : event = .read (.ok data)) : data.length ≤ bufSize := by
  subst hevent
  simpa [wireAdmits] using h

/-- A send ends, or fails, only after all of its frame fits on the wire. -/
lemma fits_of_admits {x : Side} (h : wireAdmits serde cap s x event = true)
    (hevent : event = .sent ∨ event = .sendFailed true) :
    (s.line x).pipe.wire.length + (s.line x).pipe.writeBuf.length ≤ cap x := by
  rcases hevent with rfl | rfl
  · simpa [wireAdmits, Connection.fits] using h
  · simpa [wireAdmits, Connection.fits] using h

/-- A message that is taken was decoded. -/
lemma decode_of_admits {x : Side} (h : wireAdmits serde cap s x event = true) (msg : Message)
    (hevent : event = .next (.message msg)) :
    (decode serde (s.line x.other).pipe.readBuf).1 = .ok (some msg) := by
  subst hevent
  simp only [wireAdmits] at h
  split at h
  · next msg' hanswer =>
      rw [hanswer]
      simpa using h
  · cases h

/-- The start is sound. -/
lemma sound_start : Connection.start.Sound serde cap connId := fun _ => Line.sound_start

/-- Every step keeps the connection sound. -/
lemma sound_step (h : s.Sound serde cap connId) {label : WireLabel}
    (hstep : wireStep serde cap connId s label = some s') : s'.Sound serde cap connId := by
  cases label with
  | bridge x event =>
      obtain ⟨hadmits, hcode, hother, hline⟩ := wireStep_bridge hstep
      intro y
      rw [hline]
      rcases x.eq_or_eq_other y with rfl | rfl
      · rw [Connection.lineAfter_self]
        exact (h y).feed (move_of_code hcode) (read_of_admits hadmits) (fits_of_admits hadmits)
      · rw [Connection.lineAfter_other, hother]
        exact (h x.other).drain (decode_of_admits hadmits)
  | flush x k =>
      obtain ⟨hpos, hk, hroom, rfl⟩ := wireStep_flush hstep
      intro y
      rcases x.eq_or_eq_other y with rfl | rfl
      · rw [Connection.setPipe_self]
        exact (h y).flush hpos hk hroom
      · rw [Connection.setPipe_of_ne s x.other_ne]
        exact h x.other
  | fetch x k =>
      obtain ⟨-, -, -, hasks, rfl⟩ := wireStep_fetch hstep
      intro y
      rcases x.eq_or_eq_other y with rfl | rfl
      · rw [Connection.setPipe_of_ne s y.ne_other]
        exact h y
      · rw [Connection.setPipe_self]
        exact (h x.other).fetch k hasks

/-- Every state of a run is sound. -/
theorem sound_of_exec {labels : List WireLabel}
    (h : exec (wireStep serde cap connId) .start labels = some s) : s.Sound serde cap connId :=
  exec_invariant (I := Connection.Sound serde cap connId) (fun _ _ _ hs hstep => sound_step hs hstep)
    sound_start h

/-! ## Steps by messages -/

/-- Room for as many messages as there can be bytes on the way. -/
def queueRoom (cap : Side → ℕ) (x : Side) : ℕ := longestFrame + 2 * cap x + 1

/-- A bridge that is not closing is seen as it is. -/
lemma view_of_ne_closing {b : Locals} (h : b.pc ≠ .closing) : b.view l = b := by
  rw [Locals.view, if_neg (fun hclosing => h hclosing.1)]

/-- A bridge with an empty write buffer is seen as it is. -/
lemma view_of_writeBuf_eq_nil {b : Locals} (h : l.pipe.writeBuf = []) : b.view l = b := by
  rw [Locals.view, if_neg (fun hclosing => hclosing.2 h)]

/-- A bridge that is closing with a part of its marker unsent is seen as sending the marker. -/
lemma view_of_closing {b : Locals} (hpc : b.pc = .closing) (h : l.pipe.writeBuf ≠ []) :
    b.view l = b.goto .sendingClose := by
  rw [Locals.view, if_pos ⟨hpc, h⟩]

/-- Going to where one is. -/
lemma goto_of_pc_eq {b : Locals} (hpc : b.pc = pc) (pc' : Pc) : (b.goto pc').goto pc = b := by
  subst hpc
  rfl

/-- A move of one bridge and its effect on the two directions are a step. -/
lemma step_of_effects {cap : Side → ℕ} {t t' : System} {x : Side}
    (hadmits : admits cap t x event = true)
    (hcode : code x (t.bridge x) event = some (t'.bridge x))
    (hother : t'.bridge x.other = t.bridge x.other)
    (hfeed : t'.out x = (t.out x).feed connId (t.bridge x).pc event)
    (hdrain : t'.out x.other = (t.out x.other).drain (t.bridge x).pc event) :
    step cap connId t (x, event) = some t' := by
  have hbridge : Function.update t.bridge x (t'.bridge x) = t'.bridge := by
    funext y
    rcases x.eq_or_eq_other y with rfl | rfl
    · rw [Function.update_self]
    · rw [Function.update_of_ne x.other_ne, hother]
  have hout : t.outAfter connId x event = t'.out := by
    funext y
    rcases x.eq_or_eq_other y with rfl | rfl
    · rw [System.outAfter, if_pos rfl, hfeed]
    · rw [System.outAfter, if_neg x.other_ne, hdrain]
  rw [step, if_pos hadmits, hcode, Option.map_some, hbridge, hout]

/-- A sound line carries fewer messages than its room for them. -/
lemma Line.Sound.queue_lt {x : Side} (h : l.Sound serde (cap x) connId pc) :
    (l.view serde).queue.length < queueRoom cap x := by
  obtain ⟨items, pending, hcarrying⟩ := h.carrying
  have hlength := hcarrying.carries.length_items_le
  have hwire := h.wire_le
  have hread := h.readBuf_le
  rw [hcarrying.queue_eq]
  unfold queueRoom
  omega

/-- What the streams and the codecs give a bridge, the queues give it. -/
lemma admits_view (h : s.Sound serde cap connId) {x : Side}
    (hadmits : wireAdmits serde cap s x event = true) :
    admits (queueRoom cap) (s.view serde) x event = true := by
  have hroom : (((s.view serde).out x).queue.length < queueRoom cap x) := (h x).queue_lt
  cases event with
  | read result =>
      cases result with
      | ok data => exact hadmits
      | err => rfl
  | sent => simpa [admits] using hroom
  | sendFailed queued =>
      cases queued with
      | true => simpa [admits] using hroom
      | false => rfl
  | next result =>
      cases result with
      | message msg =>
          obtain ⟨items, pending, hcarrying⟩ := (h x.other).carrying
          obtain ⟨items', rfl, -⟩ := hcarrying.next (decode_of_admits hadmits msg rfl) .select
          have hqueue : ((s.view serde).out x.other).queue = msg :: items' := hcarrying.queue_eq
          simp [admits, hqueue]
      | err => rfl
      | none =>
          obtain ⟨hbuf, hwire, hpc⟩ : (s.line x.other).pipe.readBuf = [] ∧
              (s.line x.other).pipe.wire = [] ∧ (s.bridge x.other).pc = .ended := by
            simpa [wireAdmits] using hadmits
          have hqueue : ((s.view serde).out x.other).queue = [] := by
            change (s.line x.other).pipe.queue (frameDecoder serde) = []
            rw [FramedPipe.queue, hbuf, hwire, List.append_nil, StreamDecoder.drain_of_need decode_nil]
          have hended : ((s.view serde).bridge x.other).pc = .ended := by
            change ((s.bridge x.other).view (s.line x.other)).pc = .ended
            rw [view_of_ne_closing (by simp [hpc]), hpc]
          simp [admits, hqueue, hended]
  | closed | wrote k | writeFailed | shutDown => rfl

/-- The buffer is empty when a bridge comes to `close`, unless the marker could not be sent. -/
lemma view_after {x : Side} (hline : s'.line = s.lineAfter serde connId x event)
    (hmove : Move (s.bridge x).pc event (s'.bridge x).pc)
    (hne : ¬ ((s.bridge x).pc = .sendingClose ∧ event = .sendFailed false)) :
    (s'.bridge x).view (s'.line x) = s'.bridge x := by
  by_cases hclosing : (s'.bridge x).pc = .closing
  · apply view_of_writeBuf_eq_nil
    rw [hline, Connection.lineAfter_self]
    generalize hpc : (s.bridge x).pc = pc at hmove hne
    rw [hclosing] at hmove
    cases hmove with
    | sentClose => simp [Line.feed, FramedPipe.flush]
    | sendCloseFailed queued =>
        cases queued with
        | true => simp [Line.feed, FramedPipe.flush]
        | false => exact absurd ⟨rfl, rfl⟩ hne
  · exact view_of_ne_closing hclosing

/-- A step of a bridge that is the same step by messages. -/
lemma step_view (h : s.Sound serde cap connId) {x : Side}
    (hstep : wireStep serde cap connId s (.bridge x event) = some s')
    (hbefore : (s.bridge x).view (s.line x) = s.bridge x)
    (hafter : (s'.bridge x).view (s'.line x) = s'.bridge x) :
    step (queueRoom cap) connId (s.view serde) (x, event) = some (s'.view serde) := by
  obtain ⟨hadmits, hcode, hother, hline⟩ := wireStep_bridge hstep
  obtain ⟨items, pending, hcarrying⟩ := (h x).carrying
  obtain ⟨items', pending', hcarrying'⟩ := (h x.other).carrying
  have hbridge : (s.view serde).bridge x = s.bridge x := hbefore
  have hbridge' : (s'.view serde).bridge x = s'.bridge x := hafter
  have hwriteBuf : (s'.line x.other).pipe.writeBuf = (s.line x.other).pipe.writeBuf := by
    rw [hline, Connection.lineAfter_other]
    unfold Line.drain
    split
    · rfl
    · split <;> rfl
    · rfl
    · rfl
  refine step_of_effects (admits_view h hadmits) ?_ ?_ ?_ ?_
  · rw [hbridge, hbridge', hcode]
  · change (s'.bridge x.other).view (s'.line x.other) = (s.bridge x.other).view (s.line x.other)
    rw [Locals.view, Locals.view, hother, hwriteBuf]
  · rw [hbridge]
    change (s'.line x).view serde = ((s.line x).view serde).feed connId _ event
    rw [hline, Connection.lineAfter_self]
    exact hcarrying.view_feed (move_of_code hcode) (read_of_admits hadmits)
  · rw [hbridge]
    change (s'.line x.other).view serde = ((s.line x.other).view serde).drain _ event
    rw [hline, Connection.lineAfter_other]
    exact hcarrying'.view_drain (decode_of_admits hadmits)

/-- Events that concern no line. -/
lemma lineAfter_of_idle {x : Side} (hevent : event = .sendFailed false ∨ event = .closed) :
    s.lineAfter serde connId x event = s.line := by
  funext y
  rcases x.eq_or_eq_other y with rfl | rfl
  · rw [Connection.lineAfter_self]
    rcases hevent with rfl | rfl <;> rfl
  · rw [Connection.lineAfter_other]
    rcases hevent with rfl | rfl <;> rfl

/-- The send of the marker fails: by messages it goes on until the connection is closed. -/
lemma view_of_sendFailed (h : s.Sound serde cap connId) {x : Side}
    (hpc : (s.bridge x).pc = .sendingClose)
    (hstep : wireStep serde cap connId s (.bridge x (.sendFailed false)) = some s') :
    s'.view serde = s.view serde := by
  obtain ⟨-, hcode, hother, hline⟩ := wireStep_bridge hstep
  obtain ⟨items, pending, hcarrying⟩ := (h x).carrying
  have hsame : s'.line = s.line := hline.trans (lineAfter_of_idle (.inl rfl))
  have hclosing : s'.bridge x = (s.bridge x).goto .closing := by
    cases x <;> simpa [code, bridgeStreamToFramed, bridgeLocalTcpToFramed, bridge, hpc, eq_comm]
      using hcode
  have hrest : (s.line x).pipe.writeBuf ≠ [] := by
    have hholds := hcarrying.holds
    rw [hpc] at hholds
    obtain rfl : pending = some (chunk connId []) := hholds
    exact hcarrying.carries.writeBuf_ne_nil
  have hbridge : (s'.view serde).bridge = (s.view serde).bridge := by
    funext y
    change (s'.bridge y).view (s'.line y) = (s.bridge y).view (s.line y)
    rw [hsame]
    rcases x.eq_or_eq_other y with rfl | rfl
    · rw [hclosing, view_of_closing rfl hrest, view_of_ne_closing (by simp [hpc])]
      exact goto_of_pc_eq hpc .closing
    · rw [hother]
  have hout : (s'.view serde).out = (s.view serde).out := by
    funext y
    change (s'.line y).view serde = (s.line y).view serde
    rw [hsame]
  calc s'.view serde = ⟨(s'.view serde).bridge, (s'.view serde).out⟩ := rfl
    _ = s.view serde := by rw [hbridge, hout]

/-- The bridge that waits for `close` to send the rest of the marker, by messages. -/
lemma code_sendFailed {x : Side} {b : Locals} (hpc : b.pc = .closing) (queued : Bool) :
    code x (b.goto .sendingClose) (.sendFailed queued) = some b := by
  have hgoto := goto_of_pc_eq hpc .sendingClose
  cases x <;> simpa [code, bridgeStreamToFramed, bridgeLocalTcpToFramed, bridge] using hgoto

/-- The connection is closed with a part of the marker still there. -/
lemma exec_view_closed {x : Side} (hpc : (s.bridge x).pc = .closing)
    (hrest : (s.line x).pipe.writeBuf ≠ [])
    (hstep : wireStep serde cap connId s (.bridge x .closed) = some s') :
    exec (step (queueRoom cap) connId) (s.view serde) [(x, .sendFailed false), (x, .closed)] =
      some (s'.view serde) := by
  obtain ⟨hadmits, hcode, hother, hline⟩ := wireStep_bridge hstep
  have hbefore : (s.view serde).bridge x = (s.bridge x).goto .sendingClose := view_of_closing hpc hrest
  let t : System := { s.view serde with bridge := Function.update (s.view serde).bridge x (s.bridge x) }
  have ht : t.bridge x = s.bridge x := Function.update_self _ _ _
  have ht' : t.bridge x.other = (s.view serde).bridge x.other := Function.update_of_ne x.other_ne _ _
  have hfailed : step (queueRoom cap) connId (s.view serde) (x, .sendFailed false) = some t := by
    refine step_of_effects rfl ?_ ht' rfl rfl
    rw [hbefore, ht]
    exact code_sendFailed hpc false
  have hsame : s'.line = s.line := hline.trans (lineAfter_of_idle (.inr rfl))
  have hended : (s'.bridge x).pc ≠ .closing := by
    have hmove := move_of_code hcode
    rw [hpc] at hmove
    generalize (s'.bridge x).pc = pc' at hmove
    cases hmove
    simp
  have hclosed : step (queueRoom cap) connId t (x, .closed) = some (s'.view serde) := by
    refine step_of_effects rfl ?_ ?_ ?_ ?_
    · rw [ht, hcode]
      exact congrArg some (view_of_ne_closing hended).symm
    · rw [ht']
      change (s'.bridge x.other).view (s'.line x.other) = (s.bridge x.other).view (s.line x.other)
      rw [hsame, hother]
    · change (s'.line x).view serde = (s.line x).view serde
      rw [hsame]
    · change (s'.line x.other).view serde = (s.line x.other).view serde
      rw [hsame]
  rw [exec_cons, hfailed, Option.bind_some, exec_cons, hclosed]
  rfl

/-- A step of a bridge. -/
lemma refines_bridge (h : s.Sound serde cap connId) {x : Side}
    (hstep : wireStep serde cap connId s (.bridge x event) = some s') :
    ∃ steps, exec (step (queueRoom cap) connId) (s.view serde) steps = some (s'.view serde) := by
  obtain ⟨-, hcode, -, hline⟩ := wireStep_bridge hstep
  have hmove := move_of_code hcode
  by_cases hfailed : (s.bridge x).pc = .sendingClose ∧ event = .sendFailed false
  · obtain ⟨hpc, rfl⟩ := hfailed
    exact ⟨[], congrArg some (view_of_sendFailed h hpc hstep).symm⟩
  · have hafter := view_after hline hmove hfailed
    have hsame : (s.bridge x).view (s.line x) = s.bridge x →
        ∃ steps, exec (step (queueRoom cap) connId) (s.view serde) steps = some (s'.view serde) := by
      intro hbefore
      refine ⟨[(x, event)], ?_⟩
      rw [exec_cons, step_view h hstep hbefore hafter]
      rfl
    by_cases hclosing : (s.bridge x).pc = .closing
    · by_cases hrest : (s.line x).pipe.writeBuf = []
      · exact hsame (view_of_writeBuf_eq_nil hrest)
      · have hclosed : event = .closed := by
          rw [hclosing] at hmove
          generalize (s'.bridge x).pc = pc' at hmove
          cases hmove
          rfl
        subst hclosed
        exact ⟨_, exec_view_closed hclosing hrest hstep⟩
    · exact hsame (view_of_ne_closing hclosing)

/-- Bytes that move without a message coming to its end cannot be seen by messages. -/
lemma view_setPipe {x : Side} {p : FramedPipe UInt8}
    (hqueue : p.queue (frameDecoder serde) = (s.line x).pipe.queue (frameDecoder serde))
    (hrest : p.writeBuf = [] ↔ (s.line x).pipe.writeBuf = []) :
    (s.setPipe x p).view serde = s.view serde := by
  have hbridge : ((s.setPipe x p).view serde).bridge = (s.view serde).bridge := by
    funext y
    change (s.bridge y).view ((s.setPipe x p).line y) = (s.bridge y).view (s.line y)
    rcases x.eq_or_eq_other y with rfl | rfl
    · rw [Connection.setPipe_self]
      exact if_congr (and_congr_right fun _ => not_congr hrest) rfl rfl
    · rw [Connection.setPipe_of_ne s x.other_ne]
  have hout : ((s.setPipe x p).view serde).out = (s.view serde).out := by
    funext y
    change ((s.setPipe x p).line y).view serde = (s.line y).view serde
    rcases x.eq_or_eq_other y with rfl | rfl
    · rw [Connection.setPipe_self, Line.view, Line.view, hqueue]
    · rw [Connection.setPipe_of_ne s x.other_ne]
  calc (s.setPipe x p).view serde
      = ⟨((s.setPipe x p).view serde).bridge, ((s.setPipe x p).view serde).out⟩ := rfl
    _ = s.view serde := by rw [hbridge, hout]

/-- The rest of the marker leaves while the connection is closed. -/
lemma step_view_flush (h : s.Sound serde cap connId) {x : Side} {p : FramedPipe UInt8}
    (hpc : (s.bridge x).pc = .closing) (hrest : (s.line x).pipe.writeBuf ≠ [])
    (hqueue : p.queue (frameDecoder serde) =
      (s.line x).pipe.queue (frameDecoder serde) ++ [chunk connId []]) (hnil : p.writeBuf = []) :
    step (queueRoom cap) connId (s.view serde) (x, .sendFailed true) =
      some ((s.setPipe x p).view serde) := by
  have hbefore : (s.view serde).bridge x = (s.bridge x).goto .sendingClose := view_of_closing hpc hrest
  have hafter : ((s.setPipe x p).view serde).bridge x = s.bridge x := by
    change (s.bridge x).view ((s.setPipe x p).line x) = s.bridge x
    rw [Connection.setPipe_self]
    exact view_of_writeBuf_eq_nil hnil
  refine step_of_effects ?_ ?_ ?_ ?_ ?_
  · have hlt : ((s.view serde).out x).queue.length < queueRoom cap x := (h x).queue_lt
    simpa [admits] using hlt
  · rw [hbefore, hafter]
    exact code_sendFailed hpc true
  · change (s.bridge x.other).view ((s.setPipe x p).line x.other) = _
    rw [Connection.setPipe_of_ne s x.other_ne]
    rfl
  · rw [hbefore]
    change ((s.setPipe x p).line x).view serde = _
    rw [Connection.setPipe_self, Line.view, hqueue]
    rfl
  · change ((s.setPipe x p).line x.other).view serde = _
    rw [Connection.setPipe_of_ne s x.other_ne]
    rfl

/-- Bytes leave a codec. -/
lemma refines_flush (h : s.Sound serde cap connId) {x : Side} {k : ℕ}
    (hstep : wireStep serde cap connId s (.flush x k) = some s') :
    ∃ steps, exec (step (queueRoom cap) connId) (s.view serde) steps = some (s'.view serde) := by
  obtain ⟨hpos, hk, -, rfl⟩ := wireStep_flush hstep
  obtain ⟨items, pending, hcarrying⟩ := (h x).carrying
  have hbefore : (s.line x).pipe.queue (frameDecoder serde) = items := hcarrying.queue_eq
  rcases hcarrying.flush hpos hk with ⟨m, rfl, -, hflush⟩ | ⟨hpc, rfl, -, hflush⟩
  · have hafter : ((s.line x).pipe.flush k).queue (frameDecoder serde) = items := hflush.queue_eq
    refine ⟨[], congrArg some (view_setPipe (hbefore.trans hafter.symm).symm ?_).symm⟩
    exact iff_of_false hflush.carries.writeBuf_ne_nil hcarrying.carries.writeBuf_ne_nil
  · have hafter : ((s.line x).pipe.flush k).queue (frameDecoder serde) = items ++ [chunk connId []] :=
      hflush.queue_eq
    rw [← hbefore] at hafter
    refine ⟨[(x, .sendFailed true)], ?_⟩
    rw [exec_cons, step_view_flush h hpc hcarrying.carries.writeBuf_ne_nil hafter
      hflush.carries.writeBuf_eq_nil]
    rfl

/-- Bytes are read. -/
lemma view_fetch {x : Side} {k : ℕ} (hstep : wireStep serde cap connId s (.fetch x k) = some s') :
    s'.view serde = s.view serde := by
  obtain ⟨-, -, -, -, rfl⟩ := wireStep_fetch hstep
  refine view_setPipe ?_ Iff.rfl
  rw [FramedPipe.queue, FramedPipe.queue, FramedPipe.fetch_way]

/-- The connection by bytes refines the connection by messages. -/
lemma wireStep_refines : Refines (wireStep serde cap connId) (step (queueRoom cap) connId)
    (Connection.Sound serde cap connId) (Connection.view serde) where
  keeps := fun _ _ _ h hstep => sound_step h hstep
  refines := by
    intro s label s' h hstep
    cases label with
    | bridge x event => exact refines_bridge h hstep
    | flush x k => exact refines_flush h hstep
    | fetch x k => exact ⟨[], congrArg some (view_fetch hstep).symm⟩

/-- The start is seen as the start. -/
lemma view_start : Connection.start.view serde = .start := by
  have hqueue : FramedPipe.empty.queue (frameDecoder serde) = [] :=
    congrArg Prod.fst (StreamDecoder.drain_of_need decode_nil)
  have hline : Line.start.view serde = .start := by
    rw [Line.view, Line.start, hqueue]
    rfl
  calc Connection.start.view serde = ⟨fun _ => .start, fun _ => Line.start.view serde⟩ := rfl
    _ = .start := by rw [hline, System.start]

/-- **By bytes as by messages.**  Whatever the sizes of the portions in which the frames leave and arrive,
and whatever fails in it: a run of a connection over two streams of bytes is a run of the connection over
two queues of messages.  The decoder never fails, and what is written to the stream at one end is a prefix
of what was read from the stream at the other. -/
theorem wire_refines (serde : PayloadSerde) (cap : Side → ℕ) (connId : UInt64) {labels : List WireLabel}
    {s : Connection} (h : exec (wireStep serde cap connId) .start labels = some s) :
    (∃ steps, exec (step (queueRoom cap) connId) .start steps = some (s.view serde)) ∧
      ∀ x, (s.line x).put <+: (s.line x).got ∧
        ∀ e, (decode serde (s.line x).pipe.readBuf).1 ≠ .error e := by
  have hrun := exec_refinement wireStep_refines sound_start h
  rw [view_start] at hrun
  refine ⟨hrun, fun x => ⟨?_, ?_⟩⟩
  · obtain ⟨steps, hsteps⟩ := hrun
    have hflow := flowFrom_of_exec hsteps x
    exact hflow.put_prefix
  · obtain ⟨items, pending, hcarrying⟩ := (sound_of_exec h x).carrying
    exact hcarrying.carries.decode_ne_error decode_nil

/-- Two bytes from the user, whose frame is cut in three on its way. -/
def samplePortions : List WireLabel :=
  [.bridge .server (.read (.ok [1, 2])), .flush .server 5, .fetch .client 3, .flush .server 7,
    .fetch .client 9, .bridge .server .sent, .fetch .client 5,
    .bridge .client (.next (.message (chunk 7 [1, 2]))), .bridge .client (.wrote 2)]

/-- The sample portions are seen as a run over messages. -/
theorem wire_refines_sample : ∃ s steps,
    exec (wireStep sampleSerde (fun _ => 10) 7) .start samplePortions = some s ∧
      exec (step (queueRoom fun _ => 10) 7) .start steps = some (s.view sampleSerde) ∧
        (s.line .server).put = [1, 2] := by
  obtain ⟨⟨steps, hsteps⟩, -⟩ := @wire_refines sampleSerde (fun _ => 10) 7 samplePortions _ rfl
  exact ⟨_, steps, rfl, hsteps, rfl⟩

end RustProxy.Bridge
