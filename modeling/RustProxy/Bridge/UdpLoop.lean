import RustProxy.Bridge.System
import RustProxy.Proto.Frame

/-!
# An established UDP session

`udp_session_worker` of the server and `bridge_udp_to_framed` of the client, joined by a work
connection.  Unlike the bridges of a byte stream they copy datagrams, one to a message, and neither
of them ever means to send the empty message that ends a stream.

* `UdpPc` is the await a loop is suspended at and `UdpEvent` what it gives back; `udpBridge` is the
  loop.  The two of the source differ in the server's accounting of traffic.
* A `Way` is one direction of the session: the datagrams put in, those the loop has not taken yet, the
  bytes on the work connection, the bytes in the read buffer of the codec at its end, and the
  datagrams sent out there.
* The work connection carries bytes and may deliver them in any portions; where a message ends is
  decided by `FrameCodec`.
-/

namespace RustProxy.Bridge.Udp

open RustProxy.Proto

/-- The longest payload of a UDP datagram. -/
def maxDatagram : ℕ := 65507

/-- What can be put into a session. -/
structure Datagram where
  data : Bytes
  fits : data.length ≤ maxDatagram
  deriving DecidableEq

/-- The size of the receive buffers, `vec![0u8; 65535]`. -/
def udpBufSize : ℕ := 65535

/-- A datagram received into the buffer: `Bytes::copy_from_slice(&buf[..n])`. -/
def received (data : Bytes) : Bytes := data.take udpBufSize

/-- `tokio::sync::mpsc::channel::<bytes::Bytes>(256)`. -/
def channelCapacity : ℕ := 256

/-- The await a loop is suspended at. -/
inductive UdpPc where
  | select
  | sending (data : Bytes)
  | delivering (data : Bytes)
  | ended
  deriving DecidableEq, Repr

/-- What an await gives back.  `sendFailed` says how many bytes of the frame had left before the
error; `readFailed` is an I/O error of the work connection, `next .err` an error of the codec. -/
inductive UdpEvent where
  | input (data : Bytes)
  | inputFailed
  | next (result : NextResult)
  | readFailed
  | sent
  | sendFailed (left : ℕ)
  | delivered
  | deliverFailed
  deriving DecidableEq, Repr

/-- The local state of a loop.  `reported` lists the calls of `report_traffic`. -/
structure UdpLocals where
  pc : UdpPc
  bytesIn : ℕ
  bytesOut : ℕ
  reported : List (ℕ × ℕ)
  deriving DecidableEq, Repr

namespace UdpLocals

/-- A loop that is about to be entered. -/
def start : UdpLocals := { pc := .select, bytesIn := 0, bytesOut := 0, reported := [] }

/-- The loop waits at another await. -/
def goto (b : UdpLocals) (pc : UdpPc) : UdpLocals := { b with pc := pc }

/-- `bytes_in += n`, `bytes_out += m`. -/
def count (accounting : Bool) (n m : ℕ) (b : UdpLocals) : UdpLocals :=
  if accounting then { b with bytesIn := b.bytesIn + n, bytesOut := b.bytesOut + m } else b

/-- `mgr.report_traffic(proxy_name, n, m)`. -/
def report (accounting : Bool) (n m : ℕ) (b : UdpLocals) : UdpLocals :=
  if accounting then { b with reported := b.reported ++ [(n, m)] } else b

/-- Only the program point changes. -/
@[simp] lemma goto_pc (b : UdpLocals) (pc : UdpPc) : (b.goto pc).pc = pc := rfl

end UdpLocals

/-! ## The loop -/

/-- The arm `result = work_framed.next()`. -/
def onNext (accounting : Bool) (b : UdpLocals) : NextResult → UdpLocals
  | .message (.data dataMsg) =>
      if dataMsg.data = [] then b.goto .ended
      else (b.count accounting 0 dataMsg.data.length).goto (.delivering dataMsg.data)
  | .message (.control .pong) => b
  | .message _ => b
  | .err => b.goto .ended
  | .none => b.goto .ended

/-- One step of a loop: the await it is suspended at gives `event` back. -/
def udpBridge (accounting : Bool) (b : UdpLocals) (event : UdpEvent) : Option UdpLocals :=
  match b.pc, event with
  | .select, .input data => some ((b.count accounting data.length 0).goto (.sending data))
  | .select, .inputFailed => some (b.goto .ended)
  | .select, .next result => some (onNext accounting b result)
  | .select, .readFailed => some (b.goto .ended)
  | .sending data, .sent => some ((b.report accounting data.length 0).goto .select)
  | .sending _, .sendFailed _ => some (b.goto .ended)
  | .delivering data, .delivered => some ((b.report accounting 0 data.length).goto .select)
  | .delivering _, .deliverFailed => some (b.goto .ended)
  | _, _ => none

/-- Source: `proxy_listener.rs`, `udp_session_worker`. -/
def udpSessionWorker : UdpLocals → UdpEvent → Option UdpLocals := udpBridge true

/-- Source: `proxy_worker.rs`, `bridge_udp_to_framed`. -/
def bridgeUdpToFramed : UdpLocals → UdpEvent → Option UdpLocals := udpBridge false

/-- The loop that runs at each end. -/
def udpCode : Side → UdpLocals → UdpEvent → Option UdpLocals
  | .server => udpSessionWorker
  | .client => bridgeUdpToFramed

/-- The loop without its accounting, one constructor for each way from one await to the next. -/
inductive UdpMove : UdpPc → UdpEvent → UdpPc → Prop
  | input (data : Bytes) : UdpMove .select (.input data) (.sending data)
  | inputFailed : UdpMove .select .inputFailed .ended
  | nextEmpty (connId : UInt64) : UdpMove .select (.next (.message (.data ⟨connId, []⟩))) .ended
  | nextData (connId : UInt64) {data : Bytes} (hne : data ≠ []) :
      UdpMove .select (.next (.message (.data ⟨connId, data⟩))) (.delivering data)
  | nextControl (ctrl : ControlMessage) : UdpMove .select (.next (.message (.control ctrl))) .select
  | nextErr : UdpMove .select (.next .err) .ended
  | nextNone : UdpMove .select (.next .none) .ended
  | readFailed : UdpMove .select .readFailed .ended
  | sent (data : Bytes) : UdpMove (.sending data) .sent .select
  | sendFailed (data : Bytes) (left : ℕ) : UdpMove (.sending data) (.sendFailed left) .ended
  | delivered (data : Bytes) : UdpMove (.delivering data) .delivered .select
  | deliverFailed (data : Bytes) : UdpMove (.delivering data) .deliverFailed .ended

/-- The branch of the next message is a move. -/
lemma move_onNext (accounting : Bool) {b : UdpLocals} (hpc : b.pc = .select) (result : NextResult) :
    UdpMove .select (.next result) (onNext accounting b result).pc := by
  match result with
  | .message (.data ⟨connId, []⟩) => exact .nextEmpty connId
  | .message (.data ⟨connId, a :: l⟩) => exact .nextData connId (List.cons_ne_nil a l)
  | .message (.control ctrl) =>
      have hstay : onNext accounting b (.message (.control ctrl)) = b := by
        cases ctrl <;> rfl
      rw [hstay, hpc]
      exact .nextControl ctrl
  | .err => exact .nextErr
  | .none => exact .nextNone

/-- Every step of the loop is one of its moves. -/
lemma move_of_udpBridge {accounting : Bool} {b b' : UdpLocals} {event : UdpEvent}
    (h : udpBridge accounting b event = some b') : UdpMove b.pc event b'.pc := by
  unfold udpBridge at h
  split at h
  · case h_1 data hpc =>
    cases h
    rw [hpc]
    exact .input data
  · case h_2 hpc =>
    cases h
    rw [hpc]
    exact .inputFailed
  · case h_3 result hpc =>
    cases h
    rw [hpc]
    exact move_onNext accounting hpc result
  · case h_4 hpc =>
    cases h
    rw [hpc]
    exact .readFailed
  · case h_5 data hpc =>
    cases h
    rw [hpc]
    exact .sent data
  · case h_6 data left hpc =>
    cases h
    rw [hpc]
    exact .sendFailed data left
  · case h_7 data hpc =>
    cases h
    rw [hpc]
    exact .delivered data
  · case h_8 data hpc =>
    cases h
    rw [hpc]
    exact .deliverFailed data
  · cases h

/-- Every move of the loop is a step of a loop that is suspended there. -/
lemma udpBridge_isSome_of_move (accounting : Bool) {b : UdpLocals} {event : UdpEvent} {pc : UdpPc}
    (h : UdpMove b.pc event pc) : (udpBridge accounting b event).isSome = true := by
  obtain ⟨pc₀, bytesIn, bytesOut, reported⟩ := b
  cases h <;> rfl

/-! ## The session -/

/-- One direction of the session. -/
structure Way where
  putIn : List Bytes
  queue : List Bytes
  wire : Bytes
  buffer : Bytes
  sentOut : List Bytes
  deriving DecidableEq, Repr

/-- Nothing has been put in. -/
def Way.start : Way := { putIn := [], queue := [], wire := [], buffer := [], sentOut := [] }

/-- An established session; `way x` is the direction whose datagrams are put in at `x`. -/
structure Session where
  bridge : Side → UdpLocals
  way : Side → Way

/-- The session has just been established. -/
def Session.start : Session := { bridge := fun _ => .start, way := fun _ => .start }

/-- What happens in a session. -/
inductive SessionLabel where
  /-- A datagram of the user at the server, or of the local service at the client. -/
  | put (x : Side) (datagram : Datagram)
  /-- The codec at `x` reads some of the bytes that have been sent to it. -/
  | arrive (x : Side) (n : ℕ)
  | bridge (x : Side) (event : UdpEvent)
  deriving DecidableEq

/-- What waits for the loop: the listener has received the datagram already, the client's socket has
not. -/
def enqueued : Side → Bytes → Bytes
  | .server, data => received data
  | .client, data => data

/-- What the loop takes. -/
def taken : Side → Bytes → Bytes
  | .server, data => data
  | .client, data => received data

/-- The server's channel is bounded. -/
def hasRoom : Side → Way → Bool
  | .server, w => w.queue.length < channelCapacity
  | .client, _ => true

variable (serde : PayloadSerde) (connId : UInt64)

/-- The frame that a loop suspended in `send` hands over. -/
def UdpPc.frame : UdpPc → Bytes
  | .sending data => encoded serde (chunk connId data)
  | _ => []

/-- What an event of the loop at its beginning does to a way. -/
def Way.feed (pc : UdpPc) (w : Way) : UdpEvent → Way
  | .input _ => { w with queue := w.queue.tail }
  | .sent => { w with wire := w.wire ++ pc.frame serde connId }
  | .sendFailed left => { w with wire := w.wire ++ (pc.frame serde connId).take left }
  | _ => w

/-- What an event of the loop at its end does to a way. -/
def Way.drain (pc : UdpPc) (w : Way) : UdpEvent → Way
  | .next (.message _) => { w with buffer := (decode serde w.buffer).2 }
  | .delivered =>
      match pc with
      | .delivering data => { w with sentOut := w.sentOut ++ [data] }
      | _ => w
  | _ => w

/-- The outcomes that the sockets and the work connection can give the loop at `x`.  The server's
channel is not closed before the worker has ended, which holds a sender itself. -/
def udpAdmits (s : Session) (x : Side) : UdpEvent → Bool
  | .input data => (s.way x).queue.head?.map (taken x) = some data
  | .inputFailed => x = .client
  | .next (.message msg) =>
      match (decode serde (s.way x.other).buffer).1 with
      | .ok (some msg') => msg' = msg
      | _ => false
  | .next .err =>
      match (decode serde (s.way x.other).buffer).1 with
      | .ok _ => false
      | .error _ => true
  | .next .none =>
      (s.way x.other).buffer = [] ∧ (s.way x.other).wire = [] ∧ (s.bridge x.other).pc = .ended
  | _ => true

/-- The ways after an event at `x`. -/
def Session.wayAfter (s : Session) (x : Side) (event : UdpEvent) (y : Side) : Way :=
  if y = x then (s.way y).feed serde connId (s.bridge x).pc event
  else (s.way y).drain serde (s.bridge x).pc event

/-- A datagram is put in. -/
def Way.put (x : Side) (data : Bytes) (w : Way) : Way :=
  { w with putIn := w.putIn ++ [data], queue := w.queue ++ [enqueued x data] }

/-- Bytes of the work connection are read into the buffer of the codec. -/
def Way.arrive (n : ℕ) (w : Way) : Way :=
  { w with wire := w.wire.drop n, buffer := w.buffer ++ w.wire.take n }

/-- One way changes. -/
def Session.setWay (s : Session) (x : Side) (w : Way) : Session :=
  { s with way := Function.update s.way x w }

/-- A way of the session is not part of its bridges. -/
@[simp] lemma Session.setWay_bridge (s : Session) (x : Side) (w : Way) :
    (s.setWay x w).bridge = s.bridge := rfl

/-- The way that was set. -/
@[simp] lemma Session.setWay_self (s : Session) (x : Side) (w : Way) : (s.setWay x w).way x = w :=
  Function.update_self _ _ _

/-- The way back stays. -/
lemma Session.setWay_of_ne (s : Session) {x y : Side} (h : y ≠ x) (w : Way) :
    (s.setWay x w).way y = s.way y := Function.update_of_ne h _ _

/-- One step of a session. -/
def sessionStep (s : Session) : SessionLabel → Option Session
  | .put x datagram =>
      if hasRoom x (s.way x) then some (s.setWay x ((s.way x).put x datagram.data)) else none
  | .arrive x n => some (s.setWay x.other ((s.way x.other).arrive n))
  | .bridge x event =>
      if udpAdmits serde s x event then
        (udpCode x (s.bridge x) event).map fun b =>
          { bridge := Function.update s.bridge x b, way := s.wayAfter serde connId x event }
      else none

variable {serde connId} {s s' : Session}

/-- Both ends run the same loop, up to accounting. -/
lemma move_of_udpCode {x : Side} {b b' : UdpLocals} {event : UdpEvent}
    (h : udpCode x b event = some b') : UdpMove b.pc event b'.pc := by
  cases x with
  | server => exact move_of_udpBridge h
  | client => exact move_of_udpBridge h

/-- What a step of a loop is: an admitted outcome, a move, and its effect on the two ways. -/
lemma sessionStep_bridge {x : Side} {event : UdpEvent}
    (h : sessionStep serde connId s (.bridge x event) = some s') :
    udpAdmits serde s x event ∧ UdpMove (s.bridge x).pc event (s'.bridge x).pc ∧
      s'.bridge x.other = s.bridge x.other ∧
      s'.way x = (s.way x).feed serde connId (s.bridge x).pc event ∧
      s'.way x.other = (s.way x.other).drain serde (s.bridge x).pc event := by
  rw [sessionStep] at h
  split at h
  case isFalse => cases h
  case isTrue hadmits =>
    obtain ⟨b, hb, rfl⟩ := Option.map_eq_some_iff.mp h
    refine ⟨hadmits, ?_, ?_, ?_, ?_⟩
    · have hmove := move_of_udpCode hb
      simpa using hmove
    · simp [Function.update_of_ne]
    · simp [Session.wayAfter]
    · simp [Session.wayAfter]

/-- A move with an admitted outcome is enabled. -/
lemma sessionStep_isSome_of_move (connId : UInt64) {x : Side} {event : UdpEvent}
    {pc : UdpPc} (hadmits : udpAdmits serde s x event) (hmove : UdpMove (s.bridge x).pc event pc) :
    ∃ s', sessionStep serde connId s (.bridge x event) = some s' := by
  have hcode : (udpCode x (s.bridge x) event).isSome = true := by
    cases x with
    | server => exact udpBridge_isSome_of_move true hmove
    | client => exact udpBridge_isSome_of_move false hmove
  rw [← Option.isSome_iff_exists, sessionStep, if_pos hadmits, Option.isSome_map]
  exact hcode

end RustProxy.Bridge.Udp
