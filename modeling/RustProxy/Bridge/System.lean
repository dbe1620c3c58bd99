import RustProxy.Bridge.Loop
import RustProxy.Foundation.Transition

/-!
# A tunnelled connection

The two bridges of one connection, joined by a work connection: two FIFO queues of messages, each
with a capacity.  A `Direction` is the way of the bytes from the local stream of one side to the
local stream of the other; it keeps what was read from its source and what was written to its
destination.

* `admits` says which outcomes the streams and the tunnel can give a bridge, and `step` lets one
  bridge take one of them.
* The effect of a step on a direction is `Direction.feed` at the source and `Direction.drain` at the
  destination, so what a step does to a direction is known from the bridge that moves alone
  (`step_eq_some`).
* A lost work connection, a reset stream, a failed send or write are events that are always
  admitted.
-/

namespace RustProxy.Bridge

open RustProxy.Proto

/-- The two ends of the work connection. -/
inductive Side where
  | server
  | client
  deriving DecidableEq, Repr

/-- The other end. -/
def Side.other : Side → Side
  | .server => .client
  | .client => .server

/-- The other side of the other side is the side itself. -/
@[simp] lemma Side.other_other (x : Side) : x.other.other = x := by
  cases x <;> rfl

/-- The two sides differ. -/
@[simp] lemma Side.other_ne (x : Side) : x.other ≠ x := by
  cases x <;> decide

/-- The two sides differ, the other way round. -/
@[simp] lemma Side.ne_other (x : Side) : x ≠ x.other := by
  cases x <;> decide

/-- There are no further sides. -/
lemma Side.eq_or_eq_other (x y : Side) : y = x ∨ y = x.other := by
  cases x <;> cases y <;> decide

/-- The bridge that runs at each end. -/
def code : Side → Locals → Event → Option Locals
  | .server => bridgeStreamToFramed
  | .client => bridgeLocalTcpToFramed

/-- One way through the connection: from the local stream of one side, through the queue of the work
connection, to the local stream of the other side. -/
structure Direction where
  got : Bytes
  eof : Bool
  queue : List Message
  put : Bytes
  shut : Bool
  deriving DecidableEq, Repr

/-- Nothing has moved yet. -/
def Direction.start : Direction := { got := [], eof := false, queue := [], put := [], shut := false }

/-- `Message::Data(DataMessage { conn_id, data })`. -/
def chunk (connId : UInt64) (data : Bytes) : Message := .data { connId := connId, data := data }

/-- The message a bridge that waits in `send` hands over. -/
def Pc.outgoing (connId : UInt64) : Pc → List Message
  | .sending data => [chunk connId data]
  | .sendingClose => [chunk connId []]
  | _ => []

/-- What an event at the source side does to the direction. -/
def Direction.feed (connId : UInt64) (pc : Pc) (d : Direction) : Event → Direction
  | .read (.ok data) => { d with got := d.got ++ data, eof := d.eof || data.isEmpty }
  | .sent => { d with queue := d.queue ++ pc.outgoing connId }
  | .sendFailed true => { d with queue := d.queue ++ pc.outgoing connId }
  | _ => d

/-- What an event at the destination side does to the direction. -/
def Direction.drain (pc : Pc) (d : Direction) : Event → Direction
  | .next (.message _) => { d with queue := d.queue.tail }
  | .wrote k =>
      match pc with
      | .writing _ rest => { d with put := d.put ++ rest.take k }
      | _ => d
  | .shutDown => { d with shut := true }
  | _ => d

/-- The state of a tunnelled connection; `out x` is the direction whose source is at `x`. -/
structure System where
  bridge : Side → Locals
  out : Side → Direction

/-- The work connection has just been bridged. -/
def System.start : System := { bridge := fun _ => .start, out := fun _ => .start }

variable (cap : Side → ℕ) (connId : UInt64)

/-- The outcomes the streams and the work connection can give the bridge at `x`. -/
def admits (s : System) (x : Side) : Event → Bool
  | .read (.ok data) => data.length ≤ bufSize
  | .sent => (s.out x).queue.length < cap x
  | .sendFailed true => (s.out x).queue.length < cap x
  | .next (.message msg) => (s.out x.other).queue.head? = some msg
  | .next .none => (s.out x.other).queue = [] ∧ (s.bridge x.other).pc = .ended
  | _ => true

/-- The directions after an event at `x`. -/
def System.outAfter (s : System) (x : Side) (event : Event) (y : Side) : Direction :=
  if y = x then (s.out y).feed connId (s.bridge x).pc event
  else (s.out y).drain (s.bridge x).pc event

/-- One bridge is given one outcome. -/
def step (s : System) (label : Side × Event) : Option System :=
  if admits cap s label.1 label.2 then
    (code label.1 (s.bridge label.1) label.2).map fun b =>
      { bridge := Function.update s.bridge label.1 b, out := s.outAfter connId label.1 label.2 }
  else none

variable {cap connId}

/-- Both ends run the same loop, up to accounting. -/
lemma move_of_code {x : Side} {b b' : Locals} {event : Event} (h : code x b event = some b') :
    Move b.pc event b'.pc := by
  cases x with
  | server => exact @move_of_bridge true b b' event h
  | client => exact @move_of_bridge false b b' event h

/-- What a step is: an admitted outcome, a move of one bridge, and its effect on the two
directions. -/
theorem step_eq_some {s s' : System} {x : Side} {event : Event}
    (h : step cap connId s (x, event) = some s') :
    admits cap s x event ∧ Move (s.bridge x).pc event (s'.bridge x).pc ∧
      s'.bridge x.other = s.bridge x.other ∧
      s'.out x = (s.out x).feed connId (s.bridge x).pc event ∧
      s'.out x.other = (s.out x.other).drain (s.bridge x).pc event := by
  unfold step at h
  split at h
  case isFalse => cases h
  case isTrue hadmits =>
    obtain ⟨b, hb, rfl⟩ := Option.map_eq_some_iff.mp h
    refine ⟨hadmits, ?_, ?_, ?_, ?_⟩
    · have hmove := move_of_code hb
      simpa using hmove
    · simp [Function.update_of_ne]
    · simp [System.outAfter]
    · simp [System.outAfter]

/-- A move with an admitted outcome is enabled. -/
theorem step_isSome_of_move {s : System} {x : Side} {event : Event} {pc : Pc}
    (hadmits : admits cap s x event) (hmove : Move (s.bridge x).pc event pc) :
    ∃ s', step cap connId s (x, event) = some s' := by
  have hcode : (code x (s.bridge x) event).isSome = true := by
    cases x with
    | server => exact bridge_isSome_of_move true hmove
    | client => exact bridge_isSome_of_move false hmove
  rw [← Option.isSome_iff_exists, step, if_pos hadmits, Option.isSome_map]
  exact hcode

end RustProxy.Bridge
