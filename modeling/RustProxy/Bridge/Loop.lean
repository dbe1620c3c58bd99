import RustProxy.Proto.Message

/-!
# The bridge loops

`bridge_stream_to_framed` of the server and `bridge_local_tcp_to_framed` of the client copy between
a byte stream and a framed work connection.  Both are a `select!` over "the stream has bytes" and
"the tunnel has a message"; the arm that is picked runs to its end, through a send or a write that
may have to wait, before the next `select!`.

* `Pc` is the await a bridge is suspended at, with the data it still has to hand over.
* `Event` is what the awaited operation gives back.  The stream, the tunnel and the scheduler decide
  it, so every outcome, errors included, is an event.
* `bridge` is the loop.  The two loops of the source differ in one thing, the server's accounting of
  traffic: `bridgeStreamToFramed` and `bridgeLocalTcpToFramed` are `bridge` with and without it.
-/

namespace RustProxy.Bridge

open RustProxy.Proto

/-- The result of `stream.read(&mut buf).await`. -/
inductive ReadResult where
  | ok (data : Bytes)
  | err
  deriving DecidableEq, Repr

/-- The result of `work_framed.next().await`. -/
inductive NextResult where
  | message (msg : Message)
  | err
  | none
  deriving DecidableEq, Repr

/-- The await a bridge is suspended at.  `sending` holds the chunk that was read, `writing` the
length of the message that came in and the part of it the stream has not taken yet. -/
inductive Pc where
  | select
  | sending (data : Bytes)
  | sendingClose
  | closing
  | writing (n : ℕ) (rest : Bytes)
  | shuttingDown
  | ended
  deriving DecidableEq, Repr

/-- What an await gives back.  `sendFailed` says whether the frame had left before the error, and
`wrote` how many bytes the stream took in one step of `write_all`. -/
inductive Event where
  | read (result : ReadResult)
  | next (result : NextResult)
  | sent
  | sendFailed (queued : Bool)
  | closed
  | wrote (n : ℕ)
  | writeFailed
  | shutDown
  deriving DecidableEq, Repr

/-- The local state of a bridge.  `reported` lists the calls of `report_traffic`. -/
structure Locals where
  pc : Pc
  bytesIn : ℕ
  bytesOut : ℕ
  reported : List (ℕ × ℕ)
  deriving DecidableEq, Repr

/-- A bridge that is about to enter its loop. -/
def Locals.start : Locals := { pc := .select, bytesIn := 0, bytesOut := 0, reported := [] }

/-- The size of the read buffer, `vec![0u8; 8192]`. -/
def bufSize : ℕ := 8192

namespace Locals

/-- The bridge waits at another await. -/
def goto (b : Locals) (pc : Pc) : Locals := { b with pc := pc }

/-- `bytes_in += n as u64`. -/
def countIn (accounting : Bool) (n : ℕ) (b : Locals) : Locals :=
  if accounting then { b with bytesIn := b.bytesIn + n } else b

/-- `bytes_out += n`. -/
def countOut (accounting : Bool) (n : ℕ) (b : Locals) : Locals :=
  if accounting then { b with bytesOut := b.bytesOut + n } else b

/-- `mgr.report_traffic(proxy_name, bytes_in, bytes_out)`. -/
def report (accounting : Bool) (bytesIn bytesOut : ℕ) (b : Locals) : Locals :=
  if accounting then { b with reported := b.reported ++ [(bytesIn, bytesOut)] } else b

/-- Only the program point changes. -/
@[simp] lemma goto_pc (b : Locals) (pc : Pc) : (b.goto pc).pc = pc := rfl

/-- Counting what came in leaves the program point. -/
@[simp] lemma countIn_pc (accounting : Bool) (n : ℕ) (b : Locals) :
    (b.countIn accounting n).pc = b.pc := by
  cases accounting <;> rfl

/-- Counting what went out leaves the program point. -/
@[simp] lemma countOut_pc (accounting : Bool) (n : ℕ) (b : Locals) :
    (b.countOut accounting n).pc = b.pc := by
  cases accounting <;> rfl

/-- A report leaves the program point. -/
@[simp] lemma report_pc (accounting : Bool) (n m : ℕ) (b : Locals) :
    (b.report accounting n m).pc = b.pc := by
  cases accounting <;> rfl

end Locals

/-! ## The loop -/

/-- The arm `result = stream.read(&mut buf)`. -/
def onRead (accounting : Bool) (b : Locals) : ReadResult → Locals
  | .ok [] => b.goto .sendingClose
  | .ok data => (b.countIn accounting data.length).goto (.sending data)
  | .err => b.goto .ended

/-- The arm `result = work_framed.next()`. -/
def onNext (accounting : Bool) (b : Locals) : NextResult → Locals
  | .message (.data dataMsg) =>
      if dataMsg.data = [] then b.goto .shuttingDown
      else (b.countOut accounting dataMsg.data.length).goto
        (.writing dataMsg.data.length dataMsg.data)
  | .message (.control .pong) => b
  | .message _ => b
  | .err => b.goto .ended
  | .none => b.goto .ended

/-- `write_all` after the stream took `k` of the bytes that were left. -/
def onWrote (accounting : Bool) (b : Locals) (n : ℕ) (rest : Bytes) (k : ℕ) : Option Locals :=
  if k = 0 ∨ rest.length < k then none
  else if k = rest.length then some ((b.report accounting 0 n).goto .select)
  else some (b.goto (.writing n (rest.drop k)))

/-- One step of a bridge: the await it is suspended at gives `event` back. -/
def bridge (accounting : Bool) (b : Locals) (event : Event) : Option Locals :=
  match b.pc, event with
  | .select, .read result => some (onRead accounting b result)
  | .select, .next result => some (onNext accounting b result)
  | .sending data, .sent => some ((b.report accounting data.length 0).goto .select)
  | .sending _, .sendFailed _ => some (b.goto .ended)
  | .sendingClose, .sent => some (b.goto .closing)
  | .sendingClose, .sendFailed _ => some (b.goto .closing)
  | .closing, .closed => some (b.goto .ended)
  | .writing n rest, .wrote k => onWrote accounting b n rest k
  | .writing _ _, .writeFailed => some (b.goto .ended)
  | .shuttingDown, .shutDown => some (b.goto .ended)
  | _, _ => none

/-- Source: `proxy_listener.rs`, `bridge_stream_to_framed`. -/
def bridgeStreamToFramed : Locals → Event → Option Locals := bridge true

/-- Source: `proxy_worker.rs`, `bridge_local_tcp_to_framed`. -/
def bridgeLocalTcpToFramed : Locals → Event → Option Locals := bridge false

/-! ## The moves of the loop

`Move` is the loop without its accounting, one constructor for each way from one await to the
next. -/

/-- A bridge suspended at the first await is given the event and runs to the second one. -/
inductive Move : Pc → Event → Pc → Prop
  | readEof : Move .select (.read (.ok [])) .sendingClose
  | readChunk {data : Bytes} (hne : data ≠ []) : Move .select (.read (.ok data)) (.sending data)
  | readErr : Move .select (.read .err) .ended
  | nextMarker (connId : UInt64) :
      Move .select (.next (.message (.data ⟨connId, []⟩))) .shuttingDown
  | nextData (connId : UInt64) {data : Bytes} (hne : data ≠ []) :
      Move .select (.next (.message (.data ⟨connId, data⟩))) (.writing data.length data)
  | nextControl (ctrl : ControlMessage) : Move .select (.next (.message (.control ctrl))) .select
  | nextErr : Move .select (.next .err) .ended
  | nextNone : Move .select (.next .none) .ended
  | sent (data : Bytes) : Move (.sending data) .sent .select
  | sendFailed (data : Bytes) (queued : Bool) : Move (.sending data) (.sendFailed queued) .ended
  | sentClose : Move .sendingClose .sent .closing
  | sendCloseFailed (queued : Bool) : Move .sendingClose (.sendFailed queued) .closing
  | closed : Move .closing .closed .ended
  | wroteAll (n : ℕ) {rest : Bytes} (hne : rest ≠ []) :
      Move (.writing n rest) (.wrote rest.length) .select
  | wrotePart (n : ℕ) {rest : Bytes} {k : ℕ} (hpos : 0 < k) (hlt : k < rest.length) :
      Move (.writing n rest) (.wrote k) (.writing n (rest.drop k))
  | writeFailed (n : ℕ) (rest : Bytes) : Move (.writing n rest) .writeFailed .ended
  | shutDown : Move .shuttingDown .shutDown .ended

/-- The branch of the read is a move. -/
private lemma move_onRead (accounting : Bool) (b : Locals) (result : ReadResult) :
    Move .select (.read result) (onRead accounting b result).pc := by
  match result with
  | .ok [] => exact .readEof
  | .ok (a :: l) => exact .readChunk (List.cons_ne_nil a l)
  | .err => exact .readErr

/-- The branch of the next message is a move. -/
private lemma move_onNext (accounting : Bool) {b : Locals} (hpc : b.pc = .select)
    (result : NextResult) : Move .select (.next result) (onNext accounting b result).pc := by
  match result with
  | .message (.data ⟨connId, []⟩) => exact .nextMarker connId
  | .message (.data ⟨connId, a :: l⟩) => exact .nextData connId (List.cons_ne_nil a l)
  | .message (.control ctrl) =>
      have hstay : onNext accounting b (.message (.control ctrl)) = b := by
        cases ctrl <;> rfl
      rw [hstay, hpc]
      exact .nextControl ctrl
  | .err => exact .nextErr
  | .none => exact .nextNone

/-- A write is a move. -/
private lemma move_onWrote {accounting : Bool} {b b' : Locals} {n : ℕ} {rest : Bytes} {k : ℕ}
    (h : onWrote accounting b n rest k = some b') : Move (.writing n rest) (.wrote k) b'.pc := by
  unfold onWrote at h
  split at h
  case isTrue => cases h
  case isFalse hk =>
    push Not at hk
    split at h
    case isTrue hall =>
      cases h
      subst hall
      exact .wroteAll n (List.length_pos_iff.mp (Nat.pos_of_ne_zero hk.1))
    case isFalse hpart =>
      cases h
      exact .wrotePart n (Nat.pos_of_ne_zero hk.1) (lt_of_le_of_ne hk.2 hpart)

/-- Every step of the loop is one of its moves. -/
theorem move_of_bridge {accounting : Bool} {b b' : Locals} {event : Event}
    (h : bridge accounting b event = some b') : Move b.pc event b'.pc := by
  unfold bridge at h
  split at h <;> rename_i hpc
  · cases h
    rw [hpc]
    exact move_onRead accounting b _
  · cases h
    rw [hpc]
    exact move_onNext accounting hpc _
  · cases h
    rw [hpc]
    exact .sent _
  · cases h
    rw [hpc]
    exact .sendFailed _ _
  · cases h
    rw [hpc]
    exact .sentClose
  · cases h
    rw [hpc]
    exact .sendCloseFailed _
  · cases h
    rw [hpc]
    exact .closed
  · rw [hpc]
    exact move_onWrote h
  · cases h
    rw [hpc]
    exact .writeFailed _ _
  · cases h
    rw [hpc]
    exact .shutDown
  · cases h

/-- Every move of the loop is a step of a bridge that is suspended there. -/
theorem bridge_isSome_of_move (accounting : Bool) {b : Locals} {event : Event} {pc : Pc}
    (h : Move b.pc event pc) : (bridge accounting b event).isSome = true := by
  obtain ⟨pc₀, bytesIn, bytesOut, reported⟩ := b
  cases h with
  | @wroteAll n rest hne =>
      have hpos : ¬ (rest.length = 0 ∨ rest.length < rest.length) := by simp [hne]
      simp only [bridge, onWrote]
      rw [if_neg hpos, if_pos trivial]
      rfl
  | @wrotePart n rest k hpos hlt =>
      have hk : ¬ (k = 0 ∨ rest.length < k) := by omega
      simp only [bridge, onWrote]
      rw [if_neg hk, if_neg (Nat.ne_of_lt hlt)]
      rfl
  | _ => rfl

end RustProxy.Bridge
