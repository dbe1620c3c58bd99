import RustProxy.Foundation.StreamDecoder
import RustProxy.Proto.Message

/-!
# The frame codec

`FrameCodec` of `crates/proto/src/frame.rs`: a 4-byte big-endian payload length, one type byte, two
reserved bytes, then the payload.

* `encode` appends a frame to a buffer, `decode` takes one off it; both return the buffer together
  with the outcome, since a failing call may or may not have consumed bytes.
* serde_json is outside the repository.  `PayloadSerde` holds its `to_vec` and `from_slice` at the
  six payload types, and `PayloadSerde.Lawful` the one fact about it that is used: `from_slice`
  inverts `to_vec`.
* `decode_frame` and `decode_incomplete` are the two halves of the round trip on a buffer that
  starts with a frame or with a part of one, and `feed_encodeAll` is the round trip of a whole
  stream, cut into chunks at arbitrary places.
-/

namespace RustProxy.Proto

open BigEndian

/-- The text of a `serde_json::Error`. -/
abbrev SerdeError := String

/-- Message type identifiers.  Source: `frame.rs`, `MessageType`. -/
inductive MessageType where
  | auth
  | authResp
  | serverAssignProxy
  | serverCloseProxy
  | newWorkConn
  | newWorkConnResp
  | data
  | ping
  | pong
  deriving DecidableEq, Repr

/-- Source: `frame.rs`, `FrameError`. -/
inductive FrameError where
  | unknownType (value : UInt8)
  | io (e : String)
  | serialize (e : SerdeError)
  | frameTooLarge (len : ℕ)
  deriving DecidableEq, Repr

/-- The discriminant, `msg_type as u8`. -/
def MessageType.toByte : MessageType → UInt8
  | .auth => 0x01
  | .authResp => 0x02
  | .serverAssignProxy => 0x03
  | .serverCloseProxy => 0x04
  | .newWorkConn => 0x05
  | .newWorkConnResp => 0x06
  | .data => 0x07
  | .ping => 0x08
  | .pong => 0x09

/-- Source: `frame.rs`, `MessageType::try_from`. -/
def MessageType.tryFrom (value : UInt8) : Except FrameError MessageType :=
  if value = 0x01 then .ok .auth
  else if value = 0x02 then .ok .authResp
  else if value = 0x03 then .ok .serverAssignProxy
  else if value = 0x04 then .ok .serverCloseProxy
  else if value = 0x05 then .ok .newWorkConn
  else if value = 0x06 then .ok .newWorkConnResp
  else if value = 0x07 then .ok .data
  else if value = 0x08 then .ok .ping
  else if value = 0x09 then .ok .pong
  else .error (.unknownType value)

/-- Each type is read back from its byte. -/
@[simp] lemma MessageType.tryFrom_toByte (t : MessageType) :
    MessageType.tryFrom t.toByte = .ok t := by
  cases t <;> rfl

/-- Source: `frame.rs`, `HEADER_SIZE`. -/
def headerSize : ℕ := 7

/-- Source: `frame.rs`, `MAX_FRAME_SIZE`. -/
def maxFrameSize : ℕ := 64 * 1024 * 1024

/-- `serde_json::to_vec` and `serde_json::from_slice` at one type. -/
structure Serde (α : Type) where
  toVec : α → Except SerdeError Bytes
  fromSlice : Bytes → Except SerdeError α

/-- `from_slice` inverts `to_vec`. -/
def Serde.Lawful {α : Type} (s : Serde α) : Prop :=
  ∀ x bytes, s.toVec x = .ok bytes → s.fromSlice bytes = .ok x

/-- serde_json at the payload types of the control messages. -/
structure PayloadSerde where
  auth : Serde AuthRequest
  authResp : Serde AuthResponse
  serverAssignProxy : Serde ServerAssignProxyRequest
  serverCloseProxy : Serde ServerCloseProxyRequest
  newWorkConn : Serde NewWorkConnRequest
  newWorkConnResp : Serde NewWorkConnResponse

/-- The round-trip law at each payload type. -/
structure PayloadSerde.Lawful (serde : PayloadSerde) : Prop where
  auth : serde.auth.Lawful
  authResp : serde.authResp.Lawful
  serverAssignProxy : serde.serverAssignProxy.Lawful
  serverCloseProxy : serde.serverCloseProxy.Lawful
  newWorkConn : serde.newWorkConn.Lawful
  newWorkConnResp : serde.newWorkConnResp.Lawful

variable (serde : PayloadSerde)

/-! ## Encoding -/

/-- `(msg_type, serde_json::to_vec(req)?)`. -/
def withType (msgType : MessageType) (payload : Except SerdeError Bytes) :
    Except SerdeError (MessageType × Bytes) :=
  match payload with
  | .ok p => .ok (msgType, p)
  | .error e => .error e

/-- The type and payload of a control message: the inner `match` of `FrameCodec::encode`. -/
def controlPayload : ControlMessage → Except SerdeError (MessageType × Bytes)
  | .auth req => withType .auth (serde.auth.toVec req)
  | .authResp resp => withType .authResp (serde.authResp.toVec resp)
  | .serverAssignProxy req => withType .serverAssignProxy (serde.serverAssignProxy.toVec req)
  | .serverCloseProxy req => withType .serverCloseProxy (serde.serverCloseProxy.toVec req)
  | .newWorkConn req => withType .newWorkConn (serde.newWorkConn.toVec req)
  | .newWorkConnResp resp => withType .newWorkConnResp (serde.newWorkConnResp.toVec resp)
  | .ping => .ok (.ping, [])
  | .pong => .ok (.pong, [])

/-- The type and payload of a message. -/
def framePayload : Message → Except SerdeError (MessageType × Bytes)
  | .control ctrl => controlPayload serde ctrl
  | .data dataMsg => .ok (.data, dataMsg.encode)

/-- The bytes of one frame; `payload.len() as u32` is written, so a length from `2^32` on is
truncated. -/
def frameBytes (msgType : MessageType) (payload : Bytes) : Bytes :=
  toBE 4 (payload.length % 2 ^ 32) ++ [msgType.toByte] ++ [0, 0] ++ payload

/-- Append the frame of `item` to `dst`.  Source: `frame.rs`, `FrameCodec::encode`. -/
def encode (item : Message) (dst : Bytes) : Except FrameError Unit × Bytes :=
  match item with
  | .control ctrl =>
      match controlPayload serde ctrl with
      | .error e => (.error (.serialize e), dst)
      | .ok (msgType, payload) => (.ok (), dst ++ frameBytes msgType payload)
  | .data dataMsg => (.ok (), dst ++ frameBytes .data dataMsg.encode)

/-- The encoding of one message: what `encode` appends to an empty buffer. -/
def encoded (item : Message) : Bytes := (encode serde item []).2

/-- The buffer after encoding the messages into it one after another. -/
def encodeAll (items : List Message) : Bytes :=
  items.foldl (fun dst item => (encode serde item dst).2) []

/-- The message has a payload, and it fits in a frame. -/
def FitsFrame (item : Message) : Prop :=
  ∃ msgType payload, framePayload serde item = .ok (msgType, payload) ∧
    payload.length ≤ maxFrameSize

/-! ## Decoding -/

/-- `Message::Control(variant(serde_json::from_slice(&payload)?))`. -/
def asControl {α : Type} (variant : α → ControlMessage) (parsed : Except SerdeError α) :
    Except FrameError (Option Message) :=
  match parsed with
  | .ok x => .ok (some (.control (variant x)))
  | .error e => .error (.serialize e)

/-- The message of a whole frame: the last `match` of `FrameCodec::decode`. -/
def decodePayload (msgType : MessageType) (payload : Bytes) : Except FrameError (Option Message) :=
  match msgType with
  | .auth => asControl .auth (serde.auth.fromSlice payload)
  | .authResp => asControl .authResp (serde.authResp.fromSlice payload)
  | .serverAssignProxy => asControl .serverAssignProxy (serde.serverAssignProxy.fromSlice payload)
  | .serverCloseProxy => asControl .serverCloseProxy (serde.serverCloseProxy.fromSlice payload)
  | .newWorkConn => asControl .newWorkConn (serde.newWorkConn.fromSlice payload)
  | .newWorkConnResp => asControl .newWorkConnResp (serde.newWorkConnResp.fromSlice payload)
  | .data =>
      match DataMessage.decode payload with
      | some dataMsg => .ok (some (.data dataMsg))
      | none => .ok none
  | .ping => .ok (some (.control .ping))
  | .pong => .ok (some (.control .pong))

/-- The payload length that the header announces: `header.get_u32() as usize`. -/
def headerLen (src : Bytes) : ℕ := ofBE (src.take 4)

/-- The type byte of the header: the `header.get_u8()` after it. -/
def headerType (src : Bytes) : UInt8 := src.getD 4 0

/-- Take one frame off the buffer.  Source: `frame.rs`, `FrameCodec::decode`. -/
def decode (src : Bytes) : Except FrameError (Option Message) × Bytes :=
  if src.length < headerSize then (.ok none, src)
  else if headerLen src > maxFrameSize then (.error (.frameTooLarge (headerLen src)), src)
  else if src.length < headerSize + headerLen src then (.ok none, src)
  else
    match MessageType.tryFrom (headerType src) with
    | .error e => (.error e, src)
    | .ok msgType =>
        let rest := src.drop headerSize
        (decodePayload serde msgType (rest.take (headerLen src)), rest.drop (headerLen src))

variable {serde}

/-- An answer with a message removes at least the header from the buffer. -/
lemma decode_shrinks (src : Bytes) (m : Message) (rest : Bytes)
    (h : decode serde src = (.ok (some m), rest)) : rest.length < src.length := by
  unfold decode at h
  split_ifs at h with hshort hlarge hpart
  · cases h
  · cases h
  · cases h
  · split at h
    · cases h
    · have hrest := congrArg Prod.snd h
      simp only at hrest
      have hlen := congrArg List.length hrest
      simp only [List.length_drop] at hlen
      unfold headerSize at *
      omega

/-- The codec as an incremental decoder. -/
def frameDecoder (serde : PayloadSerde) : StreamDecoder UInt8 Message FrameError where
  decode := decode serde
  shrinks := decode_shrinks

/-! ## The round trip -/

/-- A typed payload has that type. -/
lemma withType_eq_ok {t msgType : MessageType} {p : Except SerdeError Bytes} {payload : Bytes}
    (h : withType t p = .ok (msgType, payload)) : p = .ok payload ∧ t = msgType := by
  cases p with
  | error e => cases h
  | ok bytes =>
      cases h
      exact ⟨rfl, rfl⟩

/-- The law at one payload type, in the form the codec uses it. -/
lemma asControl_of_withType {α : Type} {s : Serde α} (hs : s.Lawful) (variant : α → ControlMessage)
    {t msgType : MessageType} {x : α} {payload : Bytes}
    (h : withType t (s.toVec x) = .ok (msgType, payload)) :
    asControl variant (s.fromSlice payload) = .ok (some (.control (variant x))) := by
  rw [hs x payload (withType_eq_ok h).1]
  rfl

/-- The bytes of a message whose payload is known. -/
lemma encoded_of_payload {m : Message} {msgType : MessageType} {payload : Bytes}
    (h : framePayload serde m = .ok (msgType, payload)) :
    encoded serde m = frameBytes msgType payload := by
  cases m with
  | control ctrl =>
      have hctrl : controlPayload serde ctrl = .ok (msgType, payload) := h
      simp [encoded, encode, hctrl]
  | data dataMsg =>
      cases h
      simp [encoded, encode]

/-- The payload of a message decodes to the message. -/
lemma decodePayload_framePayload (hserde : serde.Lawful) {m : Message} {msgType : MessageType}
    {payload : Bytes} (h : framePayload serde m = .ok (msgType, payload)) :
    decodePayload serde msgType payload = .ok (some m) := by
  cases m with
  | control ctrl =>
      cases ctrl with
      | auth req =>
          cases (withType_eq_ok h).2
          exact asControl_of_withType hserde.auth _ h
      | authResp resp =>
          cases (withType_eq_ok h).2
          exact asControl_of_withType hserde.authResp _ h
      | serverAssignProxy req =>
          cases (withType_eq_ok h).2
          exact asControl_of_withType hserde.serverAssignProxy _ h
      | serverCloseProxy req =>
          cases (withType_eq_ok h).2
          exact asControl_of_withType hserde.serverCloseProxy _ h
      | newWorkConn req =>
          cases (withType_eq_ok h).2
          exact asControl_of_withType hserde.newWorkConn _ h
      | newWorkConnResp resp =>
          cases (withType_eq_ok h).2
          exact asControl_of_withType hserde.newWorkConnResp _ h
      | ping =>
          cases h
          rfl
      | pong =>
          cases h
          rfl
  | data dataMsg =>
      cases h
      simp [decodePayload, DataMessage.decode_encode]

/-! ### The header of a frame -/

section header

variable (msgType : MessageType) (payload : Bytes)

/-- A frame is its header and its payload. -/
lemma length_frameBytes : (frameBytes msgType payload).length = headerSize + payload.length := by
  simp [frameBytes, headerSize]
  omega

variable {payload} in
/-- The first bytes of a frame announce its length, also when the frame is cut off after them. -/
lemma headerLen_of_prefix (hmax : payload.length ≤ maxFrameSize) {p q : Bytes}
    (hp : headerSize ≤ p.length) (hpq : p ++ q = frameBytes msgType payload) :
    headerLen p = payload.length := by
  have htake : p.take 4 = toBE 4 (payload.length % 2 ^ 32) := by
    have h4 : 4 ≤ p.length := by unfold headerSize at hp; omega
    rw [← @List.take_append_of_le_length _ _ q _ h4, hpq]
    simp [frameBytes]
  have hlt : payload.length < 2 ^ 32 := by unfold maxFrameSize at hmax; omega
  rw [headerLen, htake, ofBE_toBE, Nat.mod_eq_of_lt hlt]
  exact Nat.mod_eq_of_lt (by simpa using hlt)

variable {payload} in
/-- The length in the header is that of the payload. -/
lemma headerLen_frameBytes (hmax : payload.length ≤ maxFrameSize) (rest : Bytes) :
    headerLen (frameBytes msgType payload ++ rest) = payload.length := by
  have h4 : 4 ≤ (frameBytes msgType payload).length := by
    rw [length_frameBytes]; unfold headerSize; omega
  have hself := headerLen_of_prefix (p := frameBytes msgType payload) (q := []) msgType hmax
    (by rw [length_frameBytes]; omega) (List.append_nil _)
  rw [headerLen, List.take_append_of_le_length h4]
  exact hself

/-- The type in the header is that of the message. -/
lemma headerType_frameBytes (rest : Bytes) :
    headerType (frameBytes msgType payload ++ rest) = msgType.toByte := by
  simp [headerType, frameBytes, List.getD_eq_getElem?_getD]

/-- Behind the header comes the payload. -/
lemma drop_header_frameBytes (rest : Bytes) :
    (frameBytes msgType payload ++ rest).drop headerSize = payload ++ rest := by
  have hlen : (toBE 4 (payload.length % 2 ^ 32) ++ [msgType.toByte] ++ [0, 0]).length
      = headerSize := by simp [headerSize]
  rw [frameBytes, List.append_assoc]
  exact List.drop_left' hlen

end header

/-- A buffer that starts with a frame whose payload decodes to the message decodes to it and loses
exactly the frame. -/
theorem decode_frame {m : Message} {msgType : MessageType} {payload : Bytes}
    (h : framePayload serde m = .ok (msgType, payload)) (hmax : payload.length ≤ maxFrameSize)
    (hpayload : decodePayload serde msgType payload = .ok (some m)) (rest : Bytes) :
    decode serde (encoded serde m ++ rest) = (.ok (some m), rest) := by
  rw [encoded_of_payload h]
  have hlen : (frameBytes msgType payload ++ rest).length
      = headerSize + payload.length + rest.length := by
    rw [List.length_append, length_frameBytes]
  have hhead := headerLen_frameBytes msgType hmax rest
  have hshort : ¬ (frameBytes msgType payload ++ rest).length < headerSize := by omega
  have hpart : ¬ (frameBytes msgType payload ++ rest).length < headerSize + payload.length := by
    omega
  rw [decode, if_neg hshort, hhead, if_neg (by omega), if_neg hpart,
    headerType_frameBytes, MessageType.tryFrom_toByte]
  simp only [drop_header_frameBytes, List.take_left, List.drop_left]
  rw [hpayload]

/-- On a proper prefix of a frame the decoder asks for more input and leaves the buffer alone. -/
theorem decode_incomplete {m : Message} {msgType : MessageType} {payload : Bytes}
    (h : framePayload serde m = .ok (msgType, payload)) (hmax : payload.length ≤ maxFrameSize)
    {p q : Bytes} (hq : q ≠ []) (hpq : p ++ q = encoded serde m) :
    decode serde p = (.ok none, p) := by
  rw [encoded_of_payload h] at hpq
  unfold decode
  by_cases hshort : p.length < headerSize
  · rw [if_pos hshort]
  · have hhead := headerLen_of_prefix msgType hmax (by omega) hpq
    have hlen : p.length + q.length = headerSize + payload.length := by
      rw [← length_frameBytes msgType payload, ← hpq, List.length_append]
    have hpos : 0 < q.length := List.length_pos_iff.mpr hq
    rw [if_neg hshort, hhead, if_neg (by omega), if_pos (by omega)]

/-- A message whose payload fits and decodes to it is framed by its encoding. -/
lemma frames_of_payload {m : Message} {msgType : MessageType} {payload : Bytes}
    (h : framePayload serde m = .ok (msgType, payload)) (hmax : payload.length ≤ maxFrameSize)
    (hpayload : decodePayload serde msgType payload = .ok (some m)) :
    (frameDecoder serde).Frames (encoded serde) m where
  complete := decode_frame h hmax hpayload
  incomplete _ _ hq hpq := decode_incomplete h hmax hq hpq

/-- Every message whose payload fits is framed by its encoding. -/
lemma frames_encoded (hserde : serde.Lawful) {m : Message} (hm : FitsFrame serde m) :
    (frameDecoder serde).Frames (encoded serde) m := by
  obtain ⟨msgType, payload, h, hmax⟩ := hm
  exact frames_of_payload h hmax (decodePayload_framePayload hserde h)

/-- A data message is framed by its encoding, whatever serde_json does. -/
lemma frames_data {dataMsg : DataMessage} (hfits : dataMsg.encode.length ≤ maxFrameSize) :
    (frameDecoder serde).Frames (encoded serde) (.data dataMsg) := by
  have hpayload : framePayload serde (.data dataMsg) = .ok (.data, dataMsg.encode) := rfl
  have hdecode : decodePayload serde .data dataMsg.encode = .ok (some (.data dataMsg)) := by
    simp [decodePayload, DataMessage.decode_encode]
  exact frames_of_payload hpayload hfits hdecode

/-- What `encode` appends, also when it fails. -/
lemma encode_snd (item : Message) (dst : Bytes) :
    (encode serde item dst).2 = dst ++ encoded serde item := by
  cases item with
  | control ctrl =>
      cases h : controlPayload serde ctrl with
      | error e => simp [encode, encoded, h]
      | ok p => simp [encode, encoded, h]
  | data dataMsg => simp [encode, encoded]

/-- Encoding into one buffer concatenates the encodings. -/
lemma encodeAll_eq_flatten (items : List Message) :
    encodeAll serde items = (items.map (encoded serde)).flatten := by
  have key : ∀ dst : Bytes, items.foldl (fun dst item => (encode serde item dst).2) dst =
      dst ++ (items.map (encoded serde)).flatten := by
    induction items with
    | nil => simp
    | cons item items ih =>
        intro dst
        rw [List.foldl_cons, ih, encode_snd, List.map_cons, List.flatten_cons, List.append_assoc]
  exact key []

/-- **Round trip of a stream.**  Encode any list of messages whose payloads fit in a frame into one
buffer, cut the result into chunks in any way, append the chunks to a receive buffer and call
`decode` after each until it asks for more: exactly that list comes out, in order, with no error,
and the buffer ends empty. -/
theorem feed_encodeAll (hserde : serde.Lawful) (msgs : List Message)
    (hmsgs : ∀ m ∈ msgs, FitsFrame serde m) (chunks : List Bytes)
    (hcut : chunks.flatten = encodeAll serde msgs) :
    (frameDecoder serde).feed [] chunks = (msgs, none, []) := by
  rw [encodeAll_eq_flatten] at hcut
  exact StreamDecoder.feed_frames rfl msgs (fun m hm => frames_encoded hserde (hmsgs m hm)) chunks
    hcut

/-- A payload type that no sample message uses. -/
def Serde.rejecting (α : Type) : Serde α where
  toVec _ := .error "unsupported"
  fromSlice _ := .error "unsupported"

/-- A format that writes nothing is lawful. -/
lemma Serde.rejecting_lawful (α : Type) : (Serde.rejecting α).Lawful := fun _ _ h => by cases h

/-- The JSON text of the close request for the rule `a`. -/
def closeRequestJson : Bytes :=
  [0x7b, 0x22, 0x6e, 0x61, 0x6d, 0x65, 0x22, 0x3a, 0x22, 0x61, 0x22, 0x7d]

/-- serde_json on the one control payload of the sample stream. -/
def sampleSerde : PayloadSerde where
  auth := .rejecting _
  authResp := .rejecting _
  serverAssignProxy := .rejecting _
  serverCloseProxy :=
    { toVec := fun req => if req = ⟨"a"⟩ then .ok closeRequestJson else .error "unsupported"
      fromSlice := fun bytes =>
        if bytes = closeRequestJson then .ok ⟨"a"⟩ else .error "expected value" }
  newWorkConn := .rejecting _
  newWorkConnResp := .rejecting _

/-- The sample format is lawful. -/
lemma sampleSerde_lawful : sampleSerde.Lawful where
  auth := Serde.rejecting_lawful _
  authResp := Serde.rejecting_lawful _
  serverAssignProxy := Serde.rejecting_lawful _
  serverCloseProxy := by
    intro x bytes h
    simp only [sampleSerde] at h ⊢
    split_ifs at h with hx
    cases h
    simp [hx]
  newWorkConn := Serde.rejecting_lawful _
  newWorkConnResp := Serde.rejecting_lawful _

/-- A heartbeat, an empty data message and a close request, cut inside the first header and
between the two bytes of a `conn_id`. -/
theorem feed_encodeAll_sample :
    (frameDecoder sampleSerde).feed []
        [[0, 0], [0, 0, 8, 0, 0, 0, 0, 0, 8, 7, 0, 0, 0, 0, 0, 0, 0, 0, 1],
          [2, 0, 0, 0, 12, 4, 0, 0] ++ closeRequestJson] =
      ([.control .ping, .data ⟨258, []⟩, .control (.serverCloseProxy ⟨"a"⟩)], none, []) := by
  apply feed_encodeAll sampleSerde_lawful
  · intro m hm
    simp only [List.mem_cons, List.not_mem_nil, or_false] at hm
    rcases hm with rfl | rfl | rfl
    · exact ⟨.ping, [], rfl, by decide⟩
    · exact ⟨.data, [0, 0, 0, 0, 0, 0, 1, 2], by decide, by decide⟩
    · exact ⟨.serverCloseProxy, closeRequestJson, by decide, by decide⟩
  · decide

end RustProxy.Proto
