import RustProxy.Proto.Frame

/-!
# Where `decode` stops and how much it removes

A receive buffer is in one of three conditions, read off its header: it ends before the frame it
starts (`Incomplete`), it announces too much (`OverLimit`), or it holds the frame (`HoldsFrame`).
`decode` is one equation in each, and the results are about any buffer.

* `decode_asks_iff`: the answer "more bytes" comes exactly on incomplete buffers, unless the buffer
  holds a `Data` frame that is too short for its `conn_id`.
* `decode_synchronised`: whatever is in the payload, a call removes nothing or the one frame, and
  what follows the frame plays no part in it.
* `encode_agrees_iff`: the encoder checks no size, so what it writes is what the decoder accepts
  exactly for payloads up to `MAX_FRAME_SIZE`.
-/

namespace RustProxy.Proto

open BigEndian

/-! ## The three conditions of a buffer -/

/-- The buffer ends before its header does, or before the payload its header announces. -/
def Incomplete (src : Bytes) : Prop :=
  src.length < headerSize ∨ (headerLen src ≤ maxFrameSize ∧ src.length < headerSize + headerLen src)

/-- The header announces more than a frame may hold. -/
def OverLimit (src : Bytes) : Prop := headerSize ≤ src.length ∧ maxFrameSize < headerLen src

/-- The buffer starts with a whole frame. -/
def HoldsFrame (src : Bytes) : Prop :=
  headerLen src ≤ maxFrameSize ∧ headerSize + headerLen src ≤ src.length

/-- The type byte of the header names a message type. -/
def KnownType (src : Bytes) : Prop := ∃ t, MessageType.tryFrom (headerType src) = .ok t

/-- The payload of the frame that the buffer starts with. -/
def payloadPart (src : Bytes) : Bytes := (src.drop headerSize).take (headerLen src)

instance (src : Bytes) : Decidable (Incomplete src) := inferInstanceAs (Decidable (_ ∨ _))
instance (src : Bytes) : Decidable (OverLimit src) := inferInstanceAs (Decidable (_ ∧ _))
instance (src : Bytes) : Decidable (HoldsFrame src) := inferInstanceAs (Decidable (_ ∧ _))

/-- A buffer is incomplete, over the limit or holds a frame. -/
lemma buffer_cases (src : Bytes) : Incomplete src ∨ OverLimit src ∨ HoldsFrame src := by
  unfold Incomplete OverLimit HoldsFrame
  omega

/-- A buffer that holds a frame is not incomplete. -/
lemma HoldsFrame.not_incomplete {src : Bytes} (h : HoldsFrame src) : ¬ Incomplete src := by
  unfold HoldsFrame at h
  unfold Incomplete
  omega

/-- A buffer over the limit is not incomplete. -/
lemma OverLimit.not_incomplete {src : Bytes} (h : OverLimit src) : ¬ Incomplete src := by
  unfold OverLimit at h
  unfold Incomplete
  omega

/-! ## One equation for each -/

section decode

variable (serde : PayloadSerde) {src : Bytes}

/-- An incomplete buffer is left to be completed. -/
lemma decode_of_incomplete (h : Incomplete src) : decode serde src = (.ok none, src) := by
  unfold decode
  by_cases hshort : src.length < headerSize
  · rw [if_pos hshort]
  · obtain ⟨hmax, hpart⟩ := h.resolve_left hshort
    rw [if_neg hshort, if_neg (by omega), if_pos hpart]

/-- A length over the limit is an error, and the buffer is left. -/
lemma decode_of_overLimit (h : OverLimit src) :
    decode serde src = (.error (.frameTooLarge (headerLen src)), src) := by
  unfold decode
  rw [if_neg (by unfold OverLimit at h; omega), if_pos h.2]

/-- On a whole frame the header's checks all pass, and the type byte decides. -/
lemma decode_of_holdsFrame (h : HoldsFrame src) :
    decode serde src =
      match MessageType.tryFrom (headerType src) with
      | .error e => (.error e, src)
      | .ok t => (decodePayload serde t (payloadPart src), src.drop (headerSize + headerLen src)) := by
  unfold HoldsFrame at h
  unfold decode
  rw [if_neg (by omega), if_neg (by omega), if_neg (by omega)]
  cases MessageType.tryFrom (headerType src) with
  | error e => rfl
  | ok t => exact Prod.ext rfl List.drop_drop

/-- A frame of a known type is taken off the buffer, whatever its payload is. -/
lemma decode_of_frame (h : HoldsFrame src) {t : MessageType}
    (ht : MessageType.tryFrom (headerType src) = .ok t) :
    decode serde src =
      (decodePayload serde t (payloadPart src), src.drop (headerSize + headerLen src)) := by
  rw [decode_of_holdsFrame serde h, ht]

/-- A frame of an unknown type is an error, and the buffer is left. -/
lemma decode_of_unknown (h : HoldsFrame src) {e : FrameError}
    (ht : MessageType.tryFrom (headerType src) = .error e) : decode serde src = (.error e, src) := by
  rw [decode_of_holdsFrame serde h, ht]

end decode

/-- The payload is as long as the header says. -/
lemma length_payloadPart {src : Bytes} (h : HoldsFrame src) :
    (payloadPart src).length = headerLen src := by
  unfold HoldsFrame at h
  simp [payloadPart]
  omega

/-- `try_from` is the inverse of the cast on the type bytes. -/
lemma MessageType.tryFrom_eq_ok_iff {value : UInt8} {t : MessageType} :
    MessageType.tryFrom value = .ok t ↔ value = t.toByte := by
  constructor
  · intro h
    unfold MessageType.tryFrom at h
    split_ifs at h with h₁ h₂ h₃ h₄ h₅ h₆ h₇ h₈ h₉
    all_goals
      cases h
      assumption
  · rintro rfl
    exact MessageType.tryFrom_toByte t

/-! ## The answer "more bytes" -/

/-- The answer asks for more bytes exactly on incomplete buffers and then leaves the buffer alone;
a whole frame gives a message or an error. -/
def AsksOnlyWhenIncomplete (serde : PayloadSerde) (src : Bytes) : Prop :=
  ((decode serde src).1 = .ok none ↔ Incomplete src) ∧
    (Incomplete src → (decode serde src).2 = src) ∧
    (HoldsFrame src → (decode serde src).1 ≠ .ok none)

/-- The buffer starts with a whole `Data` frame whose payload is too short for a `conn_id`. -/
def HoldsStub (src : Bytes) : Prop :=
  HoldsFrame src ∧ headerType src = MessageType.data.toByte ∧ headerLen src < 8

instance (src : Bytes) : Decidable (HoldsStub src) := inferInstanceAs (Decidable (_ ∧ _))

/-- A control message is always decoded to something. -/
lemma asControl_ne_none {α : Type} (variant : α → ControlMessage) (parsed : Except SerdeError α) :
    asControl variant parsed ≠ .ok none := by
  unfold asControl
  split <;> simp

/-- A payload without room for the `conn_id` is ignored. -/
lemma DataMessage.decode_eq_none_iff {payload : Bytes} :
    DataMessage.decode payload = none ↔ payload.length < 8 := by
  unfold DataMessage.decode
  split_ifs with h <;> simp [h]

/-- Only a `Data` payload can come out as nothing. -/
lemma decodePayload_eq_none_iff (serde : PayloadSerde) (t : MessageType) (payload : Bytes) :
    decodePayload serde t payload = .ok none ↔ t = .data ∧ payload.length < 8 := by
  cases t with
  | data =>
      rw [← DataMessage.decode_eq_none_iff]
      simp only [decodePayload, true_and]
      split
      · rename_i dataMsg hdecode
        simp [hdecode]
      · rename_i hdecode
        simp [hdecode]
  | ping => simp [decodePayload]
  | pong => simp [decodePayload]
  | _ => simp [decodePayload, asControl_ne_none]

/-- On a whole frame, the answer "more bytes" is given for a stub and for nothing else. -/
lemma decode_eq_none_iff_holdsStub (serde : PayloadSerde) {src : Bytes} (h : HoldsFrame src) :
    (decode serde src).1 = .ok none ↔ HoldsStub src := by
  cases ht : MessageType.tryFrom (headerType src) with
  | error e =>
      have hne : headerType src ≠ MessageType.data.toByte := by
        intro hdata
        rw [hdata, MessageType.tryFrom_toByte] at ht
        cases ht
      rw [decode_of_unknown serde h ht]
      simp [HoldsStub, hne]
  | ok t =>
      have hbyte : headerType src = t.toByte := MessageType.tryFrom_eq_ok_iff.mp ht
      rw [decode_of_frame serde h ht]
      simp only [decodePayload_eq_none_iff, length_payloadPart h]
      constructor
      · rintro ⟨rfl, hlen⟩
        exact ⟨h, hbyte, hlen⟩
      · rintro ⟨-, hdata, hlen⟩
        rw [hdata, MessageType.tryFrom_toByte] at ht
        cases ht
        exact ⟨rfl, hlen⟩

/-- `decode` asks for more bytes only when it needs them, except on a buffer that starts with a
`Data` frame shorter than its `conn_id`: that frame is removed and nothing is reported. -/
theorem decode_asks_iff (serde : PayloadSerde) (src : Bytes) :
    AsksOnlyWhenIncomplete serde src ↔ ¬ HoldsStub src := by
  unfold AsksOnlyWhenIncomplete
  rcases buffer_cases src with h | h | h
  · have hstub : ¬ HoldsStub src := fun hstub => hstub.1.not_incomplete h
    have hframe : ¬ HoldsFrame src := fun hframe => hframe.not_incomplete h
    simp [decode_of_incomplete serde h, h, hstub, hframe]
  · have hstub : ¬ HoldsStub src := by
      intro hstub
      have := hstub.1.1
      have := h.2
      omega
    have hframe : ¬ HoldsFrame src := by
      intro hframe
      have := hframe.1
      have := h.2
      omega
    simp [decode_of_overLimit serde h, h.not_incomplete, hstub, hframe]
  · simp [decode_eq_none_iff_holdsStub serde h, h.not_incomplete, h]

/-- An empty `Data` payload with a heartbeat behind it: the first frame is gone, the answer is "more
bytes", and the whole second frame is left waiting. -/
theorem decode_asks_stub :
    ¬ AsksOnlyWhenIncomplete sampleSerde [0, 0, 0, 0, 7, 0, 0, 0, 0, 0, 0, 8, 0, 0] := by
  intro h
  have hstub : HoldsStub [0, 0, 0, 0, 7, 0, 0, 0, 0, 0, 0, 8, 0, 0] := by decide +kernel
  exact h.2.2 hstub.1 ((decode_eq_none_iff_holdsStub sampleSerde hstub.1).mpr hstub)

/-! ## Synchronisation -/

section append

variable {src : Bytes} (e : Bytes)

/-- The length does not depend on what follows the header. -/
lemma headerLen_append (h : headerSize ≤ src.length) : headerLen (src ++ e) = headerLen src := by
  unfold headerLen
  unfold headerSize at h
  rw [List.take_append_of_le_length (by omega)]

/-- The type does not depend on what follows the header. -/
lemma headerType_append (h : headerSize ≤ src.length) : headerType (src ++ e) = headerType src := by
  unfold headerType
  unfold headerSize at h
  rw [List.getD_eq_getElem?_getD, List.getD_eq_getElem?_getD, List.getElem?_append_left (by omega)]

variable {e}

/-- A buffer over the limit stays so. -/
lemma OverLimit.append (h : OverLimit src) : OverLimit (src ++ e) := by
  unfold OverLimit at *
  rw [headerLen_append e h.1, List.length_append]
  omega

/-- A buffer that holds a frame holds its header. -/
lemma HoldsFrame.header_le (h : HoldsFrame src) : headerSize ≤ src.length := by
  unfold HoldsFrame at h
  omega

/-- A buffer that holds a frame goes on to hold it. -/
lemma HoldsFrame.append (h : HoldsFrame src) : HoldsFrame (src ++ e) := by
  have hlen := headerLen_append e h.header_le
  unfold HoldsFrame at *
  rw [hlen, List.length_append]
  omega

/-- The payload does not depend on what follows the frame. -/
lemma payloadPart_append (h : HoldsFrame src) : payloadPart (src ++ e) = payloadPart src := by
  unfold payloadPart
  rw [headerLen_append e h.header_le, List.drop_append_of_le_length h.header_le,
    List.take_append_of_le_length]
  have := h.2
  simp only [List.length_drop]
  omega

/-- Bytes behind a whole frame stay in the buffer and change nothing else. -/
lemma decode_append (serde : PayloadSerde) (h : HoldsFrame src ∨ OverLimit src) :
    decode serde (src ++ e) = ((decode serde src).1, (decode serde src).2 ++ e) := by
  rcases h with h | h
  · have htype := headerType_append e h.header_le
    cases ht : MessageType.tryFrom (headerType src) with
    | error err => rw [decode_of_unknown serde h.append (htype ▸ ht), decode_of_unknown serde h ht]
    | ok t =>
        rw [decode_of_frame serde h.append (htype ▸ ht), decode_of_frame serde h ht,
          payloadPart_append h, headerLen_append e h.header_le,
          List.drop_append_of_le_length h.2]
  · rw [decode_of_overLimit serde h.append, decode_of_overLimit serde h, headerLen_append e h.1]

end append

/-- What a call leaves of the buffer: all of it, or all but the frame at its start. -/
lemma decode_snd (serde : PayloadSerde) (src : Bytes) :
    ((Incomplete src ∨ OverLimit src ∨ ¬ KnownType src) → (decode serde src).2 = src) ∧
      ((HoldsFrame src ∧ KnownType src) →
        (decode serde src).2 = src.drop (headerSize + headerLen src)) := by
  constructor
  · intro h
    rcases buffer_cases src with hcase | hcase | hcase
    · rw [decode_of_incomplete serde hcase]
    · rw [decode_of_overLimit serde hcase]
    · cases ht : MessageType.tryFrom (headerType src) with
      | error e => rw [decode_of_unknown serde hcase ht]
      | ok t =>
          have hover : ¬ OverLimit src := fun hover => absurd hcase.1 (by have := hover.2; omega)
          exact absurd ⟨t, ht⟩ ((h.resolve_left hcase.not_incomplete).resolve_left hover)
  · rintro ⟨hframe, t, ht⟩
    rw [decode_of_frame serde hframe ht]

/-- **Frame synchronisation.**  A call removes nothing when the frame is incomplete, too large or of
unknown type, and exactly the header and the payload it announces otherwise; with a whole frame or
an excessive length in the buffer, appending bytes changes neither the outcome nor the place where
the call stops.  So a frame that fills the buffer takes nothing of what follows it. -/
theorem decode_synchronised (serde : PayloadSerde) (src e : Bytes) :
    ((Incomplete src ∨ OverLimit src ∨ ¬ KnownType src) → (decode serde src).2 = src) ∧
      ((HoldsFrame src ∧ KnownType src) →
        (decode serde src).2 = src.drop (headerSize + headerLen src)) ∧
      ((HoldsFrame src ∨ OverLimit src) →
        decode serde (src ++ e) = ((decode serde src).1, (decode serde src).2 ++ e)) ∧
      ((HoldsFrame src ∧ KnownType src ∧ src.length = headerSize + headerLen src) →
        decode serde (src ++ e) = ((decode serde src).1, e)) := by
  refine ⟨(decode_snd serde src).1, (decode_snd serde src).2, decode_append serde, ?_⟩
  rintro ⟨hframe, hknown, hwhole⟩
  have hrest : (decode serde src).2 = [] := by
    rw [(decode_snd serde src).2 ⟨hframe, hknown⟩, ← hwhole, List.drop_length]
  rw [decode_append serde (Or.inl hframe), hrest, List.nil_append]

/-- A close request whose payload is not JSON, before a heartbeat. -/
theorem decode_synchronised_malformed :
    decode sampleSerde ([0, 0, 0, 1, 4, 0, 0, 0x7b] ++ [0, 0, 0, 0, 8, 0, 0]) =
      ((decode sampleSerde [0, 0, 0, 1, 4, 0, 0, 0x7b]).1, [0, 0, 0, 0, 8, 0, 0]) :=
  (decode_synchronised sampleSerde [0, 0, 0, 1, 4, 0, 0, 0x7b] [0, 0, 0, 0, 8, 0, 0]).2.2.2
    ⟨by decide +kernel, ⟨.serverCloseProxy, rfl⟩, rfl⟩

/-! ## The sizes that the encoder writes and the decoder takes -/

/-- `encode` fails and leaves the buffer alone, or it appends a frame whose length field is the length
of its payload and which `decode` takes back whole, as the message, whatever follows it. -/
def EncodeAgrees (serde : PayloadSerde) (item : Message) (dst : Bytes) : Prop :=
  (∃ e, encode serde item dst = (.error e, dst)) ∨
    ∃ msgType payload, framePayload serde item = .ok (msgType, payload) ∧
      encode serde item dst = (.ok (), dst ++ frameBytes msgType payload) ∧
      headerLen (frameBytes msgType payload) = payload.length ∧
      ∀ rest, decode serde (frameBytes msgType payload ++ rest) = (.ok (some item), rest)

/-- The data with its `conn_id`, or the JSON text if there is one, is no longer than a frame may
be. -/
def WithinLimit (serde : PayloadSerde) : Message → Prop
  | .data dataMsg => 8 + dataMsg.data.length ≤ maxFrameSize
  | .control ctrl => ∀ t json, controlPayload serde ctrl = .ok (t, json) →
      json.length ≤ maxFrameSize

variable {serde : PayloadSerde}

/-- A message is within the limit if its payload is. -/
lemma withinLimit_iff {item : Message} {msgType : MessageType} {payload : Bytes}
    (h : framePayload serde item = .ok (msgType, payload)) :
    WithinLimit serde item ↔ payload.length ≤ maxFrameSize := by
  cases item with
  | control ctrl =>
      have hctrl : controlPayload serde ctrl = .ok (msgType, payload) := h
      simp [WithinLimit, hctrl]
  | data dataMsg =>
      cases h
      simp [WithinLimit]

/-- A payload is appended as a frame. -/
lemma encode_of_payload {item : Message} {msgType : MessageType} {payload : Bytes}
    (h : framePayload serde item = .ok (msgType, payload)) (dst : Bytes) :
    encode serde item dst = (.ok (), dst ++ frameBytes msgType payload) := by
  cases item with
  | control ctrl =>
      have hctrl : controlPayload serde ctrl = .ok (msgType, payload) := h
      simp [encode, hctrl]
  | data dataMsg =>
      cases h
      rfl

/-- A message that cannot be serialised leaves the buffer. -/
lemma encode_of_error {item : Message} {e : SerdeError} (h : framePayload serde item = .error e)
    (dst : Bytes) : encode serde item dst = (.error (.serialize e), dst) := by
  cases item with
  | control ctrl =>
      have hctrl : controlPayload serde ctrl = .error e := h
      simp [encode, hctrl]
  | data dataMsg => cases h

/-- The frame of a payload over the limit is not taken back: its length field is too large, or it is
not the length of the payload. -/
lemma not_encodeAgrees {item : Message} {msgType : MessageType} {payload : Bytes}
    (h : framePayload serde item = .ok (msgType, payload)) (hlarge : maxFrameSize < payload.length)
    (dst : Bytes) : ¬ EncodeAgrees serde item dst := by
  rintro (⟨e, herror⟩ | ⟨t, p, hp, -, hlen, hdecode⟩)
  · rw [encode_of_payload h] at herror
    cases herror
  · rw [h] at hp
    cases hp
    have hover : OverLimit (frameBytes msgType payload) := by
      unfold OverLimit
      rw [hlen, length_frameBytes]
      omega
    have hfirst := hdecode []
    rw [List.append_nil, decode_of_overLimit serde hover] at hfirst
    cases hfirst

/-- A datum over the limit is encoded, and not decoded. -/
lemma not_encodeAgrees_data {dataMsg : DataMessage} (hlarge : maxFrameSize < 8 + dataMsg.data.length)
    (dst : Bytes) : ¬ EncodeAgrees serde (.data dataMsg) dst := by
  have hpayload : framePayload serde (.data dataMsg) = .ok (.data, dataMsg.encode) := rfl
  exact not_encodeAgrees hpayload (by rwa [DataMessage.length_encode]) dst

/-- The encoder and the decoder agree on a message exactly when what is to be sent of it is within
`MAX_FRAME_SIZE`: the encoder checks nothing. -/
theorem encode_agrees_iff (hserde : serde.Lawful) (item : Message) (dst : Bytes) :
    EncodeAgrees serde item dst ↔ WithinLimit serde item := by
  cases h : framePayload serde item with
  | error e =>
      have hlimit : WithinLimit serde item := by
        cases item with
        | control ctrl =>
            have hctrl : controlPayload serde ctrl = .error e := h
            simp [WithinLimit, hctrl]
        | data dataMsg => cases h
      exact ⟨fun _ => hlimit, fun _ => Or.inl ⟨_, encode_of_error h dst⟩⟩
  | ok p =>
      obtain ⟨msgType, payload⟩ := p
      rw [withinLimit_iff h]
      constructor
      · intro hagrees
        by_contra hlarge
        exact not_encodeAgrees h (by omega) dst hagrees
      · intro hmax
        refine Or.inr ⟨msgType, payload, h, encode_of_payload h dst, ?_, ?_⟩
        · simpa using headerLen_frameBytes msgType hmax []
        · intro rest
          rw [← encoded_of_payload h]
          exact decode_frame h hmax (decodePayload_framePayload hserde h) rest

/-- A short data message. -/
theorem encode_agrees_short : EncodeAgrees sampleSerde (.data ⟨258, [1, 2, 3]⟩) [0xff] :=
  (encode_agrees_iff sampleSerde_lawful (.data ⟨258, [1, 2, 3]⟩) [0xff]).mpr
    (by simp [WithinLimit, maxFrameSize])

/-- 64 MiB of data: with the `conn_id` the frame is 8 bytes over the limit. -/
theorem encode_agrees_large :
    ¬ EncodeAgrees sampleSerde (.data ⟨1, List.replicate (64 * 1024 * 1024) 0⟩) [] := by
  have key : ∀ n, maxFrameSize < 8 + n →
      ¬ EncodeAgrees sampleSerde (.data ⟨1, List.replicate n 0⟩) [] := by
    intro n hn
    exact not_encodeAgrees_data (by rwa [List.length_replicate]) []
  apply key
  unfold maxFrameSize
  omega

end RustProxy.Proto
