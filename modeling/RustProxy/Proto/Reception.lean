import RustProxy.Foundation.StreamEnd
import RustProxy.Proto.Boundaries

/-!
# What a connection receives

`FrameCodec` behind the read loop of a framed connection: bytes arrive in reads of any size, `decode`
is called until it answers `Ok(None)`, and again at the end of the stream.

* `receive_cut`: a stream of messages that breaks off anywhere is received as the messages that came
  through as a whole, never as a part of one, and a clean end is told from a cut.
* `buffer_bounded_iff`: the frames a peer uses keep the receive buffer within a bound, whatever it
  sends of them, exactly if no `Data` frame among them is too short for its `conn_id`.  Such a frame
  is removed with the answer "more bytes", so that everything behind it waits for another read.
-/

namespace RustProxy.Proto

open StreamDecoder

variable {serde : PayloadSerde}

/-! ## A stream that breaks off -/

/-- Encode any messages whose payloads fit in a frame and let the stream break off after any number of
bytes: exactly the messages whose frames arrived as a whole come out, and the ending is clean if and
only if no part of another frame arrived. -/
theorem receive_cut (hserde : serde.Lawful) (msgs : List Message)
    (hmsgs : ∀ m ∈ msgs, FitsFrame serde m) (chunks : List Bytes)
    (hcut : chunks.flatten <+: encodeAll serde msgs) :
    ∃ whole rest left, msgs = whole ++ rest ∧ chunks.flatten = encodeAll serde whole ++ left ∧
      CutShort (encoded serde) rest left ∧
      (frameDecoder serde).receive chunks = (whole, ending none left) := by
  rw [encodeAll_eq_flatten] at hcut
  obtain ⟨whole, rest, left, hsplit, hbytes, hleft, hreceive⟩ :=
    receive_prefix rfl msgs (fun m hm => frames_encoded hserde (hmsgs m hm)) chunks hcut
  rw [← encodeAll_eq_flatten] at hbytes
  exact ⟨whole, rest, left, hsplit, hbytes, hleft, hreceive⟩

/-- A heartbeat and three bytes of the next one. -/
theorem receive_cut_heartbeats :
    ∃ whole rest left, [Message.control .ping, .control .ping] = whole ++ rest ∧
      [[0, 0, 0, 0], [8, 0, 0, 0, 0, 0]].flatten = encodeAll sampleSerde whole ++ left ∧
      CutShort (encoded sampleSerde) rest left ∧
      (frameDecoder sampleSerde).receive [[0, 0, 0, 0], [8, 0, 0, 0, 0, 0]] =
        (whole, ending none left) := by
  apply receive_cut sampleSerde_lawful
  · intro m hm
    simp only [List.mem_cons, List.not_mem_nil, or_false, or_self] at hm
    subst hm
    exact ⟨.ping, [], rfl, by decide⟩
  · exact ⟨[0, 8, 0, 0], by decide⟩

/-! ## The size of the receive buffer -/

/-- The bytes are one frame, of any type and with any payload that may be announced. -/
def IsFrame (f : Bytes) : Prop := HoldsFrame f ∧ f.length = headerSize + headerLen f

instance (f : Bytes) : Decidable (IsFrame f) := inferInstanceAs (Decidable (_ ∧ _))

/-- An incomplete buffer is shorter than the longest frame. -/
lemma Incomplete.length_lt {src : Bytes} (h : Incomplete src) :
    src.length < headerSize + maxFrameSize := by
  unfold Incomplete at h
  omega

/-- A part of a stream of frames is incomplete, or it starts with the first of them. -/
lemma incomplete_or_eq_append {f : Bytes} (hf : IsFrame f) {buf tail rest : Bytes}
    (hbuf : buf ++ tail = f ++ rest) :
    Incomplete buf ∨ ∃ buf', buf = f ++ buf' ∧ buf' ++ tail = rest := by
  obtain ⟨hframe, hlen⟩ := hf
  rcases List.append_eq_append_iff.mp hbuf with ⟨q, hq, htail⟩ | ⟨buf', hbuf', htail⟩
  · by_cases hnil : q = []
    · subst hnil
      rw [List.append_nil] at hq
      exact Or.inr ⟨[], by rw [hq, List.append_nil], by simpa using htail⟩
    · left
      have hpos : 0 < q.length := List.length_pos_iff.mpr hnil
      have hsum : f.length = buf.length + q.length := by rw [hq, List.length_append]
      by_cases hshort : buf.length < headerSize
      · exact Or.inl hshort
      · have hhead : headerLen f = headerLen buf := by
          rw [hq]
          exact headerLen_append q (by omega)
        have := hframe.1
        exact Or.inr ⟨by omega, by omega⟩
  · exact Or.inr ⟨buf', hbuf', htail.symm⟩

variable (serde) in
/-- A call on a buffer that starts with a frame: it fails, the frame is a stub, or a message comes out
and the frame is gone. -/
lemma decode_append_cases {f : Bytes} (hf : IsFrame f) (buf : Bytes) :
    (∃ e rest, decode serde (f ++ buf) = (.error e, rest)) ∨ HoldsStub f ∨
      ∃ m, decode serde (f ++ buf) = (.ok (some m), buf) := by
  obtain ⟨hframe, hlen⟩ := hf
  rw [decode_append serde (Or.inl hframe)]
  cases ht : MessageType.tryFrom (headerType f) with
  | error e => exact Or.inl ⟨e, f ++ buf, by rw [decode_of_unknown serde hframe ht]⟩
  | ok t =>
      have hrest : (decode serde f).2 ++ buf = buf := by
        rw [decode_of_frame serde hframe ht, ← hlen, List.drop_length, List.nil_append]
      rw [hrest]
      cases hanswer : (decode serde f).1 with
      | error e => exact Or.inl ⟨e, buf, rfl⟩
      | ok item =>
          cases item with
          | none => exact Or.inr (Or.inl ((decode_eq_none_iff_holdsStub serde hframe).mp hanswer))
          | some m => exact Or.inr (Or.inr ⟨m, rfl⟩)

/-- Draining a part of a stream without stubs leaves a buffer that ends inside a frame. -/
lemma drain_of_no_stub (fs : List Bytes) (hfs : ∀ f ∈ fs, IsFrame f ∧ ¬ HoldsStub f)
    {buf tail left : Bytes} {ms : List Message} (hbuf : buf ++ tail = fs.flatten)
    (hdrain : (frameDecoder serde).drain buf = (ms, none, left)) :
    Incomplete left ∧ ∃ fs' : List Bytes, (∀ f ∈ fs', IsFrame f ∧ ¬ HoldsStub f) ∧
      left ++ tail = fs'.flatten := by
  induction fs generalizing buf ms with
  | nil =>
      obtain ⟨rfl, rfl⟩ := List.append_eq_nil_iff.mp hbuf
      have hempty : (frameDecoder serde).drain [] = ([], none, []) := drain_of_need rfl
      rw [hempty] at hdrain
      cases hdrain
      exact ⟨Or.inl (by decide), [], by simp, rfl⟩
  | cons f fs ih =>
      have hf := hfs f List.mem_cons_self
      rw [List.flatten_cons] at hbuf
      rcases incomplete_or_eq_append hf.1 hbuf with hinc | ⟨buf', rfl, hrest⟩
      · have hstay : (frameDecoder serde).drain buf = ([], none, buf) :=
          drain_of_need (decode_of_incomplete serde hinc)
        rw [hstay] at hdrain
        cases hdrain
        exact ⟨hinc, f :: fs, hfs, by rw [List.flatten_cons, hbuf]⟩
      · rcases decode_append_cases serde hf.1 buf' with ⟨e, rest, herror⟩ | hstub | ⟨m, hm⟩
        · rw [drain_of_error (D := frameDecoder serde) herror] at hdrain
          cases hdrain
        · exact absurd hstub hf.2
        · rw [drain_of_item (D := frameDecoder serde) hm] at hdrain
          obtain ⟨-, hdrain⟩ := Prod.mk.inj hdrain
          exact ih (fun f' hf' => hfs f' (List.mem_cons_of_mem _ hf')) hrest
            (Prod.ext rfl hdrain)

/-- The run lemma: as long as no error ends it, the stream is left inside a frame by every read. -/
lemma feed_of_no_stub (chunks : List Bytes) (fs : List Bytes)
    (hfs : ∀ f ∈ fs, IsFrame f ∧ ¬ HoldsStub f) {buf tail left : Bytes} {ms : List Message}
    (hinc : Incomplete buf) (hbuf : buf ++ chunks.flatten ++ tail = fs.flatten)
    (hfeed : (frameDecoder serde).feed buf chunks = (ms, none, left)) : Incomplete left := by
  induction chunks generalizing fs buf ms with
  | nil =>
      cases hfeed
      exact hinc
  | cons c cs ih =>
      rw [List.flatten_cons, ← List.append_assoc, List.append_assoc (buf ++ c)] at hbuf
      rw [feed] at hfeed
      split at hfeed
      · cases hfeed
      · rename_i ms' mid hdrain
        obtain ⟨hmid, fs', hfs', hrest⟩ := drain_of_no_stub fs hfs hbuf hdrain
        obtain ⟨-, hfeed⟩ := Prod.mk.inj hfeed
        exact ih fs' hfs' hmid (by rw [List.append_assoc]; exact hrest) (Prod.ext rfl hfeed)

/-- What a peer can make the buffer hold that sends only these frames, and is read at most `size` bytes
at a time: no more than some bound. -/
def BufferBounded (serde : PayloadSerde) (frames : Set Bytes) (size : ℕ) : Prop :=
  ∃ bound, ∀ fs : List Bytes, (∀ f ∈ fs, f ∈ frames) → ∀ chunks : List Bytes,
    (∀ c ∈ chunks, c.length ≤ size) → chunks.flatten <+: fs.flatten → ∀ ms left,
      (frameDecoder serde).feed [] chunks = (ms, none, left) → left.length ≤ bound

/-- A stub is removed, the rest of the buffer is kept, and nothing comes out. -/
lemma drain_stub {f : Bytes} (hf : IsFrame f) (hstub : HoldsStub f) (buf : Bytes) :
    (frameDecoder serde).drain (f ++ buf) = ([], none, buf) := by
  obtain ⟨hframe, hlen⟩ := hf
  apply drain_of_need
  have hanswer := (decode_eq_none_iff_holdsStub serde hframe).mpr hstub
  have hknown : KnownType f := ⟨.data, MessageType.tryFrom_eq_ok_iff.mpr hstub.2.1⟩
  have hrest : (decode serde f).2 = [] := by
    rw [(decode_snd serde f).2 ⟨hframe, hknown⟩, ← hlen, List.drop_length]
  have happend := decode_append (e := buf) serde (Or.inl hframe)
  rw [hanswer, hrest] at happend
  exact happend

/-- Two stubs a read: one of them stays. -/
lemma feed_stubs {f : Bytes} (hf : IsFrame f) (hstub : HoldsStub f) (n k : ℕ) :
    (frameDecoder serde).feed (List.replicate k f).flatten (List.replicate n (f ++ f)) =
      ([], none, (List.replicate (k + n) f).flatten) := by
  induction n generalizing k with
  | zero => rfl
  | succ n ih =>
      have hshift : (List.replicate k f).flatten ++ (f ++ f) =
          f ++ (List.replicate (k + 1) f).flatten := by
        have hend : (List.replicate (k + 2) f).flatten = (List.replicate k f).flatten ++ (f ++ f) := by
          rw [List.replicate_add, List.flatten_append]
          simp [List.replicate]
        rw [← hend, ← List.flatten_cons, ← List.replicate_succ]
      rw [List.replicate_succ, feed, hshift, drain_stub hf hstub]
      simp only [ih (k + 1), List.nil_append]
      rw [Nat.add_right_comm, Nat.add_assoc]

/-- **The receive buffer.**  For a peer that sends frames of a given kind, of any types and with any
payloads, in reads of any size up to `size`: the buffer stays within a bound if and only if no frame
of the kind is a `Data` frame too short for its `conn_id`; the bound is then a header and the largest
payload. -/
theorem buffer_bounded_iff (serde : PayloadSerde) (frames : Set Bytes)
    (hframes : ∀ f ∈ frames, IsFrame f) {size : ℕ} (hsize : 28 ≤ size) :
    (BufferBounded serde frames size ↔ ∀ f ∈ frames, ¬ HoldsStub f) ∧
      ((∀ f ∈ frames, ¬ HoldsStub f) → ∀ fs : List Bytes, (∀ f ∈ fs, f ∈ frames) →
        ∀ chunks : List Bytes, chunks.flatten <+: fs.flatten → ∀ ms left,
          (frameDecoder serde).feed [] chunks = (ms, none, left) →
            left.length < headerSize + maxFrameSize) := by
  have hbound : (∀ f ∈ frames, ¬ HoldsStub f) → ∀ fs : List Bytes, (∀ f ∈ fs, f ∈ frames) →
      ∀ chunks : List Bytes, chunks.flatten <+: fs.flatten → ∀ ms left,
        (frameDecoder serde).feed [] chunks = (ms, none, left) →
          left.length < headerSize + maxFrameSize := by
    rintro hstubs fs hfs chunks ⟨tail, htail⟩ ms left hfeed
    exact (feed_of_no_stub chunks fs (fun f hf => ⟨hframes f (hfs f hf), hstubs f (hfs f hf)⟩)
      (Or.inl (by decide)) htail hfeed).length_lt
  refine ⟨⟨?_, ?_⟩, hbound⟩
  · rintro ⟨bound, hall⟩ f hf hstub
    have hlen : headerSize ≤ f.length ∧ f.length ≤ 14 := by
      have := (hframes f hf).2
      have := hstub.2.2
      unfold headerSize at *
      omega
    have hstream : (List.replicate (bound + 1) (f ++ f)).flatten <+:
        (List.replicate (bound + 1) [f, f]).flatten.flatten := by
      rw [List.flatten_flatten, List.map_replicate]
      simp
    have hmany := hall (List.replicate (bound + 1) [f, f]).flatten (by simp [hf])
      (List.replicate (bound + 1) (f ++ f))
      (fun c hc => by rw [List.eq_of_mem_replicate hc, List.length_append]; omega)
      hstream _ _ (feed_stubs (hframes f hf) hstub (bound + 1) 0)
    have hpos : 0 < f.length := by
      unfold headerSize at hlen
      omega
    have hlarge : 0 + (bound + 1) ≤ (0 + (bound + 1)) * f.length := Nat.le_mul_of_pos_right _ hpos
    rw [List.length_flatten, List.map_replicate, List.sum_replicate_nat] at hmany
    omega
  · intro hstubs
    refine ⟨headerSize + maxFrameSize, ?_⟩
    intro fs hfs chunks _ hcut ms left hfeed
    exact (hbound hstubs fs hfs chunks hcut ms left hfeed).le

/-- A peer that sends heartbeats, and one that sends empty `Data` payloads. -/
theorem buffer_bounded_heartbeats :
    BufferBounded sampleSerde {[0, 0, 0, 0, 8, 0, 0]} 8192 ∧
      ¬ BufferBounded sampleSerde {[0, 0, 0, 0, 7, 0, 0]} 8192 := by
  have hsingle : ∀ f : Bytes, IsFrame f → ∀ g ∈ ({f} : Set Bytes), IsFrame g := by
    rintro f hf g rfl
    exact hf
  constructor
  · apply (buffer_bounded_iff sampleSerde _ (hsingle _ (by decide +kernel)) (by omega)).1.mpr
    rintro f rfl
    decide +kernel
  · intro hbounded
    exact (buffer_bounded_iff sampleSerde _ (hsingle _ (by decide +kernel)) (by omega)).1.mp hbounded
      _ rfl (by decide +kernel)

end RustProxy.Proto
