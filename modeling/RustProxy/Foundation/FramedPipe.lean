import RustProxy.Foundation.StreamEnd

/-!
# Items on a pipe of bytes

A writer puts the form of an item into a buffer of its own and hands the bytes over a few at a time; a
reader reads some of what is on the way, and calls an incremental decoder on what it has.

* `Carries D encode p items pending` says what is on the way: the forms of `items` as a whole, and
  behind them a part of the form of `pending`, the rest of which is still with the writer.
* There is one lemma for each thing that can happen to the pipe.  `Carries.decode_cases` is the one
  about the decoder: it asks for more, or the first of the items comes out.
* `Carries.queue_eq`: the items on the way are what the decoder would make of the bytes on the way.
-/

open StreamDecoder

/-- The bytes between a writer and a reader. -/
structure FramedPipe (β : Type*) where
  writeBuf : List β
  wire : List β
  readBuf : List β
  deriving DecidableEq, Repr

namespace FramedPipe

variable {β μ ε : Type*}

/-- Nothing is on the way. -/
def empty : FramedPipe β := { writeBuf := [], wire := [], readBuf := [] }

/-- A form is put into the buffer of the writer. -/
def write (p : FramedPipe β) (form : List β) : FramedPipe β :=
  { p with writeBuf := p.writeBuf ++ form }

/-- The pipe takes the first `k` bytes of that buffer. -/
def flush (p : FramedPipe β) (k : ℕ) : FramedPipe β :=
  { p with writeBuf := p.writeBuf.drop k, wire := p.wire ++ p.writeBuf.take k }

/-- The reader reads the first `k` bytes. -/
def fetch (p : FramedPipe β) (k : ℕ) : FramedPipe β :=
  { p with wire := p.wire.drop k, readBuf := p.readBuf ++ p.wire.take k }

/-- What the decoder makes of all that is on the way. -/
def queue (D : StreamDecoder β μ ε) (p : FramedPipe β) : List μ := (D.drain (p.readBuf ++ p.wire)).1

/-- The part of a form that is on the way, and the rest of it. -/
def Pending (encode : μ → List β) (part rest : List β) : Option μ → Prop
  | none => part = [] ∧ rest = []
  | some m => part ++ rest = encode m ∧ rest ≠ []

/-- These items are on the way as a whole, and a part of this one. -/
structure Carries (D : StreamDecoder β μ ε) (encode : μ → List β) (p : FramedPipe β)
    (items : List μ) (pending : Option μ) : Prop where
  frames : ∀ m ∈ items ++ pending.toList, D.Frames encode m
  parts : ∃ part, p.readBuf ++ p.wire = (items.map encode).flatten ++ part ∧
    Pending encode part p.writeBuf pending

variable {D : StreamDecoder β μ ε} {encode : μ → List β} {p : FramedPipe β} {items : List μ}
  {pending : Option μ} {m : μ}

/-! ## What is where -/

/-- An empty pipe carries nothing. -/
lemma carries_empty : Carries D encode empty [] none where
  frames := nofun
  parts := ⟨[], rfl, rfl, rfl⟩

/-- What has been flushed of a pending message and what has not are its encoding. -/
lemma Pending.append {part rest : List β} (h : Pending encode part rest pending) :
    part ++ rest = (pending.toList.map encode).flatten := by
  cases pending with
  | none =>
      obtain ⟨rfl, rfl⟩ := h
      rfl
  | some m => simpa using h.1

/-- All the bytes there are. -/
lemma Carries.bytes (h : Carries D encode p items pending) :
    p.readBuf ++ (p.wire ++ p.writeBuf) = ((items ++ pending.toList).map encode).flatten := by
  obtain ⟨part, hway, hpending⟩ := h.parts
  rw [← List.append_assoc, hway, List.append_assoc, hpending.append, List.map_append,
    List.flatten_append]

/-- A message that is pending has unsent bytes. -/
lemma Carries.writeBuf_ne_nil (h : Carries D encode p items (some m)) : p.writeBuf ≠ [] := by
  obtain ⟨part, -, hpending⟩ := h.parts
  exact hpending.2

/-- Without a pending message nothing is unsent. -/
lemma Carries.writeBuf_eq_nil (h : Carries D encode p items none) : p.writeBuf = [] := by
  obtain ⟨part, -, hpending⟩ := h.parts
  exact hpending.2

/-- A part of a frame asks for more. -/
lemma decode_of_pending {part rest : List β} (hempty : D.decode [] = (.ok none, []))
    (hframes : ∀ m ∈ pending.toList, D.Frames encode m) (h : Pending encode part rest pending) :
    D.decode part = (.ok none, part) := by
  cases pending with
  | none =>
      obtain ⟨rfl, -⟩ := h
      exact hempty
  | some m => exact (hframes m (by simp)).incomplete part rest h.2 h.1

/-- Draining whole forms and a part that the decoder asks for more on. -/
lemma drain_frames (hframes : ∀ m ∈ items, D.Frames encode m) {part : List β}
    (hneed : D.decode part = (.ok none, part)) :
    D.drain ((items.map encode).flatten ++ part) = (items, none, part) := by
  induction items with
  | nil => exact drain_of_need hneed
  | cons m items ih =>
      have hfirst := (hframes m List.mem_cons_self).complete ((items.map encode).flatten ++ part)
      rw [List.map_cons, List.flatten_cons, List.append_assoc, drain_of_item hfirst,
        ih fun m' hm' => hframes m' (List.mem_cons_of_mem m hm')]

/-- The items on the way are those the decoder would give. -/
theorem Carries.queue_eq (hempty : D.decode [] = (.ok none, []))
    (h : Carries D encode p items pending) : p.queue D = items := by
  obtain ⟨part, hway, hpending⟩ := h.parts
  have hneed := decode_of_pending hempty
    (fun m hm => h.frames m (List.mem_append_right items hm)) hpending
  rw [queue, hway, drain_frames (fun m hm => h.frames m (List.mem_append_left _ hm)) hneed]

/-- An item takes up at least a byte. -/
lemma Carries.length_items_le (h : Carries D encode p items pending) :
    items.length ≤ p.readBuf.length + p.wire.length := by
  obtain ⟨part, hway, -⟩ := h.parts
  have hlength := congrArg List.length hway
  rw [List.length_append, List.length_append] at hlength
  have hitems : items.length ≤ (items.map encode).flatten.length := by
    have hpos : ∀ m ∈ items, 1 ≤ (encode m).length := fun m hm =>
      List.length_pos_iff.mpr (h.frames m (List.mem_append_left _ hm)).ne_nil
    clear hway hlength h
    induction items with
    | nil => exact Nat.zero_le _
    | cons m items ih =>
        have hfirst := hpos m List.mem_cons_self
        have hrest := ih fun m' hm' => hpos m' (List.mem_cons_of_mem m hm')
        rw [List.map_cons, List.flatten_cons, List.length_append, List.length_cons]
        omega
  omega

/-! ## What happens to the pipe -/

/-- An item is written when the one before it has left. -/
lemma Carries.write (h : Carries D encode p items none) (hm : D.Frames encode m) :
    Carries D encode (p.write (encode m)) items (some m) := by
  obtain ⟨part, hway, rfl, hrest⟩ := h.parts
  refine ⟨?_, [], hway, ?_, ?_⟩
  · intro m' hm'
    rcases List.mem_append.mp hm' with hold | hnew
    · exact h.frames m' (List.mem_append_left _ hold)
    · obtain rfl : m' = m := by simpa using hnew
      exact hm
  · simp [FramedPipe.write, hrest]
  · simp [FramedPipe.write, hrest, hm.ne_nil]

/-- Some of its bytes leave, but not all. -/
lemma Carries.flush (h : Carries D encode p items (some m)) {k : ℕ} (hk : k < p.writeBuf.length) :
    Carries D encode (p.flush k) items (some m) := by
  obtain ⟨part, hway, hpart, -⟩ := h.parts
  refine ⟨h.frames, part ++ p.writeBuf.take k, ?_, ?_, ?_⟩
  · rw [← List.append_assoc, ← hway, List.append_assoc]
    rfl
  · rw [List.append_assoc]
    exact (congrArg (part ++ ·) (List.take_append_drop k p.writeBuf)).trans hpart
  · simpa [FramedPipe.flush] using hk

/-- The last of its bytes leave. -/
lemma Carries.flush_all (h : Carries D encode p items (some m)) :
    Carries D encode (p.flush p.writeBuf.length) (items ++ [m]) none := by
  obtain ⟨part, hway, hpart, -⟩ := h.parts
  refine ⟨by simpa using h.frames, [], ?_, rfl, ?_⟩
  · simp only [FramedPipe.flush, List.take_length]
    rw [← List.append_assoc, hway, List.append_assoc, hpart]
    simp
  · simp [FramedPipe.flush]

/-- Fetching moves bytes along the pipe only. -/
lemma fetch_way (p : FramedPipe β) (k : ℕ) :
    (p.fetch k).readBuf ++ (p.fetch k).wire = p.readBuf ++ p.wire := by
  simp [FramedPipe.fetch]

/-- Bytes are read. -/
lemma Carries.fetch (h : Carries D encode p items pending) (k : ℕ) :
    Carries D encode (p.fetch k) items pending := by
  obtain ⟨part, hway, hpending⟩ := h.parts
  exact ⟨h.frames, part, (fetch_way p k).trans hway, hpending⟩

/-- The decoder is called: it asks for more, or the first item comes out. -/
theorem Carries.decode_cases (hempty : D.decode [] = (.ok none, []))
    (h : Carries D encode p items pending) :
    D.decode p.readBuf = (.ok none, p.readBuf) ∨
      ∃ m items' rest, items = m :: items' ∧ D.decode p.readBuf = (.ok (some m), rest) ∧
        p.readBuf = encode m ++ rest ∧ Carries D encode { p with readBuf := rest } items' pending := by
  rcases decode_prefix hempty h.frames h.bytes with hneed | ⟨m, ms, rest, hms, hdecode, hrest⟩
  · exact .inl hneed
  · right
    obtain ⟨part, hway, hpending⟩ := h.parts
    cases items with
    | nil =>
        -- the bytes of the pending item are not all there
        cases pending with
        | none => simp at hms
        | some m' =>
            obtain ⟨rfl, rfl⟩ : m' = m ∧ [] = ms := by simpa using hms
            have hnil : p.writeBuf = [] := by
              simp only [List.map_nil, List.flatten_nil, List.append_eq_nil_iff] at hrest
              exact hrest.2.2
            exact absurd hnil h.writeBuf_ne_nil
    | cons m' items =>
        obtain ⟨rfl, rfl⟩ : m' = m ∧ items ++ pending.toList = ms := by simpa using hms
        have hbuf : p.readBuf = encode m' ++ rest := by
          have hbytes := h.bytes
          rw [List.cons_append, List.map_cons, List.flatten_cons, ← hrest] at hbytes
          exact List.append_cancel_right (hbytes.trans (List.append_assoc _ _ _).symm)
        refine ⟨m', items, rest, rfl, hdecode, hbuf, ?_, part, ?_, hpending⟩
        · exact fun m hm => h.frames m (List.mem_cons_of_mem m' hm)
        · rw [List.map_append, List.flatten_append, ← hpending.append, ← List.append_assoc,
            ← List.append_assoc] at hrest
          exact List.append_cancel_right hrest

/-- The decoder does not fail. -/
lemma Carries.decode_ne_error (hempty : D.decode [] = (.ok none, []))
    (h : Carries D encode p items pending) (e : ε) : (D.decode p.readBuf).1 ≠ .error e := by
  rcases h.decode_cases hempty with hneed | ⟨m, items', rest, -, hdecode, -, -⟩
  · rw [hneed]
    nofun
  · rw [hdecode]
    nofun

/-- When it asks for more, it has a part of one form at most. -/
lemma Carries.length_readBuf_le (h : Carries D encode p items pending)
    (hneed : D.decode p.readBuf = (.ok none, p.readBuf)) {bound : ℕ}
    (hbound : ∀ m ∈ items ++ pending.toList, (encode m).length ≤ bound) :
    p.readBuf.length ≤ bound := by
  rcases cutShort_of_need h.frames hneed h.bytes with hnil | ⟨m, q, hhead, -, hform⟩
  · rw [hnil]
    exact Nat.zero_le _
  · have hlength := congrArg List.length hform
    rw [List.length_append] at hlength
    have hle := hbound m (List.mem_of_head? hhead)
    omega

/-- When everything on the way has been read, the decoder asks for more only if no item is left. -/
lemma Carries.items_eq_nil (h : Carries D encode p items pending)
    (hneed : D.decode p.readBuf = (.ok none, p.readBuf)) (hwire : p.wire = []) : items = [] := by
  cases items with
  | nil => rfl
  | cons m items =>
      obtain ⟨part, hway, -⟩ := h.parts
      rw [hwire, List.append_nil, List.map_cons, List.flatten_cons, List.append_assoc] at hway
      have hdecode := (h.frames m (by simp)).complete ((items.map encode).flatten ++ part)
      rw [← hway, hneed] at hdecode
      cases hdecode

end FramedPipe
