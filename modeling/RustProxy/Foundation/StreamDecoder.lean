import Mathlib.Data.List.Basic
import Mathlib.Data.List.Infix
import Mathlib.Algebra.Order.Ring.Nat

/-!
# Incremental decoders over a receive buffer

A `StreamDecoder` is called on a receive buffer and answers "an item, and here is what is left of
the buffer", "more input is needed", or an error.  `drain` calls it until it stops answering with
items, and `feed` appends the chunks of an input one after another and drains after each.

`Frames D encode` says that `encode m` is a self-delimiting form of `m`: a buffer that starts with
it decodes to `m` and the rest, and a proper prefix of it is answered with "more input" and left
alone.  `feed_frames` is the round trip: however a concatenation of such forms is cut into
chunks, feeding the chunks yields the items in order and leaves an empty buffer.
-/

/-- A decoder over a buffer of `β`s: the answer and what is left of the buffer.  An item is never
returned for free. -/
structure StreamDecoder (β μ ε : Type*) where
  /-- One call of the decoder. -/
  decode : List β → Except ε (Option μ) × List β
  /-- An answer with an item shortens the buffer. -/
  shrinks : ∀ buf m rest, decode buf = (.ok (some m), rest) → rest.length < buf.length

namespace StreamDecoder

variable {β μ ε : Type*} (D : StreamDecoder β μ ε)

/-- Call the decoder until it asks for more input or fails: the items, the error if there was one,
and the buffer that is left. -/
def drain (buf : List β) : List μ × Option ε × List β :=
  match h : D.decode buf with
  | (.ok (some m), rest) =>
      have : rest.length < buf.length := D.shrinks buf m rest h
      let out := drain rest
      (m :: out.1, out.2)
  | (.ok none, rest) => ([], none, rest)
  | (.error e, rest) => ([], some e, rest)
termination_by buf.length

/-- Append the chunks to the buffer one after another and drain it after each; stop at an error. -/
def feed : List β → List (List β) → List μ × Option ε × List β
  | buf, [] => ([], none, buf)
  | buf, c :: cs =>
      match D.drain (buf ++ c) with
      | (ms, some e, rest) => (ms, some e, rest)
      | (ms, none, rest) =>
          let out := feed rest cs
          (ms ++ out.1, out.2)

variable {D}

/-- An item that is decoded comes first. -/
lemma drain_of_item {buf rest : List β} {m : μ} (h : D.decode buf = (.ok (some m), rest)) :
    D.drain buf = (m :: (D.drain rest).1, (D.drain rest).2) := by
  rw [drain]
  split
  · rename_i m' rest' h'
    rw [h] at h'
    cases h'
    rfl
  · rename_i rest' h'
    rw [h] at h'
    cases h'
  · rename_i e rest' h'
    rw [h] at h'
    cases h'

/-- Without an item, decoding waits for more. -/
lemma drain_of_need {buf rest : List β} (h : D.decode buf = (.ok none, rest)) :
    D.drain buf = ([], none, rest) := by
  unfold drain
  split
  · rename_i m' rest' h'
    rw [h] at h'
    cases h'
  · rename_i rest' h'
    rw [h] at h'
    cases h'
    rfl
  · rename_i e rest' h'
    rw [h] at h'
    cases h'

/-! ## Self-delimiting forms -/

variable (D) in
/-- `encode m` is a self-delimiting form of `m` for the decoder. -/
structure Frames (encode : μ → List β) (m : μ) : Prop where
  /-- A buffer that starts with the form decodes to the item and the rest. -/
  complete : ∀ rest, D.decode (encode m ++ rest) = (.ok (some m), rest)
  /-- A proper prefix of the form is answered with "more input" and kept. -/
  incomplete : ∀ p q, q ≠ [] → p ++ q = encode m → D.decode p = (.ok none, p)

/-- Decoding a prefix of a concatenation of frames takes off the first frame, if it is there as a
whole, and asks for more input otherwise. -/
lemma decode_prefix {encode : μ → List β} (hempty : D.decode [] = (.ok none, [])) {ms : List μ}
    (hms : ∀ m ∈ ms, D.Frames encode m) {buf tail : List β}
    (hbuf : buf ++ tail = (ms.map encode).flatten) :
    D.decode buf = (.ok none, buf) ∨ ∃ m ms' rest, ms = m :: ms' ∧
      D.decode buf = (.ok (some m), rest) ∧ rest ++ tail = (ms'.map encode).flatten := by
  cases ms with
  | nil =>
      obtain ⟨rfl, rfl⟩ := List.append_eq_nil_iff.mp (by simpa using hbuf)
      exact Or.inl hempty
  | cons m ms =>
      have hm : D.Frames encode m := hms m List.mem_cons_self
      rw [List.map_cons, List.flatten_cons] at hbuf
      rcases List.append_eq_append_iff.mp hbuf with ⟨q, hq, htail⟩ | ⟨rest, hrest, htail⟩
      · by_cases hnil : q = []
        · -- the buffer is exactly the first frame
          subst hnil
          rw [List.append_nil] at hq
          refine Or.inr ⟨m, ms, [], rfl, ?_, htail⟩
          simpa [hq] using hm.complete []
        · exact Or.inl (hm.incomplete buf q hnil hq.symm)
      · exact Or.inr ⟨m, ms, rest, rfl, hrest ▸ hm.complete rest, htail.symm⟩

/-- Draining any prefix of a concatenation of frames: the whole frames in it come out, and the
decoder asks for more input on what is left. -/
lemma drain_prefix {encode : μ → List β} (hempty : D.decode [] = (.ok none, [])) (ms : List μ)
    (hms : ∀ m ∈ ms, D.Frames encode m) (buf tail : List β)
    (hbuf : buf ++ tail = (ms.map encode).flatten) :
    ∃ ms₁ ms₂ left, ms = ms₁ ++ ms₂ ∧ D.drain buf = (ms₁, none, left) ∧
      D.decode left = (.ok none, left) ∧ left ++ tail = (ms₂.map encode).flatten := by
  induction ms generalizing buf with
  | nil =>
      obtain ⟨rfl, rfl⟩ := List.append_eq_nil_iff.mp (by simpa using hbuf)
      exact ⟨[], [], [], rfl, drain_of_need hempty, hempty, rfl⟩
  | cons m ms ih =>
      rcases decode_prefix hempty hms hbuf with hneed | ⟨m', ms', rest, hms', hdec, hrest⟩
      · exact ⟨[], m :: ms, buf, rfl, drain_of_need hneed, hneed, hbuf⟩
      · cases hms'
        obtain ⟨ms₁, ms₂, left, hsplit, hdrain, hneed, hleft⟩ :=
          ih (fun m' hm' => hms m' (List.mem_cons_of_mem _ hm')) rest hrest
        refine ⟨m :: ms₁, ms₂, left, by rw [hsplit, List.cons_append], ?_, hneed, hleft⟩
        rw [drain_of_item hdec, hdrain]

/-- Feeding the rest of a concatenation of frames, from a buffer the decoder asks for more on. -/
lemma feed_of_need {encode : μ → List β} (hempty : D.decode [] = (.ok none, []))
    (chunks : List (List β)) (ms : List μ) (hms : ∀ m ∈ ms, D.Frames encode m) (buf : List β)
    (hneed : D.decode buf = (.ok none, buf))
    (hbuf : buf ++ chunks.flatten = (ms.map encode).flatten) :
    D.feed buf chunks = (ms, none, []) := by
  induction chunks generalizing ms buf with
  | nil =>
      rw [List.flatten_nil, List.append_nil] at hbuf
      cases ms with
      | nil =>
          have hnil : buf = [] := by simpa using hbuf
          rw [hnil, feed]
      | cons m ms =>
          -- no more input is asked for on a buffer that holds a whole frame
          have hdec := (hms m List.mem_cons_self).complete (ms.map encode).flatten
          rw [List.map_cons, List.flatten_cons] at hbuf
          rw [← hbuf, hneed] at hdec
          cases hdec
  | cons c cs ih =>
      rw [List.flatten_cons, ← List.append_assoc] at hbuf
      obtain ⟨ms₁, ms₂, left, hsplit, hdrain, hleftNeed, hleft⟩ :=
        drain_prefix hempty ms hms (buf ++ c) cs.flatten hbuf
      have hms₂ : ∀ m ∈ ms₂, D.Frames encode m := fun m hm =>
        hms m (hsplit ▸ List.mem_append_right ms₁ hm)
      have hrest := ih ms₂ hms₂ left hleftNeed hleft
      rw [feed, hdrain]
      simp only [hrest, hsplit]

/-- **Chunk independence.**  However the concatenation of the frames of `ms` is cut into chunks,
feeding the chunks to an empty buffer yields exactly `ms`, no error, and an empty buffer. -/
theorem feed_frames {encode : μ → List β} (hempty : D.decode [] = (.ok none, [])) (ms : List μ)
    (hms : ∀ m ∈ ms, D.Frames encode m) (chunks : List (List β))
    (hcut : chunks.flatten = (ms.map encode).flatten) :
    D.feed [] chunks = (ms, none, []) :=
  feed_of_need hempty chunks ms hms [] hempty hcut

end StreamDecoder
