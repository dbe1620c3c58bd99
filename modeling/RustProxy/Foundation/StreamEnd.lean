import RustProxy.Foundation.StreamDecoder

/-!
# Incremental decoders at the end of the input

When its input has ended, a reader goes on to call the decoder on what is left of the buffer.  It ends
cleanly if the decoder leaves nothing, and with an error of its own if bytes are left over.

`receive_prefix` is about an input that was cut off anywhere: the items whose forms arrived as a whole
come out, and the ending tells whether the cut was between two forms.
-/

namespace StreamDecoder

variable {β μ ε : Type*}

/-- How a stream of items ends: with the input, with an error of the decoder, or with bytes left
over. -/
inductive Ending (ε : Type*) where
  | clean
  | failed (e : ε)
  | leftOver
  deriving DecidableEq, Repr

/-- The ending after the last call on a buffer. -/
def ending (error : Option ε) (rest : List β) : Ending ε :=
  match error, rest with
  | some e, _ => .failed e
  | none, [] => .clean
  | none, _ :: _ => .leftOver

variable (D : StreamDecoder β μ ε)

/-- The items of an input that arrives in chunks and then ends. -/
def receive (chunks : List (List β)) : List μ × Ending ε :=
  match D.feed [] chunks with
  | (ms, some e, _) => (ms, .failed e)
  | (ms, none, rest) => (ms ++ (D.drain rest).1, ending (D.drain rest).2.1 (D.drain rest).2.2)

variable {D}

/-- An error ends the decoding. -/
lemma drain_of_error {buf rest : List β} {e : ε} (h : D.decode buf = (.error e, rest)) :
    D.drain buf = ([], some e, rest) := by
  unfold drain
  split
  · rename_i m' rest' h'
    rw [h] at h'
    cases h'
  · rename_i rest' h'
    rw [h] at h'
    cases h'
  · rename_i e' rest' h'
    rw [h] at h'
    cases h'
    rfl

/-- A form is not empty, since an item is not returned for free. -/
lemma Frames.ne_nil {encode : μ → List β} {m : μ} (h : D.Frames encode m) : encode m ≠ [] := by
  have hdec := h.complete []
  have hlt := D.shrinks _ _ _ hdec
  intro hnil
  rw [hnil] at hlt
  exact lt_irrefl _ hlt

/-- A part of the input that ends inside a form, or before the first one. -/
def CutShort (encode : μ → List β) (ms : List μ) (left : List β) : Prop :=
  left = [] ∨ ∃ m q, ms.head? = some m ∧ q ≠ [] ∧ left ++ q = encode m

/-- What the decoder asks for more on, before forms that follow, is cut short. -/
lemma cutShort_of_need {encode : μ → List β} {ms : List μ} (hms : ∀ m ∈ ms, D.Frames encode m)
    {left tail : List β} (hneed : D.decode left = (.ok none, left))
    (hleft : left ++ tail = (ms.map encode).flatten) : CutShort encode ms left := by
  cases ms with
  | nil => exact Or.inl (List.append_eq_nil_iff.mp (by simpa using hleft)).1
  | cons m ms =>
      rw [List.map_cons, List.flatten_cons] at hleft
      rcases List.append_eq_append_iff.mp hleft with ⟨q, hq, -⟩ | ⟨rest, hrest, -⟩
      · refine Or.inr ⟨m, q, rfl, ?_, hq.symm⟩
        rintro rfl
        have hdec := (hms m List.mem_cons_self).complete []
        rw [hq, List.append_nil, List.append_nil, hneed] at hdec
        cases hdec
      · -- the whole form is there, and the decoder would not have asked
        have hdec := (hms m List.mem_cons_self).complete rest
        rw [← hrest, hneed] at hdec
        cases hdec

/-- Feeding a part of a concatenation of frames. -/
lemma feed_prefix {encode : μ → List β} (hempty : D.decode [] = (.ok none, []))
    (chunks : List (List β)) (ms : List μ) (hms : ∀ m ∈ ms, D.Frames encode m) (buf tail : List β)
    (hneed : D.decode buf = (.ok none, buf))
    (hbuf : buf ++ chunks.flatten ++ tail = (ms.map encode).flatten) :
    ∃ ms₁ ms₂ left, ms = ms₁ ++ ms₂ ∧ D.feed buf chunks = (ms₁, none, left) ∧
      D.decode left = (.ok none, left) ∧ left ++ tail = (ms₂.map encode).flatten := by
  induction chunks generalizing ms buf with
  | nil =>
      rw [List.flatten_nil, List.append_nil] at hbuf
      exact ⟨[], ms, buf, rfl, rfl, hneed, hbuf⟩
  | cons c cs ih =>
      rw [List.flatten_cons, ← List.append_assoc, List.append_assoc (buf ++ c)] at hbuf
      obtain ⟨ms₁, ms₂, mid, hsplit, hdrain, hmidNeed, hmid⟩ :=
        drain_prefix hempty ms hms (buf ++ c) (cs.flatten ++ tail) hbuf
      have hms₂ : ∀ m ∈ ms₂, D.Frames encode m := fun m hm =>
        hms m (hsplit ▸ List.mem_append_right ms₁ hm)
      rw [← List.append_assoc] at hmid
      obtain ⟨ms₃, ms₄, left, hsplit', hfeed, hneed', hleft⟩ := ih ms₂ hms₂ mid hmidNeed hmid
      refine ⟨ms₁ ++ ms₃, ms₄, left, ?_, ?_, hneed', hleft⟩
      · rw [hsplit, hsplit', List.append_assoc]
      · rw [feed, hdrain]
        simp only [hfeed]

/-- **An input that is cut off.**  Of a concatenation of frames, any part that arrives, in any chunks,
gives the items whose frames are in it as a whole; the ending is clean exactly when nothing follows
them. -/
theorem receive_prefix {encode : μ → List β} (hempty : D.decode [] = (.ok none, [])) (ms : List μ)
    (hms : ∀ m ∈ ms, D.Frames encode m) (chunks : List (List β))
    (hcut : chunks.flatten <+: (ms.map encode).flatten) :
    ∃ ms₁ ms₂ left, ms = ms₁ ++ ms₂ ∧ chunks.flatten = (ms₁.map encode).flatten ++ left ∧
      CutShort encode ms₂ left ∧ D.receive chunks = (ms₁, ending none left) := by
  obtain ⟨tail, htail⟩ := hcut
  obtain ⟨ms₁, ms₂, left, hsplit, hfeed, hneed, hleft⟩ :=
    feed_prefix hempty chunks ms hms [] tail hempty (by simpa using htail)
  have hms₂ : ∀ m ∈ ms₂, D.Frames encode m := fun m hm =>
    hms m (hsplit ▸ List.mem_append_right ms₁ hm)
  refine ⟨ms₁, ms₂, left, hsplit, ?_, cutShort_of_need hms₂ hneed hleft, ?_⟩
  · rw [hsplit, List.map_append, List.flatten_append, ← hleft, ← List.append_assoc] at htail
    exact List.append_cancel_right htail
  · rw [receive, hfeed]
    simp only [drain_of_need hneed, List.append_nil]

end StreamDecoder
