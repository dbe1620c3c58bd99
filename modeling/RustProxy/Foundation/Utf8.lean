import Mathlib.Data.List.Basic
import Mathlib.Tactic.Common

/-!
# UTF-8 byte strings

`encode text` are the UTF-8 bytes of a text, `decode` reads them back.  Text and bytes are lists, so
that they can be cut anywhere:

* `exists_of_encode_append`: when the bytes of one text begin with those of another, the texts do.
* `exists_of_encode_cons`: a byte below 128 is a character of its own wherever it stands, so a text
  can be cut there; `decode_append_cons` and `decode_append_of_ascii` are what this says of `decode`.
-/

namespace Utf8

/-- The UTF-8 bytes of a text. -/
def encode (text : List Char) : List UInt8 := text.flatMap String.utf8EncodeChar

/-- The text that a byte string is the UTF-8 of, if there is one. -/
def decode (bytes : List UInt8) : Option (List Char) :=
  (String.fromUTF8? ⟨bytes.toArray⟩).map String.toList

/-- The bytes are UTF-8. -/
def Valid (bytes : List UInt8) : Prop := (decode bytes).isSome

instance (bytes : List UInt8) : Decidable (Valid bytes) := inferInstanceAs (Decidable (_ = true))

/-- The bytes below 128, one character each. -/
def ascii (bytes : List UInt8) : List Char := bytes.map Char.ofUInt8

/-- Nothing is encoded as nothing. -/
@[simp] lemma encode_nil : encode [] = [] := rfl

/-- Texts one after the other. -/
@[simp] lemma encode_append (text rest : List Char) :
    encode (text ++ rest) = encode text ++ encode rest := List.flatMap_append

/-- One character and the rest. -/
lemma encode_cons (c : Char) (rest : List Char) :
    encode (c :: rest) = String.utf8EncodeChar c ++ encode rest := rfl

/-- The encoding of the library. -/
lemma toByteArray_encode (text : List Char) : text.utf8Encode = ⟨(encode text).toArray⟩ := by
  apply ByteArray.ext
  simp [List.utf8Encode, encode, List.data_toByteArray]

/-- The encoding of a string. -/
lemma encode_toList (s : String) : encode s.toList = s.toUTF8.data.toList := by
  have h := toByteArray_encode s.toList
  rw [String.utf8Encode_toList] at h
  exact (congrArg (fun b : ByteArray => b.data.toList) h).symm

/-- A condition on every element of a given list, as a computation. -/
lemma forall_mem_of_all {α : Type*} {l : List α} {P : α → Prop} [DecidablePred P]
    (h : (l.all fun a => P a) = true) : ∀ a ∈ l, P a := by
  simpa using h

/-! ## Decoding -/

/-- A text is decoded from its encoding. -/
@[simp] lemma decode_encode (text : List Char) : decode (encode text) = some text := by
  unfold decode String.fromUTF8?
  rw [← toByteArray_encode, dif_pos ByteArray.isValidUTF8_utf8Encode]
  have hstring : String.fromUTF8 text.utf8Encode ByteArray.isValidUTF8_utf8Encode =
      String.ofList text := by
    apply String.toByteArray_inj.mp
    rw [String.toByteArray_ofList]
    rfl
  simp [hstring]

/-- What is decoded is what was encoded. -/
lemma decode_eq_some_iff {bytes : List UInt8} {text : List Char} :
    decode bytes = some text ↔ encode text = bytes := by
  refine ⟨fun h => ?_, fun h => h ▸ decode_encode text⟩
  obtain ⟨s, hs, rfl⟩ := Option.map_eq_some_iff.mp h
  unfold String.fromUTF8? at hs
  split at hs
  case isTrue hvalid =>
      cases hs
      rw [encode_toList]
      rfl
  case isFalse => cases hs

/-- Valid bytes are the encoding of a text. -/
lemma valid_iff {bytes : List UInt8} : Valid bytes ↔ ∃ text, encode text = bytes := by
  simp [Valid, Option.isSome_iff_exists, decode_eq_some_iff]

/-- An encoding is valid. -/
lemma valid_encode (text : List Char) : Valid (encode text) := valid_iff.mpr ⟨text, rfl⟩

/-- Different texts have different encodings. -/
lemma encode_injective {text rest : List Char} (h : encode text = encode rest) : text = rest := by
  have hdecode := congrArg decode h
  simpa using hdecode

/-! ## Prefixes -/

/-- Bytes that begin with those of a text are those of a text that begins with it. -/
theorem exists_of_encode_append {text whole : List Char} {bytes : List UInt8}
    (h : encode text ++ bytes = encode whole) : ∃ rest, whole = text ++ rest ∧ encode rest = bytes := by
  have hbytes : text.utf8Encode ++ ⟨bytes.toArray⟩ = whole.utf8Encode := by
    rw [toByteArray_encode, toByteArray_encode, ← h]
    apply ByteArray.ext
    simp
  obtain ⟨rest, rfl⟩ := List.isPrefix_of_utf8Encode_append_eq_utf8Encode _ hbytes
  refine ⟨rest, rfl, ?_⟩
  rw [encode_append] at h
  exact (List.append_cancel_left h).symm

/-- What follows a text decodes on its own. -/
theorem decode_encode_append (text : List Char) (bytes : List UInt8) :
    decode (encode text ++ bytes) = (decode bytes).map (text ++ ·) := by
  cases h : decode bytes with
  | some rest =>
      rw [decode_eq_some_iff] at h
      rw [← h, ← encode_append, decode_encode]
      rfl
  | none =>
      rw [Option.map_none, Option.eq_none_iff_forall_not_mem]
      intro whole hwhole
      obtain ⟨rest, -, hrest⟩ := exists_of_encode_append (decode_eq_some_iff.mp hwhole).symm
      rw [← hrest, decode_encode] at h
      cases h

/-- Decoding can be cut where a text ends. -/
lemma decode_append_of_decode {pre : List UInt8} {text : List Char} (h : decode pre = some text)
    (bytes : List UInt8) : decode (pre ++ bytes) = (decode bytes).map (text ++ ·) := by
  rw [← decode_eq_some_iff.mp h]
  exact decode_encode_append text bytes

/-! ## Bytes below 128 -/

/-- A small byte is its own encoding. -/
lemma utf8EncodeChar_ofUInt8 {b : UInt8} (h : b < 128) :
    String.utf8EncodeChar (Char.ofUInt8 b) = [b] := by
  have hle : ¬ 127 < b.toNat := Nat.not_lt_of_le (Nat.le_pred_of_lt h)
  have hval : (Char.ofUInt8 b).val = b.toUInt32 := rfl
  simp [String.utf8EncodeChar, hval, hle]

/-- ASCII bytes are their own encoding. -/
lemma encode_ascii {bytes : List UInt8} (h : ∀ b ∈ bytes, b < 128) : encode (ascii bytes) = bytes := by
  induction bytes with
  | nil => rfl
  | cons b bytes ih =>
      rw [List.forall_mem_cons] at h
      change String.utf8EncodeChar (Char.ofUInt8 b) ++ encode (ascii bytes) = _
      rw [utf8EncodeChar_ofUInt8 h.1, ih h.2]
      rfl

/-- ASCII bytes are decoded byte by byte. -/
lemma decode_of_ascii {bytes : List UInt8} (h : ∀ b ∈ bytes, b < 128) :
    decode bytes = some (ascii bytes) := decode_eq_some_iff.mpr (encode_ascii h)

/-- A small character is one byte. -/
lemma utf8EncodeChar_of_lt {c : Char} (h : c.toNat < 128) :
    String.utf8EncodeChar c = [UInt8.ofNat c.toNat] := by
  have hle : ¬ 127 < c.toNat := by omega
  simp [String.utf8EncodeChar, hle]

/-- A text of characters below 128 has as many bytes, -/
lemma length_encode {text : List Char} (h : ∀ c ∈ text, c.toNat < 128) :
    (encode text).length = text.length := by
  induction text with
  | nil => rfl
  | cons c text ih =>
      rw [List.forall_mem_cons] at h
      rw [encode_cons, utf8EncodeChar_of_lt h.1, List.length_append, ih h.2, List.length_singleton,
        List.length_cons, Nat.add_comm]

/-- and is those bytes as characters. -/
lemma ascii_encode {text : List Char} (h : ∀ c ∈ text, c.toNat < 128) : ascii (encode text) = text := by
  induction text with
  | nil => rfl
  | cons c text ih =>
      rw [List.forall_mem_cons] at h
      have hchar : Char.ofUInt8 (UInt8.ofNat c.toNat) = c := by
        apply Char.ext
        apply UInt32.toNat_inj.mp
        show (UInt8.ofNat c.toNat).toUInt32.toNat = c.toNat
        rw [UInt8.toNat_toUInt32, UInt8.toNat_ofNat', Nat.mod_eq_of_lt (by omega)]
      rw [encode_cons, utf8EncodeChar_of_lt h.1]
      show Char.ofUInt8 (UInt8.ofNat c.toNat) :: ascii (encode text) = c :: text
      rw [hchar, ih h.2]

/-- Setting bits makes a number no smaller. -/
lemma le_or_right (b c : UInt8) : c ≤ b ||| c := by
  rw [UInt8.le_iff_toNat_le, UInt8.toNat_or]
  exact Nat.right_le_or

/-- A character is one byte below 128, or bytes that are all at least 128. -/
lemma utf8EncodeChar_cases (c : Char) :
    (∃ b < 128, c = Char.ofUInt8 b) ∨ ∀ b ∈ String.utf8EncodeChar c, 128 ≤ b := by
  have hbig : ∀ b : UInt8, 128 ≤ b ||| 0xc0 ∧ 128 ≤ b ||| 0xe0 ∧ 128 ≤ b ||| 0xf0 := fun b =>
    ⟨UInt8.le_trans (by decide) (le_or_right b 0xc0), UInt8.le_trans (by decide) (le_or_right b 0xe0),
      UInt8.le_trans (by decide) (le_or_right b 0xf0)⟩
  match h : c.utf8Size, c.utf8Size_pos, c.utf8Size_le_four with
  | 1, _, _ =>
      have hval : c.val.toNat ≤ 127 := UInt32.le_iff_toNat_le.mp (Char.utf8Size_eq_one_iff.mp h)
      have hmod : c.val.toNat % 256 = c.val.toNat := Nat.mod_eq_of_lt (by omega)
      refine Or.inl ⟨c.val.toUInt8, ?_, ?_⟩
      · rw [UInt8.lt_iff_toNat_lt, UInt32.toNat_toUInt8, hmod]
        exact Nat.lt_succ_of_le hval
      · apply Char.ext
        apply UInt32.toNat_inj.mp
        show c.val.toNat = c.val.toUInt8.toUInt32.toNat
        rw [UInt8.toNat_toUInt32, UInt32.toNat_toUInt8, hmod]
  | 2, _, _ =>
      refine Or.inr ?_
      rw [String.utf8EncodeChar_eq_cons_cons h]
      simp [hbig, le_or_right]
  | 3, _, _ =>
      refine Or.inr ?_
      rw [String.utf8EncodeChar_eq_cons_cons_cons h]
      simp [hbig, le_or_right]
  | 4, _, _ =>
      refine Or.inr ?_
      rw [String.utf8EncodeChar_eq_cons_cons_cons_cons h]
      simp [hbig, le_or_right]

/-- A text can be cut at a byte below 128. -/
theorem exists_of_encode_cons {text : List Char} {pre rest : List UInt8} {b : UInt8} (hb : b < 128)
    (h : encode text = pre ++ b :: rest) :
    ∃ before after, text = before ++ Char.ofUInt8 b :: after ∧ encode before = pre ∧
      encode after = rest := by
  induction text generalizing pre with
  | nil => simp at h
  | cons c text ih =>
      rw [encode_cons] at h
      rcases List.append_eq_append_iff.mp h with ⟨more, hpre, hrest⟩ | ⟨more, hc, hrest⟩
      · -- the cut is behind the first character
        obtain ⟨before, after, rfl, hbefore, hafter⟩ := ih hrest
        exact ⟨c :: before, after, rfl, by rw [encode_cons, hbefore, hpre], hafter⟩
      · cases more with
        | nil =>
            obtain ⟨before, after, rfl, hbefore, hafter⟩ := @ih [] hrest.symm
            exact ⟨c :: before, after, rfl, by simp [encode_cons, hbefore, hc], hafter⟩
        | cons b' more =>
            obtain ⟨rfl, hmore⟩ := List.cons_eq_cons.mp hrest
            rcases utf8EncodeChar_cases c with ⟨b', hb', rfl⟩ | hbig
            · rw [utf8EncodeChar_ofUInt8 hb'] at hc
              obtain ⟨rfl, hsingle⟩ : pre = [] ∧ [b'] = b :: more := by
                cases pre with
                | nil => exact ⟨rfl, hc⟩
                | cons _ _ => simp at hc
              obtain ⟨rfl, rfl⟩ := List.cons_eq_cons.mp hsingle
              exact ⟨[], text, rfl, rfl, hmore.symm⟩
            · exact absurd (hbig b (by rw [hc]; simp)) (UInt8.not_le.mpr hb)

/-- A byte string with a byte below 128 decodes when the two sides of the byte do. -/
theorem decode_append_cons {pre rest : List UInt8} {b : UInt8} (hb : b < 128) :
    decode (pre ++ b :: rest) =
      (decode pre).bind fun before => (decode rest).map fun after =>
        before ++ Char.ofUInt8 b :: after := by
  cases hpre : decode pre with
  | some before =>
      have hrest : decode (b :: rest) = (decode rest).map (Char.ofUInt8 b :: ·) := by
        have hcons := decode_encode_append [Char.ofUInt8 b] rest
        rwa [encode_cons, utf8EncodeChar_ofUInt8 hb] at hcons
      rw [decode_append_of_decode hpre, hrest, Option.map_map]
      rfl
  | none =>
      rw [Option.bind_none, Option.eq_none_iff_forall_not_mem]
      intro whole hwhole
      obtain ⟨before, after, -, hbefore, -⟩ :=
        exists_of_encode_cons hb (decode_eq_some_iff.mp hwhole)
      rw [← hbefore, decode_encode] at hpre
      cases hpre

/-- Validity can be cut at a small byte. -/
lemma valid_append_cons {pre rest : List UInt8} {b : UInt8} (hb : b < 128) :
    Valid (pre ++ b :: rest) ↔ Valid pre ∧ Valid rest := by
  unfold Valid
  rw [decode_append_cons hb]
  cases decode pre <;> simp

/-- ASCII bytes are valid. -/
lemma valid_of_ascii {bytes : List UInt8} (h : ∀ b ∈ bytes, b < 128) : Valid bytes := by
  rw [Valid, decode_of_ascii h]
  rfl

/-- A text in front changes nothing. -/
lemma valid_encode_append {text : List Char} {bytes : List UInt8} :
    Valid (encode text ++ bytes) ↔ Valid bytes := by
  unfold Valid
  rw [decode_encode_append, Option.isSome_map]

/-- A small byte in an encoding is a character of the text. -/
lemma mem_encode_iff {text : List Char} {b : UInt8} (hb : b < 128) :
    b ∈ encode text ↔ Char.ofUInt8 b ∈ text := by
  constructor
  · intro h
    obtain ⟨pre, rest, hsplit⟩ := List.append_of_mem h
    obtain ⟨before, after, rfl, -, -⟩ := exists_of_encode_cons hb hsplit
    simp
  · intro h
    obtain ⟨before, after, rfl⟩ := List.append_of_mem h
    simp [encode_cons, utf8EncodeChar_ofUInt8 hb]

/-- A prefix of an encoding, at the end of a character, encodes a prefix. -/
lemma encode_prefix_iff {text whole : List Char} : encode text <+: encode whole ↔ text <+: whole := by
  constructor
  · rintro ⟨bytes, h⟩
    obtain ⟨rest, rfl, -⟩ := exists_of_encode_append h
    exact List.prefix_append text rest
  · rintro ⟨rest, rfl⟩
    exact ⟨encode rest, (encode_append text rest).symm⟩

end Utf8
