import Mathlib.Algebra.Order.Ring.Nat
import RustProxy.Foundation.CheckedAccess
import RustProxy.Server.HostNames

/-!
# The SNI parser stays inside its input

`extract_sni_from_client_hello` once more, statement by statement, with every index, slice and
addition checked (`CheckedAccess`): the indices and slices against the input, the additions against
`limit`.

* `extractSni_safe`: with room for `2 ^ 17` more than the length of the input nothing aborts, and the
  outcome is that of `HostNames.extractSniFromClientHello`; the loop over the extensions moves on in
  every round and stays near the input.
* `sniContained_iff`: the length fields of a hello nest, and the name comes from inside the
  extension it is read for only where they do.
-/

namespace RustProxy.Server.SniBounds

open CheckedAccess HostNames

/-! ## The parser with its checks -/

section parser

variable (limit : ℕ) (data : List UInt8)

/-- `u16::from_be_bytes([data[base + k], data[base + k + 1]])`. -/
def readU16 (base k : ℕ) : Except Abort ℕ := do
  let i ← add limit base k
  let high ← index data i
  let j ← add limit base (k + 1)
  let low ← index data j
  return high.toNat * 256 + low.toNat

/-- The branch of the loop for the extension of type 0. -/
def readServerName (offset : ℕ) : Except Abort (Option String) := do
  let sniListOffset ← add limit offset 4
  let nameLenOffset ← add limit sniListOffset 3
  if nameLenOffset > data.length then return none
  let _sniListLen ← readU16 limit data sniListOffset 0
  let nameTypeOffset ← add limit sniListOffset 2
  let nameType ← index data nameTypeOffset
  if nameType ≠ 0x00 then return none
  let nameLenEnd ← add limit nameLenOffset 2
  if nameLenEnd > data.length then return none
  let nameLen ← readU16 limit data nameLenOffset 0
  let nameStart ← add limit nameLenOffset 2
  let nameEnd ← add limit nameStart nameLen
  if nameEnd > data.length then return none
  let name ← slice data nameStart nameEnd
  return fromUtf8 name

/-- One round of the loop: its condition and its body. -/
def scanRound (extensionsEnd offset : ℕ) : Except Abort (Flow ℕ (Option String)) := do
  let bodyOffset ← add limit offset 4
  if bodyOffset ≤ min extensionsEnd data.length then
    let extType ← readU16 limit data offset 0
    let extLen ← readU16 limit data offset 2
    if extType = 0x0000 then
      let name ← readServerName limit data offset
      return .done name
    let width ← add limit 4 extLen
    let next ← add limit offset width
    return .next next
  else return .done none

/-- At most `fuel` rounds of the loop; `none` when they do not finish it.  Source:
`proxy_listener.rs`, `extract_sni_from_client_hello`. -/
def extractSniFromClientHello (fuel : ℕ) : Except Abort (Option (Option String)) := do
  if data.length < 44 then return some none
  let contentType ← index data 0
  if contentType ≠ 0x16 then return some none
  let handshakeType ← index data 5
  if handshakeType ≠ 0x01 then return some none
  match data[43]? with
  | none => return some none
  | some sessionIdLen =>
      let cipherSuitesOffset ← add limit 44 sessionIdLen.toNat
      let cipherSuitesStart ← add limit cipherSuitesOffset 2
      if cipherSuitesStart > data.length then return some none
      let cipherSuitesLen ← readU16 limit data cipherSuitesOffset 0
      let cipherSuitesStart' ← add limit cipherSuitesOffset 2
      let compressionOffset ← add limit cipherSuitesStart' cipherSuitesLen
      let compressionEnd ← add limit compressionOffset 2
      if compressionEnd > data.length then return some none
      let compressionLen ← index data compressionOffset
      let compressionStart ← add limit compressionOffset 1
      let extensionsOffset ← add limit compressionStart compressionLen.toNat
      let extensionsStart ← add limit extensionsOffset 2
      if extensionsStart > data.length then return some none
      let extensionsTotalLen ← readU16 limit data extensionsOffset 0
      let offset ← add limit extensionsOffset 2
      let extensionsEnd ← add limit offset extensionsTotalLen
      loop (scanRound limit data extensionsEnd) fuel offset

end parser

/-! ## Each part does what the unchecked one does -/

/-- The first of two checks succeeds. -/
lemma ok_bind {ε α β : Type} (a : α) (f : α → Except ε β) : (Except.ok a >>= f) = f a := rfl

/-- A number in two bytes is small. -/
lemma u16At_lt (data : List UInt8) (i : ℕ) : u16At data i < 2 ^ 16 := by
  unfold u16At
  have hhigh := (data.getD i 0).toNat_lt
  have hlow := (data.getD (i + 1) 0).toNat_lt
  omega

section spec

variable {limit : ℕ} {data : List UInt8} (hlimit : data.length + 2 ^ 17 ≤ limit)
include hlimit

/-- A number within the data is read. -/
lemma readU16_eq_ok {base k : ℕ} (h : base + (k + 1) < data.length) :
    readU16 limit data base k = .ok (u16At data (base + k)) := by
  unfold readU16
  rw [add_eq_ok (by omega), ok_bind, index_eq_ok (by omega) 0, ok_bind, add_eq_ok (by omega), ok_bind,
    index_eq_ok h 0, ok_bind]
  rfl

/-- A number within the data is read at its base. -/
lemma readU16_zero_eq_ok {base : ℕ} (h : base + 1 < data.length) :
    readU16 limit data base 0 = .ok (u16At data base) := readU16_eq_ok hlimit h

/-- A name that lies within the data is read. -/
lemma readServerName_eq_ok {offset : ℕ} (h : offset + 4 ≤ data.length) :
    readServerName limit data offset = .ok (serverName data offset) := by
  unfold readServerName serverName
  rw [add_eq_ok (by omega), ok_bind, add_eq_ok (by omega), ok_bind]
  by_cases hlist : offset + 4 + 3 > data.length
  · rw [if_pos hlist, if_pos hlist]
    rfl
  rw [if_neg hlist, if_neg hlist, readU16_zero_eq_ok hlimit (by omega), ok_bind,
    add_eq_ok (by omega), ok_bind, index_eq_ok (by omega) 0, ok_bind]
  by_cases htype : data.getD (offset + 4 + 2) 0 ≠ 0x00
  · rw [if_pos htype, if_pos htype]
    rfl
  rw [if_neg htype, if_neg htype, add_eq_ok (by omega), ok_bind]
  by_cases hlen : offset + 4 + 3 + 2 > data.length
  · rw [if_pos hlen, if_pos hlen]
    rfl
  have hname := u16At_lt data (offset + 4 + 3)
  rw [if_neg hlen, if_neg hlen, readU16_zero_eq_ok hlimit (by omega), ok_bind, ok_bind,
    add_eq_ok (by omega), ok_bind]
  by_cases hend : offset + 4 + 3 + 2 + u16At data (offset + 4 + 3) > data.length
  · rw [if_pos hend, if_pos hend]
    rfl
  rw [if_neg hend, if_neg hend, slice_eq_ok (by omega) (by omega), ok_bind, Nat.add_sub_cancel_left]
  rfl

/-- A round reads its extension, or finds that there is none; the next round is at the end of the
extension. -/
lemma scanRound_eq_ok {extensionsEnd offset : ℕ} (h : offset ≤ data.length + 2 ^ 16 + 3) :
    scanRound limit data extensionsEnd offset =
      .ok (if offset + 4 ≤ min extensionsEnd data.length then
          if u16At data offset = 0x0000 then .done (serverName data offset)
          else .next (offset + (4 + u16At data (offset + 2)))
        else .done none) := by
  unfold scanRound
  rw [add_eq_ok (by omega), ok_bind]
  by_cases hroom : offset + 4 ≤ min extensionsEnd data.length
  · have hlen := u16At_lt data (offset + 2)
    rw [if_pos hroom, if_pos hroom, readU16_zero_eq_ok hlimit (by omega), ok_bind,
      readU16_eq_ok hlimit (by omega), ok_bind]
    by_cases htype : u16At data offset = 0x0000
    · rw [if_pos htype, if_pos htype, readServerName_eq_ok hlimit (by omega)]
      rfl
    · rw [if_neg htype, if_neg htype, add_eq_ok (by omega), ok_bind, add_eq_ok (by omega)]
      rfl
  · rw [if_neg hroom, if_neg hroom]
    rfl

/-- The loop finishes with what the search for the server name gives. -/
lemma loop_scanRound {extensionsEnd offset fuel : ℕ} (h : offset ≤ data.length)
    (hfuel : data.length < fuel) :
    loop (scanRound limit data extensionsEnd) fuel offset =
      .ok (some (findServerName data extensionsEnd offset)) := by
  refine loop_eq_ok (fun offset => offset ≤ data.length + 2 ^ 16 + 3)
    (fun offset => data.length - offset) (findServerName data extensionsEnd) ?_ (by omega) (by omega)
  intro offset hinv
  rw [scanRound_eq_ok hlimit hinv, findServerName]
  split_ifs with hroom htype
  · exact Or.inl rfl
  · have hlen := u16At_lt data (offset + 2)
    exact Or.inr ⟨offset + (4 + u16At data (offset + 2)), rfl, by omega, by omega, rfl⟩
  · exact Or.inl rfl

/-- The checks of the whole parser all pass. -/
lemma extractSni_eq_ok {fuel : ℕ} (hfuel : data.length < fuel) :
    extractSniFromClientHello limit data fuel =
      .ok (some (HostNames.extractSniFromClientHello data)) := by
  unfold extractSniFromClientHello HostNames.extractSniFromClientHello
  by_cases hshort : data.length < 44
  · rw [if_pos hshort, if_pos hshort]
    rfl
  rw [if_neg hshort, if_neg hshort, index_eq_ok (by omega) 0, ok_bind]
  by_cases hcontent : data.getD 0 0 ≠ 0x16
  · rw [if_pos hcontent, if_pos hcontent]
    rfl
  rw [if_neg hcontent, if_neg hcontent, index_eq_ok (by omega) 0, ok_bind]
  by_cases hhandshake : data.getD 5 0 ≠ 0x01
  · rw [if_pos hhandshake, if_pos hhandshake]
    rfl
  rw [if_neg hhandshake, if_neg hhandshake]
  have hsession := (data.getD 43 0).toNat_lt
  have hget : data[43]? = some (data.getD 43 0) := by
    rw [List.getD_eq_getElem?_getD, List.getElem?_eq_getElem (by omega)]
    rfl
  rw [hget]
  simp only
  generalize (data.getD 43 0).toNat = sessionIdLen at *
  rw [add_eq_ok (by omega), ok_bind, add_eq_ok (by omega), ok_bind]
  by_cases hcipher : 44 + sessionIdLen + 2 > data.length
  · rw [if_pos hcipher, if_pos hcipher]
    rfl
  have hcipherLen := u16At_lt data (44 + sessionIdLen)
  rw [if_neg hcipher, if_neg hcipher, readU16_zero_eq_ok hlimit (by omega), ok_bind,
    ok_bind]
  generalize u16At data (44 + sessionIdLen) = cipherSuitesLen at *
  rw [add_eq_ok (by omega), ok_bind, add_eq_ok (by omega), ok_bind]
  by_cases hcompression : 44 + sessionIdLen + 2 + cipherSuitesLen + 2 > data.length
  · rw [if_pos hcompression, if_pos hcompression]
    rfl
  have hcompressionLen := (data.getD (44 + sessionIdLen + 2 + cipherSuitesLen) 0).toNat_lt
  rw [if_neg hcompression, if_neg hcompression, index_eq_ok (by omega) 0, ok_bind,
    add_eq_ok (by omega), ok_bind]
  generalize (data.getD (44 + sessionIdLen + 2 + cipherSuitesLen) 0).toNat = compressionLen at *
  have hstart : 44 + sessionIdLen + 2 + cipherSuitesLen + 1 ≤ data.length := by omega
  generalize 44 + sessionIdLen + 2 + cipherSuitesLen + 1 = compressionStart at *
  rw [add_eq_ok (by omega), ok_bind, add_eq_ok (by omega), ok_bind]
  by_cases hextensions : compressionStart + compressionLen + 2 > data.length
  · rw [if_pos hextensions, if_pos hextensions]
    rfl
  have htotal := u16At_lt data (compressionStart + compressionLen)
  rw [if_neg hextensions, if_neg hextensions,
    readU16_zero_eq_ok hlimit (by omega), ok_bind, ok_bind,
    add_eq_ok (by omega), ok_bind]
  exact loop_scanRound hlimit (by omega) hfuel

/-- A round that goes on moves the offset forward, and not further than the largest extension body
behind the input. -/
lemma scanRound_next {extensionsEnd offset next : ℕ}
    (h : scanRound limit data extensionsEnd offset = .ok (.next next)) :
    offset < next ∧ next < data.length + 2 ^ 16 := by
  by_cases hnear : offset ≤ data.length + 2 ^ 16 + 3
  · rw [scanRound_eq_ok hlimit hnear] at h
    split_ifs at h with hroom htype
    all_goals cases h
    have hlen := u16At_lt data (offset + 2)
    omega
  · -- so far behind the input the condition of the loop is false, or its sum is over the limit
    have hroom : ¬ offset + 4 ≤ min extensionsEnd data.length := by omega
    unfold scanRound add at h
    split_ifs at h
    · rw [ok_bind, if_neg hroom] at h
      cases h
    · cases h

end spec

/-- **The parser never aborts.**  On every input the parser with its checks finishes, in fewer rounds
than the input has bytes plus one, with the outcome of the parser without them: every index and
slice is inside the input, and every sum is at most the length of the input plus `2 ^ 17`.  A round
of the loop that goes on makes the offset larger, up to the input's length plus `2 ^ 16`. -/
theorem extractSni_safe (data : List UInt8) (limit : ℕ) (hlimit : data.length + 2 ^ 17 ≤ limit) :
    (∀ fuel, data.length < fuel → extractSniFromClientHello limit data fuel =
      .ok (some (HostNames.extractSniFromClientHello data))) ∧
      ∀ extensionsEnd offset next,
        scanRound limit data extensionsEnd offset = .ok (.next next) →
          offset < next ∧ next < data.length + 2 ^ 16 :=
  ⟨fun _ hfuel => extractSni_eq_ok hlimit hfuel, fun _ _ _ h => scanRound_next hlimit h⟩

/-- A whole handshake, with room for sums up to 200000. -/
theorem extractSni_safe_sample :
    extractSniFromClientHello 200000 clientHello 100 =
      .ok (some (HostNames.extractSniFromClientHello clientHello)) :=
  (extractSni_safe clientHello 200000 (by decide)).1 100 (by decide)

/-! ## Where the reported name lies -/

/-- The extensions block that the header's length fields delimit: where it begins, and where its total
length ends it. -/
def extensionsSpan (data : List UInt8) : Option (ℕ × ℕ) :=
  if data.length < 44 then none
  else if data.getD 0 0 ≠ 0x16 then none
  else if data.getD 5 0 ≠ 0x01 then none
  else
    let cipherSuitesOffset := 44 + (data.getD 43 0).toNat
    if cipherSuitesOffset + 2 > data.length then none
    else
      let compressionOffset := cipherSuitesOffset + 2 + u16At data cipherSuitesOffset
      if compressionOffset + 2 > data.length then none
      else
        let extensionsOffset := compressionOffset + 1 + (data.getD compressionOffset 0).toNat
        if extensionsOffset + 2 > data.length then none
        else some (extensionsOffset + 2, extensionsOffset + 2 + u16At data extensionsOffset)

/-- The first extension of type 0 in the block, each extension taken to end where its own length says
that it does. -/
def serverNameOffset (data : List UInt8) (extensionsEnd offset : ℕ) : Option ℕ :=
  if offset + 4 ≤ min extensionsEnd data.length then
    if u16At data offset = 0x0000 then some offset
    else serverNameOffset data extensionsEnd (offset + (4 + u16At data (offset + 2)))
  else none
termination_by data.length - offset
decreasing_by omega

section fields

variable (data : List UInt8) (ext : ℕ)

/-- The length of the extension at `ext`, as it says itself. -/
def extLen : ℕ := u16At data (ext + 2)

/-- The length of the list in it, as the list says. -/
def sniListLen : ℕ := u16At data (ext + 4)

/-- The length of the first name in the list, as the name says. -/
def nameLen : ℕ := u16At data (ext + 7)

/-- The bytes of that name. -/
def nameBytes : List UInt8 := (data.drop (ext + 9)).take (nameLen data ext)

/-- The name is a host name, ends in the input and is text. -/
def NameReadable : Prop :=
  data.getD (ext + 6) 0 = 0x00 ∧ ext + 9 + nameLen data ext ≤ data.length ∧
    (fromUtf8 (nameBytes data ext)).isSome

end fields

/-- The name is that of the first extension that is a server name. -/
lemma findServerName_eq_bind (data : List UInt8) (extensionsEnd offset : ℕ) :
    findServerName data extensionsEnd offset =
      (serverNameOffset data extensionsEnd offset).bind (serverName data) := by
  induction offset using findServerName.induct data extensionsEnd with
  | case1 offset hroom htype =>
      rw [findServerName, serverNameOffset, if_pos hroom, if_pos htype, if_pos hroom, if_pos htype]
      rfl
  | case2 offset hroom htype ih =>
      rw [findServerName, serverNameOffset, if_pos hroom, if_neg htype, if_pos hroom, if_neg htype, ih]
  | case3 offset hroom =>
      rw [findServerName, serverNameOffset, if_neg hroom, if_neg hroom]
      rfl

/-- The parser is the search for the block, the search for the extension in it, and the reading of
the name. -/
lemma extractSni_eq_bind (data : List UInt8) :
    HostNames.extractSniFromClientHello data =
      (extensionsSpan data).bind fun span =>
        (serverNameOffset data span.2 span.1).bind (serverName data) := by
  unfold HostNames.extractSniFromClientHello extensionsSpan
  simp only [findServerName_eq_bind]
  split_ifs <;> rfl

/-- A name is read if its lengths fit and its bytes are UTF-8. -/
lemma serverName_eq_some_iff {data : List UInt8} {ext : ℕ} {name : String} :
    serverName data ext = some name ↔
      NameReadable data ext ∧ fromUtf8 (nameBytes data ext) = some name := by
  have hroom : ∀ n, ext + 9 + n ≤ data.length →
      ¬ ext + 4 + 3 > data.length ∧ ¬ ext + 4 + 3 + 2 > data.length := by omega
  unfold serverName NameReadable
  constructor
  · intro h
    simp only at h
    split_ifs at h with hlist htype hlen hend
    have hname : fromUtf8 (nameBytes data ext) = some name := h
    exact ⟨⟨not_not.mp htype, not_lt.mp hend, by rw [hname]; rfl⟩, hname⟩
  · rintro ⟨⟨htype, hend, -⟩, hname⟩
    obtain ⟨hlist, hlen⟩ := hroom _ hend
    have hstop : ¬ ext + 4 + 3 + 2 + u16At data (ext + 4 + 3) > data.length := not_lt.mpr hend
    simp only
    rw [if_neg hlist, if_neg (not_not.mpr htype), if_neg hlen, if_neg hstop]
    exact hname

/-- The bytes of a reported name lie in the body of the extension of type 0, that body lies in the
extensions block, and the name fits in its list, each as delimited by its own length field. -/
def SniContained (data : List UInt8) : Prop :=
  ∀ name, HostNames.extractSniFromClientHello data = some name →
    ∃ start stop ext, extensionsSpan data = some (start, stop) ∧
      serverNameOffset data stop start = some ext ∧ fromUtf8 (nameBytes data ext) = some name ∧
      ext + 9 + nameLen data ext ≤ ext + 4 + extLen data ext ∧
      ext + 4 + extLen data ext ≤ stop ∧
      ext + 9 + nameLen data ext ≤ ext + 6 + sniListLen data ext

/-- The length fields of the first extension of type 0 nest, if its name can be read at all. -/
def LengthsNest (data : List UInt8) : Prop :=
  ∀ start stop ext, extensionsSpan data = some (start, stop) →
    serverNameOffset data stop start = some ext → NameReadable data ext →
      nameLen data ext + 3 ≤ sniListLen data ext ∧ nameLen data ext + 5 ≤ extLen data ext ∧
        ext + 4 + extLen data ext ≤ stop

/-- Which names are found, and where. -/
lemma extractSni_eq_some_iff {data : List UInt8} {name : String} :
    HostNames.extractSniFromClientHello data = some name ↔
      ∃ start stop ext, extensionsSpan data = some (start, stop) ∧
        serverNameOffset data stop start = some ext ∧ NameReadable data ext ∧
        fromUtf8 (nameBytes data ext) = some name := by
  rw [extractSni_eq_bind]
  constructor
  · intro h
    obtain ⟨⟨start, stop⟩, hspan, hext⟩ := Option.bind_eq_some_iff.mp h
    obtain ⟨ext, hoffset, hname⟩ := Option.bind_eq_some_iff.mp hext
    exact ⟨start, stop, ext, hspan, hoffset, serverName_eq_some_iff.mp hname⟩
  · rintro ⟨start, stop, ext, hspan, hoffset, hname⟩
    apply Option.bind_eq_some_iff.mpr
    refine ⟨(start, stop), hspan, ?_⟩
    apply Option.bind_eq_some_iff.mpr
    exact ⟨ext, hoffset, serverName_eq_some_iff.mpr hname⟩

/-- The parser compares the end of the name with the end of the input and with nothing else, so a
reported name is contained exactly when the length fields around it nest. -/
theorem sniContained_iff (data : List UInt8) : SniContained data ↔ LengthsNest data := by
  unfold SniContained LengthsNest
  constructor
  · intro h start stop ext hspan hoffset hreadable
    obtain ⟨name, hname⟩ := Option.isSome_iff_exists.mp hreadable.2.2
    obtain ⟨start', stop', ext', hspan', hoffset', -, hbody, hblock, hlist⟩ :=
      h name (extractSni_eq_some_iff.mpr ⟨start, stop, ext, hspan, hoffset, hreadable, hname⟩)
    cases hspan.symm.trans hspan'
    cases hoffset.symm.trans hoffset'
    omega
  · intro h name hsome
    obtain ⟨start, stop, ext, hspan, hoffset, hreadable, hname⟩ := extractSni_eq_some_iff.mp hsome
    have hnest := h start stop ext hspan hoffset hreadable
    exact ⟨start, stop, ext, hspan, hoffset, hname, by omega, by omega, by omega⟩

/-- A ClientHello whose server_name extension says that it has 5 bytes, and its list 3, but whose name
says that it has 9; the bytes of the name lie behind the extensions block. -/
def overlongHello : List UInt8 :=
  [0x16, 3, 1, 0, 67, 0x01, 0, 0, 63, 3, 3] ++ List.replicate 32 0x07 ++ [0, 0, 2, 0x13, 0x01, 1, 0] ++
    [0, 9, 0, 0, 0, 5, 0, 3, 0, 0, 9] ++ "b.example".toUTF8.data.toList

/-- The parser reports the nine bytes behind the block. -/
theorem sniContained_overlong : ¬ SniContained overlongHello := by
  have hname : HostNames.extractSniFromClientHello overlongHello = some "b.example" := by
    decide +kernel
  have hspan : extensionsSpan overlongHello = some (52, 61) := by decide +kernel
  have hoffset : serverNameOffset overlongHello 61 52 = some 52 := by decide +kernel
  intro h
  obtain ⟨start, stop, ext, hspan', hoffset', -, hbody, -, -⟩ := h _ hname
  cases hspan.symm.trans hspan'
  cases hoffset.symm.trans hoffset'
  exact absurd hbody (by decide +kernel)

end RustProxy.Server.SniBounds
