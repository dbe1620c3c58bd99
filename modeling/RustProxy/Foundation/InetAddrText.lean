import RustProxy.Foundation.InetAddr

/-!
# What is written for an address is read back

* `Ipv4Addr.ofText?_text`, `Ipv6Addr.ofText?_text` and `SocketAddr.ofText?_text`, the last up to the
  flow information, which has no text.  The readers are shown to stop where the next part begins, so
  the lemmas about parts are stated with a rest behind the text.
* `addrChar_text` and `length_text_le`: what the texts are made of, and how long they are at most.
-/

namespace InetAddr

/-! ## Numbers in a row -/

/-- A separator stands before each but the first. -/
lemma readSeparator_append {α : Type} (sep : Char) (index : ℕ) (inner : Reader α) (text : List Char) :
    readSeparator sep index inner ((if 0 < index then [sep] else []) ++ text) = inner text := by
  unfold readSeparator
  split_ifs <;> simp [readGivenChar]

/-- A separator ends the number before it. -/
lemma noDigit_numbersText {sep : Char} {radix : ℕ} (hsep : digit? radix sep = none) (index : ℕ)
    (numbers : List ℕ) {rest : List Char} (hrest : NoDigit radix rest) :
    NoDigit radix (numbersText sep radix (index + 1) numbers ++ rest) := by
  rcases numbers with - | ⟨n, numbers⟩
  · exact hrest
  · simpa [numbersText] using noDigit_cons hsep _

/-! ## IPv4 addresses -/

/-- An address is read back from its octets. -/
@[simp] lemma Ipv4Addr.ofOctets?_octets (a : Ipv4Addr) : Ipv4Addr.ofOctets? a.octets = some a :=
  dif_pos a.length_octets

/-- Octets are read back from their text. -/
lemma readOctets_numbersText (octets : List UInt8) (index : ℕ) {rest : List Char}
    (hrest : NoDigit 10 rest) :
    readOctets octets.length index (numbersText '.' 10 index (octets.map UInt8.toNat) ++ rest) =
      some (octets, rest) := by
  induction octets generalizing index with
  | nil => rfl
  | cons o octets ih =>
      have hlt : o.toNat < 256 := o.toNat_lt
      have hmore : NoDigit 10 (numbersText '.' 10 (index + 1) (octets.map UInt8.toNat) ++ rest) :=
        noDigit_numbersText (by decide) index _ hrest
      have hnumber := readNumber_toDigits (some 3) (by decide) (by decide) hlt
        (by rintro m ⟨⟩; omega) false hmore
      rw [List.length_cons, readOctets, List.map_cons, numbersText, List.append_assoc,
        List.append_assoc, readSeparator_append, hnumber]
      simp [ih]

/-- An IPv4 address is read back wherever no decimal digit follows. -/
theorem readIpv4Addr_text (a : Ipv4Addr) {rest : List Char} (hrest : NoDigit 10 rest) :
    readIpv4Addr (a.text ++ rest) = some (a, rest) := by
  have hread := readOctets_numbersText a.octets 0 hrest
  rw [a.length_octets] at hread
  unfold readIpv4Addr
  rw [Ipv4Addr.text, hread]
  simp

/-- An IPv4 address begins with decimal digits and a dot. -/
lemma readIpv4Addr_eq_some {text rest : List Char} {a : Ipv4Addr}
    (h : readIpv4Addr text = some (a, rest)) :
    ∃ digits more, text = digits ++ '.' :: more ∧ (∀ c ∈ digits, (digit? 10 c).isSome) ∧
      digits ≠ [] := by
  unfold readIpv4Addr at h
  split at h
  · cases h
  · rename_i octets rest' hread
    simp only [readOctets] at hread
    split at hread
    · cases hread
    · rename_i o text' hfirst
      obtain ⟨digits, rfl, hdigits, hne⟩ := readNumber_eq_some hfirst
      refine ⟨digits, ?_⟩
      rcases text' with - | ⟨c, more⟩
      · simp [readSeparator, readGivenChar] at hread
      · by_cases hc : c = '.'
        · exact ⟨more, by rw [hc], hdigits, hne⟩
        · simp [readSeparator, readGivenChar, hc] at hread

/-- Without a digit there is no IPv4 address. -/
lemma readIpv4Addr_of_noDigit {text : List Char} (h : NoDigit 10 text) : readIpv4Addr text = none := by
  rw [Option.eq_none_iff_forall_not_mem]
  rintro ⟨a, rest⟩ hread
  obtain ⟨digits, more, rfl, hdigits, hne⟩ := readIpv4Addr_eq_some hread
  obtain ⟨c, digits, rfl⟩ := List.exists_cons_of_ne_nil hne
  have hnone := h c rfl
  rw [← Option.not_isSome_iff_eq_none] at hnone
  exact hnone (hdigits c List.mem_cons_self)

/-- What may follow a number without being taken for a part of an address. -/
structure NoPart (text : List Char) : Prop where
  noDigit : NoDigit 16 text
  noDot : text.head? ≠ some '.'

/-- A number in hexadecimal is not the beginning of an IPv4 address. -/
lemma readIpv4Addr_toDigits (n : ℕ) {rest : List Char} (hrest : NoPart rest) :
    readIpv4Addr (Nat.toDigits 16 n ++ rest) = none := by
  rw [Option.eq_none_iff_forall_not_mem]
  rintro ⟨a, rest'⟩ hread
  obtain ⟨digits, more, htext, hdigits, -⟩ := readIpv4Addr_eq_some hread
  rcases List.append_eq_append_iff.mp htext with ⟨between, hdec, htail⟩ | ⟨between, hhex, htail⟩
  · -- the dot stands in the rest
    rcases between with - | ⟨c, between⟩
    · exact hrest.noDot (by rw [htail]; rfl)
    · have hdecimal : NoDigit 10 rest := hrest.noDigit.mono (by decide)
      have hnone := hdecimal c (by rw [htail]; rfl)
      rw [← Option.not_isSome_iff_eq_none] at hnone
      exact hnone (hdigits c (by rw [hdec]; simp))
  · -- the dot would be a hexadecimal digit
    rcases between with - | ⟨c, between⟩
    · exact hrest.noDot (by rw [← List.nil_append rest, ← htail]; rfl)
    · obtain ⟨rfl, -⟩ := List.cons_eq_cons.mp htail
      have hmem : '.' ∈ Nat.toDigits 16 n := by
        rw [hhex]
        simp
      have hdigit := digit?_of_mem_toDigits (by decide) (by decide) hmem
      revert hdigit
      decide

/-! ## Segments -/

/-- An address is read back from its segments. -/
@[simp] lemma Ipv6Addr.ofSegments?_segments (a : Ipv6Addr) :
    Ipv6Addr.ofSegments? a.segments = some a := dif_pos a.length_segments

/-- Two octets to a segment. -/
@[simp] lemma length_octetsOf (segments : List UInt16) :
    (octetsOf segments).length = 2 * segments.length := by
  simp [octetsOf, List.length_flatMap, Nat.mul_comm]

/-- Segments are read back from their octets. -/
@[simp] lemma segmentsOf_octetsOf (segments : List UInt16) :
    segmentsOf (octetsOf segments) = segments := by
  induction segments with
  | nil => rfl
  | cons s segments ih =>
      have hpair : BigEndian.ofBE (BigEndian.toBE 2 s.toNat) = s.toNat :=
        BigEndian.ofBE_toBE_of_lt s.toNat_lt
      show UInt16.ofNat (BigEndian.ofBE (BigEndian.toBE 2 s.toNat)) ::
        segmentsOf (octetsOf segments) = _
      rw [hpair, ih, UInt16.ofNat_toNat]

/-- An IPv6 address has sixteen octets. -/
@[simp] lemma Ipv6Addr.length_octets (a : Ipv6Addr) : a.octets.length = 16 := by
  simp [Ipv6Addr.octets, a.length_segments]

/-- An address is read back from its octets. -/
@[simp] lemma Ipv6Addr.ofOctets?_octets (a : Ipv6Addr) : Ipv6Addr.ofOctets? a.octets = some a := by
  unfold Ipv6Addr.ofOctets?
  rw [if_pos a.length_octets, Ipv6Addr.octets, segmentsOf_octetsOf, Ipv6Addr.ofSegments?_segments]

/-- No segment, and no IPv4 address either, can be read at `index`. -/
structure GroupsEnd (index : ℕ) (text : List Char) : Prop where
  noAddr : readSeparator ':' index readIpv4Addr text = none
  noGroup : readSeparator ':' index (readNumber 16 65536 (some 4) true) text = none

/-- Where the groups end, none is read. -/
lemma readGroups_of_end {index : ℕ} {text : List Char} (h : GroupsEnd index text) (room : ℕ) :
    readGroups room index text = ([], false, text) := by
  rcases room with - | room
  · rfl
  · rw [readGroups, h.noAddr, ite_self, h.noGroup]

/-- What is no part of an address ends the groups, if it is no colon. -/
lemma NoPart.groupsEnd {text : List Char} (h : NoPart text) (hcolon : text.head? ≠ some ':')
    (index : ℕ) : GroupsEnd index text := by
  rcases index with - | index
  · exact ⟨readIpv4Addr_of_noDigit (h.noDigit.mono (by decide)), readNumber_of_noDigit h.noDigit true⟩
  · rcases text with - | ⟨c, text⟩
    · exact ⟨rfl, rfl⟩
    · have hc : c ≠ ':' := fun hc => hcolon (by rw [hc]; rfl)
      constructor <;> simp [readSeparator, readGivenChar, hc]

/-- Two colons end the groups. -/
lemma groupsEnd_colons (index : ℕ) (text : List Char) : GroupsEnd index (':' :: ':' :: text) := by
  have hnone : ∀ text, readIpv4Addr (':' :: text) = none ∧
      readNumber 16 65536 (some 4) true (':' :: text) = none := fun text =>
    ⟨readIpv4Addr_of_noDigit (noDigit_cons (by decide) text),
      readNumber_of_noDigit (noDigit_cons (by decide) text) true⟩
  rcases index with - | index
  · exact ⟨(hnone (':' :: text)).1, (hnone (':' :: text)).2⟩
  · constructor <;> simp [readSeparator, readGivenChar, hnone]

/-- A colon begins no group. -/
lemma noPart_colon (text : List Char) : NoPart (':' :: text) :=
  ⟨noDigit_cons (by decide) text, by simp⟩

/-- A separator ends the group before it. -/
lemma noPart_numbersText (index : ℕ) (numbers : List ℕ) {rest : List Char} (hrest : NoPart rest) :
    NoPart (numbersText ':' 16 (index + 1) numbers ++ rest) := by
  rcases numbers with - | ⟨n, numbers⟩
  · exact hrest
  · simpa [numbersText] using noPart_colon _

/-- Segments are read back where there is room for them, up to where no more can be read. -/
theorem readGroups_numbersText (segments : List UInt16) (room index : ℕ)
    (hroom : segments.length ≤ room) {rest : List Char} (hrest : NoPart rest)
    (hend : ∀ index, GroupsEnd index rest) :
    readGroups room index (numbersText ':' 16 index (segments.map UInt16.toNat) ++ rest) =
      (segments, false, rest) := by
  induction segments generalizing room index with
  | nil => exact readGroups_of_end (hend index) room
  | cons s segments ih =>
      obtain ⟨room, rfl⟩ : ∃ r, room = r + 1 := ⟨room - 1, by simp at hroom; omega⟩
      have hlt : s.toNat < 65536 := s.toNat_lt
      have hmore := noPart_numbersText index (segments.map UInt16.toNat) hrest
      have hnumber := readNumber_toDigits (some 4) (by decide) (by decide) hlt
        (by rintro m ⟨⟩; omega) true hmore.noDigit
      rw [readGroups, List.map_cons, numbersText, List.append_assoc, List.append_assoc,
        readSeparator_append, readSeparator_append, readIpv4Addr_toDigits _ hmore, ite_self, hnumber]
      simp only
      rw [ih room (index + 1) (by simpa using hroom)]
      simp

/-! ## The run of zeros that is left out -/

/-- The segments of the span are zeros. -/
def Span.Zeros (span : Span) (segments : List UInt16) : Prop :=
  ∃ front back, segments = front ++ List.replicate span.len 0 ++ back ∧ front.length = span.start

/-- The span is the run of zeros that the segments end with, if they do. -/
def Span.ZerosAtEnd (span : Span) (segments : List UInt16) : Prop :=
  ∃ front, segments = front ++ List.replicate span.len 0 ∧ (span.len ≠ 0 → front.length = span.start)

/-- Zeros stay zeros when more follows. -/
lemma Span.Zeros.append {span : Span} {segments : List UInt16} (h : span.Zeros segments)
    (more : List UInt16) : span.Zeros (segments ++ more) := by
  obtain ⟨front, back, rfl, hfront⟩ := h
  exact ⟨front, back ++ more, by simp, hfront⟩

/-- Zeros at the end are zeros. -/
lemma Span.ZerosAtEnd.zeros {span : Span} {segments : List UInt16} (h : span.ZerosAtEnd segments)
    (hlen : span.len ≠ 0) : span.Zeros segments := by
  obtain ⟨front, rfl, hfront⟩ := h
  exact ⟨front, [], by simp, hfront hlen⟩

/-- One more zero makes the run at the end longer. -/
lemma Span.ZerosAtEnd.zero {span : Span} {segments : List UInt16} (h : span.ZerosAtEnd segments) :
    Span.ZerosAtEnd { start := if span.len = 0 then segments.length else span.start,
                      len := span.len + 1 } (segments ++ [0]) := by
  obtain ⟨front, rfl, hfront⟩ := h
  refine ⟨front, by simp [List.replicate_succ'], fun _ => ?_⟩
  by_cases hlen : span.len = 0
  · simp [hlen]
  · simp [hlen, hfront]

/-- The loop finds zeros; the segments before `rest` have been seen. -/
lemma zeros_longestZeros (rest seen : List UInt16) {longest current : Span}
    (hlongest : longest.Zeros seen) (hcurrent : current.ZerosAtEnd seen) :
    (longestZeros seen.length longest current rest).Zeros (seen ++ rest) := by
  induction rest generalizing seen longest current with
  | nil => simpa [longestZeros] using hlongest
  | cons s rest ih =>
      rw [longestZeros, ← List.singleton_append, ← List.append_assoc]
      have hseen : (seen ++ [s]).length = seen.length + 1 := by simp
      rw [← hseen]
      by_cases hs : s = 0
      · rw [if_pos hs]
        subst hs
        have hnext := hcurrent.zero
        refine ih (seen ++ [0]) ?_ hnext
        by_cases hlonger : longest.len < current.len + 1
        · rw [if_pos hlonger]
          exact hnext.zeros (Nat.succ_ne_zero _)
        · rw [if_neg hlonger]
          exact hlongest.append [0]
      · rw [if_neg hs]
        exact ih (seen ++ [s]) (hlongest.append [s]) ⟨seen ++ [s], by simp, fun h => absurd rfl h⟩

/-- The segments around the run that is left out of the text. -/
lemma segments_eq (segments : List UInt16) :
    let zeroes := longestZeros 0 ⟨0, 0⟩ ⟨0, 0⟩ segments
    segments = segments.take zeroes.start ++ List.replicate zeroes.len 0 ++
      segments.drop (zeroes.start + zeroes.len) := by
  intro zeroes
  have hzeros : zeroes.Zeros segments :=
    zeros_longestZeros segments [] ⟨[], [], rfl, rfl⟩ ⟨[], rfl, fun h => absurd rfl h⟩
  obtain ⟨front, back, hsegments, hfront⟩ := hzeros
  have htake : segments.take zeroes.start = front := by
    rw [hsegments, ← hfront, List.append_assoc, List.take_left]
  have hdrop : segments.drop (zeroes.start + zeroes.len) = back := by
    have hlen : zeroes.start + zeroes.len = (front ++ List.replicate zeroes.len 0).length := by
      simp [hfront]
    rw [hlen, hsegments, List.drop_left]
  rw [htake, hdrop]
  exact hsegments

/-! ## IPv6 addresses -/

/-- The segments of a mapped IPv4 address. -/
lemma Ipv6Addr.toIpv4Mapped?_eq_some {a : Ipv6Addr} {v4 : Ipv4Addr} (h : a.toIpv4Mapped? = some v4) :
    a.segments = [0, 0, 0, 0, 0, 0xffff] ++ segmentsOf v4.octets := by
  unfold Ipv6Addr.toIpv4Mapped? at h
  split at h
  · rename_i high low hsegments
    have hoctets : v4.octets = octetsOf [high, low] := by
      unfold Ipv4Addr.ofOctets? at h
      split_ifs at h
      cases h
      rfl
    rw [hsegments, hoctets, segmentsOf_octetsOf]
    rfl
  · cases h

/-- An IPv4 address inside an IPv6 address is read after the segments before it. -/
lemma readGroups_mapped (v4 : Ipv4Addr) {rest : List Char} (hrest : NoDigit 10 rest) :
    readGroups 7 0 ("ffff:".toList ++ v4.text ++ rest) =
      (0xffff :: segmentsOf v4.octets, true, rest) := by
  have hmore : NoPart (':' :: (v4.text ++ rest)) := noPart_colon _
  have hffff : "ffff:".toList ++ v4.text ++ rest =
      Nat.toDigits 16 65535 ++ ':' :: (v4.text ++ rest) := by
    have hdigits : Nat.toDigits 16 65535 = "ffff".toList := by decide
    rw [hdigits, List.append_assoc]
    rfl
  have hlt : 65535 < 65536 := by decide
  have hnumber := readNumber_toDigits (some 4) (by decide) (by decide) hlt (by rintro m ⟨⟩; omega) true
    hmore.noDigit
  have hinner : readGroups 6 1 (':' :: (v4.text ++ rest)) = (segmentsOf v4.octets, true, rest) := by
    rw [readGroups]
    simp [readSeparator, readGivenChar, readIpv4Addr_text v4 hrest]
  rw [hffff, readGroups]
  simp only [readSeparator, readIpv4Addr_toDigits _ hmore, hnumber, hinner, ite_self, lt_irrefl,
    if_false]
  rfl

/-- `::` and what is read behind it, when fewer than eight segments stand before. -/
lemma readIpv6Addr_of_head {a : Ipv6Addr} {text tailText rest : List Char} {head tail : List UInt16}
    {v4 : Bool} (hhead : readGroups 8 0 text = (head, false, "::".toList ++ tailText))
    (hlen : head.length < 8)
    (htail : readGroups (8 - (head.length + 1)) 0 tailText = (tail, v4, rest))
    (hsegments : head ++ List.replicate (8 - tail.length - head.length) 0 ++ tail = a.segments) :
    readIpv6Addr text = some (a, rest) := by
  have hfirst : readGivenChar ':' ("::".toList ++ tailText) = some ((), ':' :: tailText) := rfl
  have hsecond : readGivenChar ':' (':' :: tailText) = some ((), tailText) := rfl
  unfold readIpv6Addr
  simp only [hhead, hlen.ne, if_false, Bool.false_eq_true, hfirst, hsecond, htail, hsegments,
    Ipv6Addr.ofSegments?_segments, Option.bind_eq_bind, Option.bind_some, Option.map_some]

/-- An IPv6 address is read back wherever nothing follows that could be a part of it. -/
theorem readIpv6Addr_text (a : Ipv6Addr) {rest : List Char} (hrest : NoPart rest)
    (hcolon : rest.head? ≠ some ':') : readIpv6Addr (a.text ++ rest) = some (a, rest) := by
  have hend : ∀ index, GroupsEnd index rest := hrest.groupsEnd hcolon
  unfold Ipv6Addr.text
  split
  · rename_i v4 hmapped
    have hsegments := Ipv6Addr.toIpv4Mapped?_eq_some hmapped
    refine readIpv6Addr_of_head (readGroups_of_end (groupsEnd_colons 0 _) 8) (by decide)
      (readGroups_mapped v4 (hrest.noDigit.mono (by decide))) ?_
    have hlen := a.length_segments
    rw [hsegments] at hlen ⊢
    simp at hlen
    simp [hlen]
  · have hsegments := segments_eq a.segments
    simp only at hsegments ⊢
    generalize longestZeros 0 ⟨0, 0⟩ ⟨0, 0⟩ a.segments = zeroes at hsegments ⊢
    split_ifs with hlong
    · -- the zeros are left out
      generalize a.segments.take zeroes.start = head at hsegments ⊢
      generalize a.segments.drop (zeroes.start + zeroes.len) = tail at hsegments ⊢
      have hlen : head.length + zeroes.len + tail.length = 8 := by
        rw [← a.length_segments, hsegments]
        simp [Nat.add_assoc]
      have hhead : head.length < 8 := by omega
      have htail : tail.length ≤ 8 - (head.length + 1) := by omega
      refine readIpv6Addr_of_head ?_ hhead (readGroups_numbersText tail _ 0 htail hrest hend) ?_
      · have hread := readGroups_numbersText head 8 0 hhead.le
          (noPart_colon (':' :: (groupsText tail ++ rest))) (fun index => groupsEnd_colons index _)
        simpa [groupsText] using hread
      · have hzeroes : 8 - tail.length - head.length = zeroes.len := by omega
        rw [hzeroes, ← hsegments]
    · -- all eight segments are written
      have hread := readGroups_numbersText a.segments 8 0 a.length_segments.le hrest hend
      unfold readIpv6Addr groupsText
      rw [hread]
      simp [a.length_segments]

/-! ## Addresses with a port -/

/-- A character that is neither a hexadecimal digit nor a dot ends the parts. -/
lemma noPart_of_head? {text : List Char} {c : Char} (hc : digit? 16 c = none) (hdot : c ≠ '.') :
    NoPart (c :: text) := ⟨noDigit_cons hc text, by simpa using hdot⟩

/-- A port is read back. -/
lemma readPort_text (port : UInt16) :
    readPort (':' :: Nat.toDigits 10 port.toNat) = some (port.toNat, []) := by
  have hend : NoDigit 10 [] := noDigit_nil
  have hnumber := readNumber_toDigits none (by decide) (by decide) port.toNat_lt (by simp) true hend
  rw [List.append_nil] at hnumber
  simpa [readPort, readGivenChar] using hnumber

/-- The flow information of an address is not written. -/
def SocketAddr.withoutFlowinfo : SocketAddr → SocketAddr
  | .v4 ip port => .v4 ip port
  | .v6 ip port _ scopeId => .v6 ip port 0 scopeId

/-- An IPv4 address with a port is read back. -/
lemma readSocketAddrV4_text (ip : Ipv4Addr) (port : UInt16) :
    readSocketAddrV4 (SocketAddr.v4 ip port).text = some (.v4 ip port, []) := by
  have hport : NoDigit 10 (':' :: Nat.toDigits 10 port.toNat) := noDigit_cons (by decide) _
  have hip := readIpv4Addr_text ip hport
  simp [SocketAddr.text, readSocketAddrV4, hip, readPort_text]

/-- An IPv6 address with a port is read back, except for its flow label. -/
lemma readSocketAddrV6_text (ip : Ipv6Addr) (port : UInt16) (flowinfo scopeId : UInt32) :
    readSocketAddrV6 (SocketAddr.v6 ip port flowinfo scopeId).text =
      some (.v6 ip port 0 scopeId, []) := by
  have hclose : NoPart (']' :: ':' :: Nat.toDigits 10 port.toNat) :=
    noPart_of_head? (by decide) (by decide)
  by_cases hscope : scopeId = 0
  · subst hscope
    have hip := readIpv6Addr_text ip hclose (by simp)
    have hnone : readScopeId (']' :: ':' :: Nat.toDigits 10 port.toNat) = none := rfl
    simp [SocketAddr.text, readSocketAddrV6, readGivenChar, hip, hnone, readPort_text]
  · have hpercent : NoPart ('%' :: (Nat.toDigits 10 scopeId.toNat ++
        ']' :: ':' :: Nat.toDigits 10 port.toNat)) := noPart_of_head? (by decide) (by decide)
    have hip := readIpv6Addr_text ip hpercent (by simp)
    have hend : NoDigit 10 (']' :: ':' :: Nat.toDigits 10 port.toNat) :=
      hclose.noDigit.mono (by decide)
    have hnumber := readNumber_toDigits none (by decide) (by decide) scopeId.toNat_lt (by simp) true
      hend
    have hread : readScopeId ('%' :: (Nat.toDigits 10 scopeId.toNat ++
        ']' :: ':' :: Nat.toDigits 10 port.toNat)) =
        some (scopeId.toNat, ']' :: ':' :: Nat.toDigits 10 port.toNat) := by
      simpa [readScopeId, readGivenChar] using hnumber
    simp [SocketAddr.text, readSocketAddrV6, readGivenChar, hscope, hip, hread, readPort_text]

/-- A bracket begins no IPv4 address. -/
lemma readSocketAddrV4_of_bracket (text : List Char) : readSocketAddrV4 ('[' :: text) = none := by
  unfold readSocketAddrV4
  rw [readIpv4Addr_of_noDigit (noDigit_cons (by decide) text)]
  rfl

/-- An address with a port is read back from its text. -/
theorem SocketAddr.ofText?_text (a : SocketAddr) :
    SocketAddr.ofText? a.text = some a.withoutFlowinfo := by
  unfold SocketAddr.ofText? parseWith
  cases a with
  | v4 ip port => simp [readSocketAddrV4_text, SocketAddr.withoutFlowinfo]
  | v6 ip port flowinfo scopeId =>
      have hbracket : readSocketAddrV4 (SocketAddr.v6 ip port flowinfo scopeId).text = none :=
        readSocketAddrV4_of_bracket _
      simp [hbracket, readSocketAddrV6_text, SocketAddr.withoutFlowinfo]

/-- An IPv6 address is read back from its text. -/
theorem Ipv6Addr.ofText?_text (a : Ipv6Addr) : Ipv6Addr.ofText? a.text = some a := by
  have hend : NoPart [] := ⟨noDigit_nil, by simp⟩
  have hread := readIpv6Addr_text a hend (by simp)
  rw [List.append_nil] at hread
  unfold Ipv6Addr.ofText? parseWith
  rw [hread]

/-! ## The characters of a text -/

/-- What the text of an address without a port is made of. -/
def AddrChar (c : Char) : Prop := (digit? 16 c).isSome ∨ c = ':' ∨ c = '.'

instance : DecidablePred AddrChar := fun _ => inferInstanceAs (Decidable (_ ∨ _))

/-- The order of characters is that of their numbers. -/
lemma toNat_lt_of_le {c d : Char} (h : c ≤ d) : c.toNat ≤ d.toNat :=
  UInt32.le_iff_toNat_le.mp h

/-- The characters of addresses are ASCII. -/
lemma AddrChar.toNat_lt {c : Char} (h : AddrChar c) : c.toNat < 128 := by
  rcases h with h | rfl | rfl
  · unfold digit? at h
    split_ifs at h with hdigit hlower hupper
    · exact Nat.lt_of_le_of_lt (toNat_lt_of_le hdigit.2) (by decide)
    · exact Nat.lt_of_le_of_lt (toNat_lt_of_le hlower.2) (by decide)
    · exact Nat.lt_of_le_of_lt (toNat_lt_of_le hupper.2) (by decide)
    · simp at h
  · decide
  · decide

/-- Digits are characters of addresses. -/
lemma addrChar_of_mem_toDigits {radix n : ℕ} (h1 : 1 < radix) (h16 : radix ≤ 16) {c : Char}
    (hc : c ∈ Nat.toDigits radix n) : AddrChar c := by
  refine Or.inl ?_
  by_contra hnone
  have hno : NoDigit 16 [c] := noDigit_cons (by simpa using hnone) []
  have hsome := digit?_of_mem_toDigits h1 h16 hc
  rw [hno.mono h16 c rfl] at hsome
  cases hsome

/-- Numbers and separators are characters of addresses. -/
lemma addrChar_numbersText {sep : Char} {radix : ℕ} (hsep : AddrChar sep) (h1 : 1 < radix)
    (h16 : radix ≤ 16) (index : ℕ) (numbers : List ℕ) :
    ∀ c ∈ numbersText sep radix index numbers, AddrChar c := by
  induction numbers generalizing index with
  | nil => simp [numbersText]
  | cons n numbers ih =>
      intro c hc
      rw [numbersText, List.mem_append, List.mem_append] at hc
      rcases hc with (hc | hc) | hc
      · split_ifs at hc <;> simp_all
      · exact addrChar_of_mem_toDigits h1 h16 hc
      · exact ih (index + 1) c hc

/-- An IPv4 address is written in such characters. -/
lemma Ipv4Addr.addrChar_text (a : Ipv4Addr) : ∀ c ∈ a.text, AddrChar c :=
  addrChar_numbersText (by decide) (by decide) (by decide) 0 _

/-- Groups are written in such characters. -/
lemma addrChar_groupsText (segments : List UInt16) : ∀ c ∈ groupsText segments, AddrChar c :=
  addrChar_numbersText (by decide) (by decide) (by decide) 0 _

/-- An IPv6 address is written in such characters. -/
lemma Ipv6Addr.addrChar_text (a : Ipv6Addr) : ∀ c ∈ a.text, AddrChar c := by
  unfold Ipv6Addr.text
  intro c hc
  split at hc
  · rename_i v4 hmapped
    rw [List.mem_append] at hc
    rcases hc with hc | hc
    · have hcases : c = ':' ∨ c = 'f' ∨ c = ':' := by simpa using hc
      rcases hcases with rfl | rfl | rfl <;> decide
    · exact v4.addrChar_text c hc
  · simp only at hc
    split_ifs at hc
    · rw [List.mem_append, List.mem_append] at hc
      rcases hc with (hc | hc) | hc
      · exact addrChar_groupsText _ c hc
      · obtain rfl : c = ':' := by simpa using hc
        decide
      · exact addrChar_groupsText _ c hc
    · exact addrChar_groupsText _ c hc

/-! ## The length of a text -/

/-- Numbers of at most `width` digits, and the separators between them. -/
lemma length_numbersText_le (sep : Char) {radix : ℕ} (width : ℕ) (h1 : 1 < radix) (hwidth : 0 < width)
    {numbers : List ℕ} (hnumbers : ∀ n ∈ numbers, n < radix ^ width) :
    (∀ index, (numbersText sep radix (index + 1) numbers).length ≤ (width + 1) * numbers.length) ∧
      (numbersText sep radix 0 numbers).length ≤ (width + 1) * numbers.length - 1 := by
  induction numbers with
  | nil => simp [numbersText]
  | cons n numbers ih =>
      rw [List.forall_mem_cons] at hnumbers
      have hdigits := (Nat.length_toDigits_le_iff h1 hwidth).mpr hnumbers.1
      have hmore := (ih hnumbers.2).1
      have hlen : (width + 1) * (n :: numbers).length = (width + 1) * numbers.length + width + 1 := by
        rw [List.length_cons, Nat.mul_succ, Nat.add_assoc]
      constructor
      · intro index
        have := hmore (index + 1)
        rw [hlen]
        simp only [numbersText, List.length_append, Nat.zero_lt_succ, if_true, List.length_singleton]
        omega
      · have := hmore 0
        rw [hlen]
        simp only [numbersText, List.length_append, lt_irrefl, if_false, List.length_nil]
        omega

/-- The longest IPv4 address has fifteen characters. -/
lemma Ipv4Addr.length_text_le (a : Ipv4Addr) : a.text.length ≤ 15 := by
  have hbound : ∀ n ∈ a.octets.map UInt8.toNat, n < 10 ^ 3 := by
    rw [List.forall_mem_map]
    exact fun o _ => Nat.lt_of_lt_of_le o.toNat_lt (by decide)
  have hlen := (length_numbersText_le '.' 3 (by decide) (by decide) hbound).2
  rwa [List.length_map, a.length_octets] at hlen

/-- Groups of at most four digits, and the colons between them. -/
lemma length_groupsText_le (segments : List UInt16) :
    (groupsText segments).length ≤ 5 * segments.length - 1 := by
  have hbound : ∀ n ∈ segments.map UInt16.toNat, n < 16 ^ 4 := by
    rw [List.forall_mem_map]
    exact fun s _ => s.toNat_lt
  have hlen := (length_numbersText_le ':' 4 (by decide) (by decide) hbound).2
  rwa [List.length_map] at hlen

/-- The longest IPv6 address has thirty-nine characters. -/
lemma Ipv6Addr.length_text_le (a : Ipv6Addr) : a.text.length ≤ 39 := by
  unfold Ipv6Addr.text
  split
  · rename_i v4 hmapped
    have hlen := v4.length_text_le
    rw [List.length_append]
    exact Nat.le_trans (Nat.add_le_add_left hlen _) (by decide)
  · have hsegments := congrArg List.length (segments_eq a.segments)
    simp only at hsegments ⊢
    split_ifs with hlong
    · have hhead := length_groupsText_le (a.segments.take
        (longestZeros 0 ⟨0, 0⟩ ⟨0, 0⟩ a.segments).start)
      have htail := length_groupsText_le (a.segments.drop
        ((longestZeros 0 ⟨0, 0⟩ ⟨0, 0⟩ a.segments).start +
          (longestZeros 0 ⟨0, 0⟩ ⟨0, 0⟩ a.segments).len))
      rw [a.length_segments, List.length_append, List.length_append, List.length_replicate]
        at hsegments
      have hcolons : "::".toList.length = 2 := rfl
      rw [List.length_append, List.length_append, hcolons]
      omega
    · have hlen := length_groupsText_le a.segments
      rwa [a.length_segments] at hlen

/-- An IPv4 address is read back from its text. -/
theorem Ipv4Addr.ofText?_text (a : Ipv4Addr) : Ipv4Addr.ofText? a.text = some a := by
  have hread := readIpv4Addr_text a noDigit_nil
  rw [List.append_nil] at hread
  unfold Ipv4Addr.ofText? parseWith
  rw [if_neg (Nat.not_lt_of_le a.length_text_le), hread]

end InetAddr
