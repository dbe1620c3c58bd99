import RustProxy.Foundation.InetAddrText
import RustProxy.Foundation.Utf8

/-!
# The PROXY protocol as its receiver reads it

A connection that comes through a proxy begins with a header that tells whose it is.  `parseV1` and
`parseV2` read the two versions of it and return what is told and the bytes behind the header.

* Version 1 is a line of at most 107 bytes, of words with one space between them.
* Version 2 has a signature, two bytes for the command and the addresses' kind, the length of the
  addresses in two bytes, and the addresses.

`parseV1_line` and `parseV2_block` are what the readers make of a header of the right shape.
-/

namespace ProxyHeader

open InetAddr Utf8

/-- What a header tells of the connection. -/
inductive Told where
  /-- Nothing: the addresses are not known, or the proxy speaks for itself. -/
  | unknown
  | tcp4 (src dst : Ipv4Addr) (srcPort dstPort : UInt16)
  | tcp6 (src dst : Ipv6Addr) (srcPort dstPort : UInt16)
  deriving DecidableEq

/-- Source and destination address, source and destination port. -/
def Told.tuple : Told → Option (IpAddr × IpAddr × UInt16 × UInt16)
  | .unknown => none
  | .tcp4 src dst srcPort dstPort => some (.v4 src, .v4 dst, srcPort, dstPort)
  | .tcp6 src dst srcPort dstPort => some (.v6 src, .v6 dst, srcPort, dstPort)

/-- Who the connection comes from. -/
def Told.source (t : Told) : Option (IpAddr × UInt16) := t.tuple.map fun x => (x.1, x.2.2.1)

/-! ## Version 1 -/

/-- The bytes up to the first `\r\n`, and those behind it. -/
def splitLine : List UInt8 → Option (List UInt8 × List UInt8)
  | 13 :: 10 :: rest => some ([], rest)
  | b :: rest => (splitLine rest).map fun r => (b :: r.1, r.2)
  | [] => none

/-- A port in decimal, without a zero in front. -/
def portOfText? (text : List Char) : Option UInt16 :=
  (parseWith (readNumber 10 65536 (some 5) false) text).map UInt16.ofNat

/-- The words behind the address family. -/
def toldOfFields {Addr : Type} (ofText? : List Char → Option Addr)
    (told : Addr → Addr → UInt16 → UInt16 → Told) : List (List Char) → Option Told
  | [src, dst, srcPort, dstPort] => do
      let src ← ofText? src
      let dst ← ofText? dst
      let srcPort ← portOfText? srcPort
      let dstPort ← portOfText? dstPort
      some (told src dst srcPort dstPort)
  | _ => none

/-- The words of the line.  What stands behind `UNKNOWN` is ignored. -/
def toldOfWords : List (List Char) → Option Told
  | signature :: family :: fields =>
      if signature ≠ "PROXY".toList then none
      else if family = "UNKNOWN".toList then some .unknown
      else if family = "TCP4".toList then toldOfFields Ipv4Addr.ofText? .tcp4 fields
      else if family = "TCP6".toList then toldOfFields Ipv6Addr.ofText? .tcp6 fields
      else none
  | _ => none

/-- Reads a header of version 1. -/
def parseV1 (bytes : List UInt8) : Option (Told × List UInt8) :=
  match splitLine bytes with
  | none => none
  | some (line, rest) =>
      if 107 < line.length + 2 then none
      else (toldOfWords ((ascii line).splitOn ' ')).map (·, rest)

/-- A line ends at its first line end. -/
lemma splitLine_append {line : List UInt8} (h : 13 ∉ line) (rest : List UInt8) :
    splitLine (line ++ 13 :: 10 :: rest) = some (line, rest) := by
  induction line with
  | nil => rfl
  | cons b line ih =>
      rw [List.mem_cons, not_or] at h
      rw [List.cons_append, splitLine, ih h.2]
      · rfl
      · rintro rest' rfl -
        exact h.1 rfl

/-- What a word of the line is made of. -/
def WordChar (c : Char) : Prop := c.toNat < 128 ∧ c ≠ ' ' ∧ c ≠ '\r' ∧ c ≠ '\n'

instance : DecidablePred WordChar := fun _ => inferInstanceAs (Decidable (_ ∧ _))

/-- The characters of addresses are those of words. -/
lemma wordChar_of_addrChar {c : Char} (h : AddrChar c) : WordChar c := by
  refine ⟨h.toNat_lt, ?_, ?_, ?_⟩
  all_goals
    rintro rfl
    revert h
    decide

/-- Words with one space between them. -/
def lineOf (words : List (List Char)) : List Char := List.intercalate [' '] words

/-- A line is words and blanks. -/
lemma mem_lineOf {words : List (List Char)} (hwords : ∀ w ∈ words, ∀ c ∈ w, WordChar c) :
    ∀ c ∈ lineOf words, c = ' ' ∨ WordChar c := by
  induction words with
  | nil => simp [lineOf]
  | cons w words ih =>
      rw [List.forall_mem_cons] at hwords
      by_cases hmore : words = []
      · subst hmore
        intro c hc
        exact Or.inr (hwords.1 c (by simpa [lineOf] using hc))
      · intro c hc
        rw [lineOf, List.intercalate_cons_of_ne_nil hmore, List.mem_append, List.mem_append] at hc
        rcases hc with (hc | hc) | hc
        · exact Or.inr (hwords.1 c hc)
        · exact Or.inl (List.mem_singleton.mp hc)
        · exact ih hwords.2 c hc

/-- A line is ASCII. -/
lemma ascii_lineOf {words : List (List Char)} (hwords : ∀ w ∈ words, ∀ c ∈ w, WordChar c) :
    ∀ c ∈ lineOf words, c.toNat < 128 := by
  intro c hc
  rcases mem_lineOf hwords c hc with rfl | h
  · decide
  · exact h.1

/-- The line ends where it should. -/
lemma not_mem_lineOf {words : List (List Char)} (hwords : ∀ w ∈ words, ∀ c ∈ w, WordChar c) :
    13 ∉ encode (lineOf words) ∧ 10 ∉ encode (lineOf words) := by
  rw [mem_encode_iff (by decide), mem_encode_iff (by decide)]
  constructor
  · intro hmem
    rcases mem_lineOf hwords _ hmem with h | h
    · revert h
      decide
    · exact h.2.2.1 rfl
  · intro hmem
    rcases mem_lineOf hwords _ hmem with h | h
    · revert h
      decide
    · exact h.2.2.2 rfl

/-- A line of words is read. -/
theorem parseV1_line {words : List (List Char)} (hne : words ≠ [])
    (hwords : ∀ w ∈ words, ∀ c ∈ w, WordChar c) (hlen : (lineOf words).length + 2 ≤ 107)
    (rest : List UInt8) :
    parseV1 (encode (lineOf words) ++ 13 :: 10 :: rest) = (toldOfWords words).map (·, rest) := by
  have hascii := ascii_lineOf hwords
  have hreturn := (not_mem_lineOf hwords).1
  have hspace : ∀ w ∈ words, ' ' ∉ w := fun w hw hmem => (hwords w hw ' ' hmem).2.1 rfl
  unfold parseV1
  rw [splitLine_append hreturn]
  simp only [length_encode hascii, ascii_encode hascii]
  rw [if_neg (Nat.not_lt_of_le hlen), lineOf, List.splitOn_intercalate ' ' hspace hne]

/-- A port is read back from its text. -/
lemma portOfText?_toDigits (port : UInt16) :
    portOfText? (Nat.toDigits 10 port.toNat) = some port := by
  have hlt : port.toNat < 65536 := port.toNat_lt
  have hend : NoDigit 10 [] := noDigit_nil
  have hread := readNumber_toDigits (some 5) (by decide) (by decide) hlt
    (by rintro m ⟨⟩; omega) false hend
  rw [List.append_nil] at hread
  unfold portOfText? parseWith
  rw [hread]
  simp

/-! ## Version 2 -/

/-- The twelve bytes every header of version 2 begins with. -/
def signature : List UInt8 :=
  [0x0d, 0x0a, 0x0d, 0x0a, 0x00, 0x0d, 0x0a, 0x51, 0x55, 0x49, 0x54, 0x0a]

/-- A port in two bytes. -/
def portOfBytes? (bytes : List UInt8) : Option UInt16 :=
  if bytes.length = 2 then some (UInt16.ofNat (BigEndian.ofBE bytes)) else none

/-- Two addresses of `width` bytes and two ports. -/
def toldOfBlock {Addr : Type} (width : ℕ) (ofOctets? : List UInt8 → Option Addr)
    (told : Addr → Addr → UInt16 → UInt16 → Told) (block : List UInt8) : Option Told := do
  let src ← ofOctets? (block.take width)
  let dst ← ofOctets? ((block.drop width).take width)
  let srcPort ← portOfBytes? ((block.drop (width + width)).take 2)
  let dstPort ← portOfBytes? ((block.drop (width + width + 2)).take 2)
  some (told src dst srcPort dstPort)

/-- The command and the kind of the addresses: `0x20` is for the proxy itself, `0x21` for a connection
it passes on. -/
def toldOfCommand (command kind : UInt8) (block : List UInt8) : Option Told :=
  if command = 0x20 then some .unknown
  else if command ≠ 0x21 then none
  else if kind = 0x00 then some .unknown
  else if kind = 0x11 then toldOfBlock 4 Ipv4Addr.ofOctets? .tcp4 block
  else if kind = 0x21 then toldOfBlock 16 Ipv6Addr.ofOctets? .tcp6 block
  else none

/-- Reads a header of version 2: the length says where it ends. -/
def parseV2 (bytes : List UInt8) : Option (Told × List UInt8) :=
  if bytes.take 12 = signature then
    match bytes.drop 12 with
    | command :: kind :: high :: low :: rest =>
        let len := BigEndian.ofBE [high, low]
        if rest.length < len then none
        else (toldOfCommand command kind (rest.take len)).map (·, rest.drop len)
    | _ => none
  else none

/-- A header whose length is that of its addresses is read, and nothing behind it. -/
theorem parseV2_block (command kind : UInt8) {block : List UInt8} (hlen : block.length < 65536)
    (rest : List UInt8) :
    parseV2 (signature ++ command :: kind :: BigEndian.toBE 2 block.length ++ block ++ rest) =
      (toldOfCommand command kind block).map (·, rest) := by
  have hvalue : BigEndian.ofBE (BigEndian.toBE 2 block.length) = block.length :=
    BigEndian.ofBE_toBE_of_lt hlen
  obtain ⟨high, low, hlength⟩ : ∃ high low, BigEndian.toBE 2 block.length = [high, low] := ⟨_, _, rfl⟩
  rw [hlength] at hvalue ⊢
  have hbytes : signature ++ command :: kind :: [high, low] ++ block ++ rest =
      signature ++ command :: kind :: high :: low :: (block ++ rest) := by simp
  have hsignature : (signature ++ command :: kind :: high :: low :: (block ++ rest)).take 12 =
      signature := rfl
  unfold parseV2
  rw [hbytes, if_pos hsignature]
  show (if (block ++ rest).length < BigEndian.ofBE [high, low] then none else _) = _
  rw [hvalue, if_neg (by simp), List.take_left, List.drop_left]

/-- A port is read back from its bytes. -/
lemma portOfBytes?_toBE (port : UInt16) : portOfBytes? (BigEndian.toBE 2 port.toNat) = some port := by
  have hport : BigEndian.ofBE (BigEndian.toBE 2 port.toNat) = port.toNat :=
    BigEndian.ofBE_toBE_of_lt port.toNat_lt
  unfold portOfBytes?
  rw [if_pos (BigEndian.length_toBE 2 _), hport, UInt16.ofNat_toNat]

/-- Two addresses and two ports are read back. -/
lemma toldOfBlock_append {Addr : Type} {width : ℕ} {ofOctets? : List UInt8 → Option Addr}
    (told : Addr → Addr → UInt16 → UInt16 → Told) {src dst : List UInt8} {srcAddr dstAddr : Addr}
    (hsrc : src.length = width) (hdst : dst.length = width) (hsrcAddr : ofOctets? src = some srcAddr)
    (hdstAddr : ofOctets? dst = some dstAddr) (srcPort dstPort : UInt16) :
    toldOfBlock width ofOctets? told
        (src ++ dst ++ BigEndian.toBE 2 srcPort.toNat ++ BigEndian.toBE 2 dstPort.toNat) =
      some (told srcAddr dstAddr srcPort dstPort) := by
  subst hsrc
  have hport := fun port : UInt16 => BigEndian.length_toBE 2 port.toNat
  have hfront : (src ++ dst ++ BigEndian.toBE 2 srcPort.toNat).length =
      src.length + src.length + 2 := by
    rw [List.length_append, List.length_append, hdst, hport]
  have hdstPort : (src ++ dst ++ BigEndian.toBE 2 srcPort.toNat ++ BigEndian.toBE 2 dstPort.toNat).drop
      (src.length + src.length + 2) = BigEndian.toBE 2 dstPort.toNat := by
    rw [← hfront, List.drop_left]
  unfold toldOfBlock
  rw [hdstPort]
  simp [hdst, hsrcAddr, hdstAddr, hport, portOfBytes?_toBE, List.take_of_length_le]

end ProxyHeader
