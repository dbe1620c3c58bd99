import Mathlib.Data.List.Basic
import Mathlib.Tactic.Common
import RustProxy.Foundation.BigEndian

/-!
# Internet addresses and their texts

`Ipv4Addr`, `Ipv6Addr` and `SocketAddr` with the texts that Rust's `std::net` writes for them (`text`)
and reads (`ofText?`).  Texts are character lists; a reader takes its value off the front of a text
and returns what is left, or fails.

The last part is about single numbers: `readNumber_toDigits` is their round trip, and
`readNumber_eq_some` and `readNumber_of_noDigit` say what can be read as a number at all.
-/

namespace InetAddr

/-- An IPv4 address, by its octets. -/
structure Ipv4Addr where
  octets : List UInt8
  length_octets : octets.length = 4
  deriving DecidableEq

/-- An IPv6 address, by its sixteen-bit segments. -/
structure Ipv6Addr where
  segments : List UInt16
  length_segments : segments.length = 8
  deriving DecidableEq

/-- An address with a port. -/
inductive SocketAddr where
  | v4 (ip : Ipv4Addr) (port : UInt16)
  | v6 (ip : Ipv6Addr) (port : UInt16) (flowinfo scopeId : UInt32)
  deriving DecidableEq

/-- An address of either family. -/
inductive IpAddr where
  | v4 (ip : Ipv4Addr)
  | v6 (ip : Ipv6Addr)
  deriving DecidableEq

/-- The address without the port. -/
def SocketAddr.ip : SocketAddr → IpAddr
  | .v4 ip _ => .v4 ip
  | .v6 ip _ _ _ => .v6 ip

/-- The port. -/
def SocketAddr.port : SocketAddr → UInt16
  | .v4 _ port => port
  | .v6 _ port _ _ => port

/-- Four octets are an address. -/
def Ipv4Addr.ofOctets? (octets : List UInt8) : Option Ipv4Addr :=
  if h : octets.length = 4 then some ⟨octets, h⟩ else none

/-- Eight segments are an address. -/
def Ipv6Addr.ofSegments? (segments : List UInt16) : Option Ipv6Addr :=
  if h : segments.length = 8 then some ⟨segments, h⟩ else none

/-- The two octets of each segment. -/
def octetsOf (segments : List UInt16) : List UInt8 :=
  segments.flatMap fun s => BigEndian.toBE 2 s.toNat

/-- The segments that octets make up, two each. -/
def segmentsOf : List UInt8 → List UInt16
  | high :: low :: octets => UInt16.ofNat (BigEndian.ofBE [high, low]) :: segmentsOf octets
  | _ => []

/-- The sixteen octets of an address. -/
def Ipv6Addr.octets (a : Ipv6Addr) : List UInt8 := octetsOf a.segments

/-- Sixteen octets are an address. -/
def Ipv6Addr.ofOctets? (octets : List UInt8) : Option Ipv6Addr :=
  if octets.length = 16 then Ipv6Addr.ofSegments? (segmentsOf octets) else none

/-! ## Writing -/

/-- Numbers with a separator before each but the very first: `index` of them stand before. -/
def numbersText (sep : Char) (radix : ℕ) : (index : ℕ) → List ℕ → List Char
  | _, [] => []
  | index, n :: numbers =>
      (if 0 < index then [sep] else []) ++ Nat.toDigits radix n ++
        numbersText sep radix (index + 1) numbers

/-- `{}` of an IPv4 address. -/
def Ipv4Addr.text (a : Ipv4Addr) : List Char := numbersText '.' 10 0 (a.octets.map UInt8.toNat)

/-- The IPv4 address that an IPv6 address of the form `::ffff:0:0/96` stands for. -/
def Ipv6Addr.toIpv4Mapped? (a : Ipv6Addr) : Option Ipv4Addr :=
  match a.segments with
  | [0, 0, 0, 0, 0, 0xffff, high, low] => Ipv4Addr.ofOctets? (octetsOf [high, low])
  | _ => none

/-- Segments from `start` on, `len` of them. -/
structure Span where
  start : ℕ
  len : ℕ
  deriving DecidableEq

/-- The loop that looks for the longest run of zero segments, the first of them when there are
several: `i` segments have been seen. -/
def longestZeros (i : ℕ) (longest current : Span) : List UInt16 → Span
  | [] => longest
  | s :: segments =>
      if s = 0 then
        let current : Span :=
          { start := if current.len = 0 then i else current.start, len := current.len + 1 }
        longestZeros (i + 1) (if longest.len < current.len then current else longest) current segments
      else longestZeros (i + 1) longest ⟨0, 0⟩ segments

/-- `fmt_subslice`: segments in hexadecimal with colons between them. -/
def groupsText (segments : List UInt16) : List Char :=
  numbersText ':' 16 0 (segments.map UInt16.toNat)

/-- `{}` of an IPv6 address. -/
def Ipv6Addr.text (a : Ipv6Addr) : List Char :=
  match a.toIpv4Mapped? with
  | some v4 => "::ffff:".toList ++ v4.text
  | none =>
      let zeroes := longestZeros 0 ⟨0, 0⟩ ⟨0, 0⟩ a.segments
      if 1 < zeroes.len then
        groupsText (a.segments.take zeroes.start) ++ "::".toList ++
          groupsText (a.segments.drop (zeroes.start + zeroes.len))
      else groupsText a.segments

/-- `{}` of an address with a port: the scope is written unless it is zero. -/
def SocketAddr.text : SocketAddr → List Char
  | .v4 ip port => ip.text ++ ':' :: Nat.toDigits 10 port.toNat
  | .v6 ip port _ scopeId =>
      '[' :: ip.text ++ (if scopeId = 0 then [] else '%' :: Nat.toDigits 10 scopeId.toNat) ++
        ']' :: ':' :: Nat.toDigits 10 port.toNat

/-! ## Reading -/

/-- What is read off the front of a text, and the rest of the text. -/
abbrev Reader (α : Type) := List Char → Option (α × List Char)

/-- The digit that a character is. -/
def digit? (radix : ℕ) (c : Char) : Option ℕ :=
  let value :=
    if '0' ≤ c ∧ c ≤ '9' then c.toNat - '0'.toNat
    else if 'a' ≤ c ∧ c ≤ 'z' then c.toNat - 'a'.toNat + 10
    else if 'A' ≤ c ∧ c ≤ 'Z' then c.toNat - 'A'.toNat + 10
    else radix
  if value < radix then some value else none

/-- `read_given_char` -/
def readGivenChar (target : Char) : Reader Unit
  | [] => none
  | c :: text => if c = target then some ((), text) else none

/-- What ends the loop of `read_number` in failure: more digits than allowed or, without such a
limit, a value that does not fit the type. -/
def Overflows (bound : ℕ) (maxDigits : Option ℕ) (count value : ℕ) : Prop :=
  match maxDigits with
  | some m => m < count
  | none => bound ≤ value

instance (bound : ℕ) : ∀ (maxDigits : Option ℕ) (count value : ℕ),
    Decidable (Overflows bound maxDigits count value)
  | some m, count, _ => inferInstanceAs (Decidable (m < count))
  | none, _, value => inferInstanceAs (Decidable (bound ≤ value))

/-- The loop of `read_number`, with the value and the number of the digits read so far. -/
def readDigits (radix bound : ℕ) (maxDigits : Option ℕ) : ℕ → ℕ → Reader (ℕ × ℕ)
  | value, count, [] => some ((value, count), [])
  | value, count, c :: text =>
      match digit? radix c with
      | none => some ((value, count), c :: text)
      | some d =>
          if Overflows bound maxDigits (count + 1) (value * radix + d) then none
          else readDigits radix bound maxDigits (value * radix + d) (count + 1) text

/-- `read_number`, for the type of the numbers below `bound`. -/
def readNumber (radix bound : ℕ) (maxDigits : Option ℕ) (allowZeroPrefix : Bool) : Reader ℕ :=
  fun text =>
    match readDigits radix bound maxDigits 0 0 text with
    | none => none
    | some ((value, count), rest) =>
        if count = 0 then none
        else if allowZeroPrefix = false ∧ text.head? = some '0' ∧ 1 < count then none
        else if value < bound then some (value, rest)
        else none

/-- `read_separator`: the separator stands before every part but the first. -/
def readSeparator {α : Type} (sep : Char) (index : ℕ) (inner : Reader α) : Reader α := fun text =>
  if 0 < index then (readGivenChar sep text).bind fun r => inner r.2 else inner text

/-- The octets of `read_ipv4_addr`, from `index` on. -/
def readOctets : (count index : ℕ) → Reader (List UInt8)
  | 0, _, text => some ([], text)
  | count + 1, index, text =>
      match readSeparator '.' index (readNumber 10 256 (some 3) false) text with
      | none => none
      | some (o, rest) =>
          (readOctets count (index + 1) rest).map fun r => (UInt8.ofNat o :: r.1, r.2)

/-- `read_ipv4_addr` -/
def readIpv4Addr : Reader Ipv4Addr := fun text =>
  match readOctets 4 0 text with
  | none => none
  | some (octets, rest) => (Ipv4Addr.ofOctets? octets).map (·, rest)

/-- `read_groups` from `index` on with `room` groups left, and whether it ended with an IPv4
address. -/
def readGroups : (room index : ℕ) → List Char → List UInt16 × Bool × List Char
  | 0, _, text => ([], false, text)
  | room + 1, index, text =>
      match if 0 < room then readSeparator ':' index readIpv4Addr text else none with
      | some (v4, rest) => (segmentsOf v4.octets, true, rest)
      | none =>
          match readSeparator ':' index (readNumber 16 65536 (some 4) true) text with
          | none => ([], false, text)
          | some (g, rest) =>
              let (groups, v4, rest) := readGroups room (index + 1) rest
              (UInt16.ofNat g :: groups, v4, rest)

/-- `read_ipv6_addr` -/
def readIpv6Addr : Reader Ipv6Addr := fun text =>
  let (head, v4, text) := readGroups 8 0 text
  if head.length = 8 then (Ipv6Addr.ofSegments? head).map (·, text)
  else if v4 then none
  else do
    let ((), text) ← readGivenChar ':' text
    let ((), text) ← readGivenChar ':' text
    let (tail, _, text) := readGroups (8 - (head.length + 1)) 0 text
    let zeroes := List.replicate (8 - tail.length - head.length) 0
    (Ipv6Addr.ofSegments? (head ++ zeroes ++ tail)).map (·, text)

/-- `read_port` -/
def readPort : Reader ℕ := fun text => do
  let ((), text) ← readGivenChar ':' text
  readNumber 10 65536 none true text

/-- `read_scope_id` -/
def readScopeId : Reader ℕ := fun text => do
  let ((), text) ← readGivenChar '%' text
  readNumber 10 4294967296 none true text

/-- `read_socket_addr_v4` -/
def readSocketAddrV4 : Reader SocketAddr := fun text => do
  let (ip, text) ← readIpv4Addr text
  let (port, text) ← readPort text
  some (.v4 ip (UInt16.ofNat port), text)

/-- `read_socket_addr_v6` -/
def readSocketAddrV6 : Reader SocketAddr := fun text => do
  let ((), text) ← readGivenChar '[' text
  let (ip, text) ← readIpv6Addr text
  let (scopeId, text) := (readScopeId text).getD (0, text)
  let ((), text) ← readGivenChar ']' text
  let (port, text) ← readPort text
  some (.v6 ip (UInt16.ofNat port) 0 (UInt32.ofNat scopeId), text)

/-- A reader that has to take the whole text. -/
def parseWith {α : Type} (read : Reader α) (text : List Char) : Option α :=
  match read text with
  | some (a, []) => some a
  | _ => none

/-- An IPv4 address has at most fifteen characters. -/
def Ipv4Addr.ofText? (text : List Char) : Option Ipv4Addr :=
  if 15 < text.length then none else parseWith readIpv4Addr text

/-- The address that a text is. -/
def Ipv6Addr.ofText? (text : List Char) : Option Ipv6Addr := parseWith readIpv6Addr text

/-- The address with a port that a text is: IPv4 is tried first. -/
def SocketAddr.ofText? (text : List Char) : Option SocketAddr :=
  parseWith (fun text => (readSocketAddrV4 text).or (readSocketAddrV6 text)) text

/-! ## Numbers -/

/-- A digit is read back. -/
lemma digit?_digitChar {radix d : ℕ} (hd : d < radix) (hradix : radix ≤ 16) :
    digit? radix d.digitChar = some d := by
  have hsixteen : ∀ d < 16, digit? 16 d.digitChar = some d := by decide
  have h := hsixteen d (by omega)
  unfold digit? at h ⊢
  split_ifs at h ⊢ <;> simp_all

/-- No digit of the radix stands at the front. -/
def NoDigit (radix : ℕ) (text : List Char) : Prop := ∀ c ∈ text.head?, digit? radix c = none

/-- No digit, no number. -/
lemma readDigits_of_noDigit {radix : ℕ} {rest : List Char} (h : NoDigit radix rest) (bound : ℕ)
    (maxDigits : Option ℕ) (value count : ℕ) :
    readDigits radix bound maxDigits value count rest = some ((value, count), rest) := by
  rcases rest with - | ⟨c, rest⟩
  · rfl
  · rw [readDigits, h c rfl]

/-- Fewer digits of a smaller value fit as well. -/
lemma Overflows.mono {bound count count' value value' : ℕ} {maxDigits : Option ℕ}
    (h : Overflows bound maxDigits count value) (hcount : count ≤ count') (hvalue : value ≤ value') :
    Overflows bound maxDigits count' value' := by
  rcases maxDigits with - | m
  · exact Nat.le_trans h hvalue
  · exact Nat.lt_of_lt_of_le h hcount

section

variable {radix bound n : ℕ} {maxDigits : Option ℕ}

/-- A number that fits is read digit by digit. -/
lemma readDigits_toDigits (h1 : 1 < radix) (h16 : radix ≤ 16)
    (hfits : ¬ Overflows bound maxDigits (Nat.toDigits radix n).length n) (rest : List Char) :
    readDigits radix bound maxDigits 0 0 (Nat.toDigits radix n ++ rest) =
      readDigits radix bound maxDigits n (Nat.toDigits radix n).length rest := by
  induction n using Nat.base_induction radix h1 generalizing rest with
  | single d hd =>
      rw [Nat.toDigits_of_lt_base hd] at hfits ⊢
      rw [List.singleton_append, readDigits, digit?_digitChar hd h16]
      show (if Overflows bound maxDigits 1 (0 * radix + d) then none else _) = _
      rw [Nat.zero_mul, Nat.zero_add]
      exact if_neg hfits
  | digit m d hd hm ih =>
      rw [← Nat.toDigits_append_toDigits h1 hm hd, Nat.toDigits_of_lt_base hd,
        List.length_append, List.length_singleton] at hfits ⊢
      have hle : m ≤ radix * m + d := Nat.le_add_right_of_le (Nat.le_mul_of_pos_left m (by omega))
      rw [List.append_assoc, ih fun h => hfits (h.mono (Nat.le_succ _) hle), List.singleton_append,
        readDigits, digit?_digitChar hd h16, Nat.mul_comm m]
      exact if_neg hfits

/-- Only zero is written with a leading zero. -/
lemma head_toDigits (h1 : 1 < radix) (h16 : radix ≤ 16)
    (h : (Nat.toDigits radix n).head? = some '0') : n = 0 := by
  induction n using Nat.base_induction radix h1 with
  | single d hd =>
      rw [Nat.toDigits_of_lt_base hd, List.head?_cons, Option.some_inj] at h
      have hdigit := digit?_digitChar hd h16
      rw [h] at hdigit
      have hzero : digit? radix (Nat.digitChar 0) = some 0 := digit?_digitChar (by omega) h16
      exact Option.some_inj.mp (hdigit.symm.trans hzero)
  | digit m d hd hm ih =>
      rw [← Nat.toDigits_append_toDigits h1 hm hd, List.head?_append_of_ne_nil _ (by simp)] at h
      exact absurd (ih h) hm.ne'

/-- A number is read back wherever no digit follows. -/
theorem readNumber_toDigits (maxDigits : Option ℕ) (h1 : 1 < radix) (h16 : radix ≤ 16) (hn : n < bound)
    (hfits : ∀ m ∈ maxDigits, n < radix ^ m ∧ 0 < m) (allowZeroPrefix : Bool) {rest : List Char}
    (hrest : NoDigit radix rest) :
    readNumber radix bound maxDigits allowZeroPrefix (Nat.toDigits radix n ++ rest) =
      some (n, rest) := by
  have hover : ¬ Overflows bound maxDigits (Nat.toDigits radix n).length n := by
    rcases maxDigits with - | m
    · exact Nat.not_le_of_lt hn
    · obtain ⟨hlt, hm⟩ := hfits m rfl
      exact Nat.not_lt_of_le ((Nat.length_toDigits_le_iff h1 hm).mpr hlt)
  have hlen : (Nat.toDigits radix n).length ≠ 0 := (Nat.length_toDigits_pos).ne'
  have hstart : ¬ (allowZeroPrefix = false ∧ (Nat.toDigits radix n ++ rest).head? = some '0' ∧
      1 < (Nat.toDigits radix n).length) := by
    rintro ⟨-, hhead, hlong⟩
    rw [List.head?_append_of_ne_nil _ (by simp)] at hhead
    rw [head_toDigits h1 h16 hhead, Nat.toDigits_zero] at hlong
    simp at hlong
  unfold readNumber
  rw [readDigits_toDigits h1 h16 hover, readDigits_of_noDigit hrest]
  simp only [if_neg hlen, if_neg hstart, if_pos hn]

/-- What was read is a row of digits. -/
lemma readDigits_eq_some {value count value' count' : ℕ} {text rest : List Char}
    (h : readDigits radix bound maxDigits value count text = some ((value', count'), rest)) :
    ∃ digits, text = digits ++ rest ∧ (∀ c ∈ digits, (digit? radix c).isSome) ∧
      count' = count + digits.length := by
  induction text generalizing value count with
  | nil =>
      cases h
      exact ⟨[], rfl, by simp, rfl⟩
  | cons c text ih =>
      rw [readDigits] at h
      rcases hc : digit? radix c with - | d
      · simp only [hc, Option.some_inj, Prod.mk.injEq] at h
        obtain ⟨⟨-, rfl⟩, rfl⟩ := h
        exact ⟨[], rfl, by simp, rfl⟩
      · simp only [hc] at h
        split_ifs at h
        obtain ⟨digits, rfl, hdigits, rfl⟩ := ih h
        refine ⟨c :: digits, rfl, ?_, by rw [List.length_cons]; omega⟩
        rw [List.forall_mem_cons]
        exact ⟨by rw [hc]; rfl, hdigits⟩

/-- What is read as a number are digits, one at least. -/
lemma readNumber_eq_some {allowZeroPrefix : Bool} {text rest : List Char}
    (h : readNumber radix bound maxDigits allowZeroPrefix text = some (n, rest)) :
    ∃ digits, text = digits ++ rest ∧ (∀ c ∈ digits, (digit? radix c).isSome) ∧ digits ≠ [] := by
  unfold readNumber at h
  split at h
  · cases h
  · rename_i value count rest' hread
    split_ifs at h with hcount
    cases h
    obtain ⟨digits, htext, hdigits, rfl⟩ := readDigits_eq_some hread
    refine ⟨digits, htext, hdigits, ?_⟩
    rintro rfl
    exact hcount rfl

/-- No digit, no number. -/
lemma readNumber_of_noDigit {text : List Char} (h : NoDigit radix text) (allowZeroPrefix : Bool) :
    readNumber radix bound maxDigits allowZeroPrefix text = none := by
  unfold readNumber
  rw [readDigits_of_noDigit h]
  rfl

/-- A number is written in digits. -/
lemma digit?_of_mem_toDigits (h1 : 1 < radix) (h16 : radix ≤ 16) {c : Char}
    (hc : c ∈ Nat.toDigits radix n) : (digit? radix c).isSome := by
  induction n using Nat.base_induction radix h1 with
  | single d hd =>
      rw [Nat.toDigits_of_lt_base hd, List.mem_singleton] at hc
      rw [hc, digit?_digitChar hd h16]
      rfl
  | digit m d hd hm ih =>
      rw [← Nat.toDigits_append_toDigits h1 hm hd, Nat.toDigits_of_lt_base hd, List.mem_append,
        List.mem_singleton] at hc
      rcases hc with hc | rfl
      · exact ih hc
      · rw [digit?_digitChar hd h16]
        rfl

end

/-- A digit of a smaller radix is one of a larger. -/
lemma NoDigit.mono {radix radix' : ℕ} {text : List Char} (h : NoDigit radix' text)
    (hle : radix ≤ radix') : NoDigit radix text := by
  intro c hc
  have hnone := h c hc
  unfold digit? at hnone ⊢
  split_ifs at hnone ⊢ <;> simp_all <;> omega

/-- Nothing is no digit. -/
@[simp] lemma noDigit_nil {radix : ℕ} : NoDigit radix [] := by simp [NoDigit]

/-- A character that is no digit ends the number. -/
lemma noDigit_cons {radix : ℕ} {c : Char} (h : digit? radix c = none) (text : List Char) :
    NoDigit radix (c :: text) := by simpa [NoDigit] using h

end InetAddr
