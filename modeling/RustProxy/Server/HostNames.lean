import Mathlib.Data.List.GetD
import Mathlib.Data.List.TakeWhile
import Mathlib.Tactic.Common

/-!
# Host names of new connections

How the shared listeners of `crates/server/src/proxy_listener.rs` read the host of a connection from
the bytes they have peeked: `extract_host_from_http` and `extract_sni_from_client_hello`.

Bytes are `UInt8`, lines are lists of characters; `fromUtf8`, `lines` and `trim` are Rust's
`str::from_utf8`, `str::lines` and `str::trim`.
-/

namespace RustProxy.Server.HostNames

/-! ## Text -/

/-- `std::str::from_utf8`. -/
def fromUtf8 (bytes : List UInt8) : Option String := String.fromUTF8? ⟨bytes.toArray⟩

/-- `char::is_whitespace`, the Unicode property `White_Space`. -/
def isWhitespace (c : Char) : Bool :=
  (9 ≤ c.toNat && c.toNat ≤ 13) ||
    [0x20, 0x85, 0xa0, 0x1680, 0x2028, 0x2029, 0x202f, 0x205f, 0x3000].contains c.toNat ||
    (0x2000 ≤ c.toNat && c.toNat ≤ 0x200a)

/-- `str::trim`. -/
def trim (text : List Char) : List Char :=
  ((text.dropWhile isWhitespace).reverse.dropWhile isWhitespace).reverse

/-- The end of a line that `\n` has ended: a `\r` before it belongs to the end. -/
def endLine (reversed : List Char) : List Char :=
  match reversed with
  | '\r' :: rest => rest.reverse
  | rest => rest.reverse

/-- The lines of a text whose current line has begun with the reverse of `reversed`. -/
def linesFrom (reversed : List Char) : List Char → List (List Char)
  | [] => if reversed = [] then [] else [reversed.reverse]
  | c :: rest =>
      if c = '\n' then endLine reversed :: linesFrom [] rest else linesFrom (c :: reversed) rest

/-- `str::lines`. -/
def lines (text : List Char) : List (List Char) := linesFrom [] text

/-! ## The `Host` header -/

/-- The host without its port; a bracketed IPv6 address keeps its brackets. -/
def withoutPort (host : List Char) : List Char :=
  if host.head? = some '[' then
    if ']' ∈ host then host.takeWhile (· ≠ ']') ++ [']'] else host
  else host.takeWhile (· ≠ ':')

/-- The loop over the lines of the request's head. -/
def hostOfLines : List (List Char) → Option (List Char)
  | [] => none
  | line :: rest =>
      match "Host:".toList.isPrefixOf? line with
      | some value => some (withoutPort (trim value))
      | none => if line = [] then none else hostOfLines rest

/-- Source: `proxy_listener.rs`, `extract_host_from_http`. -/
def extractHostFromHttp (data : List UInt8) : Option String := do
  let header ← fromUtf8 data
  let host ← hostOfLines (lines header.toList)
  return String.ofList host

/-- A text without a line end is the rest of its line. -/
lemma linesFrom_eq {reversed text : List Char} (hne : reversed ≠ []) (h : '\n' ∉ text) :
    linesFrom reversed text = [reversed.reverse ++ text] := by
  induction text generalizing reversed with
  | nil => rw [linesFrom, if_neg hne, List.append_nil]
  | cons c rest ih =>
      have hc : c ≠ '\n' := fun hc => h (hc ▸ List.mem_cons_self)
      have hrest : '\n' ∉ rest := fun hmem => h (List.mem_cons_of_mem c hmem)
      rw [linesFrom, if_neg hc, ih (List.cons_ne_nil c reversed) hrest, List.reverse_cons,
        List.append_assoc, List.singleton_append]

/-- A text without a line end is one line. -/
lemma lines_eq {text : List Char} (hne : text ≠ []) (h : '\n' ∉ text) : lines text = [text] := by
  cases text with
  | nil => exact absurd rfl hne
  | cons c rest =>
      rw [List.mem_cons, not_or] at h
      rw [lines, linesFrom, if_neg (Ne.symm h.1), linesFrom_eq (List.cons_ne_nil c []) h.2]
      rfl

/-- Without blanks nothing is dropped. -/
lemma dropWhile_isWhitespace {text : List Char} (h : ∀ c ∈ text, isWhitespace c = false) :
    text.dropWhile isWhitespace = text := by
  cases text with
  | nil => rfl
  | cons c rest => rw [List.dropWhile_cons_of_neg (by simp [h c List.mem_cons_self])]

/-- Without blanks nothing is trimmed. -/
lemma trim_eq {text : List Char} (h : ∀ c ∈ text, isWhitespace c = false) : trim text = text := by
  have hreverse : ∀ c ∈ text.reverse, isWhitespace c = false :=
    fun c hc => h c (List.mem_reverse.mp hc)
  rw [trim, dropWhile_isWhitespace h, dropWhile_isWhitespace hreverse, List.reverse_reverse]

/-- `str::from_utf8` reads the bytes of a text back. -/
lemma fromUtf8_toUTF8 (text : String) : fromUtf8 text.toUTF8.data.toList = some text := by
  have hbytes : (⟨text.toUTF8.data.toList.toArray⟩ : ByteArray) = text.toByteArray := rfl
  rw [fromUtf8, hbytes, String.fromUTF8?, dif_pos text.isValidUTF8]
  rfl

example : extractHostFromHttp "GET / HTTP/1.1\r\nHost: [::1]:80\r\n\r\n".toUTF8.data.toList =
    some "[::1]" := by decide +kernel

/-! ## The server name of a TLS handshake -/

/-- `u16::from_be_bytes([data[i], data[i + 1]])`, for two bytes that exist. -/
def u16At (data : List UInt8) (i : ℕ) : ℕ :=
  (data.getD i 0).toNat * 256 + (data.getD (i + 1) 0).toNat

/-- The body of the extension of type 0 at `offset`. -/
def serverName (data : List UInt8) (offset : ℕ) : Option String :=
  let sniListOffset := offset + 4
  if sniListOffset + 3 > data.length then none
  else if data.getD (sniListOffset + 2) 0 ≠ 0x00 then none
  else
    let nameLenOffset := sniListOffset + 3
    if nameLenOffset + 2 > data.length then none
    else
      let nameLen := u16At data nameLenOffset
      let nameStart := nameLenOffset + 2
      if nameStart + nameLen > data.length then none
      else fromUtf8 ((data.drop nameStart).take nameLen)

/-- The loop over the extensions, from `offset` to `extensionsEnd`. -/
def findServerName (data : List UInt8) (extensionsEnd offset : ℕ) : Option String :=
  if offset + 4 ≤ min extensionsEnd data.length then
    if u16At data offset = 0x0000 then serverName data offset
    else findServerName data extensionsEnd (offset + (4 + u16At data (offset + 2)))
  else none
termination_by data.length - offset
decreasing_by omega

/-- Source: `proxy_listener.rs`, `extract_sni_from_client_hello`. -/
def extractSniFromClientHello (data : List UInt8) : Option String :=
  if data.length < 44 then none
  else if data.getD 0 0 ≠ 0x16 then none
  else if data.getD 5 0 ≠ 0x01 then none
  else
    let sessionIdLen := (data.getD 43 0).toNat
    let cipherSuitesOffset := 44 + sessionIdLen
    if cipherSuitesOffset + 2 > data.length then none
    else
      let cipherSuitesLen := u16At data cipherSuitesOffset
      let compressionOffset := cipherSuitesOffset + 2 + cipherSuitesLen
      if compressionOffset + 2 > data.length then none
      else
        let compressionLen := (data.getD compressionOffset 0).toNat
        let extensionsOffset := compressionOffset + 1 + compressionLen
        if extensionsOffset + 2 > data.length then none
        else
          let offset := extensionsOffset + 2
          findServerName data (offset + u16At data extensionsOffset) offset

/-- A ClientHello with one cipher suite and the server name `b.example`. -/
def clientHello : List UInt8 :=
  [0x16, 3, 1, 0, 67, 0x01, 0, 0, 63, 3, 3] ++ List.replicate 32 0x07 ++ [0, 0, 2, 0x13, 0x01, 1, 0] ++
    [0, 18, 0, 0, 0, 14, 0, 12, 0, 0, 9] ++ "b.example".toUTF8.data.toList

example : extractSniFromClientHello clientHello = some "b.example" := by decide +kernel

end RustProxy.Server.HostNames
