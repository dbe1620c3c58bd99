import RustProxy.Foundation.BigEndian
import RustProxy.Server.SniBounds

/-!
# ClientHello messages, and the name that is read from them

The bytes of a TLS ClientHello in one record, written out field by field with their length prefixes,
and the host that it names.  `extractSni_record` says that the parser of
`crates/server/src/proxy_listener.rs` is complete for them: whatever the fields hold, and whatever
follows the record, it returns the host of the first server_name extension, and none when there is no
such extension.
-/

namespace RustProxy.Server.ClientHello

open BigEndian HostNames SniBounds

/-! ## The message and its bytes -/

/-- A body behind its length, written in `width` bytes. -/
def prefixed (width : ℕ) (body : List UInt8) : List UInt8 := toBE width body.length ++ body

/-- An extension: a server_name with one host_name entry, or one of another type. -/
inductive Extension where
  | serverName (host : String)
  | other (type : UInt16) (htype : type ≠ 0) (body : List UInt8)

/-- The extension type. -/
def Extension.type : Extension → ℕ
  | .serverName _ => 0
  | .other type _ _ => type.toNat

/-- The extension body: for a server_name, a list of one entry of type 0. -/
def Extension.body : Extension → List UInt8
  | .serverName host => prefixed 2 (0x00 :: prefixed 2 host.toUTF8.data.toList)
  | .other _ _ body => body

/-- The bytes of an extension. -/
def Extension.bytes (e : Extension) : List UInt8 := toBE 2 e.type ++ prefixed 2 e.body

/-- The host of a server_name extension. -/
def Extension.host? : Extension → Option String
  | .serverName host => some host
  | .other _ _ _ => none

/-- The fields of a ClientHello and the version of its record. -/
structure Fields where
  recordVersion : UInt16
  legacyVersion : UInt16
  random : List UInt8
  sessionId : List UInt8
  cipherSuites : List UInt16
  compressionMethods : List UInt8
  extensions : List Extension

namespace Fields

variable (fields : Fields)

def cipherSuiteBytes : List UInt8 := fields.cipherSuites.flatMap fun suite => toBE 2 suite.toNat

def extensionBytes : List UInt8 := fields.extensions.flatMap Extension.bytes

/-- The body of the handshake message. -/
def body : List UInt8 :=
  toBE 2 fields.legacyVersion.toNat ++ fields.random ++ prefixed 1 fields.sessionId ++
    prefixed 2 fields.cipherSuiteBytes ++ prefixed 1 fields.compressionMethods ++
    prefixed 2 fields.extensionBytes

/-- The handshake message, of type client_hello. -/
def handshake : List UInt8 := 0x01 :: prefixed 3 fields.body

/-- The record that holds the message. -/
def record : List UInt8 :=
  0x16 :: (toBE 2 fields.recordVersion.toNat ++ prefixed 2 fields.handshake)

/-- The host that the message names: that of its first server_name extension. -/
def hostName : Option String := fields.extensions.findSome? Extension.host?

end Fields

/-- Fields whose lengths fit in their prefixes and whose message fits in a record. -/
structure WellFormed (fields : Fields) : Prop where
  random : fields.random.length = 32
  sessionId : fields.sessionId.length < 2 ^ 8
  compressionMethods : fields.compressionMethods ≠ []
  compressionLength : fields.compressionMethods.length < 2 ^ 8
  record : fields.handshake.length < 2 ^ 16

/-! ## Reading behind a prefix -/

/-- The length of the prefix and that of the body. -/
@[simp] lemma length_prefixed (width : ℕ) (body : List UInt8) :
    (prefixed width body).length = width + body.length := by
  simp [prefixed]

/-- A number in one byte. -/
lemma toBE_one (n : ℕ) : toBE 1 n = [UInt8.ofNat n] := by simp [toBE]

/-- A number in two bytes. -/
lemma toBE_two (n : ℕ) : toBE 2 n = [UInt8.ofNat (n / 256), UInt8.ofNat n] := by simp [toBE]

/-- A byte behind what comes before. -/
lemma getD_append_add (pre s : List UInt8) (k : ℕ) :
    (pre ++ s).getD (pre.length + k) 0 = s.getD k 0 := by
  rw [List.getD_eq_getElem?_getD, List.getD_eq_getElem?_getD, List.getElem?_append_right (by omega),
    Nat.add_sub_cancel_left]

/-- A number behind what comes before. -/
lemma u16At_append_add (pre s : List UInt8) (k : ℕ) :
    u16At (pre ++ s) (pre.length + k) = u16At s k := by
  unfold u16At
  rw [getD_append_add, Nat.add_assoc, getD_append_add]

/-- The two bytes of a number below `2 ^ 16` are read back. -/
lemma u16At_toBE {n : ℕ} (hn : n < 2 ^ 16) (s : List UInt8) : u16At (toBE 2 n ++ s) 0 = n := by
  rw [toBE_two]
  simp [u16At]
  omega

/-- The length in front of a body is read back, wherever it stands. -/
lemma u16At_prefixed {body : List UInt8} (h : body.length < 2 ^ 16) (pre s : List UInt8) {i : ℕ}
    (hi : i = pre.length) : u16At (pre ++ (prefixed 2 body ++ s)) i = body.length := by
  subst hi
  rw [prefixed, List.append_assoc]
  exact (u16At_append_add pre _ 0).trans (u16At_toBE h _)

/-- The first byte behind what comes before. -/
lemma getD_append_length (pre s : List UInt8) (b : UInt8) {i : ℕ} (hi : i = pre.length) :
    (pre ++ b :: s).getD i 0 = b := by
  subst hi
  exact getD_append_add pre (b :: s) 0

/-! ## The extensions -/

/-- Type, length and body. -/
lemma Extension.length_bytes (e : Extension) : e.bytes.length = 4 + e.body.length := by
  unfold bytes
  simp
  omega

/-- The type of an extension fits in two bytes. -/
lemma Extension.type_lt (e : Extension) : e.type < 2 ^ 16 := by
  cases e with
  | serverName host => exact Nat.two_pow_pos 16
  | other type htype body => exact type.toNat_lt

/-- The two length fields that the loop reads at the start of an extension. -/
lemma Extension.fields_at (e : Extension) (h : e.body.length < 2 ^ 16) (pre s : List UInt8) :
    u16At (pre ++ (e.bytes ++ s)) pre.length = e.type ∧
      u16At (pre ++ (e.bytes ++ s)) (pre.length + 2) = e.body.length := by
  unfold bytes
  constructor
  · rw [List.append_assoc]
    exact (u16At_append_add pre _ 0).trans (u16At_toBE e.type_lt _)
  · have hsplit : pre ++ (toBE 2 e.type ++ prefixed 2 e.body ++ s) =
        (pre ++ toBE 2 e.type) ++ (prefixed 2 e.body ++ s) := by simp
    rw [hsplit]
    exact u16At_prefixed h _ _ (by simp)

/-- The part of a server_name extension before the type of its entry. -/
lemma bytes_serverName (host : String) : ∃ front : List UInt8, front.length = 6 ∧
    (Extension.serverName host).bytes = front ++ 0x00 :: prefixed 2 host.toUTF8.data.toList := by
  refine ⟨toBE 2 0 ++ toBE 2 (Extension.serverName host).body.length ++
    toBE 2 (0x00 :: prefixed 2 host.toUTF8.data.toList).length, by simp, ?_⟩
  simp [Extension.bytes, Extension.type, Extension.body, prefixed]

/-- A server_name extension gives its host, whatever stands around it. -/
lemma serverName_at (host : String) (h : (Extension.serverName host).body.length < 2 ^ 16)
    (pre s : List UInt8) :
    serverName (pre ++ ((Extension.serverName host).bytes ++ s)) pre.length = some host := by
  obtain ⟨front, hfront, hbytes⟩ := bytes_serverName host
  have hname : host.toUTF8.data.toList.length < 2 ^ 16 := by
    simp only [Extension.body, length_prefixed, List.length_cons] at h
    omega
  have hhost := fromUtf8_toUTF8 host
  rw [hbytes]
  generalize host.toUTF8.data.toList = name at hname hhost
  -- the input, cut in front of the type of the entry, of its length, and of its bytes
  have htype : pre ++ ((front ++ 0x00 :: prefixed 2 name) ++ s) =
      (pre ++ front) ++ 0x00 :: (prefixed 2 name ++ s) := by simp
  have hlen : pre ++ ((front ++ 0x00 :: prefixed 2 name) ++ s) =
      (pre ++ front ++ [0x00]) ++ (prefixed 2 name ++ s) := by simp
  have htext : pre ++ ((front ++ 0x00 :: prefixed 2 name) ++ s) =
      (pre ++ front ++ [0x00] ++ toBE 2 name.length) ++ (name ++ s) := by simp [prefixed]
  have hnameLen : nameLen (pre ++ ((front ++ 0x00 :: prefixed 2 name) ++ s)) pre.length =
      name.length := by
    unfold nameLen
    rw [hlen]
    exact u16At_prefixed hname _ _ (by simp [hfront])
  have hnameBytes : nameBytes (pre ++ ((front ++ 0x00 :: prefixed 2 name) ++ s)) pre.length =
      name := by
    unfold nameBytes
    rw [hnameLen, htext, List.drop_left' (by simp [hfront]), List.take_left' rfl]
  apply serverName_eq_some_iff.mpr
  refine ⟨⟨?_, ?_, ?_⟩, ?_⟩
  · rw [htype]
    exact getD_append_length _ _ _ (by simp [hfront])
  · rw [hnameLen]
    simp [hfront]
    omega
  · rw [hnameBytes, hhost]
    rfl
  · rw [hnameBytes, hhost]

/-- The loop finds the host of the first server_name extension of the block. -/
lemma findServerName_extensions (extensions : List Extension) (pre s : List UInt8)
    (h : (extensions.flatMap Extension.bytes).length < 2 ^ 16) :
    findServerName (pre ++ (extensions.flatMap Extension.bytes ++ s))
        (pre.length + (extensions.flatMap Extension.bytes).length) pre.length =
      extensions.findSome? Extension.host? := by
  induction extensions generalizing pre with
  | nil =>
      rw [findServerName, if_neg (by simp)]
      rfl
  | cons e extensions ih =>
      rw [List.flatMap_cons, List.length_append, e.length_bytes] at h
      rw [List.flatMap_cons, List.length_append, List.append_assoc]
      have hbody : e.body.length < 2 ^ 16 := by omega
      obtain ⟨htype, hlen⟩ := e.fields_at hbody pre (extensions.flatMap Extension.bytes ++ s)
      have hroom : pre.length + 4 ≤
          min (pre.length + (e.bytes.length + (extensions.flatMap Extension.bytes).length))
            (pre ++ (e.bytes ++ (extensions.flatMap Extension.bytes ++ s))).length := by
        simp only [List.length_append, e.length_bytes]
        omega
      rw [findServerName, if_pos hroom, htype, hlen]
      cases e with
      | serverName host =>
          have hzero : (Extension.serverName host).type = 0x0000 := rfl
          rw [if_pos hzero, serverName_at host hbody]
          rfl
      | other type hne body =>
          have hother : (Extension.other type hne body).type ≠ 0x0000 := by
            intro hzero
            exact hne (UInt16.toNat_inj.mp hzero)
          have hih := ih (pre ++ (Extension.other type hne body).bytes) (by omega)
          rw [if_neg hother]
          rw [List.append_assoc, List.length_append, Nat.add_assoc] at hih
          rw [← (Extension.other type hne body).length_bytes, hih]
          rfl

/-! ## The whole message -/

/-- The scan goes from the start of the extensions. -/
lemma extractSni_of_span {data : List UInt8} {start stop : ℕ}
    (h : extensionsSpan data = some (start, stop)) :
    HostNames.extractSniFromClientHello data = findServerName data stop start := by
  rw [extractSni_eq_bind, h, findServerName_eq_bind]
  rfl

/-- The message from its session id on, followed by further bytes. -/
def Fields.fromSessionId (fields : Fields) (s : List UInt8) : List UInt8 :=
  prefixed 1 fields.sessionId ++ (prefixed 2 fields.cipherSuiteBytes ++
    (prefixed 1 fields.compressionMethods ++ (prefixed 2 fields.extensionBytes ++ s)))

/-- The 43 bytes in front of the session id. -/
lemma record_front (fields : Fields) (h : WellFormed fields) (s : List UInt8) :
    ∃ front : List UInt8, front.length = 43 ∧ front.getD 0 0 = 0x16 ∧ front.getD 5 0 = 0x01 ∧
      fields.record ++ s = front ++ fields.fromSessionId s := by
  refine ⟨0x16 :: (toBE 2 fields.recordVersion.toNat ++ toBE 2 fields.handshake.length) ++
    0x01 :: (toBE 3 fields.body.length ++ toBE 2 fields.legacyVersion.toNat ++ fields.random),
    by simp [h.random], rfl, ?_, ?_⟩
  · exact getD_append_length _ _ _ (by simp)
  · simp [Fields.record, Fields.handshake, Fields.body, Fields.fromSessionId, prefixed]

/-- Every part of the message is shorter than the message. -/
lemma lengths_lt (fields : Fields) (h : WellFormed fields) :
    fields.cipherSuiteBytes.length < 2 ^ 16 ∧ fields.extensionBytes.length < 2 ^ 16 := by
  have hrecord := h.record
  simp only [Fields.handshake, Fields.body, List.length_cons, List.length_append,
    length_prefixed] at hrecord
  omega

/-- The one-byte length in front of a body is read back, wherever it stands. -/
lemma getD_prefixed {body : List UInt8} (h : body.length < 2 ^ 8) (pre s : List UInt8) {i : ℕ}
    (hi : i = pre.length) : ((pre ++ (prefixed 1 body ++ s)).getD i 0).toNat = body.length := by
  rw [prefixed, toBE_one, List.append_assoc, List.singleton_append, getD_append_length _ _ _ hi]
  simp
  omega

/-- The length fields of the header lead to the extensions block. -/
lemma extensionsSpan_record (fields : Fields) (h : WellFormed fields) (s : List UInt8) :
    ∃ pre : List UInt8, fields.record ++ s = pre ++ (fields.extensionBytes ++ s) ∧
      extensionsSpan (fields.record ++ s) =
        some (pre.length, pre.length + fields.extensionBytes.length) := by
  obtain ⟨front, hfront, hcontent, hhandshake, hrecord⟩ := record_front fields h s
  obtain ⟨hcipher, hextensions⟩ := lengths_lt fields h
  have hcompression : 0 < fields.compressionMethods.length :=
    List.length_pos_iff.mpr h.compressionMethods
  have hsid := h.sessionId
  have hcomp := h.compressionLength
  rw [hrecord]
  unfold Fields.fromSessionId
  generalize fields.sessionId = sessionId at *
  generalize fields.cipherSuiteBytes = cipherSuites at *
  generalize fields.compressionMethods = compression at *
  generalize fields.extensionBytes = extensions at *
  set data := front ++ (prefixed 1 sessionId ++ (prefixed 2 cipherSuites ++
    (prefixed 1 compression ++ (prefixed 2 extensions ++ s)))) with hdata
  have hlength : data.length = 43 + (1 + sessionId.length) + (2 + cipherSuites.length) +
      (1 + compression.length) + (2 + extensions.length) + s.length := by
    simp [hdata, hfront]
    omega
  have hcontentAt : data.getD 0 0 = 0x16 := by
    rw [hdata, List.getD_append _ _ _ _ (by omega), hcontent]
  have hhandshakeAt : data.getD 5 0 = 0x01 := by
    rw [hdata, List.getD_append _ _ _ _ (by omega), hhandshake]
  have hsidAt : (data.getD 43 0).toNat = sessionId.length :=
    getD_prefixed hsid front _ hfront.symm
  have hcipherAt : u16At data (44 + sessionId.length) = cipherSuites.length := by
    have hsplit : data = (front ++ prefixed 1 sessionId) ++ (prefixed 2 cipherSuites ++
        (prefixed 1 compression ++ (prefixed 2 extensions ++ s))) := by simp [hdata]
    rw [hsplit]
    exact u16At_prefixed hcipher _ _ (by simp [hfront]; omega)
  have hcompAt : (data.getD (44 + sessionId.length + 2 + cipherSuites.length) 0).toNat =
      compression.length := by
    have hsplit : data = (front ++ prefixed 1 sessionId ++ prefixed 2 cipherSuites) ++
        (prefixed 1 compression ++ (prefixed 2 extensions ++ s)) := by simp [hdata]
    rw [hsplit]
    exact getD_prefixed hcomp _ _ (by simp [hfront]; omega)
  have hextensionsAt : u16At data (44 + sessionId.length + 2 + cipherSuites.length + 1 +
      compression.length) = extensions.length := by
    have hsplit : data = (front ++ prefixed 1 sessionId ++ prefixed 2 cipherSuites ++
        prefixed 1 compression) ++ (prefixed 2 extensions ++ s) := by simp [hdata]
    rw [hsplit]
    exact u16At_prefixed hextensions _ _ (by simp [hfront]; omega)
  refine ⟨front ++ prefixed 1 sessionId ++ prefixed 2 cipherSuites ++ prefixed 1 compression ++
    toBE 2 extensions.length, by simp [hdata, prefixed], ?_⟩
  unfold extensionsSpan
  simp only [hsidAt, hcipherAt, hcompAt, hextensionsAt]
  rw [if_neg (by omega), if_neg (not_not.mpr hcontentAt), if_neg (not_not.mpr hhandshakeAt),
    if_neg (by omega), if_neg (by omega), if_neg (by omega)]
  simp [hfront]
  omega

/-- **Completeness of the SNI parser.**  For every well-formed ClientHello in one record, whatever its
fields hold and whatever follows the record, the parser returns the host of the first server_name
extension, and nothing when there is no such extension. -/
theorem extractSni_record (fields : Fields) (h : WellFormed fields) (trailing : List UInt8) :
    HostNames.extractSniFromClientHello (fields.record ++ trailing) = fields.hostName := by
  obtain ⟨pre, hdata, hspan⟩ := extensionsSpan_record fields h trailing
  rw [extractSni_of_span hspan, hdata]
  exact findServerName_extensions fields.extensions pre trailing (lengths_lt fields h).2

/-- A ClientHello with two cipher suites, a session id, and its server name between two other
extensions. -/
def sampleHello : Fields where
  recordVersion := 0x0301
  legacyVersion := 0x0303
  random := List.replicate 32 0x07
  sessionId := [1, 2, 3]
  cipherSuites := [0x1301, 0x1302]
  compressionMethods := [0]
  extensions :=
    [.other 0x002b (by decide) [2, 3, 4], .serverName "b.example", .other 0x000a (by decide) []]

/-- The sample, with the start of a next record behind it. -/
theorem extractSni_record_sample :
    HostNames.extractSniFromClientHello (sampleHello.record ++ [0x16, 3]) = some "b.example" :=
  extractSni_record sampleHello
    ⟨by decide, by decide, by decide, by decide, by decide +kernel⟩ [0x16, 3]

end RustProxy.Server.ClientHello
