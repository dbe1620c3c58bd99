import RustProxy.Foundation.ProxyHeader

/-!
# The PROXY header of a connection to a local service

`inject_proxy_protocol`, `build_proxy_protocol_v1` and `build_proxy_protocol_v2` of
`crates/client/src/proxy_worker.rs`: before the first byte of a user is passed on, the local service is
told in a header where the user comes from.  `user_addr` is the text of an address with a port, as the
server wrote it.

* `header_roundTrip`: who reads a header gets the user's address back and stops where the data begin.
* `versions_agree_iff`: the two versions tell the same unless the user's address is an IPv6 address.
  Then the destination is `::1` in one version and `::` in the other.
-/

namespace RustProxy.Client

open InetAddr Utf8 ProxyHeader
open BigEndian (toBE ofBE)

/-- `addr_str.parse()` with the error that both builders make of a failure. -/
def parseUserAddr (addrStr : String) : Except String SocketAddr :=
  match SocketAddr.ofText? addrStr.toList with
  | some addr => .ok addr
  | none => .error ("解析用户地址失败 " ++ addrStr ++ ": invalid socket address syntax")

/-- The line for an address: the local port is not known and written as 0. -/
def v1Line (family : String) (ip : List Char) (dst : String) (port : UInt16) : List UInt8 :=
  encode ("PROXY ".toList ++ family.toList ++ ' ' :: ip ++ ' ' :: dst.toList ++
    ' ' :: Nat.toDigits 10 port.toNat ++ ' ' :: Nat.toDigits 10 0 ++ "\r\n".toList)

/-- Source: `proxy_worker.rs`, `build_proxy_protocol_v1`. -/
def buildProxyProtocolV1 (userAddr : Option String) : Except String (List UInt8) :=
  match userAddr with
  | some addrStr =>
      match parseUserAddr addrStr with
      | .error e => .error e
      | .ok (.v4 ip port) => .ok (v1Line "TCP4" ip.text "127.0.0.1" port)
      | .ok (.v6 ip port _ _) => .ok (v1Line "TCP6" ip.text "::1" port)
  | none => .ok (encode "PROXY UNKNOWN\r\n".toList)

/-- Source: `proxy_worker.rs`, `SIGNATURE` of `build_proxy_protocol_v2`. -/
def v2Signature : List UInt8 :=
  [0x0d, 0x0a, 0x0d, 0x0a, 0x00, 0x0d, 0x0a, 0x51, 0x55, 0x49, 0x54, 0x0a]

/-- Source: `proxy_worker.rs`, `build_proxy_protocol_v2`.  The destination of an IPv6 user is sixteen
zero bytes; the comment beside them says `::1`. -/
def buildProxyProtocolV2 (userAddr : Option String) : Except String (List UInt8) :=
  match userAddr with
  | some addrStr =>
      match parseUserAddr addrStr with
      | .error e => .error e
      | .ok (.v4 ip port) =>
          .ok (v2Signature ++ [0x21] ++ [0x11] ++ toBE 2 12 ++ ip.octets ++ [127, 0, 0, 1] ++
            toBE 2 port.toNat ++ toBE 2 0)
      | .ok (.v6 ip port _ _) =>
          .ok (v2Signature ++ [0x21] ++ [0x21] ++ toBE 2 36 ++ ip.octets ++ List.replicate 16 0 ++
            toBE 2 port.toNat ++ toBE 2 0)
  | none => .ok (v2Signature ++ [0x20] ++ [0x00] ++ toBE 2 0)

/-- Source: `proxy_worker.rs`, `inject_proxy_protocol`: the bytes that are written to the local
connection first. -/
def injectProxyProtocol (userAddr : Option String) (version : String) : Except String (List UInt8) :=
  match version with
  | "v1" => buildProxyProtocolV1 userAddr
  | "v2" => buildProxyProtocolV2 userAddr
  | other => .error ("不支持的 PROXY Protocol 版本: " ++ other)

/-! ## What a header tells -/

/-- 127.0.0.1 -/
def ipv4Localhost : Ipv4Addr := ⟨[127, 0, 0, 1], rfl⟩

/-- ::1 -/
def ipv6Localhost : Ipv6Addr := ⟨[0, 0, 0, 0, 0, 0, 0, 1], rfl⟩

/-- :: -/
def ipv6Unspecified : Ipv6Addr := ⟨[0, 0, 0, 0, 0, 0, 0, 0], rfl⟩

/-- What is told of a user, with the destination of IPv6 users. -/
def toldOf (ipv6Dst : Ipv6Addr) : SocketAddr → Told
  | .v4 ip port => .tcp4 ip ipv4Localhost port 0
  | .v6 ip port _ _ => .tcp6 ip ipv6Dst port 0

/-- The source address of what the service is told. -/
@[simp] lemma source_toldOf (ipv6Dst : Ipv6Addr) (a : SocketAddr) :
    (toldOf ipv6Dst a).source = some (a.ip, a.port) := by
  cases a <;> rfl

/-- One line, ended by `\r\n`, of at most 107 bytes. -/
def OneLine (header : List UInt8) : Prop :=
  (∃ line, header = line ++ [13, 10] ∧ 13 ∉ line ∧ 10 ∉ line) ∧ header.length ≤ 107

/-- The length field is the number of the bytes behind it. -/
def LengthFits (header : List UInt8) : Prop :=
  header.length = 16 + ofBE ((header.drop 14).take 2)

/-- An address that can be read is used. -/
lemma parseUserAddr_of_ofText? {s : String} {a : SocketAddr}
    (h : SocketAddr.ofText? s.toList = some a) : parseUserAddr s = .ok a := by
  rw [parseUserAddr, h]

/-! ## Version 1 -/

/-- The words of the line. -/
def v1Words (family : String) (ip : List Char) (dst : String) (port : UInt16) : List (List Char) :=
  ["PROXY".toList, family.toList, ip, dst.toList, Nat.toDigits 10 port.toNat, Nat.toDigits 10 0]

/-- The line of version 1 is the words with blanks between them. -/
lemma v1Line_eq (family : String) (ip : List Char) (dst : String) (port : UInt16) :
    v1Line family ip dst port = encode (lineOf (v1Words family ip dst port)) ++ [13, 10] := by
  have hend : encode "\r\n".toList = [13, 10] := by decide
  unfold v1Line
  rw [encode_append, hend]
  simp [lineOf, v1Words, List.intercalate]

section

variable {family dst : String} {ip : List Char}

/-- No word of the line holds a blank or a line end. -/
lemma wordChar_v1Words (hfamily : ∀ c ∈ family.toList, WordChar c) (hip : ∀ c ∈ ip, AddrChar c)
    (hdst : ∀ c ∈ dst.toList, AddrChar c) (port : UInt16) :
    ∀ w ∈ v1Words family ip dst port, ∀ c ∈ w, WordChar c := by
  have hdigits : ∀ n, ∀ c ∈ Nat.toDigits 10 n, WordChar c := fun n c hc =>
    wordChar_of_addrChar (addrChar_of_mem_toDigits (by decide) (by decide) hc)
  simp only [v1Words, List.forall_mem_cons]
  refine ⟨forall_mem_of_all (by decide), hfamily, fun c hc => wordChar_of_addrChar (hip c hc),
    fun c hc => wordChar_of_addrChar (hdst c hc), hdigits _, hdigits _, by simp⟩

/-- The longest line is one with an IPv6 address of full length, 64 bytes. -/
lemma length_v1Words (hfamily : family.toList.length = 4) (hip : ip.length ≤ 39)
    (hdst : dst.toList.length ≤ 9) (port : UInt16) :
    (lineOf (v1Words family ip dst port)).length + 2 ≤ 107 := by
  have hport : (Nat.toDigits 10 port.toNat).length ≤ 5 :=
    (Nat.length_toDigits_le_iff (by decide) (by decide)).mpr
      (Nat.lt_of_lt_of_le port.toNat_lt (by decide))
  have hproxy : "PROXY".toList.length = 5 := rfl
  have hzero : (Nat.toDigits 10 0).length = 1 := rfl
  simp only [lineOf, v1Words, List.intercalate, List.intersperse, List.flatten_cons, List.flatten_nil,
    List.length_append, List.length_cons, List.length_nil, hfamily, hproxy, hzero]
  omega

/-- The line is one line, and it is read to its end. -/
lemma v1Line_spec (family dst : String) (hfamily : ∀ c ∈ family.toList, WordChar c)
    (hlen : family.toList.length = 4) (hip : ∀ c ∈ ip, AddrChar c) (hipLen : ip.length ≤ 39)
    (hdst : ∀ c ∈ dst.toList, AddrChar c) (hdstLen : dst.toList.length ≤ 9) (port : UInt16) :
    OneLine (v1Line family ip dst port) ∧ ∀ p, parseV1 (v1Line family ip dst port ++ p) =
      (toldOfWords (v1Words family ip dst port)).map (·, p) := by
  have hwords := wordChar_v1Words hfamily hip hdst port
  have hlength := length_v1Words hlen hipLen hdstLen port
  rw [v1Line_eq]
  refine ⟨⟨⟨_, rfl, not_mem_lineOf hwords⟩, ?_⟩, fun p => ?_⟩
  · rw [List.length_append, length_encode (ascii_lineOf hwords)]
    exact hlength
  · rw [List.append_assoc]
    exact parseV1_line (List.cons_ne_nil _ _) hwords hlength p

end

/-- The port that is written for the local side. -/
lemma portOfText?_zero : portOfText? (Nat.toDigits 10 0) = some 0 := portOfText?_toDigits 0

/-- The words of an IPv4 user. -/
lemma toldOfWords_v1Words_tcp4 (ip : Ipv4Addr) (port : UInt16) :
    toldOfWords (v1Words "TCP4" ip.text "127.0.0.1" port) = some (.tcp4 ip ipv4Localhost port 0) := by
  have hdst : Ipv4Addr.ofText? "127.0.0.1".toList = some ipv4Localhost := by decide
  have hfamily : toldOfWords (v1Words "TCP4" ip.text "127.0.0.1" port) =
      toldOfFields Ipv4Addr.ofText? .tcp4
        [ip.text, "127.0.0.1".toList, Nat.toDigits 10 port.toNat, Nat.toDigits 10 0] := rfl
  rw [hfamily, toldOfFields, Ipv4Addr.ofText?_text, hdst, portOfText?_toDigits, portOfText?_zero]
  rfl

/-- The words of an IPv6 user. -/
lemma toldOfWords_v1Words_tcp6 (ip : Ipv6Addr) (port : UInt16) :
    toldOfWords (v1Words "TCP6" ip.text "::1" port) = some (.tcp6 ip ipv6Localhost port 0) := by
  have hdst : Ipv6Addr.ofText? "::1".toList = some ipv6Localhost := by decide
  have hfamily : toldOfWords (v1Words "TCP6" ip.text "::1" port) =
      toldOfFields Ipv6Addr.ofText? .tcp6
        [ip.text, "::1".toList, Nat.toDigits 10 port.toNat, Nat.toDigits 10 0] := rfl
  rw [hfamily, toldOfFields, Ipv6Addr.ofText?_text, hdst, portOfText?_toDigits, portOfText?_zero]
  rfl

/-- What is read of a header of version 1: IPv6 users are told to go to `::1`. -/
lemma exists_headerV1 {s : String} {a : SocketAddr} (h : SocketAddr.ofText? s.toList = some a) :
    ∃ header, buildProxyProtocolV1 (some s) = .ok header ∧ OneLine header ∧
      ∀ p, parseV1 (header ++ p) = some (toldOf ipv6Localhost a, p) := by
  have haddr := parseUserAddr_of_ofText? h
  cases a with
  | v4 ip port =>
      obtain ⟨hline, hparse⟩ := v1Line_spec "TCP4" "127.0.0.1" (forall_mem_of_all (by decide))
        (by decide) ip.addrChar_text (Nat.le_trans ip.length_text_le (by decide))
        (forall_mem_of_all (by decide)) (by decide) port
      rw [toldOfWords_v1Words_tcp4] at hparse
      exact ⟨_, by rw [buildProxyProtocolV1, haddr], hline, hparse⟩
  | v6 ip port flowinfo scopeId =>
      obtain ⟨hline, hparse⟩ := v1Line_spec "TCP6" "::1" (forall_mem_of_all (by decide)) (by decide)
        ip.addrChar_text ip.length_text_le (forall_mem_of_all (by decide)) (by decide) port
      rw [toldOfWords_v1Words_tcp6] at hparse
      exact ⟨_, by rw [buildProxyProtocolV1, haddr], hline, hparse⟩

/-- Without a user address, version 1 says UNKNOWN. -/
lemma exists_headerV1_none :
    ∃ header, buildProxyProtocolV1 none = .ok header ∧ OneLine header ∧
      ∀ p, parseV1 (header ++ p) = some (.unknown, p) := by
  have hwords : ∀ w ∈ ["PROXY".toList, "UNKNOWN".toList], ∀ c ∈ w, WordChar c := by
    simp only [List.forall_mem_cons]
    exact ⟨forall_mem_of_all (by decide), forall_mem_of_all (by decide), by simp⟩
  have hheader : encode "PROXY UNKNOWN\r\n".toList =
      encode (lineOf ["PROXY".toList, "UNKNOWN".toList]) ++ [13, 10] := by decide
  refine ⟨_, rfl, ?_, fun p => ?_⟩
  · exact ⟨⟨_, hheader, not_mem_lineOf hwords⟩, by decide⟩
  · rw [hheader, List.append_assoc]
    exact parseV1_line (List.cons_ne_nil _ _) hwords (by decide) p

/-! ## Version 2 -/

/-- The length that is written is that of the addresses and ports. -/
lemma v2_spec (command kind : UInt8) {block : List UInt8} (hlen : block.length < 65536) :
    let header := v2Signature ++ command :: kind :: toBE 2 block.length ++ block
    LengthFits header ∧ ∀ p, parseV2 (header ++ p) = (toldOfCommand command kind block).map (·, p) := by
  intro header
  refine ⟨?_, fun p => parseV2_block command kind hlen p⟩
  have hfield : (header.drop 14).take 2 = toBE 2 block.length := rfl
  rw [LengthFits, hfield, BigEndian.ofBE_toBE_of_lt hlen]
  simp [header, v2Signature]
  omega

/-- The addresses and ports of a header. -/
def v2Block (src dst : List UInt8) (port : UInt16) : List UInt8 :=
  src ++ dst ++ toBE 2 port.toNat ++ toBE 2 (0 : UInt16).toNat

/-- Two addresses and two ports. -/
lemma length_v2Block (src dst : List UInt8) (port : UInt16) :
    (v2Block src dst port).length = src.length + dst.length + 4 := by
  simp [v2Block, Nat.add_assoc]

/-- A header for a connection, with the length `n` that the source writes for its kind. -/
lemma v2Header_spec {kind : UInt8} {n : ℕ} {src dst : List UInt8} {port : UInt16} {t : Told}
    (hlen : src.length + dst.length + 4 = n) (hlt : n < 65536)
    (htold : toldOfCommand 0x21 kind (v2Block src dst port) = some t) :
    let header := v2Signature ++ [0x21] ++ [kind] ++ toBE 2 n ++ src ++ dst ++ toBE 2 port.toNat ++
      toBE 2 0
    LengthFits header ∧ ∀ p, parseV2 (header ++ p) = some (t, p) := by
  have hblock : (v2Block src dst port).length = n := (length_v2Block src dst port).trans hlen
  obtain ⟨hfits, hparse⟩ := v2_spec 0x21 kind (hblock.trans_lt hlt)
  rw [htold, hblock] at hparse
  rw [hblock] at hfits
  intro header
  have hheader : header = v2Signature ++ 0x21 :: kind :: toBE 2 n ++ v2Block src dst port := by
    simp [header, v2Block]
  rw [hheader]
  exact ⟨hfits, hparse⟩

/-- What is read of a header of version 2: IPv6 users are told to go to `::`. -/
lemma exists_headerV2 {s : String} {a : SocketAddr} (h : SocketAddr.ofText? s.toList = some a) :
    ∃ header, buildProxyProtocolV2 (some s) = .ok header ∧ LengthFits header ∧
      ∀ p, parseV2 (header ++ p) = some (toldOf ipv6Unspecified a, p) := by
  have haddr := parseUserAddr_of_ofText? h
  cases a with
  | v4 ip port =>
      have htold : toldOfCommand 0x21 0x11 (v2Block ip.octets [127, 0, 0, 1] port) =
          some (.tcp4 ip ipv4Localhost port 0) :=
        toldOfBlock_append Told.tcp4 ip.length_octets rfl ip.ofOctets?_octets rfl port 0
      have hlen : ip.octets.length + 4 + 4 = 12 := by rw [ip.length_octets]
      obtain ⟨hfits, hparse⟩ := v2Header_spec hlen (by decide) htold
      exact ⟨_, by rw [buildProxyProtocolV2, haddr], hfits, hparse⟩
  | v6 ip port flowinfo scopeId =>
      have htold : toldOfCommand 0x21 0x21 (v2Block ip.octets (List.replicate 16 0) port) =
          some (.tcp6 ip ipv6Unspecified port 0) :=
        toldOfBlock_append Told.tcp6 ip.length_octets rfl ip.ofOctets?_octets rfl port 0
      have hlen : ip.octets.length + 16 + 4 = 36 := by rw [ip.length_octets]
      obtain ⟨hfits, hparse⟩ := v2Header_spec hlen (by decide) htold
      exact ⟨_, by rw [buildProxyProtocolV2, haddr], hfits, hparse⟩

/-- Without a user address, version 2 says that nothing is known. -/
lemma exists_headerV2_none :
    ∃ header, buildProxyProtocolV2 none = .ok header ∧ LengthFits header ∧
      ∀ p, parseV2 (header ++ p) = some (.unknown, p) := by
  have hempty : ([] : List UInt8).length < 65536 := by decide
  obtain ⟨hfits, hparse⟩ := v2_spec 0x20 0x00 hempty
  exact ⟨_, rfl, hfits, hparse⟩

/-! ## The two versions -/

/-- Both headers are read to their end, whatever data follow, and tell the user's address. -/
theorem header_roundTrip :
    (∀ (a : SocketAddr) (p : List UInt8),
      (∃ header t, buildProxyProtocolV1 (some (String.ofList a.text)) = .ok header ∧ OneLine header ∧
        parseV1 (header ++ p) = some (t, p) ∧ t.source = some (a.ip, a.port)) ∧
      ∃ header t, buildProxyProtocolV2 (some (String.ofList a.text)) = .ok header ∧
        LengthFits header ∧ parseV2 (header ++ p) = some (t, p) ∧ t.source = some (a.ip, a.port)) ∧
    ∀ p : List UInt8,
      (∃ header, buildProxyProtocolV1 none = .ok header ∧ OneLine header ∧
        parseV1 (header ++ p) = some (.unknown, p)) ∧
      ∃ header, buildProxyProtocolV2 none = .ok header ∧ LengthFits header ∧
        parseV2 (header ++ p) = some (.unknown, p) := by
  refine ⟨fun a p => ?_, fun p => ?_⟩
  · have hread : SocketAddr.ofText? (String.ofList a.text).toList = some a.withoutFlowinfo := by
      rw [String.toList_ofList]
      exact a.ofText?_text
    have hsource : ∀ dst, (toldOf dst a.withoutFlowinfo).source = some (a.ip, a.port) := by
      intro dst
      rw [source_toldOf]
      cases a <;> rfl
    obtain ⟨header1, hbuild1, hline, hparse1⟩ := exists_headerV1 hread
    obtain ⟨header2, hbuild2, hfits, hparse2⟩ := exists_headerV2 hread
    exact ⟨⟨header1, _, hbuild1, hline, hparse1 p, hsource _⟩,
      header2, _, hbuild2, hfits, hparse2 p, hsource _⟩
  · obtain ⟨header1, hbuild1, hline, hparse1⟩ := exists_headerV1_none
    obtain ⟨header2, hbuild2, hfits, hparse2⟩ := exists_headerV2_none
    exact ⟨⟨header1, hbuild1, hline, hparse1 p⟩, header2, hbuild2, hfits, hparse2 p⟩

/-- What a local service is told that reads what the client writes to it: a header and data. -/
def backendTold (parse : List UInt8 → Option (Told × List UInt8)) (header : Except String (List UInt8))
    (p : List UInt8) : Except String (Option (IpAddr × IpAddr × UInt16 × UInt16)) :=
  header.map fun header => (parse (header ++ p)).bind fun r => r.1.tuple

/-- A header that is read back tells the service what was read. -/
lemma backendTold_of_parse {build : Option String → Except String (List UInt8)}
    {parse : List UInt8 → Option (Told × List UInt8)} {userAddr : Option String} {header : List UInt8}
    {t : Told} (hbuild : build userAddr = .ok header) (hparse : ∀ p, parse (header ++ p) = some (t, p))
    (p : List UInt8) : backendTold parse (build userAddr) p = .ok t.tuple := by
  rw [hbuild]
  show Except.ok ((parse (header ++ p)).bind fun r => r.1.tuple) = _
  rw [hparse]
  rfl

/-- For a user address that can be read, both versions tell the service that address. -/
lemma backendTold_of_ofText? {s : String} {a : SocketAddr} (h : SocketAddr.ofText? s.toList = some a)
    (p : List UInt8) :
    backendTold parseV1 (buildProxyProtocolV1 (some s)) p = .ok (toldOf ipv6Localhost a).tuple ∧
      backendTold parseV2 (buildProxyProtocolV2 (some s)) p = .ok (toldOf ipv6Unspecified a).tuple := by
  obtain ⟨header1, hbuild1, -, hparse1⟩ := exists_headerV1 h
  obtain ⟨header2, hbuild2, -, hparse2⟩ := exists_headerV2 h
  exact ⟨backendTold_of_parse hbuild1 hparse1 p, backendTold_of_parse hbuild2 hparse2 p⟩

/-- The versions tell the same, or fail alike, exactly when the user's address is not an IPv6 one. -/
theorem versions_agree_iff (userAddr : Option String) (p : List UInt8) :
    backendTold parseV1 (buildProxyProtocolV1 userAddr) p =
        backendTold parseV2 (buildProxyProtocolV2 userAddr) p ↔
      ∀ s ∈ userAddr, ∀ ip port flowinfo scopeId,
        SocketAddr.ofText? s.toList ≠ some (.v6 ip port flowinfo scopeId) := by
  rcases userAddr with - | s
  · obtain ⟨header1, hbuild1, -, hparse1⟩ := exists_headerV1_none
    obtain ⟨header2, hbuild2, -, hparse2⟩ := exists_headerV2_none
    rw [backendTold_of_parse hbuild1 hparse1, backendTold_of_parse hbuild2 hparse2]
    simp
  · simp only [Option.mem_some_iff, forall_eq']
    rcases haddr : SocketAddr.ofText? s.toList with - | a
    · -- both fail with the same text
      have herror : buildProxyProtocolV1 (some s) = buildProxyProtocolV2 (some s) := by
        simp [buildProxyProtocolV1, buildProxyProtocolV2, parseUserAddr, haddr]
      have hfail : ∃ e, buildProxyProtocolV2 (some s) = .error e := by
        simp [buildProxyProtocolV2, parseUserAddr, haddr]
      obtain ⟨e, he⟩ := hfail
      rw [herror, he]
      simp [backendTold, Except.map]
    · obtain ⟨htold1, htold2⟩ := backendTold_of_ofText? haddr p
      rw [htold1, htold2]
      cases a with
      | v4 ip port => simp [toldOf]
      | v6 ip port flowinfo scopeId =>
          have hdst : ipv6Localhost ≠ ipv6Unspecified := by decide
          simp [toldOf, Told.tuple, hdst]

/-- A user at `[2001:db8::1]:5678`. -/
theorem ipv6_user_told_differently :
    backendTold parseV1 (buildProxyProtocolV1 (some "[2001:db8::1]:5678")) [] ≠
      backendTold parseV2 (buildProxyProtocolV2 (some "[2001:db8::1]:5678")) [] := by
  have hread : SocketAddr.ofText? "[2001:db8::1]:5678".toList =
      some (.v6 ⟨[0x2001, 0xdb8, 0, 0, 0, 0, 0, 1], rfl⟩ 5678 0 0) := by decide
  obtain ⟨htold1, htold2⟩ := backendTold_of_ofText? hread []
  rw [htold1, htold2]
  decide

end RustProxy.Client
