import RustProxy.Foundation.Crash
import RustProxy.Foundation.InetAddr

/-!
# The certificate of the server

`crates/core/src/tls.rs`: a self-signed certificate is generated and kept in two files, and later
starts load it from there.

* rcgen, pem and rustls-pemfile are outside the repository; they are the parameter `TlsLibs`.
* The programs act on the files of a `Host` one system call at a time.  The environment decides with an
  `Outcome` which call fails, and how much a `write_all` that fails has written.  Directories are no
  part of the host.
-/

namespace RustProxy.Core.Tls

open Prog Semantics InetAddr

abbrev Bytes := List UInt8

/-- Source: rustls-pki-types, `PrivateKeyDer`. -/
inductive PrivateKeyDer where
  | pkcs1 (der : Bytes)
  | pkcs8 (der : Bytes)
  | sec1 (der : Bytes)
  deriving DecidableEq, Repr

/-- A chain of certificates with the key of its first one. -/
structure CertPair where
  certs : List Bytes
  key : PrivateKeyDer
  deriving DecidableEq, Repr

/-- Source: rcgen, `DnType`. -/
inductive DnType where
  | commonName
  | organizationName
  deriving DecidableEq, Repr

/-- Source: rcgen, `SanType`. -/
inductive SanType where
  | dnsName (name : String)
  | ipAddress (ip : IpAddr)

/-- Source: rcgen, the fields of `CertificateParams` that are set. -/
structure CertificateParams where
  distinguishedName : List (DnType × String)
  subjectAltNames : List SanType

/-- What is used of rcgen, pem and rustls-pemfile.  A key pair stands also for what is drawn when a
certificate is signed with it. -/
structure TlsLibs (K : Type) where
  selfSigned : CertificateParams → K → Except String Bytes
  serializeDer : K → Bytes
  pemEncode : String → Bytes → Bytes
  certs : Bytes → Except String (List Bytes)
  privateKey : Bytes → Except String (Option PrivateKeyDer)

/-- Source: `error.rs`, `Error`, the variant of this file. -/
inductive Error where
  | tls (message : String)
  deriving DecidableEq, Repr

/-- Source: `error.rs`, the texts of `Error`. -/
def Error.toText : Error → String
  | tls message => "TLS 错误: " ++ message

/-! ## The host -/

/-- Who shows a certificate. -/
inductive Endpoint where
  | tunnel
  | https
  deriving DecidableEq, Repr

/-- The files, and what the listeners of the server have shown since it was looked at. -/
structure Host where
  files : String → Option Bytes
  shown : List (Endpoint × CertPair)

/-- What the environment decides for one call. -/
structure Outcome (K : Type) where
  failure : Option String
  written : ℕ
  keyPair : Except String K

/-- The calls. -/
inductive HostOp (K : Type) : Type → Type
  | pathExists (path : String) : HostOp K Bool
  | read (path : String) : HostOp K (Except String Bytes)
  | createParentDir (path : String) : HostOp K (Except String Unit)
  | create (path : String) : HostOp K (Except String Unit)
  | writeAll (path : String) (data : Bytes) : HostOp K (Except String Unit)
  | generateKeyPair : HostOp K (Except String K)
  | listen (endpoint : Endpoint) (pair : CertPair) : HostOp K Unit

variable {K : Type}

/-- The result of a call that yields nothing. -/
def Outcome.result (c : Outcome K) : Except String Unit :=
  match c.failure with
  | some e => .error e
  | none => .ok ()

/-- The bytes of `data` that reach the file. -/
def Outcome.reaching (c : Outcome K) (data : Bytes) : Bytes :=
  match c.failure with
  | some _ => data.take c.written
  | none => data

def Host.put (s : Host) (path : String) (data : Bytes) : Host :=
  { s with files := Function.update s.files path (some data) }

/-- What a call does. -/
def perform {β : Type} (op : HostOp K β) (c : Outcome K) (s : Host) : β × Host :=
  match op with
  | .pathExists path => ((s.files path).isSome, s)
  | .read path =>
      match c.failure, s.files path with
      | some e, _ => (.error e, s)
      | none, some data => (.ok data, s)
      | none, none => (.error "No such file or directory (os error 2)", s)
  | .createParentDir _ => (c.result, s)
  | .create path => (c.result, if c.failure.isSome then s else s.put path [])
  | .writeAll path data => (c.result, s.put path ((s.files path).getD [] ++ c.reaching data))
  | .generateKeyPair => (c.keyPair, s)
  | .listen endpoint pair =>
      ((), if c.failure.isSome then s else { s with shown := s.shown ++ [(endpoint, pair)] })

def semantics : Semantics (HostOp K) (Outcome K) Host := ⟨perform⟩

abbrev Program (K : Type) := Prog (HostOp K)

variable (L : TlsLibs K)

/-! ## Certificates -/

/-- `Ipv4Addr::new` -/
def ipv4Addr (a b c d : UInt8) : InetAddr.Ipv4Addr := ⟨[a, b, c, d], rfl⟩

/-- `Ipv6Addr::new` -/
def ipv6Addr (a b c d e f g h : UInt16) : InetAddr.Ipv6Addr := ⟨[a, b, c, d, e, f, g, h], rfl⟩

/-- The parameters that `generate_self_signed_cert` sets. -/
def certificateParams : CertificateParams where
  distinguishedName := [(.commonName, "RustProxy Server"), (.organizationName, "RustProxy")]
  subjectAltNames := [.dnsName "localhost", .ipAddress (.v4 (ipv4Addr 127 0 0 1)),
    .ipAddress (.v6 (ipv6Addr 0 0 0 0 0 0 0 1))]

/-- Source: `tls.rs`, `generate_self_signed_cert`. -/
def generateSelfSignedCert : Program K (Except Error CertPair) := do
  match ← lift .generateKeyPair with
  | .error e => return .error (.tls s!"生成密钥对失败: {e}")
  | .ok keyPair =>
      match L.selfSigned certificateParams keyPair with
      | .error e => return .error (.tls s!"自签证书失败: {e}")
      | .ok der => return .ok ⟨[der], .pkcs8 (L.serializeDer keyPair)⟩

/-- What the two files hold.  Source: `tls.rs`, `load_cert_from_files`, after the reads. -/
def parsePem (certPem keyPem : Bytes) : Except Error CertPair :=
  match L.certs certPem with
  | .error e => .error (.tls s!"解析证书 PEM 失败: {e}")
  | .ok certs =>
      match L.privateKey keyPem with
      | .error e => .error (.tls s!"解析密钥 PEM 失败: {e}")
      | .ok none => .error (.tls "未找到有效私钥")
      | .ok (some key) => .ok ⟨certs, key⟩

/-- Source: `tls.rs`, `load_cert_from_files`. -/
def loadCertFromFiles (certPath keyPath : String) : Program K (Except Error CertPair) := do
  match ← lift (.read certPath) with
  | .error e => return .error (.tls s!"读取证书文件失败 {certPath}: {e}")
  | .ok certPem =>
      match ← lift (.read keyPath) with
      | .error e => return .error (.tls s!"读取密钥文件失败 {keyPath}: {e}")
      | .ok keyPem => return parsePem L certPem keyPem

/-- The loop of `save_cert_to_files`. -/
def writeCerts (certPath : String) : List Bytes → Program K (Except Error Unit)
  | [] => return .ok ()
  | cert :: certs => do
      match ← lift (.writeAll certPath (L.pemEncode "CERTIFICATE" cert)) with
      | .error e => return .error (.tls s!"写入证书文件失败: {e}")
      | .ok () => writeCerts certPath certs

/-- The key as it is written. -/
def keyPem : PrivateKeyDer → Bytes
  | .pkcs1 der => L.pemEncode "RSA PRIVATE KEY" der
  | .pkcs8 der => L.pemEncode "PRIVATE KEY" der
  | .sec1 der => L.pemEncode "EC PRIVATE KEY" der

/-- Source: `tls.rs`, `save_cert_to_files`. -/
def saveCertToFiles (pair : CertPair) (certPath keyPath : String) :
    Program K (Except Error Unit) := do
  match ← lift (.createParentDir certPath) with
  | .error e => return .error (.tls s!"创建证书目录失败: {e}")
  | .ok () =>
      match ← lift (.createParentDir keyPath) with
      | .error e => return .error (.tls s!"创建密钥目录失败: {e}")
      | .ok () =>
          match ← lift (.create certPath) with
          | .error e => return .error (.tls s!"创建证书文件失败: {e}")
          | .ok () =>
              match ← writeCerts L certPath pair.certs with
              | .error e => return .error e
              | .ok () =>
                  match ← lift (.create keyPath) with
                  | .error e => return .error (.tls s!"创建密钥文件失败: {e}")
                  | .ok () =>
                      match ← lift (.writeAll keyPath (keyPem L pair.key)) with
                      | .error e => return .error (.tls s!"写入密钥文件失败: {e}")
                      | .ok () => return .ok ()

/-- The condition of `get_or_create_cert` for loading. -/
def filesExist (certPath keyPath : String) : Program K Bool := do
  if certPath = "" ∨ keyPath = "" then return false
  else if ← lift (.pathExists certPath) then lift (.pathExists keyPath)
  else return false

/-- Source: `tls.rs`, `get_or_create_cert`. -/
def getOrCreateCert (autoCert : Bool) (certPath keyPath : String) :
    Program K (Except Error CertPair) := do
  if ← filesExist certPath keyPath then loadCertFromFiles L certPath keyPath
  else
    match ← generateSelfSignedCert L with
    | .error e => return .error e
    | .ok pair =>
        if autoCert ∧ certPath ≠ "" ∧ keyPath ≠ "" then
          -- a failure is logged, and the certificate is used all the same
          let _ ← saveCertToFiles L pair certPath keyPath
          return .ok pair
        else return .ok pair

/-! ## The rules of the calls -/

section

variable {β : Type} {Q : β → Host → Prop} {C : Host → Prop} {s : Host} {path : String}

/-- Asking for a path changes nothing. -/
lemma survives_pathExists {next : Bool → Program K β} (hC : C s)
    (h : semantics.Survives (next (s.files path).isSome) s Q C) :
    semantics.Survives (.call (.pathExists path) next) s Q C := survives_call hC fun _ => h

/-- A read changes nothing and gives the whole file, or fails. -/
lemma survives_read {next : Except String Bytes → Program K β} (hC : C s)
    (herror : ∀ e, semantics.Survives (next (.error e)) s Q C)
    (hok : ∀ data, s.files path = some data → semantics.Survives (next (.ok data)) s Q C) :
    semantics.Survives (.call (.read path) next) s Q C := by
  refine survives_call hC fun c => ?_
  simp only [semantics, perform]
  split
  · exact herror _
  · next hdata => exact hok _ hdata
  · exact herror _

/-- Making a directory changes no file. -/
lemma survives_createParentDir {next : Except String Unit → Program K β} (hC : C s)
    (herror : ∀ e, semantics.Survives (next (.error e)) s Q C)
    (hok : semantics.Survives (next (.ok ())) s Q C) :
    semantics.Survives (.call (.createParentDir path) next) s Q C := by
  refine survives_call hC fun c => ?_
  simp only [semantics, perform, Outcome.result]
  split
  · exact herror _
  · exact hok

/-- A file that is created is empty. -/
lemma survives_create {next : Except String Unit → Program K β} (hC : C s)
    (herror : ∀ e, semantics.Survives (next (.error e)) s Q C)
    (hok : semantics.Survives (next (.ok ())) (s.put path []) Q C) :
    semantics.Survives (.call (.create path) next) s Q C := by
  refine survives_call hC fun c => ?_
  cases hfailure : c.failure with
  | some e => simpa [semantics, perform, Outcome.result, hfailure] using herror e
  | none => simpa [semantics, perform, Outcome.result, hfailure] using hok

/-- A write that fails may have written a part. -/
lemma survives_writeAll {next : Except String Unit → Program K β} {data before : Bytes} (hC : C s)
    (hbefore : s.files path = some before)
    (herror : ∀ e part, part <+: data →
      semantics.Survives (next (.error e)) (s.put path (before ++ part)) Q C)
    (hok : semantics.Survives (next (.ok ())) (s.put path (before ++ data)) Q C) :
    semantics.Survives (.call (.writeAll path data) next) s Q C := by
  refine survives_call hC fun c => ?_
  cases hfailure : c.failure with
  | some e =>
      simpa [semantics, perform, Outcome.result, Outcome.reaching, hfailure, hbefore] using
        herror e _ (List.take_prefix c.written data)
  | none =>
      simpa [semantics, perform, Outcome.result, Outcome.reaching, hfailure, hbefore] using hok

/-- Making a key changes no file. -/
lemma survives_generateKeyPair {next : Except String K → Program K β} (hC : C s)
    (h : ∀ r, semantics.Survives (next r) s Q C) :
    semantics.Survives (.call .generateKeyPair next) s Q C := survives_call hC fun _ => h _

/-- A listener that is bound shows its certificate. -/
lemma survives_listen {next : Unit → Program K β} {endpoint : Endpoint} {pair : CertPair} (hC : C s)
    (hfailed : semantics.Survives (next ()) s Q C)
    (hbound : semantics.Survives (next ()) { s with shown := s.shown ++ [(endpoint, pair)] } Q C) :
    semantics.Survives (.call (.listen endpoint pair) next) s Q C := by
  refine survives_call hC fun c => ?_
  simp only [semantics, perform]
  split
  · exact hfailed
  · exact hbound

end

/-! ## What the calls come to -/

/-- Both paths are configured, and both files are there. -/
structure Present (certPath keyPath : String) (s : Host) : Prop where
  certPath_ne : certPath ≠ ""
  keyPath_ne : keyPath ≠ ""
  cert : (s.files certPath).isSome
  key : (s.files keyPath).isSome

/-- What the two files hold is this pair. -/
def Holds (certPath keyPath : String) (s : Host) (pair : CertPair) : Prop :=
  ∃ certPem keyPem, s.files certPath = some certPem ∧ s.files keyPath = some keyPem ∧
    parsePem L certPem keyPem = .ok pair

/-- The pairs that `generate_self_signed_cert` may return. -/
inductive Generated : CertPair → Prop
  | mk {keyPair : K} {der : Bytes} (h : L.selfSigned certificateParams keyPair = .ok der) :
      Generated ⟨[der], .pkcs8 (L.serializeDer keyPair)⟩

/-- The certificates as they are written. -/
def certPem (certs : List Bytes) : Bytes := certs.flatMap (L.pemEncode "CERTIFICATE")

/-- The files of a save that has come to the key: the certificates, and a part of the key. -/
structure Written (certPath keyPath : String) (pair : CertPair) (s : Host) : Prop where
  certPath_ne : certPath ≠ ""
  keyPath_ne : keyPath ≠ ""
  cert : s.files certPath = some (certPem L pair.certs)
  key : ∃ part, s.files keyPath = some part ∧ part <+: keyPem L pair.key

/-- The second file is not there, or the files are those of a save that has come to the key. -/
def Settling (certPath keyPath : String) (s : Host) : Prop :=
  s.files keyPath = none ∨ ∃ pair, Generated L pair ∧ Written L certPath keyPath pair s

section

variable {L} {certPath keyPath : String} {s t : Host} {pair : CertPair}

/-- When a save has come to the key, both files are there. -/
lemma Written.present (h : Written L certPath keyPath pair s) : Present certPath keyPath s where
  certPath_ne := h.certPath_ne
  keyPath_ne := h.keyPath_ne
  cert := by simp [h.cert]
  key := by
    obtain ⟨part, hpart, -⟩ := h.key
    simp [hpart]

/-- While the host is settling, it has no key file or both files. -/
lemma Settling.cases (h : Settling L certPath keyPath s) :
    s.files keyPath = none ∨ Present certPath keyPath s := by
  rcases h with hnone | ⟨pair, -, hwritten⟩
  · exact .inl hnone
  · exact .inr hwritten.present

/-- It is about the files only. -/
lemma Settling.of_files (h : Settling L certPath keyPath s) (hfiles : t.files = s.files) :
    Settling L certPath keyPath t := by
  rcases h with hnone | ⟨pair, hpair, hwritten⟩
  · exact .inl (hfiles ▸ hnone)
  · refine .inr ⟨pair, hpair, hwritten.certPath_ne, hwritten.keyPath_ne, hfiles ▸ hwritten.cert, ?_⟩
    exact hfiles ▸ hwritten.key

/-- Without a key file, not both are present. -/
lemma not_present (h : s.files keyPath = none) : ¬ Present certPath keyPath s := by
  intro hpresent
  have hkey := hpresent.key
  simp [h] at hkey

/-- The two files are looked for. -/
lemma filesExist_survives : semantics.Survives (filesExist (K := K) certPath keyPath) s
    (fun found t => t = s ∧ (found = true ↔ Present certPath keyPath s)) (· = s) := by
  unfold filesExist
  split
  · next hempty =>
      refine survives_ret ⟨rfl, ?_⟩ rfl
      simp only [Bool.false_eq_true, false_iff]
      exact fun h => hempty.elim h.certPath_ne h.keyPath_ne
  · next hpaths =>
      obtain ⟨hcert, hkey⟩ := not_or.mp hpaths
      rw [lift_bind]
      refine survives_pathExists rfl ?_
      by_cases hfound : (s.files certPath).isSome
      · rw [if_pos hfound]
        exact survives_pathExists rfl (survives_ret ⟨rfl, fun h => ⟨hcert, hkey, hfound, h⟩,
          fun h => h.key⟩ rfl)
      · rw [if_neg hfound]
        exact survives_ret ⟨rfl, nofun, fun h => absurd h.cert hfound⟩ rfl

/-- Loading changes nothing, and what it yields is what the files hold. -/
lemma load_survives : semantics.Survives (loadCertFromFiles L certPath keyPath) s
    (fun r t => t = s ∧ ∀ pair, r = .ok pair → Holds L certPath keyPath s pair) (· = s) := by
  refine survives_read rfl (fun e => survives_ret ⟨rfl, nofun⟩ rfl) fun certPem hcert => ?_
  refine survives_read rfl (fun e => survives_ret ⟨rfl, nofun⟩ rfl) fun keyPem hkey => ?_
  exact survives_ret ⟨rfl, fun pair hpair => ⟨certPem, keyPem, hcert, hkey, hpair⟩⟩ rfl

/-- Generating changes nothing. -/
lemma generate_survives : semantics.Survives (generateSelfSignedCert L) s
    (fun r t => t = s ∧ ∀ pair, r = .ok pair → Generated L pair) (· = s) := by
  rw [generateSelfSignedCert, lift_bind]
  refine survives_generateKeyPair rfl fun r => ?_
  cases r with
  | error e => exact survives_ret ⟨rfl, nofun⟩ rfl
  | ok keyPair =>
      dsimp only
      split
      · exact survives_ret ⟨rfl, nofun⟩ rfl
      · next der hder =>
          refine survives_ret ⟨rfl, ?_⟩ rfl
          rintro _ ⟨⟩
          exact .mk hder

/-- Only the file at this path is another. -/
def OnlyAt (path : String) (s t : Host) : Prop :=
  t.shown = s.shown ∧ ∀ other ≠ path, t.files other = s.files other

/-- Any content of the certificate file is a change there only. -/
lemma OnlyAt.put (h : OnlyAt certPath s t) (data : Bytes) : OnlyAt certPath s (t.put certPath data) :=
  ⟨h.1, fun other hother => (Function.update_of_ne hother _ _).trans (h.2 other hother)⟩

/-- What was written last. -/
@[simp] lemma put_files_self (s : Host) (path : String) (data : Bytes) :
    (s.put path data).files path = some data := Function.update_self _ _ _

/-- Writing the certificates touches their file only, and without a failure they are all in it. -/
lemma writeCerts_survives (certs : List Bytes) {before : Bytes} (honly : OnlyAt certPath s t)
    (hbefore : t.files certPath = some before) :
    semantics.Survives (writeCerts L certPath certs) t
      (fun r u => OnlyAt certPath s u ∧
        (r = .ok () → u.files certPath = some (before ++ certPem L certs))) (OnlyAt certPath s) := by
  induction certs generalizing t before with
  | nil => exact survives_ret ⟨honly, fun _ => by simpa [certPem] using hbefore⟩ honly
  | cons cert certs ih =>
      refine survives_writeAll honly hbefore ?_ ?_
      · intro e part _
        exact survives_ret ⟨honly.put _, nofun⟩ (honly.put _)
      · refine (ih (honly.put _) (put_files_self _ _ _)).mono ?_ fun _ h => h
        rintro r u ⟨hu, hall⟩
        refine ⟨hu, fun hr => ?_⟩
        rw [hall hr, certPem, certPem, List.flatMap_cons, List.append_assoc]

/-- What a save that is cut off anywhere leaves, where the key was not there. -/
def SavePart (L : TlsLibs K) (certPath keyPath : String) (s : Host) (pair : CertPair) (t : Host) :
    Prop :=
  t.shown = s.shown ∧ (t.files keyPath = none ∨ Written L certPath keyPath pair t)

/-- With only the certificate file changed, nothing of the key is there yet. -/
lemma OnlyAt.savePart (h : OnlyAt certPath s t) (hne : certPath ≠ keyPath)
    (hkey : s.files keyPath = none) : SavePart L certPath keyPath s pair t :=
  ⟨h.1, .inl ((h.2 keyPath hne.symm).trans hkey)⟩

/-- The certificates are complete. -/
structure Certified (L : TlsLibs K) (certPath : String) (s : Host) (pair : CertPair) (t : Host) :
    Prop where
  shown : t.shown = s.shown
  cert : t.files certPath = some (certPem L pair.certs)

/-- Writing the key leaves the certificate. -/
lemma Certified.put (h : Certified L certPath s pair t) (hne : certPath ≠ keyPath) (data : Bytes) :
    Certified L certPath s pair (t.put keyPath data) :=
  ⟨h.shown, (Function.update_of_ne hne _ _).trans h.cert⟩

/-- With a part of the key written, the save has come that far. -/
lemma Certified.savePart (h : Certified L certPath s pair t) (hne : certPath ≠ keyPath)
    (hcert : certPath ≠ "") (hkey : keyPath ≠ "") {part : Bytes}
    (hpart : part <+: keyPem L pair.key) :
    SavePart L certPath keyPath s pair (t.put keyPath part) :=
  ⟨h.shown, .inr ⟨hcert, hkey, (h.put hne part).cert, part, put_files_self _ _ _, hpart⟩⟩

/-- Saving where the key is not there: the key comes into being after the certificates are complete. -/
lemma save_survives (hne : certPath ≠ keyPath) (hcert : certPath ≠ "") (hkey : keyPath ≠ "")
    (hnone : s.files keyPath = none) :
    semantics.Survives (saveCertToFiles L pair certPath keyPath) s
      (fun _ => SavePart L certPath keyPath s pair) (SavePart L certPath keyPath s pair) := by
  have hstart : SavePart L certPath keyPath s pair s := ⟨rfl, .inl hnone⟩
  have honly : OnlyAt certPath s (s.put certPath []) :=
    OnlyAt.put ⟨rfl, fun _ _ => rfl⟩ []
  refine survives_createParentDir hstart (fun e => survives_ret hstart hstart) ?_
  refine survives_createParentDir hstart (fun e => survives_ret hstart hstart) ?_
  refine survives_create hstart (fun e => survives_ret hstart hstart) ?_
  have hcerts := (writeCerts_survives (L := L) pair.certs honly (put_files_self s certPath [])).mono
    (fun _ _ h => h) fun _ h => (h.savePart hne hnone : SavePart L certPath keyPath s pair _)
  refine hcerts.bind ?_
  rintro r t ⟨ht, hall⟩
  have hpart : SavePart L certPath keyPath s pair t := ht.savePart hne hnone
  cases r with
  | error e => exact survives_ret hpart hpart
  | ok u =>
      have hcertified : Certified L certPath s pair t := ⟨ht.1, by simpa using hall rfl⟩
      refine survives_create hpart (fun e => survives_ret hpart hpart) ?_
      -- from here on the key is there
      have hcreated := hcertified.savePart hne hcert hkey List.nil_prefix
      refine survives_writeAll hcreated (put_files_self _ _ _) ?_ ?_
      · intro e part hpart
        have hend := (hcertified.put hne []).savePart hne hcert hkey hpart
        exact survives_ret hend hend
      · have hend := (hcertified.put hne []).savePart hne hcert hkey (List.prefix_refl _)
        exact survives_ret hend hend

/-- Where both files are there, they are loaded and nothing changes. -/
lemma getOrCreate_survives_present {autoCert : Bool} (h : Present certPath keyPath s) :
    semantics.Survives (getOrCreateCert L autoCert certPath keyPath) s
      (fun r t => t = s ∧ ∀ pair, r = .ok pair → Holds L certPath keyPath s pair) (· = s) := by
  refine filesExist_survives.bind ?_
  rintro found _ ⟨rfl, hfound⟩
  rw [if_pos (hfound.mpr h)]
  exact load_survives

/-- Where the key is not there, a pair is generated. -/
lemma getOrCreate_survives_none {autoCert : Bool} (hne : certPath ≠ keyPath)
    (hnone : s.files keyPath = none) :
    semantics.Survives (getOrCreateCert L autoCert certPath keyPath) s
      (fun r t => t.shown = s.shown ∧ Settling L certPath keyPath t ∧
        ∀ pair, r = .ok pair → Generated L pair)
      (fun t => t.shown = s.shown ∧ Settling L certPath keyPath t) := by
  have hstart : s.shown = s.shown ∧ Settling L certPath keyPath s := ⟨rfl, .inl hnone⟩
  refine (filesExist_survives.mono (fun _ _ h => h) fun t ht => ht ▸ hstart).bind ?_
  rintro found _ ⟨rfl, hfound⟩
  rw [if_neg (mt hfound.mp (not_present hnone))]
  refine (generate_survives.mono (fun _ _ h => h) fun t ht => ht ▸ hstart).bind ?_
  rintro r s ⟨rfl, hr⟩
  cases r with
  | error e => exact survives_ret ⟨rfl, hstart.2, nofun⟩ hstart
  | ok pair =>
      have hpair : Generated L pair := hr pair rfl
      have hdone : ∀ p, Except.ok (ε := Error) pair = .ok p → Generated L p := by
        rintro _ ⟨⟩
        exact hpair
      dsimp only
      split
      · next hauto =>
          have hsaved : ∀ t, SavePart L certPath keyPath s pair t →
              t.shown = s.shown ∧ Settling L certPath keyPath t := fun t ht =>
            ⟨ht.1, ht.2.imp id fun hwritten => ⟨pair, hpair, hwritten⟩⟩
          refine ((save_survives hne hauto.2.1 hauto.2.2 hnone).mono (fun _ _ h => h) hsaved).bind ?_
          intro _ t ht
          exact survives_ret ⟨(hsaved t ht).1, (hsaved t ht).2, hdone⟩ (hsaved t ht)
      · exact survives_ret ⟨rfl, hstart.2, hdone⟩ hstart

/-! ## When nothing fails -/

/-- No call fails. -/
def Outcome.wellWith (keyPair : K) : Outcome K := ⟨none, 0, .ok keyPair⟩

variable {keyPair : K} {der : Bytes} {β : Type}

section

variable {path : String}

/-- On a host that is well, the directory is made. -/
@[simp] lemma runConst_createParentDir (next : Except String Unit → Program K β) :
    semantics.runConst (.wellWith keyPair) (.call (.createParentDir path) next) s =
      semantics.runConst (.wellWith keyPair) (next (.ok ())) s := rfl

/-- On a host that is well, the file is created. -/
@[simp] lemma runConst_create (next : Except String Unit → Program K β) :
    semantics.runConst (.wellWith keyPair) (.call (.create path) next) s =
      semantics.runConst (.wellWith keyPair) (next (.ok ())) (s.put path []) := rfl

/-- On a host that is well, everything is written. -/
@[simp] lemma runConst_writeAll (data : Bytes) (next : Except String Unit → Program K β) :
    semantics.runConst (.wellWith keyPair) (.call (.writeAll path data) next) s =
      semantics.runConst (.wellWith keyPair) (next (.ok ()))
        (s.put path ((s.files path).getD [] ++ data)) := rfl

/-- On a host that is well, a key is made. -/
@[simp] lemma runConst_generateKeyPair (next : Except String K → Program K β) :
    semantics.runConst (.wellWith keyPair) (.call .generateKeyPair next) s =
      semantics.runConst (.wellWith keyPair) (next (.ok keyPair)) s := rfl

/-- On a host that is well, the listener is bound. -/
@[simp] lemma runConst_listen (endpoint : Endpoint) (next : Unit → Program K β) :
    semantics.runConst (.wellWith keyPair) (.call (.listen endpoint pair) next) s =
      semantics.runConst (.wellWith keyPair) (next ())
        { s with shown := s.shown ++ [(endpoint, pair)] } := rfl

end

/-- On a host that is well, the pair in the files is loaded. -/
lemma runConst_load (h : Holds L certPath keyPath s pair) :
    semantics.runConst (.wellWith keyPair) (loadCertFromFiles L certPath keyPath) s = (.ok pair, s) := by
  obtain ⟨certPem, keyPem, hcert, hkey, hpair⟩ := h
  simp [loadCertFromFiles, runConst, semantics, perform, Outcome.wellWith, hcert, hkey, hpair]

/-- On a host that is well, all certificates are written. -/
lemma runConst_writeCerts (certs : List Bytes) :
    (semantics.runConst (.wellWith keyPair) (writeCerts L certPath certs) s).1 = .ok () := by
  induction certs generalizing s with
  | nil => rfl
  | cons cert certs ih => exact ih

variable (L s pair keyPair) in
/-- A save that does not fail writes both. -/
lemma runConst_save (hne : certPath ≠ keyPath) :
    ∃ t, semantics.runConst (.wellWith keyPair) (saveCertToFiles L pair certPath keyPath) s =
        (.ok (), t) ∧ t.shown = s.shown ∧ t.files certPath = some (certPem L pair.certs) ∧
      t.files keyPath = some (keyPem L pair.key) := by
  obtain ⟨honly, hall⟩ :=
    (writeCerts_survives (L := L) pair.certs (OnlyAt.put ⟨rfl, fun _ _ => rfl⟩ [])
      (put_files_self s certPath [])).runConst (.wellWith keyPair)
  have hok : (semantics.runConst (.wellWith keyPair) (writeCerts L certPath pair.certs)
      (s.put certPath [])).1 = .ok () := runConst_writeCerts pair.certs
  have hcertified : Certified L certPath s pair _ := ⟨honly.1, by simpa using hall hok⟩
  have hend := (hcertified.put hne []).put hne (keyPem L pair.key)
  refine ⟨_, ?_, hend.shown, hend.cert, put_files_self _ _ _⟩
  simp [saveCertToFiles, runConst_bind, hok]

/-- The files are looked for without a change. -/
lemma runConst_filesExist (keyPair : K) (certPath keyPath : String) (s : Host) :
    (semantics.runConst (.wellWith keyPair) (filesExist certPath keyPath) s).2 = s ∧
      ((semantics.runConst (.wellWith keyPair) (filesExist certPath keyPath) s).1 = true ↔
        Present certPath keyPath s) := filesExist_survives.runConst (.wellWith keyPair)

/-- Where both files are there, their pair is loaded. -/
lemma runConst_getOrCreate_present {autoCert : Bool} (h : Present certPath keyPath s)
    (hpair : Holds L certPath keyPath s pair) :
    semantics.runConst (.wellWith keyPair) (getOrCreateCert L autoCert certPath keyPath) s =
      (.ok pair, s) := by
  obtain ⟨hstate, hfound⟩ := runConst_filesExist keyPair certPath keyPath s
  rw [getOrCreateCert, runConst_bind, hfound.mpr h, hstate, if_pos rfl]
  exact runConst_load hpair

/-- Where they are not, a pair is generated, and it is the one that is saved if any is. -/
lemma runConst_getOrCreate_absent (autoCert : Bool) (hne : certPath ≠ keyPath)
    (h : ¬ Present certPath keyPath s) (hder : L.selfSigned certificateParams keyPair = .ok der) :
    ∃ t, semantics.runConst (.wellWith keyPair) (getOrCreateCert L autoCert certPath keyPath) s =
        (.ok ⟨[der], .pkcs8 (L.serializeDer keyPair)⟩, t) ∧ t.shown = s.shown ∧
      (t = s ∨ Present certPath keyPath t ∧ t.files certPath = some (certPem L [der]) ∧
        t.files keyPath = some (keyPem L (.pkcs8 (L.serializeDer keyPair)))) := by
  obtain ⟨hstate, hfound⟩ := runConst_filesExist keyPair certPath keyPath s
  rw [getOrCreateCert, runConst_bind, hstate, if_neg (mt hfound.mp h), runConst_bind,
    generateSelfSignedCert, lift_bind, runConst_generateKeyPair]
  dsimp only
  rw [hder]
  simp only [pure_eq, runConst_ret]
  split
  · next hauto =>
      obtain ⟨t, hsave, hshown, hcert, hkey⟩ :=
        runConst_save L s ⟨[der], .pkcs8 (L.serializeDer keyPair)⟩ keyPair hne
      rw [runConst_bind, hsave]
      exact ⟨t, rfl, hshown, .inr ⟨⟨hauto.2.1, hauto.2.2, by simp [hcert], by simp [hkey]⟩, hcert,
        hkey⟩⟩
  · exact ⟨s, rfl, rfl, .inl rfl⟩

end

end RustProxy.Core.Tls
