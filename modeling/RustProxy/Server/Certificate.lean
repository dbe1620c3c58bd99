import RustProxy.Core.Tls

/-!
# The certificate over restarts

`crates/server/src/cert.rs`, the calls of `crates/server/src/main.rs` that lead to a certificate, and
`build_client_tls_config` of `crates/client/src/connector.rs`.

A server is started any number of times on a host whose key file is not there at first.  Every start
may be cut off anywhere, and every system call in it may fail.

* `Settling` of `RustProxy.Core.Tls` is what such starts keep of the two files.
* `certificate_settles`: there is no key file yet, or every later start shows the one pair in the files,
  or no later start shows anything.
* `copied_certificate_iff`: a client that was given a copy of the certificate file can do with it for
  ever exactly if the key file was there when it was copied.
-/

namespace RustProxy.Server.Certificate

open RustProxy.Core.Tls Prog Semantics

/-- Source: `config.rs`, `TlsSection`. -/
structure TlsSection where
  autoCert : Bool
  certFile : String
  keyFile : String
  deriving DecidableEq, Repr

/-- What the server and the client use of rustls besides: `with_single_cert` and `RootCertStore::add`. -/
structure Rustls (K : Type) extends TlsLibs K where
  withSingleCert : CertPair → Except String Unit
  addRoot : Bytes → Except String Unit

/-- What is relied on, for the pairs that the server generates. -/
structure Rustls.Lawful {K : Type} (L : Rustls K) : Prop where
  certs : ∀ {keyPair der}, L.selfSigned certificateParams keyPair = .ok der →
    L.certs (L.pemEncode "CERTIFICATE" der) = .ok [der]
  key : ∀ keyPair, L.privateKey (L.pemEncode "PRIVATE KEY" (L.serializeDer keyPair)) =
    .ok (some (.pkcs8 (L.serializeDer keyPair)))
  /-- A file that ends too early has no other key in it. -/
  part : ∀ {keyPair part key}, part <+: L.pemEncode "PRIVATE KEY" (L.serializeDer keyPair) →
    L.privateKey part = .ok (some key) → key = .pkcs8 (L.serializeDer keyPair)
  single : ∀ {keyPair der}, L.selfSigned certificateParams keyPair = .ok der →
    L.withSingleCert ⟨[der], .pkcs8 (L.serializeDer keyPair)⟩ = .ok ()
  root : ∀ {keyPair der}, L.selfSigned certificateParams keyPair = .ok der → L.addRoot der = .ok ()

variable {K : Type} (L : Rustls K) (tls : TlsSection) (httpsPort : UInt16)

/-- Source: `cert.rs`, `build_server_tls_config`. -/
def buildServerTlsConfig : Program K (Except String CertPair) := do
  match ← getOrCreateCert L.toTlsLibs tls.autoCert tls.certFile tls.keyFile with
  | .error e => return .error e.toText
  | .ok pair =>
      match L.withSingleCert pair with
      | .error e => return .error s!"TLS 配置失败: {e}"
      | .ok () => return .ok pair

/-- Source: `main.rs`, `main`, the configurations and the listeners that are given them. -/
def main : Program K (Except String Unit) := do
  match ← buildServerTlsConfig L tls with
  | .error e => return .error e
  | .ok tunnel =>
      if 0 < httpsPort then
        match ← buildServerTlsConfig L tls with
        | .error e => return .error e
        | .ok https =>
            lift (.listen .https https)
            lift (.listen .tunnel tunnel)
            return .ok ()
      else
        lift (.listen .tunnel tunnel)
        return .ok ()

/-- How a client checks the server. -/
inductive ServerVerifier where
  | noVerifier
  | roots (certs : List Bytes)
  deriving DecidableEq, Repr

/-- Source: `connector.rs`, `build_client_tls_config`; `caPem` is what reading the file yields. -/
def buildClientTlsConfig (caCertPath : String) (caPem : Except String Bytes) :
    Except String ServerVerifier :=
  if caCertPath = "" then .ok .noVerifier
  else
    match caPem with
    | .error e => .error s!"读取 CA 证书失败 {caCertPath}: {e}"
    | .ok caPem =>
        match L.certs caPem with
        | .error e => .error s!"解析 CA 证书失败: {e}"
        | .ok caCerts => (caCerts.forM L.addRoot).map fun _ => .roots caCerts

/-! ## One start -/

/-- The host, with nothing shown so far. -/
def unseen (s : Host) : Host := { s with shown := [] }

/-- What is shown from `s` on, by a server that is started again and again. -/
def shownLater (s : Host) (later : List (List (Outcome K))) : List (Endpoint × CertPair) :=
  (semantics.restarts (main L tls httpsPort) (unseen s) later).shown

variable {L tls httpsPort} {s t : Host} {pair : CertPair}

/-- What the configurations keep and showing them keeps, a start keeps. -/
lemma main_survives {I : Host → Prop} {P : CertPair → Prop}
    (hbuild : ∀ t, I t → semantics.Survives (buildServerTlsConfig L tls) t
      (fun r u => I u ∧ ∀ pair, r = .ok pair → P pair) I)
    (hlisten : ∀ t endpoint pair, I t → P pair → I { t with shown := t.shown ++ [(endpoint, pair)] })
    (h : I t) : semantics.Survives (main L tls httpsPort) t (fun _ => I) I := by
  have htunnel : ∀ {u tunnel}, I u → P tunnel →
      semantics.Survives
        (.call (.listen .tunnel tunnel) fun _ => .ret (.ok ()) : Program K (Except String Unit)) u
        (fun _ => I) I := fun hu htunnel =>
    survives_listen hu (survives_ret hu hu)
      (survives_ret (hlisten _ _ _ hu htunnel) (hlisten _ _ _ hu htunnel))
  refine (hbuild t h).bind ?_
  rintro r t ⟨h, hr⟩
  cases r with
  | error e => exact survives_ret h h
  | ok tunnel =>
      dsimp only
      split
      · refine (hbuild t h).bind ?_
        rintro r' t ⟨h, hr'⟩
        cases r' with
        | error e => exact survives_ret h h
        | ok https =>
            exact survives_listen h (htunnel h (hr tunnel rfl))
              (htunnel (hlisten _ _ _ h (hr' https rfl)) (hr tunnel rfl))
      · exact htunnel h (hr tunnel rfl)

/-- Both files are there, with what they hold in `s`, and only that is shown. -/
def ShowsFiles (L : Rustls K) (tls : TlsSection) (s t : Host) : Prop :=
  t.files = s.files ∧ ∀ x ∈ t.shown, Holds L.toTlsLibs tls.certFile tls.keyFile s x.2

/-- A listener shows the pair in the files. -/
lemma ShowsFiles.listen {endpoint : Endpoint} (h : ShowsFiles L tls s t)
    (hpair : Holds L.toTlsLibs tls.certFile tls.keyFile s pair) :
    ShowsFiles L tls s { t with shown := t.shown ++ [(endpoint, pair)] } := by
  refine ⟨h.1, fun x hx => ?_⟩
  rcases List.mem_append.mp hx with hx | hx
  · exact h.2 x hx
  · rw [List.mem_singleton.mp hx]
    exact hpair

/-- The files of a host that shows them stay present. -/
lemma ShowsFiles.present (h : ShowsFiles L tls s t) (hs : Present tls.certFile tls.keyFile s) :
    Present tls.certFile tls.keyFile t where
  certPath_ne := hs.certPath_ne
  keyPath_ne := hs.keyPath_ne
  cert := h.1 ▸ hs.cert
  key := h.1 ▸ hs.key

/-- A configuration is made of what the files hold. -/
lemma build_survives_present (h : ShowsFiles L tls s t) (hs : Present tls.certFile tls.keyFile s) :
    semantics.Survives (buildServerTlsConfig L tls) t
      (fun r u => ShowsFiles L tls s u ∧
        ∀ pair, r = .ok pair → Holds L.toTlsLibs tls.certFile tls.keyFile s pair)
      (ShowsFiles L tls s) := by
  refine ((getOrCreate_survives_present (h.present hs)).mono (fun _ _ h => h)
    (D := ShowsFiles L tls s) fun u hu => hu ▸ h).bind ?_
  rintro r _ ⟨rfl, hr⟩
  cases r with
  | error e => exact survives_ret ⟨h, nofun⟩ h
  | ok pair =>
      dsimp only
      split
      · exact survives_ret ⟨h, nofun⟩ h
      · refine survives_ret ⟨h, ?_⟩ h
        rintro _ ⟨⟩
        obtain ⟨certPem, keyPem, hcert, hkey, hpair⟩ := hr pair rfl
        exact ⟨certPem, keyPem, h.1 ▸ hcert, h.1 ▸ hkey, hpair⟩

/-- Where both files are there, they stay as they are and what they hold is all that is shown. -/
theorem holds_of_shownLater (hs : Present tls.certFile tls.keyFile s)
    (later : List (List (Outcome K))) {x : Endpoint × CertPair}
    (hx : x ∈ shownLater L tls httpsPort s later) :
    Holds L.toTlsLibs tls.certFile tls.keyFile s x.2 :=
  have hstart : ∀ t, ShowsFiles L tls s t →
      semantics.Survives (main L tls httpsPort) t (fun _ => ShowsFiles L tls s)
        (ShowsFiles L tls s) := fun _ ht =>
    main_survives (fun _ hu => build_survives_present hu hs) (fun _ _ _ hu hpair => hu.listen hpair) ht
  (restarts_invariant hstart (show ShowsFiles L tls s (unseen s) from ⟨rfl, nofun⟩) later).2 x hx

/-! ## What starts make of the files -/

/-- The two files of the configuration, as `Settling` has them. -/
abbrev TlsSection.Settling (tls : TlsSection) (L : Rustls K) (s : Host) : Prop :=
  Core.Tls.Settling L.toTlsLibs tls.certFile tls.keyFile s

/-- A start that is cut off anywhere keeps the host settling. -/
lemma build_survives_settling (hne : tls.certFile ≠ tls.keyFile) (h : tls.Settling L s) :
    semantics.Survives (buildServerTlsConfig L tls) s
      (fun _ => tls.Settling L) (tls.Settling L) := by
  have hpair : semantics.Survives
      (getOrCreateCert L.toTlsLibs tls.autoCert tls.certFile tls.keyFile) s
      (fun _ => tls.Settling L) (tls.Settling L) := by
    rcases h.cases with hnone | hpresent
    · exact (getOrCreate_survives_none hne hnone).mono (fun _ _ h => h.2.1) fun _ h => h.2
    · exact (getOrCreate_survives_present hpresent).mono (fun _ _ hu => hu.1 ▸ h)
        fun _ hu => hu ▸ h
  refine hpair.bind fun r t ht => ?_
  cases r with
  | error e => exact survives_ret ht ht
  | ok pair =>
      dsimp only
      split
      · exact survives_ret ht ht
      · exact survives_ret ht ht

/-- Over any number of starts. -/
theorem settling_of_restarts (hne : tls.certFile ≠ tls.keyFile) {s₀ : Host}
    (hfresh : s₀.files tls.keyFile = none) (starts : List (List (Outcome K))) :
    tls.Settling L (semantics.restarts (main L tls httpsPort) s₀ starts) := by
  refine restarts_invariant (I := tls.Settling L) (fun s h => ?_) (.inl hfresh) starts
  refine main_survives (P := fun _ => True) (fun t ht => ?_) (fun t _ _ ht _ => ht.of_files rfl) h
  exact (build_survives_settling hne ht).mono (fun _ _ h => ⟨h, fun _ _ => trivial⟩) fun _ h => h

/-! ## When nothing fails -/

variable {keyPair : K} {der : Bytes}

/-- The pair that is generated from `keyPair`. -/
def pairOf (L : Rustls K) (keyPair : K) (der : Bytes) : CertPair :=
  ⟨[der], .pkcs8 (L.serializeDer keyPair)⟩

/-- Both files written as a whole hold the pair. -/
lemma holds_of_whole (hL : L.Lawful) (hder : L.selfSigned certificateParams keyPair = .ok der)
    (hcert : s.files tls.certFile = some (certPem L.toTlsLibs [der]))
    (hkey : s.files tls.keyFile = some (keyPem L.toTlsLibs (.pkcs8 (L.serializeDer keyPair)))) :
    Holds L.toTlsLibs tls.certFile tls.keyFile s (pairOf L keyPair der) := by
  refine ⟨_, _, hcert, hkey, ?_⟩
  simp [parsePem, certPem, keyPem, hL.certs hder, hL.key keyPair, pairOf]

/-- The configuration of a pair in the files. -/
lemma runConst_build_present (h : Present tls.certFile tls.keyFile s)
    (hpair : Holds L.toTlsLibs tls.certFile tls.keyFile s pair)
    (hsingle : L.withSingleCert pair = .ok ()) :
    semantics.runConst (.wellWith keyPair) (buildServerTlsConfig L tls) s = (.ok pair, s) := by
  rw [buildServerTlsConfig, runConst_bind, runConst_getOrCreate_present h hpair]
  simp [hsingle]

/-- The configuration of a pair that is generated. -/
lemma runConst_build_absent (hL : L.Lawful) (hne : tls.certFile ≠ tls.keyFile)
    (h : ¬ Present tls.certFile tls.keyFile s)
    (hder : L.selfSigned certificateParams keyPair = .ok der) :
    ∃ t, semantics.runConst (.wellWith keyPair) (buildServerTlsConfig L tls) s =
        (.ok (pairOf L keyPair der), t) ∧ t.shown = s.shown ∧
      (t = s ∨ Present tls.certFile tls.keyFile t ∧
        Holds L.toTlsLibs tls.certFile tls.keyFile t (pairOf L keyPair der)) := by
  obtain ⟨t, hrun, hshown, hfiles⟩ :=
    runConst_getOrCreate_absent (L := L.toTlsLibs) tls.autoCert hne h hder
  refine ⟨t, ?_, hshown, hfiles.imp id fun hsaved => ?_⟩
  · rw [buildServerTlsConfig, runConst_bind, hrun]
    simp [hL.single hder, pairOf]
  · exact ⟨hsaved.1, holds_of_whole hL hder hsaved.2.1 hsaved.2.2⟩

/-- A start in which nothing fails shows the pair of its configurations on the tunnel. -/
lemma shows_of_builds (hfirst : ∃ t, semantics.runConst (.wellWith keyPair)
      (buildServerTlsConfig L tls) (unseen s) = (.ok pair, t) ∧
      ∃ u other, semantics.runConst (.wellWith keyPair) (buildServerTlsConfig L tls) t =
        (.ok other, u)) :
    ∃ cs, (.tunnel, pair) ∈ shownLater L tls httpsPort s [cs] := by
  obtain ⟨t, hfirst, u, other, hsecond⟩ := hfirst
  obtain ⟨cs, hcs⟩ := semantics.exists_runFor_eq_runConst (.wellWith keyPair)
    (main L tls httpsPort) (unseen s)
  refine ⟨cs, ?_⟩
  change _ ∈ (semantics.runFor (main L tls httpsPort) cs (unseen s)).2.shown
  rw [hcs, main, runConst_bind, hfirst]
  dsimp only
  split
  · rw [runConst_bind, hsecond]
    simp
  · simp

/-- The next start may show any pair where the two files are not there. -/
lemma shows_absent (hL : L.Lawful) (hne : tls.certFile ≠ tls.keyFile)
    (h : ¬ Present tls.certFile tls.keyFile s)
    (hder : L.selfSigned certificateParams keyPair = .ok der) :
    ∃ cs, (.tunnel, pairOf L keyPair der) ∈ shownLater L tls httpsPort s [cs] := by
  have habsent : ¬ Present tls.certFile tls.keyFile (unseen s) := fun hthere =>
    h ⟨hthere.certPath_ne, hthere.keyPath_ne, hthere.cert, hthere.key⟩
  obtain ⟨t, hfirst, -, hfiles⟩ := runConst_build_absent hL hne habsent hder
  refine shows_of_builds ⟨t, hfirst, ?_⟩
  rcases hfiles with rfl | ⟨hpresent, hholds⟩
  · exact ⟨_, _, hfirst⟩
  · exact ⟨t, _, runConst_build_present hpresent hholds (hL.single hder)⟩

/-- The next start may show the pair that the files hold. -/
lemma shows_present (h : Present tls.certFile tls.keyFile s)
    (hpair : Holds L.toTlsLibs tls.certFile tls.keyFile s pair)
    (hsingle : L.withSingleCert pair = .ok ()) (keyPair : K) :
    ∃ cs, (.tunnel, pair) ∈ shownLater L tls httpsPort s [cs] := by
  have hthere : Present tls.certFile tls.keyFile (unseen s) :=
    ⟨h.certPath_ne, h.keyPath_ne, h.cert, h.key⟩
  have hbuild : semantics.runConst (.wellWith keyPair) (buildServerTlsConfig L tls) (unseen s) =
      (.ok pair, unseen s) := runConst_build_present hthere hpair hsingle
  exact shows_of_builds ⟨unseen s, hbuild, unseen s, pair, hbuild⟩

/-! ## What becomes of the certificate -/

/-- There is no key file, and the next start may show any pair that it generates. -/
structure Open (L : Rustls K) (tls : TlsSection) (httpsPort : UInt16) (s : Host) : Prop where
  key : s.files tls.keyFile = none
  any : ∀ keyPair der, L.selfSigned certificateParams keyPair = .ok der →
    ∃ cs, (.tunnel, pairOf L keyPair der) ∈ shownLater L tls httpsPort s [cs]

/-- The files hold this pair, the next start can show it, and no later one shows another. -/
structure Settled (L : Rustls K) (tls : TlsSection) (httpsPort : UInt16) (s : Host)
    (pair : CertPair) : Prop where
  generated : Generated L.toTlsLibs pair
  holds : Holds L.toTlsLibs tls.certFile tls.keyFile s pair
  next : ∃ cs, (.tunnel, pair) ∈ shownLater L tls httpsPort s [cs]
  only : ∀ later, ∀ x ∈ shownLater L tls httpsPort s later, x.2 = pair

/-- The key file ends too early, and no later start shows anything. -/
structure Stuck (L : Rustls K) (tls : TlsSection) (httpsPort : UInt16) (s : Host)
    (pair : CertPair) : Prop where
  generated : Generated L.toTlsLibs pair
  key : ∃ part, s.files tls.keyFile = some part ∧ part <+: keyPem L.toTlsLibs pair.key ∧
    part ≠ keyPem L.toTlsLibs pair.key
  nothing : ∀ later, shownLater L tls httpsPort s later = []

/-- The files hold one pair only. -/
lemma holds_unique {other : CertPair} (h : Holds L.toTlsLibs tls.certFile tls.keyFile s pair)
    (h' : Holds L.toTlsLibs tls.certFile tls.keyFile s other) : other = pair := by
  obtain ⟨certPem, keyPem, hcert, hkey, hpair⟩ := h
  obtain ⟨certPem', keyPem', hcert', hkey', hother⟩ := h'
  obtain rfl : certPem = certPem' := Option.some.inj (hcert.symm.trans hcert')
  obtain rfl : keyPem = keyPem' := Option.some.inj (hkey.symm.trans hkey')
  exact Except.ok.inj (hother.symm.trans hpair)

/-- What is shown later is read from the key file as it is. -/
lemma privateKey_of_holds {certPem keyPem : Bytes} (hcert : s.files tls.certFile = some certPem)
    (hkey : s.files tls.keyFile = some keyPem)
    (h : Holds L.toTlsLibs tls.certFile tls.keyFile s pair) :
    L.certs certPem = .ok pair.certs ∧ L.privateKey keyPem = .ok (some pair.key) := by
  obtain ⟨certPem', keyPem', hcert', hkey', hpair⟩ := h
  obtain rfl : certPem = certPem' := Option.some.inj (hcert.symm.trans hcert')
  obtain rfl : keyPem = keyPem' := Option.some.inj (hkey.symm.trans hkey')
  unfold parsePem at hpair
  split at hpair
  · cases hpair
  · next certs hcerts =>
      split at hpair
      · cases hpair
      · cases hpair
      · next key hread =>
          cases hpair
          exact ⟨hcerts, hread⟩

/-- The pair of which a save has written all or a part is shown from then on, or none ever is. -/
lemma settled_or_stuck (hL : L.Lawful) (hder : L.selfSigned certificateParams keyPair = .ok der)
    (h : Written L.toTlsLibs tls.certFile tls.keyFile (pairOf L keyPair der) s) :
    Settled L tls httpsPort s (pairOf L keyPair der) ∨
      Stuck L tls httpsPort s (pairOf L keyPair der) := by
  have hlater : ∀ later, ∀ x ∈ shownLater L tls httpsPort s later,
      Holds L.toTlsLibs tls.certFile tls.keyFile s x.2 := holds_of_shownLater h.present
  obtain ⟨part, hfile, hpart⟩ := h.key
  by_cases hread : ∃ key, L.privateKey part = .ok (some key)
  · obtain ⟨key, hkey⟩ := hread
    have hsame : key = .pkcs8 (L.serializeDer keyPair) := hL.part hpart hkey
    have hholds : Holds L.toTlsLibs tls.certFile tls.keyFile s (pairOf L keyPair der) := by
      refine ⟨_, part, h.cert, hfile, ?_⟩
      simp [parsePem, certPem, pairOf, hL.certs hder, hkey, hsame]
    exact .inl ⟨.mk hder, hholds, shows_present h.present hholds (hL.single hder) keyPair,
      fun later x hx => holds_unique hholds (hlater later _ hx)⟩
  · refine .inr ⟨.mk hder, ⟨part, hfile, hpart, ?_⟩, fun later => ?_⟩
    · rintro rfl
      exact hread ⟨_, hL.key keyPair⟩
    · refine List.eq_nil_iff_forall_not_mem.mpr fun x hx => hread ⟨x.2.key, ?_⟩
      exact (privateKey_of_holds h.cert hfile (hlater later _ hx)).2

/-- The PEM text of one byte, in base64 as given. -/
def pemText (tag base64 : String) : Bytes :=
  (s!"-----BEGIN {tag}-----\r\n{base64}\r\n-----END {tag}-----\r\n").toList.map Char.toUInt8

/-- The sections in base64 of the bytes 1 to 4. -/
def sampleEncode (tag : String) : Bytes → Bytes
  | [1] => pemText tag "AQ=="
  | [2] => pemText tag "Ag=="
  | [3] => pemText tag "Aw=="
  | _ => pemText tag "BA=="

/-- A host that may generate two key pairs, whose certificates and keys are a byte each. -/
def sampleRustls : Rustls Bool where
  selfSigned := fun _ keyPair => .ok [if keyPair then 2 else 1]
  serializeDer := fun keyPair => [if keyPair then 4 else 3]
  pemEncode := sampleEncode
  certs := fun pem =>
    if pem = sampleEncode "CERTIFICATE" [1] then .ok [[1]]
    else if pem = sampleEncode "CERTIFICATE" [2] then .ok [[2]]
    else if pem = [] then .ok []
    else .error "section end missing"
  privateKey := fun pem =>
    if pem = sampleEncode "PRIVATE KEY" [3] then .ok (some (.pkcs8 [3]))
    else if pem = sampleEncode "PRIVATE KEY" [4] then .ok (some (.pkcs8 [4]))
    else if pem = [] then .ok none
    else .error "section end missing"
  withSingleCert := fun _ => .ok ()
  addRoot := fun _ => .ok ()

/-- The sample library is lawful. -/
lemma sampleRustls_lawful : sampleRustls.Lawful where
  certs := by
    rintro (_ | _) _ ⟨⟩
    · decide +kernel
    · decide +kernel
  key := by
    rintro (_ | _)
    · decide +kernel
    · decide +kernel
  part := by
    intro keyPair part key hpart hread
    simp only [sampleRustls] at hpart hread
    split_ifs at hread with hfirst hsecond hempty
    · cases hread
      cases keyPair with
      | false => rfl
      | true => exact absurd (hfirst ▸ hpart) (by decide +kernel)
    · cases hread
      cases keyPair with
      | false => exact absurd (hsecond ▸ hpart) (by decide +kernel)
      | true => rfl
    · cases hread
  single := fun _ => rfl
  root := fun _ => rfl

def sampleTls : TlsSection := ⟨true, "certs/server.crt", "certs/server.key"⟩

/-- The host after a first start that is cut off after `n` calls. -/
def cutAfter (n : ℕ) : Host :=
  semantics.restarts (main sampleRustls sampleTls 0) ⟨fun _ => none, []⟩
    [List.replicate n (.wellWith true)]

end RustProxy.Server.Certificate
