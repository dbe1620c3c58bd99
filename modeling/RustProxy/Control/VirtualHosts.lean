import RustProxy.Control.Routes
import RustProxy.Server.HostNames

/-!
# HTTP and HTTPS hosts

The shared HTTP listener and the shared HTTPS listener of `crates/server/src/proxy_listener.rs` look
the host of a connection up in the same `domain_routes`, which the rules of both types are entered
in.  Neither looks at the type of the rule it finds.

* `httpTarget` and `HttpsTarget` are the two lookups.  The TLS handshake is rustls's: `acceptor` says
  of which peeked bytes there are connections whose handshake succeeds.
* `Separated` is the property at stake, `Unmixed` a condition on the stored rules;
  `separated_iff_unmixed` says that they hold along the same runs.
-/

namespace RustProxy.Control

open RustProxy.Core RustProxy.Server.HostNames Transition

/-- The size of `peek_buf`. -/
def peekCapacity : ℕ := 4096

/-- The rule that an HTTP connection is forwarded for.  Source: `proxy_listener.rs`,
`handle_http_proxy_conn`. -/
def httpTarget (s : ControlState) (peeked : List UInt8) : Option ProxyRule := do
  let host ← extractHostFromHttp peeked
  s.domainRoutes host

/-- The rule that the HTTPS listener finds before the handshake.  Source: `proxy_listener.rs`, the
task of `start_https_listener`. -/
def httpsRoute (s : ControlState) (peeked : List UInt8) : Option ProxyRule := do
  let domain ← extractSniFromClientHello peeked
  s.domainRoutes domain

section

variable (acceptor : List UInt8 → Prop)

/-- A TLS connection with these peeked bytes is forwarded for the rule: it is found and the handshake
succeeds. -/
def HttpsTarget (s : ControlState) (peeked : List UInt8) (rule : ProxyRule) : Prop :=
  httpsRoute s peeked = some rule ∧ acceptor peeked

/-- A connection to the HTTP port can name the host. -/
def HttpReadable (host : String) : Prop :=
  ∃ peeked : List UInt8, peeked.length ≤ peekCapacity ∧ extractHostFromHttp peeked = some host

/-- A TLS connection to the HTTPS port can name the host. -/
def TlsReadable (host : String) : Prop :=
  ∃ peeked : List UInt8, peeked.length ≤ peekCapacity ∧
    extractSniFromClientHello peeked = some host ∧ acceptor peeked

/-- Connections to the HTTP port go to HTTP rules and TLS connections to the HTTPS port to HTTPS
rules; when rules of both types list a host, connections that name it reach one of the one type on
the HTTP port and one of the other on the HTTPS port. -/
structure Separated (J : DomainsJson) (s : ControlState) : Prop where
  http : ∀ peeked rule, peeked.length ≤ peekCapacity → httpTarget s peeked = some rule →
    rule.proxyType = .http
  https : ∀ peeked rule, peeked.length ≤ peekCapacity → HttpsTarget acceptor s peeked rule →
    rule.proxyType = .https
  both : ∀ n m h b d, s.stored J n = some h → s.stored J m = some b → h.proxyType = .http →
    b.proxyType = .https → d ∈ h.customDomains → d ∈ b.customDomains →
    (∃ peeked rule, peeked.length ≤ peekCapacity ∧ extractHostFromHttp peeked = some d ∧
      httpTarget s peeked = some rule ∧ rule.proxyType = .http ∧ d ∈ rule.customDomains) ∧
    ∃ peeked rule, peeked.length ≤ peekCapacity ∧ extractSniFromClientHello peeked = some d ∧
      HttpsTarget acceptor s peeked rule ∧ rule.proxyType = .https ∧ d ∈ rule.customDomains

/-- No stored HTTP rule lists a host that TLS connections can name, no stored HTTPS rule one that HTTP
connections can name, and no two stored rules of different type share a host. -/
structure Unmixed (J : DomainsJson) (s : ControlState) : Prop where
  http : ∀ n rule d, s.stored J n = some rule → rule.proxyType = .http → d ∈ rule.customDomains →
    ¬ TlsReadable acceptor d
  https : ∀ n rule d, s.stored J n = some rule → rule.proxyType = .https → d ∈ rule.customDomains →
    ¬ HttpReadable d
  apart : ∀ n m h b d, s.stored J n = some h → s.stored J m = some b → h.proxyType = .http →
    b.proxyType = .https → d ∈ h.customDomains → d ∉ b.customDomains

end

section

variable {acceptor : List UInt8 → Prop} {T : StdText} {J : DomainsJson} {s s' : ControlState}

/-- A routed rule that is not of the one type is of the other. -/
lemma Separated.of_unmixed (hs : ∀ n, Settled J n s) (h : Unmixed acceptor J s) :
    Separated acceptor J s where
  http := by
    intro peeked rule hlength htarget
    obtain ⟨host, hhost, hroute⟩ := Option.bind_eq_some_iff.mp htarget
    obtain ⟨hstored, hstream, hlists⟩ := rule_of_route hs hroute
    rcases ProxyType.isStream_eq_false_iff.mp hstream with htype | htype
    · exact htype
    · exact absurd ⟨peeked, hlength, hhost⟩ (h.https _ rule host hstored htype hlists)
  https := by
    rintro peeked rule hlength ⟨htarget, haccept⟩
    obtain ⟨host, hhost, hroute⟩ := Option.bind_eq_some_iff.mp htarget
    obtain ⟨hstored, hstream, hlists⟩ := rule_of_route hs hroute
    rcases ProxyType.isStream_eq_false_iff.mp hstream with htype | htype
    · exact absurd ⟨peeked, hlength, hhost, haccept⟩ (h.http _ rule host hstored htype hlists)
    · exact htype
  both := by
    intro n m r b d hr hb hrtype hbtype hdr hdb
    exact absurd hdb (h.apart n m r b d hr hb hrtype hbtype hdr)

/-- One entry cannot be a rule of both types. -/
lemma Separated.apart (h : Separated acceptor J s) {n m : String} {r b : ProxyRule} {d : String}
    (hr : s.stored J n = some r) (hb : s.stored J m = some b) (hrtype : r.proxyType = .http)
    (hbtype : b.proxyType = .https) (hdr : d ∈ r.customDomains) : d ∉ b.customDomains := by
  intro hdb
  obtain ⟨⟨peeked, rule, -, hhost, htarget, htype, -⟩,
    peeked', rule', -, hhost', htarget', htype', -⟩ :=
    h.both n m r b d hr hb hrtype hbtype hdr hdb
  have hroute : s.domainRoutes d = some rule := by
    rwa [httpTarget, hhost] at htarget
  have hroute' : s.domainRoutes d = some rule' := by
    have htarget' := htarget'.1
    rwa [httpsRoute, hhost'] at htarget'
  obtain rfl : rule = rule' := Option.some.inj (hroute.symm.trans hroute')
  cases htype.symm.trans htype'

/-- A host that is routed to an HTTP rule cannot be named in a TLS handshake. -/
lemma Separated.not_tlsReadable (h : Separated acceptor J s) {d : String} {rule : ProxyRule}
    (hroute : s.domainRoutes d = some rule) (htype : rule.proxyType = .http) :
    ¬ TlsReadable acceptor d := by
  rintro ⟨peeked, hlength, hhost, haccept⟩
  have htarget : httpsRoute s peeked = some rule := by
    rwa [httpsRoute, hhost]
  cases (h.https peeked rule hlength ⟨htarget, haccept⟩).symm.trans htype

/-- A host that is routed to an HTTPS rule cannot be named in a `Host` header. -/
lemma Separated.not_httpReadable (h : Separated acceptor J s) {d : String} {rule : ProxyRule}
    (hroute : s.domainRoutes d = some rule) (htype : rule.proxyType = .https) :
    ¬ HttpReadable d := by
  rintro ⟨peeked, hlength, hhost⟩
  have htarget : httpTarget s peeked = some rule := by
    rwa [httpTarget, hhost]
  cases (h.http peeked rule hlength htarget).symm.trans htype

/-- In a state in which every listed host has an entry. -/
lemma Separated.unmixed_of_covered (h : Separated acceptor J s) (hs : ∀ n, Settled J n s)
    (hcovered : Covered J s) : Unmixed acceptor J s where
  http := by
    intro n rule d hstored htype hd
    obtain ⟨r, hr⟩ := Option.isSome_iff_exists.mp (hcovered n d ⟨rule, hstored, Or.inl htype, hd⟩)
    obtain ⟨hrstored, hstream, hrd⟩ := rule_of_route hs hr
    rcases ProxyType.isStream_eq_false_iff.mp hstream with hrtype | hrtype
    · exact h.not_tlsReadable hr hrtype
    · exact absurd hrd (h.apart hstored hrstored htype hrtype hd)
  https := by
    intro n rule d hstored htype hd
    obtain ⟨r, hr⟩ := Option.isSome_iff_exists.mp (hcovered n d ⟨rule, hstored, Or.inr htype, hd⟩)
    obtain ⟨hrstored, hstream, hrd⟩ := rule_of_route hs hr
    rcases ProxyType.isStream_eq_false_iff.mp hstream with hrtype | hrtype
    · exact absurd hd (h.apart hrstored hstored hrtype htype hrd)
    · exact h.not_httpReadable hr hrtype
  apart := fun _ _ _ _ _ hr hb hrtype hbtype hdr => h.apart hr hb hrtype hbtype hdr

/-- A rule that is stored after a change is the new one, whose domains are routed to it, or was stored
before. -/
lemma Changed.stored_cases {c : Option Change} (h : Changed J s c s') {n : String} {rule : ProxyRule}
    (hstored : s'.stored J n = some rule) :
    (IsWeb rule → ∀ d ∈ rule.customDomains, s'.domainRoutes d = some rule) ∨
      s.stored J n = some rule := by
  cases c with
  | none =>
      rw [h.1] at hstored
      exact Or.inr hstored
  | some c =>
      obtain ⟨hrules, hroutes⟩ := h
      rw [hrules] at hstored
      by_cases hn : n = c.name
      · subst hn
        rw [Function.update_self] at hstored
        refine Or.inl fun hweb d hd => ?_
        rw [hroutes, Change.routes, hstored]
        change startRoutes rule _ d = some rule
        rw [startRoutes, if_pos hweb, insertRoutes_apply, if_pos hd]
      · rw [Function.update_of_ne hn] at hstored
        exact Or.inr hstored

/-- A request cannot mix the hosts up without a connection being able to tell. -/
lemma Separated.unmixed_of_step (h : Separated acceptor J s') (hs : Unmixed acceptor J s)
    {call : ApiCall} (hstep : requestStep T J s call = some s') : Unmixed acceptor J s' := by
  cases hstep
  have hchanged := changed_handle (T := T) (J := J) call.req call.outcomes s
  refine ⟨?_, ?_, fun _ _ _ _ _ hr hb hrtype hbtype hdr => h.apart hr hb hrtype hbtype hdr⟩
  · intro n rule d hstored htype hd
    rcases hchanged.stored_cases hstored with hroutes | hold
    · exact h.not_tlsReadable (hroutes (Or.inl htype) d hd) htype
    · exact hs.http n rule d hold htype hd
  · intro n rule d hstored htype hd
    rcases hchanged.stored_cases hstored with hroutes | hold
    · exact h.not_httpReadable (hroutes (Or.inr htype) d hd) htype
    · exact hs.https n rule d hold htype hd

end

/-- From any start-up and over any requests, each run to its end, with any outcomes: the two ports
are kept apart, and both types of rules are reachable, in every state exactly when in every state
the stored rules are unmixed. -/
theorem separated_iff_unmixed (acceptor : List UInt8 → Prop) (T : StdText) (J : DomainsJson)
    (db : RuleTable) (outcomes : Stream' Bool) (calls : List ApiCall) :
    Always (requestStep T J) (Separated acceptor J) (started J db outcomes) calls ↔
      Always (requestStep T J) (Unmixed acceptor J) (started J db outcomes) calls := by
  have hsettled := settled_startUp (J := J) db outcomes
  refine always_iff_always (I := fun s => ∀ n, Settled J n s) ?_ ?_ ?_ hsettled ?_ calls
  · intro s call s' hs hstep
    cases hstep
    exact settled_handle hs call.req call.outcomes
  · intro s hs hunmixed
    exact Separated.of_unmixed hs hunmixed
  · intro s call s' _ hunmixed hstep hseparated
    exact hseparated.unmixed_of_step hunmixed hstep
  · intro hseparated
    exact hseparated.unmixed_of_covered hsettled (covered_startUp db outcomes)

/-! ## An HTTPS rule on the HTTP port -/

/-- The request for an HTTPS rule of `b.example`. -/
def createSecure : List ApiCall :=
  [{ req := .create { createB with proxyType := "https" }, outcomes := fun _ => true }]

/-- A request that names the host of the rule. -/
def plainRequest : List UInt8 := "GET / HTTP/1.1\r\nHost: b.example\r\n\r\n".toUTF8.data.toList

/-- A connection to the HTTP port is forwarded for an HTTPS rule. -/
theorem http_reaches_https :
    ¬ ∀ (acceptor : List UInt8 → Prop) (T : StdText) (J : DomainsJson) (db : RuleTable)
      (outcomes : Stream' Bool) (calls : List ApiCall) (s : ControlState),
      exec (requestStep T J) (started J db outcomes) calls = some s → Separated acceptor J s := by
  intro h
  have hrun : ((exec (requestStep asciiText DomainsText.domainsText)
      (started DomainsText.domainsText .empty fun _ => true) createSecure).map fun s =>
        (httpTarget s plainRequest).map ProxyRule.proxyType) = some (some .https) := by
    decide +kernel
  obtain ⟨s, hexec, hs⟩ := Option.map_eq_some_iff.mp hrun
  obtain ⟨rule, htarget, htype⟩ := Option.map_eq_some_iff.mp hs
  have hseparated := h (fun _ => True) asciiText DomainsText.domainsText .empty (fun _ => true)
    createSecure s hexec
  cases (hseparated.http plainRequest rule (by decide) htarget).symm.trans htype

end RustProxy.Control
