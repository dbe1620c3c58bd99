import RustProxy.Control.Routes

/-!
# Validity of stored rules

`create_proxy` checks every field of a rule.  `update_proxy` checks the fields that the request
supplies and merges them with those of the stored rule, so that a field is also combined with a type
it was not checked for.

* `Valid` is what `create_proxy` demands of a rule; `valid_of_checkCreate` is the soundness of its
  checks.
* `valid_merge_iff` says when the merged rule is valid.
* `valid_iff_keepsPort` is about whole runs, from the start-up on an empty database.
-/

namespace RustProxy.Control

open RustProxy.Core Semantics Transition

/-- What `create_proxy` demands of a rule. -/
structure Valid (T : StdText) (rule : ProxyRule) : Prop where
  name : validateProxyName T rule.name = .ok ()
  clientId : validateClientId T rule.clientId = .ok ()
  localIp : validateIp T rule.localIp = .ok ()
  localPort : rule.localPort ≠ 0
  remotePort : rule.proxyType.isStream = true → rule.remotePort ≠ 0
  customDomains : ∀ domain ∈ rule.customDomains, validateDomain T domain = .ok ()
  proxyProtocol : rule.proxyProtocol = "" ∨ rule.proxyProtocol = "v1" ∨ rule.proxyProtocol = "v2"

variable {T : StdText} {J : DomainsJson} {s s' : ControlState}

/-! ## The checks -/

/-- A sequence of two checks succeeds if both do. -/
lemma bind_eq_ok {ε α β : Type} {x : Except ε α} {f : α → Except ε β} {b : β} :
    (x >>= f) = .ok b ↔ ∃ a, x = .ok a ∧ f a = .ok b := by
  cases x with
  | error e =>
      constructor
      · rintro ⟨⟩
      · rintro ⟨a, ⟨⟩, -⟩
  | ok a =>
      constructor
      · exact fun h => ⟨a, rfl, h⟩
      · rintro ⟨_, ⟨⟩, h⟩
        exact h

/-- A loop of checks succeeds if all of them do. -/
lemma forM_eq_ok {ε α : Type} {f : α → Except ε Unit} {xs : List α} :
    xs.forM f = .ok () ↔ ∀ x ∈ xs, f x = .ok () := by
  induction xs with
  | nil => exact iff_of_true rfl fun x hx => absurd hx List.not_mem_nil
  | cons x xs ih =>
      rw [List.forall_mem_cons, ← ih]
      exact bind_eq_ok.trans ⟨fun ⟨_, hx, hxs⟩ => ⟨hx, hxs⟩, fun ⟨hx, hxs⟩ => ⟨(), hx, hxs⟩⟩

/-- A port is valid unless it is zero. -/
lemma validatePort_eq_ok {port : UInt16} {fieldName : String} :
    validatePort port fieldName = .ok () ↔ port ≠ 0 := by
  unfold validatePort
  split <;> simp [*]

/-- A protocol is valid if it is one of two, or none. -/
lemma validateProxyProtocol_eq_ok {protocol : String} :
    validateProxyProtocol protocol = .ok () ↔ protocol = "" ∨ protocol = "v1" ∨ protocol = "v2" := by
  unfold validateProxyProtocol
  split <;> simp [*]

/-- Only `tcp` and `udp` are requested as stream types. -/
lemma requestedType_isStream {t : String} {proxyType : ProxyType}
    (h : requestedType t = some proxyType) (hstream : proxyType.isStream = true) :
    t = "tcp" ∨ t = "udp" := by
  unfold requestedType at h
  split_ifs at h with htcp hudp hhttp hhttps
  · exact Or.inl htcp
  · exact Or.inr hudp
  · cases h
    cases hstream
  · cases h
    cases hstream

/-- A type is valid if it is one that can be requested. -/
lemma validateType_eq_ok {t : String} {proxyType : ProxyType} :
    validateType t = .ok proxyType ↔ requestedType t = some proxyType := by
  rw [validateType]
  cases requestedType t <;> simp

/-- What passes the checks of `create_proxy` is valid. -/
lemma valid_of_checkCreate {payload : CreateProxyRequest} {proxyType : ProxyType}
    (h : checkCreate T payload = .ok proxyType) : Valid T (payload.rule proxyType) := by
  rw [checkCreate] at h
  obtain ⟨_, hname, h⟩ := bind_eq_ok.mp h
  obtain ⟨_, hclient, h⟩ := bind_eq_ok.mp h
  obtain ⟨_, hip, h⟩ := bind_eq_ok.mp h
  obtain ⟨_, hport, h⟩ := bind_eq_ok.mp h
  -- the rest of the checks, after that of the public port
  have hrest : (payload.customDomains.forM (validateDomain T) >>= fun _ =>
      validateProxyProtocol payload.proxyProtocol >>= fun _ =>
        validateType payload.proxyType) = .ok proxyType ∧
      ((payload.proxyType = "tcp" ∨ payload.proxyType = "udp") → payload.remotePort ≠ 0) := by
    split at h
    · obtain ⟨_, hremote, h⟩ := bind_eq_ok.mp h
      exact ⟨h, fun _ => validatePort_eq_ok.mp hremote⟩
    · case isFalse hstream => exact ⟨h, fun ht => absurd ht hstream⟩
  obtain ⟨h, hremote⟩ := hrest
  obtain ⟨_, hdomains, h⟩ := bind_eq_ok.mp h
  obtain ⟨_, hprotocol, htype⟩ := bind_eq_ok.mp h
  exact {
    name := hname
    clientId := hclient
    localIp := hip
    localPort := validatePort_eq_ok.mp hport
    remotePort := fun hstream => hremote (requestedType_isStream (validateType_eq_ok.mp htype) hstream)
    customDomains := forM_eq_ok.mp hdomains
    proxyProtocol := validateProxyProtocol_eq_ok.mp hprotocol }

/-- A supplied value that passes its check, and an old value that passes it too. -/
lemma getD_of_checkSupplied {α : Type} {check : α → Except String Unit} {P : α → Prop}
    (hP : ∀ a, check a = .ok () → P a) {supplied : Option α} {old : α}
    (h : checkSupplied check supplied = .ok ()) (hold : P old) : P (supplied.getD old) := by
  cases supplied with
  | none => exact hold
  | some a => exact hP a h

/-- The public port of the merged rule is 0 although its type needs one. -/
def MissesPort (payload : UpdateProxyRequest) (existing : ProxyRule) : Prop :=
  (payload.proxyType = some "tcp" ∨ payload.proxyType = some "udp") ∧ payload.remotePort = none ∧
    existing.remotePort = 0

instance (payload : UpdateProxyRequest) (existing : ProxyRule) :
    Decidable (MissesPort payload existing) :=
  inferInstanceAs (Decidable (_ ∧ _ ∧ _))

/-- The public port that the merged rule has when its type needs one. -/
lemma remotePort_merge_iff {payload : UpdateProxyRequest} {existing : ProxyRule} (name : String)
    (hold : existing.proxyType.isStream = true → existing.remotePort ≠ 0)
    (hcheck : checkSupplied (fun port => if (payload.effectiveType existing).isStream then
      validatePort port "remote_port" else .ok ()) payload.remotePort = .ok ()) :
    ((payload.merge name existing).proxyType.isStream = true →
      (payload.merge name existing).remotePort ≠ 0) ↔ ¬ MissesPort payload existing := by
  change ((payload.effectiveType existing).isStream = true →
    payload.remotePort.getD existing.remotePort ≠ 0) ↔ _
  constructor
  · rintro h ⟨htype, hport, hzero⟩
    rw [hport] at h
    refine h ?_ hzero
    rw [UpdateProxyRequest.effectiveType]
    rcases htype with htype | htype <;> rw [htype] <;> rfl
  · intro hmisses hstream
    cases hport : payload.remotePort with
    | some port =>
        rw [hport, checkSupplied, if_pos hstream] at hcheck
        exact validatePort_eq_ok.mp hcheck
    | none =>
        intro hzero
        refine hmisses ⟨?_, hport, hzero⟩
        rw [UpdateProxyRequest.effectiveType] at hstream
        cases htype : payload.proxyType.bind requestedType with
        | none =>
            rw [htype] at hstream
            exact absurd hzero (hold hstream)
        | some proxyType =>
            rw [htype] at hstream
            obtain ⟨t, ht, hrequested⟩ := Option.bind_eq_some_iff.mp htype
            rw [ht, Option.some_inj, Option.some_inj]
            exact requestedType_isStream hrequested hstream

/-- Merging the supplied fields into a valid rule is valid, unless the type becomes TCP or UDP and the
port stays 0. -/
lemma valid_merge_iff {payload : UpdateProxyRequest} {existing : ProxyRule} {name : String}
    (hvalid : Valid T existing) (hname : existing.name = name)
    (hcheck : checkUpdate T payload = .ok ())
    (hcheckOf : checkUpdateOf T payload existing = .ok ()) :
    Valid T (payload.merge name existing) ↔ ¬ MissesPort payload existing := by
  rw [checkUpdate] at hcheck
  obtain ⟨_, -, hcheck⟩ := bind_eq_ok.mp hcheck
  obtain ⟨_, hclient, hcheck⟩ := bind_eq_ok.mp hcheck
  obtain ⟨_, hip, hport⟩ := bind_eq_ok.mp hcheck
  rw [checkUpdateOf] at hcheckOf
  obtain ⟨_, hremote, hcheckOf⟩ := bind_eq_ok.mp hcheckOf
  obtain ⟨_, hdomains, hprotocol⟩ := bind_eq_ok.mp hcheckOf
  rw [← remotePort_merge_iff name hvalid.remotePort hremote]
  refine ⟨Valid.remotePort, ?_⟩
  intro hmerged
  exact {
    name := hname ▸ hvalid.name
    clientId := getD_of_checkSupplied (fun _ => id) hclient hvalid.clientId
    localIp := getD_of_checkSupplied (fun _ => id) hip hvalid.localIp
    localPort := getD_of_checkSupplied (P := fun port : UInt16 => port ≠ 0)
      (fun _ => validatePort_eq_ok.mp) hport hvalid.localPort
    remotePort := hmerged
    customDomains := getD_of_checkSupplied (P := fun domains : List String =>
      ∀ domain ∈ domains, validateDomain T domain = .ok ()) (fun _ => forM_eq_ok.mp) hdomains
      hvalid.customDomains
    proxyProtocol := getD_of_checkSupplied (P := fun protocol : String =>
      protocol = "" ∨ protocol = "v1" ∨ protocol = "v2") (fun _ => validateProxyProtocol_eq_ok.mp)
      hprotocol hvalid.proxyProtocol }

/-! ## Runs -/

/-- Every stored rule is valid. -/
def ValidStore (T : StdText) (J : DomainsJson) (s : ControlState) : Prop :=
  ∀ name rule, s.stored J name = some rule → Valid T rule

/-- No update succeeds that makes a rule with public port 0 a TCP or UDP rule and leaves the port
out. -/
def KeepsPort (T : StdText) (J : DomainsJson) (s : ControlState) (call : ApiCall) : Prop :=
  ∀ name payload existing, call.req = .update name payload → s.stored J name = some existing →
    MissesPort payload existing → change T J s call.outcomes call.req = none

/-- A change keeps the store valid exactly if the version that comes is valid. -/
lemma validStore_iff {c : Change} (h : ValidStore T J s) (hchanged : Changed J s (some c) s') :
    ValidStore T J s' ↔ ∀ rule, c.new = some rule → Valid T rule := by
  obtain ⟨hstored, -⟩ := hchanged
  constructor
  · intro h' rule hrule
    refine h' c.name rule ?_
    rw [hstored, Function.update_self, hrule]
  · intro hnew name rule hrule
    rw [hstored] at hrule
    by_cases hname : name = c.name
    · subst hname
      rw [Function.update_self] at hrule
      exact hnew rule hrule
    · rw [Function.update_of_ne hname] at hrule
      exact h name rule hrule

/-- The version that a request brings is valid, unless it is an update that leaves the port out. -/
lemma valid_of_change {c : Change} {req : ApiRequest} {outcomes : Stream' Bool}
    (h : ValidStore T J s) (hchange : change T J s outcomes req = some c) :
    (∀ rule, c.new = some rule → Valid T rule) ↔ ∀ name payload existing,
      req = .update name payload → s.stored J name = some existing →
        ¬ MissesPort payload existing := by
  cases req with
  | create payload =>
      rw [change] at hchange
      split at hchange
      · cases hchange
      · case h_2 proxyType hcheck =>
          split at hchange <;> cases hchange
          refine iff_of_true ?_ (fun _ _ _ => ApiRequest.noConfusion)
          rintro rule ⟨⟩
          exact valid_of_checkCreate hcheck
  | update name payload =>
      rw [change] at hchange
      split at hchange
      · case h_1 existing hcheck hstored =>
          split at hchange
          · cases hchange
          · case h_2 hcheckOf =>
              split at hchange <;> cases hchange
              have hmerge := valid_merge_iff (h name existing hstored) (name_of_stored hstored)
                hcheck hcheckOf
              constructor
              · rintro hnew _ _ other ⟨⟩ hother
                obtain rfl := Option.some.inj (hstored.symm.trans hother)
                exact hmerge.mp (hnew _ rfl)
              · rintro hkeeps rule ⟨⟩
                exact hmerge.mpr (hkeeps name payload existing rfl hstored)
      · cases hchange
  | delete name =>
      rw [change] at hchange
      split at hchange
      · split at hchange <;> cases hchange
        refine iff_of_true ?_ (fun _ _ _ => ApiRequest.noConfusion)
        rintro rule ⟨⟩
      · cases hchange

/-- A request that runs alone keeps the store valid exactly if it is no update that leaves the port
out. -/
theorem validStore_requestStep_iff (h : ValidStore T J s) (call : ApiCall)
    (hstep : requestStep T J s call = some s') : ValidStore T J s' ↔ KeepsPort T J s call := by
  cases hstep
  have hchanged := changed_handle (T := T) (J := J) call.req call.outcomes s
  unfold KeepsPort
  cases hchange : change T J s call.outcomes call.req with
  | none =>
      rw [hchange] at hchanged
      refine iff_of_true ?_ fun _ _ _ _ _ _ => rfl
      intro name rule hrule
      rw [hchanged.1] at hrule
      exact h name rule hrule
  | some c =>
      rw [hchange] at hchanged
      rw [validStore_iff h hchanged, valid_of_change h hchange]
      constructor
      · intro hkeeps name payload existing hreq hstored hmisses
        exact absurd hmisses (hkeeps name payload existing hreq hstored)
      · intro hkeeps name payload existing hreq hstored hmisses
        cases hkeeps name payload existing hreq hstored hmisses

/-- A server that starts on an empty database has no rules. -/
lemma validStore_started_empty (T : StdText) (J : DomainsJson) (outcomes : Stream' Bool) :
    ValidStore T J (started J .empty outcomes) := by
  intro name rule hrule
  rw [ControlState.stored, rules_started] at hrule
  cases hrule

/-- From a start-up on an empty database and over any requests with any payloads, each run to its
end, with any outcomes: every stored rule is what `create_proxy` demands, exactly when no update
succeeds that makes a rule with public port 0 a TCP or UDP rule and leaves the port out. -/
theorem valid_iff_keepsPort (T : StdText) (J : DomainsJson) (outcomes : Stream' Bool)
    (calls : List ApiCall) :
    Always (requestStep T J) (ValidStore T J) (started J .empty outcomes) calls ↔
      EachStep (requestStep T J) (KeepsPort T J) (started J .empty outcomes) calls := by
  refine always_iff_eachStep (fun _ hs => hs) ?_ ?_ (validStore_started_empty T J outcomes) calls
  · exact fun s call s' hs hkeeps hstep => (validStore_requestStep_iff hs call hstep).mpr hkeeps
  · exact fun s call s' hs hbad hstep h => hbad ((validStore_requestStep_iff hs call hstep).mp h)

/-- An HTTP rule without a public port is created and then made a TCP rule. -/
def retypedCalls : List ApiCall :=
  [.create createB, .update "b" { noFields with proxyType := some "tcp" }].map
    fun req => { req, outcomes := fun _ => true }

/-- The stored TCP rule has the public port 0. -/
theorem retyped_rule_invalid :
    ¬ ∀ (T : StdText) (J : DomainsJson) (outcomes : Stream' Bool) (calls : List ApiCall)
      (s : ControlState), exec (requestStep T J) (started J .empty outcomes) calls = some s →
        ValidStore T J s := by
  intro h
  have hrun : ((exec (requestStep asciiText DomainsText.domainsText)
      (started DomainsText.domainsText .empty fun _ => true) retypedCalls).map fun s =>
        s.stored DomainsText.domainsText "b") =
      some (some { createB.rule .http with proxyType := .tcp }) := by decide +kernel
  obtain ⟨s, hexec, hstored⟩ := Option.map_eq_some_iff.mp hrun
  exact (h asciiText DomainsText.domainsText (fun _ => true) retypedCalls s hexec "b" _
    hstored).remotePort rfl rfl

end RustProxy.Control
