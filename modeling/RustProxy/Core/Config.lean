import Mathlib.Tactic.Common

/-!
# Proxy rules

`ProxyRule` and `ProxyType` of `crates/core/src/config.rs`, with the row that the table `proxy_rules`
keeps of a rule and the runtime status of `crates/core/src/proxy_manager.rs`.

* A row keeps the type and the list of domains as text.  The JSON of a list of strings is
  serde_json's; it is the parameter `DomainsJson`, of which only the round trip is used.
* `toRule_ofRule` is the round trip of a rule through its row.
-/

namespace RustProxy.Core

/-- Source: `config.rs`, `ProxyType`. -/
inductive ProxyType where
  | tcp
  | udp
  | http
  | https
  deriving DecidableEq, Repr

/-- Source: `config.rs`, `ProxyType::as_str`. -/
def ProxyType.asStr : ProxyType → String
  | .tcp => "tcp"
  | .udp => "udp"
  | .http => "http"
  | .https => "https"

/-- Types with a public port of their own, `ProxyType::Tcp | ProxyType::Udp`. -/
def ProxyType.isStream : ProxyType → Bool
  | .tcp => true
  | .udp => true
  | .http => false
  | .https => false

/-- The types that are not streams are those of the web. -/
lemma ProxyType.isStream_eq_false_iff {t : ProxyType} :
    t.isStream = false ↔ t = .http ∨ t = .https := by
  cases t <;> simp [isStream]

/-- Source: `config.rs`, `ProxyRule`. -/
structure ProxyRule where
  name : String
  proxyType : ProxyType
  clientId : String
  localIp : String
  localPort : UInt16
  remotePort : UInt16
  customDomains : List String
  proxyProtocol : String
  deriving DecidableEq, Repr

/-! ## Runtime state -/

/-- Source: `proxy_manager.rs`, `ProxyStatus`. -/
inductive ProxyStatus where
  | starting
  | running
  | stopping
  | stopped
  | error
  deriving DecidableEq, Repr

/-- Source: `proxy_manager.rs`, `impl Display for ProxyStatus`. -/
def ProxyStatus.toText : ProxyStatus → String
  | .starting => "starting"
  | .running => "running"
  | .stopping => "stopping"
  | .stopped => "stopped"
  | .error => "error"

/-- Source: `proxy_manager.rs`, `RuntimeState`; the samples of the bandwidth display are left out. -/
structure RuntimeState where
  status : ProxyStatus
  connections : ℕ
  bytesIn : UInt64
  bytesOut : UInt64
  deriving DecidableEq, Repr

/-- Source: `proxy_manager.rs`, `RuntimeState::new`. -/
def RuntimeState.new : RuntimeState :=
  { status := .stopped, connections := 0, bytesIn := 0, bytesOut := 0 }

/-- Source: `proxy_manager.rs`, `ProxyEntry`. -/
structure ProxyEntry where
  rule : ProxyRule
  status : ProxyStatus
  connections : ℕ
  deriving DecidableEq, Repr

/-! ## Rows -/

/-- serde_json on lists of strings: what `to_string` writes, `from_str` reads back. -/
structure DomainsJson where
  toString : List String → Option String
  fromStr : String → Option (List String)
  roundTrip : ∀ domains, ∃ text, toString domains = some text ∧ fromStr text = some domains

/-- A row of the table `proxy_rules`.  Source: `proxy_manager.rs`, `ProxyRuleRow`. -/
structure ProxyRuleRow where
  name : String
  proxyType : String
  clientId : String
  localIp : String
  localPort : UInt16
  remotePort : UInt16
  customDomains : String
  proxyProtocol : String
  deriving DecidableEq, Repr

/-- Source: `proxy_manager.rs`, `parse_proxy_type`. -/
def parseProxyType (s : String) : ProxyType :=
  if s = "tcp" then .tcp
  else if s = "udp" then .udp
  else if s = "http" then .http
  else if s = "https" then .https
  else .tcp

/-- Each type is read back from its text. -/
lemma parseProxyType_asStr (t : ProxyType) : parseProxyType t.asStr = t := by
  cases t <;> decide

section

variable (J : DomainsJson)

/-- Source: `proxy_manager.rs`, `impl From<ProxyRuleRow> for ProxyRule`. -/
def ProxyRuleRow.toRule (row : ProxyRuleRow) : ProxyRule where
  name := row.name
  proxyType := parseProxyType row.proxyType
  clientId := row.clientId
  localIp := row.localIp
  localPort := row.localPort
  remotePort := row.remotePort
  customDomains := (J.fromStr row.customDomains).getD []
  proxyProtocol := row.proxyProtocol

/-- The columns that `add_proxy` and `update_proxy` bind for a rule. -/
def ProxyRuleRow.ofRule (rule : ProxyRule) : ProxyRuleRow where
  name := rule.name
  proxyType := rule.proxyType.asStr
  clientId := rule.clientId
  localIp := rule.localIp
  localPort := rule.localPort
  remotePort := rule.remotePort
  customDomains := (J.toString rule.customDomains).getD "[]"
  proxyProtocol := rule.proxyProtocol

/-- A rule has the name of its row. -/
@[simp] lemma ProxyRuleRow.toRule_name (row : ProxyRuleRow) : (row.toRule J).name = row.name := rfl

/-- A row has the name of its rule. -/
@[simp] lemma ProxyRuleRow.ofRule_name (rule : ProxyRule) :
    (ProxyRuleRow.ofRule J rule).name = rule.name := rfl

/-- A rule is read back from its row as it was written. -/
theorem ProxyRuleRow.toRule_ofRule (rule : ProxyRule) :
    (ProxyRuleRow.ofRule J rule).toRule J = rule := by
  obtain ⟨text, hto, hfrom⟩ := J.roundTrip rule.customDomains
  cases rule
  simp only at hto hfrom
  simp [ProxyRuleRow.ofRule, ProxyRuleRow.toRule, parseProxyType_asStr, hto, hfrom]

end

end RustProxy.Core
