import Mathlib.Logic.Function.Basic
import RustProxy.Proto.Message

/-!
# The client's rules

`ProxyWorkerManager` of `crates/client/src/proxy_worker.rs` and the message loop of
`connect_and_run` in `crates/client/src/connector.rs`.

* A client process has one manager for each connection to the server; it lives as long as the message
  loop.  The loop handles one message after the other, so the three maps change together.
* The map of task handles is left out: nothing is ever inserted into it.
-/

namespace RustProxy.Client

open RustProxy.Proto

/-- Source: `proxy_worker.rs`, `ProxyWorkerManager`. -/
structure ProxyWorkerManager where
  localAddrs : String → Option String
  proxyTypes : String → Option String
  proxyProtocols : String → Option String

/-- What `open_work_connection` is called with. -/
structure WorkTarget where
  localAddr : String
  proxyType : String
  proxyProtocol : Option String
  deriving DecidableEq, Repr

/-- What the three maps have under one name. -/
structure Entry where
  localAddr : Option String
  proxyType : Option String
  proxyProtocol : Option String
  deriving DecidableEq, Repr

/-- Nothing. -/
def Entry.absent : Entry := { localAddr := none, proxyType := none, proxyProtocol := none }

/-- The local address, `format!("{}:{}", req.local_ip, req.local_port)`. -/
def localAddr (localIp : String) (localPort : UInt16) : String :=
  localIp ++ ":" ++ toString localPort.toNat

/-- What an assignment puts under its name. -/
def Entry.assigned (req : ServerAssignProxyRequest) : Entry where
  localAddr := some (Client.localAddr req.localIp req.localPort)
  proxyType := some req.proxyType
  proxyProtocol := some req.proxyProtocol

namespace ProxyWorkerManager

/-- Source: `proxy_worker.rs`, `ProxyWorkerManager::new`. -/
def new : ProxyWorkerManager where
  localAddrs := fun _ => none
  proxyTypes := fun _ => none
  proxyProtocols := fun _ => none

/-- Source: `proxy_worker.rs`, `ProxyWorkerManager::start_proxy`. -/
def startProxy (m : ProxyWorkerManager) (req : ServerAssignProxyRequest) : ProxyWorkerManager where
  localAddrs := Function.update m.localAddrs req.name (some (localAddr req.localIp req.localPort))
  proxyTypes := Function.update m.proxyTypes req.name (some req.proxyType)
  proxyProtocols := Function.update m.proxyProtocols req.name (some req.proxyProtocol)

/-- Source: `proxy_worker.rs`, `ProxyWorkerManager::stop_proxy`. -/
def stopProxy (m : ProxyWorkerManager) (name : String) : ProxyWorkerManager where
  localAddrs := Function.update m.localAddrs name none
  proxyTypes := Function.update m.proxyTypes name none
  proxyProtocols := Function.update m.proxyProtocols name none

/-- Source: `proxy_worker.rs`, `ProxyWorkerManager::stop_all`. -/
def stopAll (_ : ProxyWorkerManager) : ProxyWorkerManager := new

/-- `get_local_addr`, `get_proxy_type` and `get_proxy_protocol` of one name. -/
def entry (m : ProxyWorkerManager) (name : String) : Entry where
  localAddr := m.localAddrs name
  proxyType := m.proxyTypes name
  proxyProtocol := m.proxyProtocols name

/-- The arm of `NewWorkConn`: without a local address the connection is given up. -/
def workTarget (m : ProxyWorkerManager) (name : String) : Option WorkTarget :=
  match m.localAddrs name with
  | none => none
  | some addr => some
      { localAddr := addr
        proxyType := (m.proxyTypes name).getD "tcp"
        proxyProtocol := m.proxyProtocols name }

/-- The message loop, as far as the rules go. -/
def onControl (m : ProxyWorkerManager) : ControlMessage → ProxyWorkerManager
  | .serverAssignProxy req => m.startProxy req
  | .serverCloseProxy req => m.stopProxy req.name
  | _ => m

end ProxyWorkerManager

/-- Where `connect_and_run` is. -/
inductive ClientPc where
  /-- `wait_auth_response` -/
  | awaiting
  | running
  | stopped
  deriving DecidableEq, Repr

/-- A run of `connect_and_run`. -/
structure ClientRun where
  pc : ClientPc
  rules : ProxyWorkerManager

namespace ClientRun

/-- The authentication request has been sent. -/
def start : ClientRun := { pc := .awaiting, rules := .new }

/-- The loop is left, or was never entered. -/
def stop (r : ClientRun) : ClientRun := { pc := .stopped, rules := r.rules.stopAll }

/-- A message of the server is read. -/
def onMessage (r : ClientRun) (msg : ControlMessage) : ClientRun :=
  match r.pc, msg with
  | .awaiting, .authResp resp => if resp.success then { r with pc := .running } else r.stop
  | .awaiting, _ => r.stop
  | .running, msg => { r with rules := r.rules.onControl msg }
  | .stopped, _ => r

end ClientRun

/-! ## What a message does to an entry -/

/-- The name that a message sets or removes. -/
def ruleName : ControlMessage → Option String
  | .serverAssignProxy req => some req.name
  | .serverCloseProxy req => some req.name
  | _ => none

/-- What a message leaves under a name. -/
def effect (msg : ControlMessage) (name : String) (e : Entry) : Entry :=
  match msg with
  | .serverAssignProxy req => if req.name = name then .assigned req else e
  | .serverCloseProxy req => if req.name = name then .absent else e
  | _ => e

/-- Starting a rule changes what the client has of that rule only. -/
lemma entry_startProxy (m : ProxyWorkerManager) (req : ServerAssignProxyRequest) (name : String) :
    (m.startProxy req).entry name = if req.name = name then .assigned req else m.entry name := by
  by_cases hname : req.name = name
  · subst hname
    simp [ProxyWorkerManager.entry, ProxyWorkerManager.startProxy, Entry.assigned]
  · rw [if_neg hname]
    simp only [ProxyWorkerManager.entry, ProxyWorkerManager.startProxy,
      Function.update_of_ne (Ne.symm hname)]

/-- Stopping a rule changes what the client has of that rule only. -/
lemma entry_stopProxy (m : ProxyWorkerManager) (stopped name : String) :
    (m.stopProxy stopped).entry name = if stopped = name then .absent else m.entry name := by
  by_cases hname : stopped = name
  · subst hname
    simp [ProxyWorkerManager.entry, ProxyWorkerManager.stopProxy, Entry.absent]
  · rw [if_neg hname]
    simp only [ProxyWorkerManager.entry, ProxyWorkerManager.stopProxy,
      Function.update_of_ne (Ne.symm hname)]

/-- A message acts on each entry alone. -/
lemma entry_onControl (m : ProxyWorkerManager) (msg : ControlMessage) (name : String) :
    (m.onControl msg).entry name = effect msg name (m.entry name) := by
  cases msg with
  | serverAssignProxy req => exact entry_startProxy m req name
  | serverCloseProxy req => exact entry_stopProxy m req.name name
  | auth | authResp | newWorkConn | newWorkConnResp | ping | pong => rfl

/-- A message overwrites the entry of its name and keeps the others. -/
lemma effect_overwrites_or_keeps (msg : ControlMessage) (name : String) :
    (∀ e e', effect msg name e = effect msg name e') ∨ ∀ e, effect msg name e = e := by
  cases msg with
  | serverAssignProxy req =>
      by_cases hname : req.name = name
      · exact Or.inl fun e e' => by simp [effect, hname]
      · exact Or.inr fun e => if_neg hname
  | serverCloseProxy req =>
      by_cases hname : req.name = name
      · exact Or.inl fun e e' => by simp [effect, hname]
      · exact Or.inr fun e => if_neg hname
  | auth | authResp | newWorkConn | newWorkConnResp | ping | pong => exact Or.inr fun e => rfl

/-- A message keeps the entries that it neither sets nor removes. -/
lemma effect_of_ruleName_ne {msg : ControlMessage} {name : String} (h : ruleName msg ≠ some name)
    (e : Entry) : effect msg name e = e := by
  cases msg with
  | serverAssignProxy req => exact if_neg fun hname => h (congrArg some hname)
  | serverCloseProxy req => exact if_neg fun hname => h (congrArg some hname)
  | auth | authResp | newWorkConn | newWorkConnResp | ping | pong => rfl

/-- Other messages change nothing. -/
lemma onControl_of_ruleName {msg : ControlMessage} (h : ruleName msg = none)
    (m : ProxyWorkerManager) : m.onControl msg = m := by
  cases msg with
  | serverAssignProxy => cases h
  | serverCloseProxy => cases h
  | auth | authResp | newWorkConn | newWorkConnResp | ping | pong => rfl

/-- What is assigned is what work connections are opened with. -/
lemma workTarget_of_assigned {m : ProxyWorkerManager} {req : ServerAssignProxyRequest} {name : String}
    (h : m.entry name = .assigned req) :
    m.workTarget name = some
      { localAddr := localAddr req.localIp req.localPort
        proxyType := req.proxyType
        proxyProtocol := some req.proxyProtocol } := by
  obtain ⟨haddr, htype, hprotocol⟩ := Entry.mk.inj h
  rw [ProxyWorkerManager.workTarget, haddr, htype, hprotocol]
  rfl

end RustProxy.Client
