import RustProxy.Control.ProxyManager

/-!
# Listeners and callbacks

The listener manager of `crates/server/src/proxy_listener.rs`, and the start-up and the two
callbacks of `crates/server/src/main.rs` that drive it.  The shared HTTP and HTTPS listeners belong
to no rule and are not part of the model.
-/

namespace RustProxy.Control

open RustProxy.Core Prog

/-! ## The listener manager -/

/-- Binds the public port of a rule, spawns its accept loop and keeps the handle. -/
def startStreamListener (proxyType : ProxyType) (name : String) (remotePort : UInt16)
    (clientId : String) : Program Bool := do
  match ← lift (.bindAndSpawn name proxyType remotePort clientId) with
  | none => return false
  | some handle =>
      lift (.insertListener name handle)
      return true

/-- Source: `proxy_listener.rs`, `start_tcp_listener`; `false` is an error. -/
def startTcpListener (name : String) (remotePort : UInt16) (clientId : String) : Program Bool :=
  startStreamListener .tcp name remotePort clientId

/-- Source: `proxy_listener.rs`, `start_udp_listener`; `false` is an error. -/
def startUdpListener (name : String) (remotePort : UInt16) (clientId : String) : Program Bool :=
  startStreamListener .udp name remotePort clientId

/-- Source: `proxy_listener.rs`, `stop_listener`. -/
def stopListener (name : String) : Program Unit := do
  match ← lift (.removeListener name) with
  | some handle => lift (.abortAndAwait handle)
  | none => return ()

/-- Source: `proxy_listener.rs`, `register_domain_route`. -/
def registerDomainRoute (rule : ProxyRule) : Program Unit := lift (.insertRoutes rule)

/-- Source: `proxy_listener.rs`, `unregister_domain_route`. -/
def unregisterDomainRoute (rule : ProxyRule) : Program Unit := lift (.removeRoutes rule)

/-! ## Starting and stopping a rule -/

/-- Source: `main.rs`, `start_proxy_listener`. -/
def startProxyListener (rule : ProxyRule) : Program Bool := do
  match rule.proxyType with
  | .tcp =>
      if rule.remotePort = 0 then return false
      startTcpListener rule.name rule.remotePort rule.clientId
  | .udp =>
      if rule.remotePort = 0 then return false
      startUdpListener rule.name rule.remotePort rule.clientId
  | .http =>
      registerDomainRoute rule
      return true
  | .https =>
      registerDomainRoute rule
      return true

/-- Source: `main.rs`, `stop_proxy_listener`. -/
def stopProxyListener (rule : ProxyRule) : Program Unit :=
  match rule.proxyType with
  | .tcp => stopListener rule.name
  | .udp => stopListener rule.name
  | .http => unregisterDomainRoute rule
  | .https => unregisterDomainRoute rule

/-- Source: `main.rs`, the callback of `set_on_proxy_create`. -/
def onProxyCreate (rule : ProxyRule) : Program Unit := do
  updateStatus rule.name .starting
  let ok ← startProxyListener rule
  updateStatus rule.name (if ok then .running else .error)

/-- Source: `main.rs`, the callback of `set_on_proxy_delete`. -/
def onProxyDelete (rule : ProxyRule) : Program Unit := do
  updateStatus rule.name .stopping
  stopProxyListener rule
  updateStatus rule.name .stopped

/-! ## Start-up -/

variable (J : DomainsJson)

/-- Source: `main.rs`, the loop body of `start_existing_listeners`. -/
def startExisting (entry : ProxyEntry) : Program PUnit := do
  let ok ← startProxyListener entry.rule
  updateStatus entry.rule.name (if ok then .running else .error)

/-- Source: `main.rs`, `start_existing_listeners`. -/
def startExistingListeners : Program PUnit := do
  let proxies ← listProxies J
  forM proxies startExisting

/-- Source: `main.rs`, the loop body of `register_existing_domain_routes`. -/
def registerExisting (entry : ProxyEntry) : Program PUnit :=
  match entry.rule.proxyType with
  | .http => registerDomainRoute entry.rule
  | .https => registerDomainRoute entry.rule
  | _ => pure ()

/-- Source: `main.rs`, `register_existing_domain_routes`. -/
def registerExistingDomainRoutes : Program PUnit := do
  let proxies ← listProxies J
  forM proxies registerExisting

/-- What `main` does to the shared state before it accepts requests. -/
def startUp : Program PUnit := do
  loadFromDb J
  startExistingListeners J
  registerExistingDomainRoutes J

end RustProxy.Control
