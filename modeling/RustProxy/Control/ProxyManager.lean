import RustProxy.Control.State

/-!
# The proxy manager

The methods of `ProxyManager` in `crates/core/src/proxy_manager.rs` that the handlers and the start-up
call, as programs over the shared state.
-/

namespace RustProxy.Control

open RustProxy.Core Prog

variable (J : DomainsJson)

/-- Source: `proxy_manager.rs`, `ProxyManager::query_rule`. -/
def queryRule (name : String) : Program (Except String ProxyRule) := do
  match ← lift (.selectRow name) with
  | some row => return .ok (row.toRule J)
  | none => return .error "代理规则不存在"

/-- Source: `proxy_manager.rs`, `ProxyManager::query_all_rules`. -/
def queryAllRules : Program (List ProxyRule) := do
  let rows ← lift .selectRows
  return rows.map (ProxyRuleRow.toRule J)

/-- Source: `proxy_manager.rs`, `ProxyManager::query_rules_by_client`; `WHERE client_id = ?1`. -/
def queryRulesByClient (clientId : String) : Program (List ProxyRule) := do
  let rows ← lift .selectRows
  return (rows.filter fun row => row.clientId = clientId).map (ProxyRuleRow.toRule J)

/-- Source: `proxy_manager.rs`, `ProxyManager::add_proxy`. -/
def addProxy (rule : ProxyRule) : Program (Except String Unit) := do
  let inner ← lift .readRuntime
  if (inner rule.name).isSome then
    return .error ("代理规则名称已存在: " ++ rule.name)
  if ← lift (.insertRow (ProxyRuleRow.ofRule J rule)) then
    lift (.insertRuntime rule.name .new)
    return .ok ()
  else
    return .error "数据库写入失败"

/-- Source: `proxy_manager.rs`, `ProxyManager::remove_proxy`. -/
def removeProxy (name : String) : Program (Except String ProxyRule) := do
  match ← queryRule J name with
  | .error _ => return .error "代理规则不存在"
  | .ok rule =>
      if ← lift (.deleteRow name) then
        lift (.removeRuntime name)
        return .ok rule
      else
        return .error "数据库删除失败"

/-- Source: `proxy_manager.rs`, `ProxyManager::update_proxy`. -/
def updateProxy (name : String) (newRule : ProxyRule) : Program (Except String Unit) := do
  match ← lift (.updateRow name (ProxyRuleRow.ofRule J newRule)) with
  | none => return .error "数据库更新失败"
  | some affected =>
      if affected = 0 then return .error ("代理规则不存在: " ++ name)
      else return .ok ()

/-- The entry of a rule with what the runtime map says of it. -/
def entryOf (inner : Runtime) (rule : ProxyRule) : ProxyEntry :=
  let rt := (inner rule.name).getD .new
  { rule, status := rt.status, connections := rt.connections }

/-- Source: `proxy_manager.rs`, `ProxyManager::get_proxy`. -/
def getProxy (name : String) : Program (Option ProxyEntry) := do
  match ← queryRule J name with
  | .error _ => return none
  | .ok rule =>
      let inner ← lift .readRuntime
      let rt := (inner name).getD .new
      return some { rule, status := rt.status, connections := rt.connections }

/-- Source: `proxy_manager.rs`, `ProxyManager::list_proxies`. -/
def listProxies : Program (List ProxyEntry) := do
  let rules ← queryAllRules J
  let inner ← lift .readRuntime
  return rules.map (entryOf inner)

/-- Source: `proxy_manager.rs`, `ProxyManager::list_proxies_by_client`. -/
def listProxiesByClient (clientId : String) : Program (List ProxyEntry) := do
  let rules ← queryRulesByClient J clientId
  let inner ← lift .readRuntime
  return rules.map (entryOf inner)

/-- Source: `proxy_manager.rs`, `ProxyManager::update_status`. -/
def updateStatus (name : String) (status : ProxyStatus) : Program Unit :=
  lift (.setStatus name status)

/-- A change of the runtime state of a name, if it has one; one critical section. -/
def onEntry (name : String) (f : RuntimeState → RuntimeState) (runtime : Runtime) : Runtime :=
  Function.update runtime name ((runtime name).map f)

/-- Source: `proxy_manager.rs`, `ProxyManager::inc_connections`. -/
def incConnections (name : String) : Runtime → Runtime :=
  onEntry name fun rt => { rt with connections := rt.connections + 1 }

/-- Source: `proxy_manager.rs`, `ProxyManager::dec_connections`; `saturating_sub`. -/
def decConnections (name : String) : Runtime → Runtime :=
  onEntry name fun rt => { rt with connections := rt.connections - 1 }

/-- Source: `proxy_manager.rs`, `ProxyManager::add_traffic`. -/
def addTraffic (name : String) (bytesIn bytesOut : UInt64) : Runtime → Runtime :=
  onEntry name fun rt =>
    { rt with bytesIn := rt.bytesIn + bytesIn, bytesOut := rt.bytesOut + bytesOut }

/-- Source: `proxy_manager.rs`, `ProxyManager::load_from_db`. -/
def loadFromDb : Program Unit := do
  let rules ← queryAllRules J
  lift (.loadRuntime (rules.map ProxyRule.name))

end RustProxy.Control
