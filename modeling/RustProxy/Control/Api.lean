import RustProxy.Control.Listeners

/-!
# The API handlers

`create_proxy`, `update_proxy` and `delete_proxy` of `crates/web/src/api.rs`, with their input checks
and responses.

* Rust's `char::is_alphanumeric` and the parser of `IpAddr` are the parameter `StdText`.
* A handler's checks are one `Except` computation; the first check that fails is the response.
-/

namespace RustProxy.Control

open RustProxy.Core RustProxy.Proto Prog

/-- What the checks use of Rust's text functions. -/
structure StdText where
  isAlphanumeric : Char → Bool
  isIpAddr : String → Bool

/-- Text tests for concrete runs: ASCII letters and digits, and the loopback address. -/
def asciiText : StdText where
  isAlphanumeric := Char.isAlphanum
  isIpAddr := fun ip => ip = "127.0.0.1"

/-! ## Responses -/

/-- Source: `api.rs`, `ApiResponse`. -/
structure ApiResponse (α : Type) where
  code : UInt16
  message : String
  data : Option α
  deriving DecidableEq, Repr

/-- Source: `api.rs`, `ApiResponse::success`. -/
def success {α : Type} (data : α) : ApiResponse α :=
  { code := 200, message := "ok", data := some data }

/-- Source: `api.rs`, `error_response`. -/
def errorResponse {α : Type} (code : UInt16) (message : String) : ApiResponse α :=
  { code, message, data := none }

/-- Source: `api.rs`, `ProxyInfo`, without the bandwidths. -/
structure ProxyInfo where
  name : String
  proxyType : String
  clientId : String
  localIp : String
  localPort : UInt16
  remotePort : UInt16
  customDomains : List String
  proxyProtocol : String
  status : String
  connections : ℕ
  deriving DecidableEq, Repr

/-- Source: `api.rs`, `impl From<ProxyEntry> for ProxyInfo`. -/
def ProxyInfo.ofEntry (e : ProxyEntry) : ProxyInfo where
  name := e.rule.name
  proxyType := e.rule.proxyType.asStr
  clientId := e.rule.clientId
  localIp := e.rule.localIp
  localPort := e.rule.localPort
  remotePort := e.rule.remotePort
  customDomains := e.rule.customDomains
  proxyProtocol := e.rule.proxyProtocol
  status := e.status.toText
  connections := e.connections

/-! ## Input checks -/

section

variable (T : StdText)

/-- Only letters, digits and the characters of `extra`. -/
def allowedChars (extra : List Char) (s : String) : Bool :=
  s.toList.all fun c => T.isAlphanumeric c || extra.contains c

/-- A text of 1 to 64 bytes of letters, digits and the characters of `extra`. -/
def validateIdentifier (extra : List Char) (lengthError charError : String) (s : String) :
    Except String Unit :=
  if s = "" ∨ 64 < s.utf8ByteSize then .error lengthError
  else if !allowedChars T extra s then .error charError
  else .ok ()

/-- Source: `api.rs`, `validate_proxy_name`. -/
def validateProxyName (name : String) : Except String Unit :=
  validateIdentifier T ['-', '_'] "代理规则名称长度需在 1-64 之间"
    "代理规则名称仅允许字母、数字、横线和下划线" name

/-- Source: `api.rs`, `validate_client_id`. -/
def validateClientId (id : String) : Except String Unit :=
  validateIdentifier T ['-', '_', '.'] "客户端 ID 长度需在 1-64 之间"
    "客户端 ID 仅允许字母、数字、横线、下划线和点号" id

/-- Source: `api.rs`, `validate_ip`. -/
def validateIp (ip : String) : Except String Unit :=
  if T.isIpAddr ip then .ok () else .error ("无效的 IP 地址格式: " ++ ip)

/-- Source: `api.rs`, `validate_port`. -/
def validatePort (port : UInt16) (fieldName : String) : Except String Unit :=
  if port = 0 then .error (fieldName ++ " 不能为 0") else .ok ()

/-- Source: `api.rs`, `validate_domain`. -/
def validateDomain (domain : String) : Except String Unit :=
  if domain = "" ∨ 253 < domain.utf8ByteSize then .error ("无效的域名长度: " ++ domain)
  else if !allowedChars T ['-', '.', '_'] domain then .error ("域名包含非法字符: " ++ domain)
  else if domain.toList.head? = some '-' ∨ domain.toList.head? = some '.' then
    .error ("域名格式无效: " ++ domain)
  else .ok ()

/-- Source: `api.rs`, `validate_proxy_protocol`. -/
def validateProxyProtocol (protocol : String) : Except String Unit :=
  if protocol = "" ∨ protocol = "v1" ∨ protocol = "v2" then .ok ()
  else .error ("无效的 proxy_protocol: " ++ protocol ++ "，仅支持空/v1/v2")

/-- The types a request can name. -/
def requestedType (s : String) : Option ProxyType :=
  if s = "tcp" then some .tcp
  else if s = "udp" then some .udp
  else if s = "http" then some .http
  else if s = "https" then some .https
  else none

/-- The type a request names, or the error `不支持的代理类型`. -/
def validateType (s : String) : Except String ProxyType :=
  match requestedType s with
  | some proxyType => .ok proxyType
  | none => .error ("不支持的代理类型: " ++ s)

/-- A check of a field that the request may leave out. -/
def checkSupplied {α : Type} (check : α → Except String Unit) : Option α → Except String Unit
  | some value => check value
  | none => .ok ()

/-! ## Requests -/

/-- Source: `api.rs`, `CreateProxyRequest`. -/
structure CreateProxyRequest where
  name : String
  proxyType : String
  clientId : String
  localIp : String
  localPort : UInt16
  remotePort : UInt16
  customDomains : List String
  proxyProtocol : String
  deriving DecidableEq, Repr

/-- Source: `api.rs`, `UpdateProxyRequest`. -/
structure UpdateProxyRequest where
  proxyType : Option String
  clientId : Option String
  localIp : Option String
  localPort : Option UInt16
  remotePort : Option UInt16
  customDomains : Option (List String)
  proxyProtocol : Option String
  deriving DecidableEq, Repr

/-- A request that supplies no field. -/
def noFields : UpdateProxyRequest where
  proxyType := none
  clientId := none
  localIp := none
  localPort := none
  remotePort := none
  customDomains := none
  proxyProtocol := none

/-- The checks of `create_proxy`, in their order. -/
def checkCreate (payload : CreateProxyRequest) : Except String ProxyType := do
  validateProxyName T payload.name
  validateClientId T payload.clientId
  validateIp T payload.localIp
  validatePort payload.localPort "local_port"
  if payload.proxyType = "tcp" ∨ payload.proxyType = "udp" then
    validatePort payload.remotePort "remote_port"
  payload.customDomains.forM (validateDomain T)
  validateProxyProtocol payload.proxyProtocol
  validateType payload.proxyType

/-- The rule a request to create asks for. -/
def CreateProxyRequest.rule (payload : CreateProxyRequest) (proxyType : ProxyType) : ProxyRule where
  name := payload.name
  proxyType := proxyType
  clientId := payload.clientId
  localIp := payload.localIp
  localPort := payload.localPort
  remotePort := payload.remotePort
  customDomains := payload.customDomains
  proxyProtocol := payload.proxyProtocol

/-- The checks that `update_proxy` makes before it reads the rule. -/
def checkUpdate (payload : UpdateProxyRequest) : Except String Unit := do
  checkSupplied (fun t => discard (validateType t)) payload.proxyType
  checkSupplied (validateClientId T) payload.clientId
  checkSupplied (validateIp T) payload.localIp
  checkSupplied (fun port => validatePort port "local_port") payload.localPort

/-- The type the updated rule will have. -/
def UpdateProxyRequest.effectiveType (payload : UpdateProxyRequest) (existing : ProxyRule) :
    ProxyType := (payload.proxyType.bind requestedType).getD existing.proxyType

/-- The checks that `update_proxy` makes after it has read the rule. -/
def checkUpdateOf (payload : UpdateProxyRequest) (existing : ProxyRule) : Except String Unit := do
  checkSupplied
    (fun port => if (payload.effectiveType existing).isStream then validatePort port "remote_port"
      else .ok ())
    payload.remotePort
  checkSupplied (fun domains => domains.forM (validateDomain T)) payload.customDomains
  checkSupplied validateProxyProtocol payload.proxyProtocol

/-- The rule with the supplied fields replaced. -/
def UpdateProxyRequest.merge (payload : UpdateProxyRequest) (name : String) (existing : ProxyRule) :
    ProxyRule where
  name := name
  proxyType := payload.effectiveType existing
  clientId := payload.clientId.getD existing.clientId
  localIp := payload.localIp.getD existing.localIp
  localPort := payload.localPort.getD existing.localPort
  remotePort := payload.remotePort.getD existing.remotePort
  customDomains := payload.customDomains.getD existing.customDomains
  proxyProtocol := payload.proxyProtocol.getD existing.proxyProtocol

/-! ## Handlers -/

/-- The notification of a new or changed rule. -/
def assignMessage (rule : ProxyRule) : ControlMessage :=
  .serverAssignProxy
    { name := rule.name
      proxyType := rule.proxyType.asStr
      localIp := rule.localIp
      localPort := rule.localPort
      remotePort := rule.remotePort
      customDomains := rule.customDomains
      proxyProtocol := rule.proxyProtocol }

variable (J : DomainsJson)

/-- Source: `api.rs`, `create_proxy`. -/
def createProxy (payload : CreateProxyRequest) : Program (ApiResponse ProxyInfo) := do
  match checkCreate T payload with
  | .error e => return errorResponse 400 e
  | .ok proxyType =>
      let rule := payload.rule proxyType
      match ← addProxy J rule with
      | .error e => return errorResponse 400 e
      | .ok () =>
          updateStatus rule.name .starting
          onProxyCreate rule
          let _ ← lift (.notify rule.clientId (assignMessage rule))
          match ← getProxy J rule.name with
          | some entry => return success (ProxyInfo.ofEntry entry)
          | none => return errorResponse 500 "创建成功但查询失败"

/-- Source: `api.rs`, `update_proxy`. -/
def updateProxyHandler (name : String) (payload : UpdateProxyRequest) :
    Program (ApiResponse ProxyInfo) := do
  match checkUpdate T payload with
  | .error e => return errorResponse 400 e
  | .ok () =>
      match ← getProxy J name with
      | none => return errorResponse 404 ("代理规则不存在: " ++ name)
      | some entry =>
          let existing := entry.rule
          match checkUpdateOf T payload existing with
          | .error e => return errorResponse 400 e
          | .ok () =>
              let updatedRule := payload.merge name existing
              match ← updateProxy J name updatedRule with
              | .error e => return errorResponse 400 e
              | .ok () =>
                  onProxyDelete existing
                  onProxyCreate updatedRule
                  let _ ← lift (.notify updatedRule.clientId (assignMessage updatedRule))
                  match ← getProxy J name with
                  | some entry => return success (ProxyInfo.ofEntry entry)
                  | none => return errorResponse 500 "更新成功但查询失败"

/-- Source: `api.rs`, `delete_proxy`. -/
def deleteProxy (name : String) : Program (ApiResponse Unit) := do
  match ← getProxy J name with
  | none => return errorResponse 404 ("代理规则不存在: " ++ name)
  | some entry =>
      match ← removeProxy J name with
      | .error e => return errorResponse 400 e
      | .ok _ =>
          updateStatus name .stopping
          onProxyDelete entry.rule
          let _ ← lift (.notify entry.rule.clientId (.serverCloseProxy { name }))
          return success ()

/-- The requests that change rules. -/
inductive ApiRequest where
  | create (payload : CreateProxyRequest)
  | update (name : String) (payload : UpdateProxyRequest)
  | delete (name : String)
  deriving DecidableEq, Repr

/-- What the handlers answer. -/
inductive ApiAnswer where
  | proxy (response : ApiResponse ProxyInfo)
  | unit (response : ApiResponse Unit)
  deriving DecidableEq, Repr

/-- The handler of a request. -/
def handle : ApiRequest → Program ApiAnswer
  | .create payload => do return .proxy (← createProxy T J payload)
  | .update name payload => do return .proxy (← updateProxyHandler T J name payload)
  | .delete name => do return .unit (← deleteProxy J name)

end

end RustProxy.Control
