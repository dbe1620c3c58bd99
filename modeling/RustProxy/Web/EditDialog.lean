import RustProxy.Control.Validity
import RustProxy.Foundation.JsText

/-!
# The dialog of the panel for a rule

The script of `crates/web/assets/index.html`, as far as it fills the dialog for a rule and sends what
stands in it.  The texts of the inputs are lists of characters.

* The lists of clients come in while the dialog is open, and each one builds the select of the clients
  anew.
* `unedited_save_iff`: a rule that is opened in the dialog and saved as it is there is stored as it was,
  or nothing is sent; and the dialog sends it exactly if the select had the rule's client to offer when
  it was opened and a rule for domains has one.
-/

namespace RustProxy.Web.EditDialog

open RustProxy.Core RustProxy.Control JsText

/-- Source: `api.rs`, `ClientInfo`. -/
structure ClientInfo where
  id : String
  online : Bool
  deriving DecidableEq, Repr

/-- A `select` element, by the values of its options. -/
structure Select where
  options : List String
  value : String
  deriving DecidableEq, Repr

/-- Assigning to its `value`: without such an option nothing is selected. -/
def Select.set (sel : Select) (v : String) : Select :=
  { sel with value := if v ∈ sel.options then v else "" }

/-- The other fields of the dialog. -/
structure Form where
  proxyName : String
  proxyType : String
  proxyRemotePort : List Char
  proxyLocalAddr : List Char
  proxyDomains : List Char
  proxyProtocol : String
  deriving DecidableEq, Repr

/-- What the script keeps of the dialog.  `none` is `null`. -/
structure Panel where
  editingProxy : Option String
  cachedClients : List ClientInfo
  modalShown : Bool
  proxyClientId : Select
  form : Form
  deriving DecidableEq, Repr

/-- Whether a rule is being edited: neither `null` nor empty. -/
def Panel.editing (p : Panel) : Bool := p.editingProxy.any (· ≠ "")

/-- The clients that are shown as online. -/
def Panel.onlineClients (p : Panel) : List String := (p.cachedClients.filter (·.online)).map (·.id)

/-! ## The dialog -/

/-- Source: `index.html`, `populateClientIdSelect`. -/
def populateClientIdSelect (p : Panel) : Panel :=
  let currentVal := p.proxyClientId.value
  let offline :=
    if p.editing ∧ currentVal ≠ "" ∧ currentVal ∉ p.onlineClients then [currentVal] else []
  let options := "" :: p.onlineClients ++ offline
  { p with proxyClientId :=
    { options, value := if currentVal ≠ "" ∧ currentVal ∈ options then currentVal else "" } }

/-- Source: `index.html`, `renderClients`. -/
def renderClients (p : Panel) (clients : List ClientInfo) : Panel :=
  let p := { p with cachedClients := clients }
  if clients = [] then p
  else if p.modalShown then populateClientIdSelect p
  else p

/-- `p.remote_port || ''`, as a text. -/
def portText (port : UInt16) : List Char := if port = 0 then [] else Nat.toDigits 10 port.toNat

/-- Source: `index.html`, `editProxy`, when the rule has been fetched. -/
def editProxy (p : Panel) (info : ProxyInfo) : Panel :=
  let p := populateClientIdSelect { p with editingProxy := some info.name }
  { p with
    modalShown := true
    proxyClientId := p.proxyClientId.set info.clientId
    form :=
      { proxyName := info.name
        proxyType := info.proxyType
        proxyRemotePort := portText info.remotePort
        proxyLocalAddr := info.localIp.toList ++ ':' :: Nat.toDigits 10 info.localPort.toNat
        proxyDomains := ", ".toList.intercalate (info.customDomains.map String.toList)
        proxyProtocol := info.proxyProtocol } }

/-! ## Sending -/

/-- `parseInt(s) || 0` -/
def numberOrZero (s : List Char) : ℤ := (parseInt s).getD 0

/-- `s || t` -/
def orText (s t : List Char) : List Char := if s = [] then t else s

/-- The address and the port in the field for the local address. -/
def parseLocalAddr (localAddr : List Char) : List Char × ℤ :=
  let localhost := "127.0.0.1".toList
  if ':' ∈ localAddr then
    match localAddr with
    | '[' :: rest =>
        if ']' ∈ rest then
          (rest.takeWhile (· ≠ ']'),
            numberOrZero ((rest.dropWhile (· ≠ ']')).tail.erase ':'))
        else (localhost, 0)
    | localAddr =>
        (orText (splitAtLast ':' localAddr).1 localhost, numberOrZero (splitAtLast ':' localAddr).2)
  else (localhost, numberOrZero localAddr)

/-- The body of the request, before its numbers are read as ports. -/
structure RequestBody where
  proxyType : String
  clientId : String
  localIp : String
  localPort : ℤ
  remotePort : Option ℤ
  customDomains : List String
  proxyProtocol : String
  deriving DecidableEq, Repr

/-- The requests of the dialog. -/
inductive PanelRequest where
  | post (name : String) (body : RequestBody)
  | put (name : String) (body : RequestBody)
  deriving DecidableEq, Repr

/-- A text, trimmed. -/
def trimmed (s : String) : String := String.ofList (trim s.toList)

/-- Source: `index.html`, `submitProxy`; an error is the text of the toast. -/
def submitProxy (p : Panel) : Except String PanelRequest :=
  let name := trimmed p.form.proxyName
  let type := p.form.proxyType
  let clientId := trimmed p.proxyClientId.value
  let remotePort := numberOrZero p.form.proxyRemotePort
  let localAddr := parseLocalAddr (trim p.form.proxyLocalAddr)
  let domains := (items p.form.proxyDomains).map String.ofList
  let isStream := type = "tcp" ∨ type = "udp"
  if name = "" ∨ clientId = "" ∨ localAddr.2 = 0 then .error "请填写必填项（名称、选择客户端、端口）"
  else if isStream ∧ remotePort = 0 then .error "TCP/UDP 类型必须填写服务端监听端口"
  else if (type = "http" ∨ type = "https") ∧ domains = [] then
    .error "HTTP/HTTPS 类型必须填写自定义域名"
  else
    let body (remotePort : Option ℤ) : RequestBody :=
      { proxyType := type
        clientId
        localIp := String.ofList localAddr.1
        localPort := localAddr.2
        remotePort
        customDomains := domains
        proxyProtocol := p.form.proxyProtocol }
    if p.editing then
      .ok (.put (p.editingProxy.getD "") (body (if isStream then some remotePort else none)))
    else .ok (.post name (body (some remotePort)))

/-- A JSON number that serde reads as a `u16`. -/
def toPort (n : ℤ) : Option UInt16 := if 0 ≤ n ∧ n < 65536 then some (UInt16.ofNat n.toNat) else none

/-- The request as the handlers get it; `none` is one that axum refuses. -/
def PanelRequest.received : PanelRequest → Option ApiRequest
  | .post name body => do
      let localPort ← toPort body.localPort
      let remotePort ← toPort (body.remotePort.getD 0)
      return .create
        { name
          proxyType := body.proxyType
          clientId := body.clientId
          localIp := body.localIp
          localPort
          remotePort
          customDomains := body.customDomains
          proxyProtocol := body.proxyProtocol }
  | .put name body => do
      let localPort ← toPort body.localPort
      let remotePort ← match body.remotePort with
        | some n => (toPort n).map some
        | none => some none
      return .update name
        { proxyType := some body.proxyType
          clientId := some body.clientId
          localIp := some body.localIp
          localPort := some localPort
          remotePort
          customDomains := some body.customDomains
          proxyProtocol := some body.proxyProtocol }

/-! ## The fields -/

/-- What is relied on of Rust's text tests: what they let pass is neither white nor a comma. -/
structure PlainText (T : StdText) : Prop where
  alphanumeric : ∀ c, T.isAlphanumeric c = true → isWhite c = false ∧ c ≠ ','
  ipAddr : ∀ ip, T.isIpAddr ip = true → ip ≠ "" ∧ ∀ c ∈ ip.toList, isWhite c = false ∧ c ≠ '['

variable {T : StdText} {p : Panel} {rule : ProxyRule} {client : String}

/-- The text has a character, and none that is white or a comma. -/
def Solid (s : String) : Prop := s ≠ "" ∧ ∀ c ∈ s.toList, c ≠ ',' ∧ isWhite c = false

/-- A few characters, checked one by one. -/
lemma plain_of_all {cs : List Char} (h : (cs.all fun c => !isWhite c && c != ',') = true) :
    ∀ c ∈ cs, isWhite c = false ∧ c ≠ ',' := by
  intro c hc
  simpa using List.all_eq_true.mp h c hc

/-- Texts of allowed characters are solid. -/
lemma solid_of_allowedChars (hT : PlainText T) {s : String} {extra : List Char} (hne : s ≠ "")
    (hextra : ∀ c ∈ extra, isWhite c = false ∧ c ≠ ',') (h : allowedChars T extra s = true) :
    Solid s := by
  refine ⟨hne, fun c hc => ?_⟩
  have hallowed := List.all_eq_true.mp h c hc
  rw [Bool.or_eq_true] at hallowed
  rcases hallowed with halnum | hin
  · exact (hT.alphanumeric c halnum).symm
  · exact (hextra c (by simpa using hin)).symm

/-- Identifiers are solid. -/
lemma solid_of_validateIdentifier (hT : PlainText T) {s lengthError charError : String}
    {extra : List Char} (hextra : ∀ c ∈ extra, isWhite c = false ∧ c ≠ ',')
    (h : validateIdentifier T extra lengthError charError s = .ok ()) : Solid s := by
  unfold validateIdentifier at h
  split_ifs at h with hlength hchars
  exact solid_of_allowedChars hT (fun hempty => hlength (.inl hempty)) hextra (by simpa using hchars)

/-- Domains are solid. -/
lemma solid_of_validateDomain (hT : PlainText T) {s : String}
    (h : validateDomain T s = .ok ()) : Solid s := by
  unfold validateDomain at h
  split_ifs at h with hlength hchars hfirst
  refine solid_of_allowedChars hT (fun hempty => hlength (.inl hempty)) ?_ (by simpa using hchars)
  exact plain_of_all (by decide)

/-- Solid texts need no trimming. -/
lemma trimmed_of_solid {s : String} (h : Solid s) : trimmed s = s := by
  rw [trimmed, trim_of_all fun c hc => (h.2 c hc).2, String.ofList_toList]

/-- The list of domains is read back. -/
lemma items_domains (hdomains : ∀ domain ∈ rule.customDomains, Solid domain) :
    (items (", ".toList.intercalate (rule.customDomains.map String.toList))).map String.ofList =
      rule.customDomains := by
  rw [items_join, List.map_map]
  · exact (List.map_congr_left fun s _ => String.ofList_toList).trans (List.map_id _)
  · intro x hx
    obtain ⟨domain, hdomain, rfl⟩ := List.mem_map.mp hx
    have hsolid := hdomains domain hdomain
    exact ⟨fun hempty => hsolid.1 (String.toList_eq_nil_iff.mp hempty), hsolid.2⟩

/-- Digits are read as their number. -/
lemma numberOrZero_digits (n : ℕ) : numberOrZero (Nat.toDigits 10 n) = n := by
  rw [numberOrZero, parseInt_toDigits]
  rfl

/-- The port is read back, 0 from an empty field. -/
lemma numberOrZero_portText (port : UInt16) : numberOrZero (portText port) = port.toNat := by
  unfold portText
  split
  · next hzero =>
      rw [hzero]
      decide
  · exact numberOrZero_digits _

/-- The local address is read back. -/
lemma parseLocalAddr_fields (hT : PlainText T) {ip : String} (hip : T.isIpAddr ip = true) (n : ℕ) :
    parseLocalAddr (trim (ip.toList ++ ':' :: Nat.toDigits 10 n)) = (ip.toList, (n : ℤ)) := by
  obtain ⟨hne, hchars⟩ := hT.ipAddr ip hip
  have hdigits : ∀ c ∈ Nat.toDigits 10 n, c.isDigit := fun c hc => isDigit_of_mem_toDigits hc
  have hwhite : ∀ c ∈ ip.toList ++ ':' :: Nat.toDigits 10 n, isWhite c = false := by
    intro c hc
    rcases List.mem_append.mp hc with hc | hc
    · exact (hchars c hc).1
    · rcases List.mem_cons.mp hc with rfl | hc
      · decide
      · exact isWhite_of_isDigit (hdigits c hc)
  have hcolon : ':' ∉ Nat.toDigits 10 n := fun hc => absurd (hdigits ':' hc) (by decide)
  have hsplit := splitAtLast_append (a := ip.toList) hcolon
  have hfirst : ip.toList ≠ [] := fun hempty => hne (String.toList_eq_nil_iff.mp hempty)
  rw [trim_of_all hwhite, parseLocalAddr, if_pos (by simp)]
  · rw [hsplit, orText, if_neg hfirst, numberOrZero_digits]
  · intro rest h
    obtain ⟨c, cs, hcs⟩ := List.exists_cons_of_ne_nil hfirst
    rw [hcs, List.cons_append, List.cons.injEq] at h
    exact absurd h.1 (hchars c (by simp [hcs])).2

/-- A port is sent as it is. -/
lemma toPort_toNat (port : UInt16) : toPort port.toNat = some port := by
  have hlt := port.toNat_lt
  rw [toPort, if_pos ⟨by omega, by omega⟩, Int.toNat_natCast, UInt16.ofNat_toNat]

/-! ## The dialog while it is open -/

/-- The dialog shows the rule, with this client selected. -/
structure Shows (rule : ProxyRule) (client : String) (p : Panel) : Prop where
  editingProxy : p.editingProxy = some rule.name
  modalShown : p.modalShown = true
  client : p.proxyClientId.value = client
  form : p.form =
    { proxyName := rule.name
      proxyType := rule.proxyType.asStr
      proxyRemotePort := portText rule.remotePort
      proxyLocalAddr := rule.localIp.toList ++ ':' :: Nat.toDigits 10 rule.localPort.toNat
      proxyDomains := ", ".toList.intercalate (rule.customDomains.map String.toList)
      proxyProtocol := rule.proxyProtocol }

/-- The dialog shows that a rule is edited. -/
lemma Shows.editing (h : Shows rule client p) (hname : rule.name ≠ "") : p.editing = true := by
  simp [Panel.editing, h.editingProxy, hname]

/-- The select has this client to offer when a rule is opened: it is online, or it was selected last. -/
def Offered (p : Panel) (client : String) : Prop :=
  client ∈ p.onlineClients ∨ p.proxyClientId.value = client

instance (p : Panel) (client : String) : Decidable (Offered p client) :=
  inferInstanceAs (Decidable (_ ∨ _))

/-- While a rule is edited, building the select anew keeps what is selected. -/
lemma value_populate (hediting : p.editing = true) :
    (populateClientIdSelect p).proxyClientId.value = p.proxyClientId.value := by
  unfold populateClientIdSelect
  dsimp only
  split_ifs with hoffline hin hin
  · rfl
  · exact absurd ⟨hoffline.2.1, by simp⟩ hin
  · rfl
  · by_contra hne
    have hvalue : p.proxyClientId.value ≠ "" := fun hempty => hne hempty.symm
    refine hin ⟨hvalue, ?_⟩
    by_contra hnot
    exact hoffline ⟨hediting, hvalue, fun honline => hnot (by simp [honline])⟩

/-- The options of the select that is built while a rule is edited. -/
lemma mem_options_populate (hediting : p.editing = true) (hclient : client ≠ "") :
    client ∈ (populateClientIdSelect p).proxyClientId.options ↔ Offered p client := by
  unfold populateClientIdSelect Offered
  dsimp only
  rw [List.mem_append, List.mem_cons]
  split_ifs with hoffline
  · simp [hclient, eq_comm]
  · have hlast : p.proxyClientId.value = client → client ∈ p.onlineClients := by
      rintro rfl
      by_contra hnot
      exact hoffline ⟨hediting, hclient, hnot⟩
    simp only [hclient, List.not_mem_nil, false_or, or_false]
    exact ⟨.inl, fun h => h.elim id hlast⟩

/-- What the dialog shows when it has been opened for a rule. -/
lemma shows_editProxy {e : ProxyEntry} (hname : e.rule.name ≠ "") (hclient : e.rule.clientId ≠ "") :
    Shows e.rule (if Offered p e.rule.clientId then e.rule.clientId else "")
      (editProxy p (.ofEntry e)) where
  editingProxy := rfl
  modalShown := rfl
  client := by
    have hediting : Panel.editing { p with editingProxy := some e.rule.name } = true := by
      simp [Panel.editing, hname]
    change (if e.rule.clientId ∈ _ then e.rule.clientId else "") = _
    exact if_congr (mem_options_populate hediting hclient) rfl rfl
  form := rfl

/-- A list of clients that comes in changes nothing of it. -/
lemma Shows.renderClients (h : Shows rule client p) (hname : rule.name ≠ "")
    (clients : List ClientInfo) : Shows rule client (renderClients p clients) := by
  have hcached : Shows rule client { p with cachedClients := clients } :=
    ⟨h.editingProxy, h.modalShown, h.client, h.form⟩
  unfold EditDialog.renderClients
  dsimp only
  split_ifs with hempty hshown
  · exact hcached
  · exact ⟨h.editingProxy, h.modalShown, (value_populate (hcached.editing hname)).trans h.client,
      h.form⟩
  · exact hcached

/-- Nor do any number of them. -/
lemma Shows.foldl_renderClients (h : Shows rule client p) (hname : rule.name ≠ "")
    (updates : List (List ClientInfo)) :
    Shows rule client (updates.foldl EditDialog.renderClients p) := by
  induction updates generalizing p with
  | nil => exact h
  | cons clients updates ih => exact ih (h.renderClients hname clients)

/-! ## Saving what is shown -/

/-- The body that is sent for a rule. -/
def bodyOf (rule : ProxyRule) : RequestBody where
  proxyType := rule.proxyType.asStr
  clientId := rule.clientId
  localIp := rule.localIp
  localPort := rule.localPort.toNat
  remotePort := if rule.proxyType.isStream then some rule.remotePort.toNat else none
  customDomains := rule.customDomains
  proxyProtocol := rule.proxyProtocol

/-- The name of a valid rule is solid. -/
lemma solid_name (hT : PlainText T) (h : Valid T rule) : Solid rule.name :=
  solid_of_validateIdentifier hT (plain_of_all (by decide)) h.name

/-- The client of a valid rule is solid. -/
lemma solid_clientId (hT : PlainText T) (h : Valid T rule) : Solid rule.clientId :=
  solid_of_validateIdentifier hT (plain_of_all (by decide)) h.clientId

/-- The address of a valid rule is one. -/
lemma isIpAddr_of_valid (h : Valid T rule) : T.isIpAddr rule.localIp = true := by
  have hip := h.localIp
  unfold validateIp at hip
  split_ifs at hip with hok
  exact hok

/-- The stream types have a port. -/
lemma asStr_stream_iff (t : ProxyType) :
    (t.asStr = "tcp" ∨ t.asStr = "udp") ↔ t.isStream = true := by
  cases t <;> decide

/-- The types of the web have domains. -/
lemma asStr_web_iff (t : ProxyType) :
    (t.asStr = "http" ∨ t.asStr = "https") ↔ t.isStream = false := by
  cases t <;> decide

/-- Only port zero is the number zero. -/
lemma natCast_toNat_eq_zero {port : UInt16} : (port.toNat : ℤ) = 0 ↔ port = 0 := by
  rw [Int.natCast_eq_zero, ← UInt16.toNat_inj, UInt16.toNat_zero]

/-- What is sent, if anything is. -/
lemma submitProxy_shows (hT : PlainText T) (hvalid : Valid T rule) (h : Shows rule client p)
    (hclient : client = rule.clientId ∨ client = "") :
    submitProxy p =
      if client = "" then .error "请填写必填项（名称、选择客户端、端口）"
      else if rule.proxyType.isStream = false ∧ rule.customDomains = [] then
        .error "HTTP/HTTPS 类型必须填写自定义域名"
      else .ok (.put rule.name (bodyOf rule)) := by
  have hname := solid_name hT hvalid
  have hdomains := items_domains fun domain hdomain =>
    solid_of_validateDomain hT (hvalid.customDomains domain hdomain)
  have hlocal := parseLocalAddr_fields hT (isIpAddr_of_valid hvalid) rule.localPort.toNat
  have htrimmed : trimmed client = client := by
    rcases hclient with rfl | rfl
    · exact trimmed_of_solid (solid_clientId hT hvalid)
    · decide
  unfold submitProxy
  rw [h.form, h.client, h.editing hname.1, h.editingProxy]
  dsimp only
  rw [trimmed_of_solid hname, htrimmed, hdomains, hlocal, numberOrZero_portText]
  simp only [asStr_stream_iff, asStr_web_iff, natCast_toNat_eq_zero, hname.1, hvalid.localPort,
    false_or, or_false, if_true, Option.getD_some, String.ofList_toList]
  by_cases hempty : client = ""
  · rw [if_pos hempty, if_pos hempty]
  · obtain rfl : client = rule.clientId := hclient.resolve_right hempty
    have hremote : ¬ (rule.proxyType.isStream = true ∧ rule.remotePort = 0) := fun hzero =>
      hvalid.remotePort hzero.1 hzero.2
    rw [if_neg hempty, if_neg hempty, if_neg hremote]
    rfl

/-- What the server gets of an unedited rule. -/
lemma received_bodyOf (rule : ProxyRule) :
    (PanelRequest.put rule.name (bodyOf rule)).received = some (.update rule.name
      { proxyType := some rule.proxyType.asStr
        clientId := some rule.clientId
        localIp := some rule.localIp
        localPort := some rule.localPort
        remotePort := if rule.proxyType.isStream then some rule.remotePort else none
        customDomains := some rule.customDomains
        proxyProtocol := some rule.proxyProtocol }) := by
  unfold PanelRequest.received bodyOf
  cases hstream : rule.proxyType.isStream <;> simp [toPort_toNat]

/-- What the handler makes of the request for a rule that is stored: the same rule. -/
def Unchanged (T : StdText) (rule : ProxyRule) (request : PanelRequest) : Prop :=
  ∃ payload, request.received = some (.update rule.name payload) ∧ checkUpdate T payload = .ok () ∧
    checkUpdateOf T payload rule = .ok () ∧ payload.merge rule.name rule = rule

/-- A type is requested by its text. -/
lemma requestedType_asStr (t : ProxyType) : requestedType t.asStr = some t := by
  cases t <;> decide

/-- The handler accepts the request and stores the rule as it is. -/
lemma unchanged_bodyOf (hvalid : Valid T rule) :
    Unchanged T rule (.put rule.name (bodyOf rule)) := by
  refine ⟨_, received_bodyOf rule, ?_, ?_, ?_⟩
  · have hport : validatePort rule.localPort "local_port" = .ok () :=
      validatePort_eq_ok.mpr hvalid.localPort
    simp only [checkUpdate, checkSupplied, validateType, requestedType_asStr, hvalid.clientId,
      hvalid.localIp, hport]
    rfl
  · have hremote : checkSupplied (fun port => if rule.proxyType.isStream then
        validatePort port "remote_port" else .ok ())
        (if rule.proxyType.isStream then some rule.remotePort else none) = .ok () := by
      split
      · next hstream => exact validatePort_eq_ok.mpr (hvalid.remotePort hstream)
      · rfl
    simp only [checkUpdateOf, UpdateProxyRequest.effectiveType, Option.bind_some,
      requestedType_asStr, Option.getD_some, hremote]
    refine bind_eq_ok.mpr ⟨(), rfl, bind_eq_ok.mpr ⟨(), ?_, ?_⟩⟩
    · exact forM_eq_ok.mpr hvalid.customDomains
    · exact validateProxyProtocol_eq_ok.mpr hvalid.proxyProtocol
  · have hremote : (if rule.proxyType.isStream then some rule.remotePort else none).getD
        rule.remotePort = rule.remotePort := by
      split <;> rfl
    simp only [UpdateProxyRequest.merge, UpdateProxyRequest.effectiveType, Option.bind_some,
      requestedType_asStr, Option.getD_some, hremote]

/-- **Saving without an edit.**  A valid rule is opened in the dialog, whatever it showed before, lists
of clients come in, and it is saved as it stands there.  What is sent is accepted for the rule and
leaves it as it is; and it is sent exactly if the rule's client was on offer when the rule was opened,
and a rule for domains has a domain. -/
theorem unedited_save_iff (hT : PlainText T) (p : Panel) (e : ProxyEntry) (hvalid : Valid T e.rule)
    (updates : List (List ClientInfo)) :
    ((∃ request, submitProxy (updates.foldl renderClients (editProxy p (.ofEntry e))) =
        .ok request) ↔
      Offered p e.rule.clientId ∧ (e.rule.proxyType.isStream = false → e.rule.customDomains ≠ [])) ∧
    ∀ request, submitProxy (updates.foldl renderClients (editProxy p (.ofEntry e))) = .ok request →
      Unchanged T e.rule request := by
  have hname := (solid_name hT hvalid).1
  have hclient := (solid_clientId hT hvalid).1
  have hshows := (shows_editProxy (p := p) hname hclient).foldl_renderClients hname updates
  have hselected : (if Offered p e.rule.clientId then e.rule.clientId else "") = e.rule.clientId ∨
      (if Offered p e.rule.clientId then e.rule.clientId else "") = "" := by
    split
    · exact .inl rfl
    · exact .inr rfl
  rw [submitProxy_shows hT hvalid hshows hselected]
  by_cases hoffered : Offered p e.rule.clientId
  · rw [if_pos hoffered, if_neg hclient]
    split
    · next hweb =>
        constructor
        · simp [hweb]
        · nofun
    · next hweb =>
        constructor
        · refine iff_of_true ⟨_, rfl⟩ ⟨hoffered, fun hstream hempty => hweb ⟨hstream, hempty⟩⟩
        · rintro _ ⟨⟩
          exact unchanged_bodyOf hvalid
  · rw [if_neg hoffered, if_pos rfl]
    constructor
    · simp [hoffered]
    · nofun

/-- Letters and digits are neither white nor commas. -/
lemma isWhite_of_isAlphanum {c : Char} (h : c.isAlphanum = true) : isWhite c = false ∧ c ≠ ',' := by
  have hbounds : 48 ≤ c.toNat ∧ c.toNat ≤ 122 := by
    have hval : c.val.toNat = c.toNat := rfl
    have hranges : (decide (65 ≤ c.val ∧ c.val ≤ 90) || (97 ≤ c.val && c.val ≤ 122) ||
        (48 ≤ c.val && c.val ≤ 57)) = true := h
    simp [UInt32.le_iff_toNat_le, hval] at hranges
    omega
  constructor
  · simp only [isWhite, List.mem_cons, List.not_mem_nil, or_false, Bool.or_eq_false_iff,
      decide_eq_false_iff_not, Bool.and_eq_false_iff]
    omega
  · rintro rfl
    exact absurd hbounds.1 (by decide)

/-- The sample texts are plain. -/
lemma plainText_ascii : PlainText asciiText where
  alphanumeric := fun _ h => isWhite_of_isAlphanum h
  ipAddr := by
    intro ip hip
    obtain rfl : ip = "127.0.0.1" := by simpa [asciiText] using hip
    have hall : ("127.0.0.1".toList.all fun c => !isWhite c && c != '[') = true := by decide
    refine ⟨by decide, fun c hc => ?_⟩
    simpa using List.all_eq_true.mp hall c hc

/-- A stored rule for two domains. -/
def sampleEntry : ProxyEntry where
  rule :=
    { name := "web", proxyType := .http, clientId := "laptop", localIp := "127.0.0.1"
      localPort := 8080, remotePort := 0, customDomains := ["a.example", "b.example"]
      proxyProtocol := "v1" }
  status := .running
  connections := 0

/-- The sample rule is valid. -/
lemma valid_sampleEntry : Valid asciiText sampleEntry.rule where
  name := by decide +kernel
  clientId := by decide +kernel
  localIp := by decide +kernel
  localPort := by decide
  remotePort := nofun
  customDomains := by decide +kernel
  proxyProtocol := .inr (.inl rfl)

/-- A panel whose dialog was not opened yet. -/
def closedPanel (online : Bool) : Panel where
  editingProxy := none
  cachedClients := [⟨"laptop", online⟩]
  modalShown := false
  proxyClientId := ⟨[""], ""⟩
  form := ⟨"", "tcp", [], [], [], ""⟩

/-- The rule of a client that goes offline after the dialog was opened is sent, and that of a client
that was offline is not. -/
theorem unedited_save_offline :
    (∃ request, submitProxy ([[⟨"laptop", false⟩]].foldl renderClients
      (editProxy (closedPanel true) (.ofEntry sampleEntry))) = .ok request) ∧
    ¬ ∃ request, submitProxy ([[⟨"laptop", true⟩]].foldl renderClients
      (editProxy (closedPanel false) (.ofEntry sampleEntry))) = .ok request :=
  ⟨(unedited_save_iff plainText_ascii _ _ valid_sampleEntry _).1.mpr (by decide),
    mt (unedited_save_iff plainText_ascii _ _ valid_sampleEntry _).1.mp (by decide)⟩

end RustProxy.Web.EditDialog
