import RustProxy.Foundation.Transition
import RustProxy.Server.Authentication
import RustProxy.Server.ClientSession

/-!
# Who gets a session on the tunnel

All tunnel connections of the server: the dispatch on the first message
(`crates/server/src/tunnel.rs`, `dispatch_connection`), the checks and the message loop of
`handle_client_with_auth` (`crates/server/src/client_session.rs`), and the tasks of the session
manager in every order, as in `ClientSession`.

* A connection keeps, as history, the messages that were decoded on it and those that were sent.
* What a peer sends, whether a send succeeds, and which rules are stored is the choice of the label.
* `Admitted` is read off the first decoded message: a well-formed client id and the token of the
  server.  `tunnel_gate` says that nothing but an admitted connection gets a session, an assignment
  or a queued message, and that the id it was admitted under stays its id.
-/

namespace RustProxy.Server.TunnelGate

open RustProxy.Proto Transition

/-- What has become of a connection. -/
inductive Phase where
  /-- The first message is awaited. -/
  | accepting
  /-- The handler has answered with a success; from there on it is the handler of `ClientSession`. -/
  | main
  /-- Handed to `register_work_conn`. -/
  | work
  | closed
  deriving DecidableEq, Repr

/-- A tunnel connection; `clientId` is the local variable of its handler. -/
structure TunnelConn where
  phase : Phase
  clientId : ClientId
  decoded : List Message
  sent : List Message

/-- A connection after its TLS handshake. -/
def TunnelConn.start : TunnelConn :=
  { phase := .accepting, clientId := "", decoded := [], sent := [] }

/-- The session manager and the connections. -/
structure GateState where
  session : SessionState
  conn : ConnId → TunnelConn

namespace GateState

/-- No connection has been accepted. -/
def start : GateState := { session := .start, conn := fun _ => .start }

/-- The client ids that the handlers work with. -/
def client (s : GateState) : ConnId → ClientId := fun k => (s.conn k).clientId

/-- A connection changes. -/
def setConn (s : GateState) (k : ConnId) (conn : TunnelConn) : GateState :=
  { s with conn := Function.update s.conn k conn }

/-- A connection is not part of the sessions. -/
@[simp] lemma setConn_session (s : GateState) (k : ConnId) (conn : TunnelConn) :
    (s.setConn k conn).session = s.session := rfl

/-- The connection that was set. -/
@[simp] lemma setConn_conn_self (s : GateState) (k : ConnId) (conn : TunnelConn) :
    (s.setConn k conn).conn k = conn := Function.update_self _ _ _

/-- The other connections stay. -/
lemma setConn_conn_of_ne (s : GateState) {j k : ConnId} (h : j ≠ k) (conn : TunnelConn) :
    (s.setConn k conn).conn j = s.conn j := Function.update_of_ne h _ _

/-- A step of the tasks of the session manager. -/
def sessionTask (s : GateState) (label : Label) : Option GateState :=
  (sessionStep s.client s.session label).map fun session => { s with session }

end GateState

/-- What happens next on the tunnel. -/
inductive GateLabel where
  /-- The first message is decoded; `ok` says whether the response to it can be sent. -/
  | first (k : ConnId) (msg : Message) (ok : Bool)
  /-- No first message: the timeout, the end of the connection, or a parse error. -/
  | noFirst (k : ConnId)
  /-- The message loop decodes a message; `ok` says whether the answer to it can be sent. -/
  | message (k : ConnId) (msg : Message) (ok : Bool)
  /-- One of the client's rules is pushed. -/
  | push (k : ConnId) (req : ServerAssignProxyRequest)
  /-- The queued message that the loop has taken is sent. -/
  | forward (k : ConnId)
  /-- The bridge or the UDP worker of a work connection sends data on it. -/
  | bridgeSend (k : ConnId) (dataMsg : DataMessage)
  /-- The bridge or the UDP worker of a work connection decodes a message. -/
  | bridgeRead (k : ConnId) (msg : Message)
  /-- Any other step of the tasks of the session manager. -/
  | task (label : Label)
  deriving DecidableEq, Repr

/-- The connection whose handler takes the step. -/
def handlerOf : Label → Option ConnId
  | .authenticated k | .register k | .replaced k | .listed k | .published k | .pushed k | .recv k
  | .forwarded k | .leave k | .unregister k | .relisted k | .republished k => some k
  | .sendTo _ _ _ | .lookup _ | .sent _ => none

/-- The connection that the step is taken on. -/
def GateLabel.conn? : GateLabel → Option ConnId
  | .first k _ _ | .noFirst k | .message k _ _ | .push k _ | .forward k | .bridgeSend k _
  | .bridgeRead k _ => some k
  | .task label => handlerOf label

open GateState

/-- Source: `client_session.rs`, `handle_client_with_auth`, up to and with the response. -/
def handleClientWithAuth (config : AuthConfig) (s : GateState) (k : ConnId) (req : AuthRequest)
    (ok : Bool) : Option GateState :=
  let resp := authenticate config req
  let answered : TunnelConn :=
    { s.conn k with
      decoded := [.control (.auth req)]
      sent := if ok then [.control (.authResp resp)] else [] }
  if resp.success ∧ ok then
    (s.setConn k { answered with phase := .main, clientId := req.clientId }).sessionTask
      (.authenticated k)
  else some (s.setConn k { answered with phase := .closed })

/-- Source: `tunnel.rs`, `dispatch_connection`, for a first message that was decoded in time. -/
def dispatchConnection (config : AuthConfig) (s : GateState) (k : ConnId) (ok : Bool) :
    Message → Option GateState
  | .control (.auth req) => handleClientWithAuth config s k req ok
  | .control (.newWorkConnResp resp) =>
      some (s.setConn k
        { s.conn k with
          decoded := [.control (.newWorkConnResp resp)]
          phase := if resp.success then .work else .closed })
  | other => some (s.setConn k { s.conn k with decoded := [other], phase := .closed })

/-- Source: `client_session.rs`, `handle_client_with_auth`, the arm of the loop for the peer's
messages. -/
def onMessage (s : GateState) (k : ConnId) (ok : Bool) (msg : Message) : Option GateState :=
  let read : TunnelConn := { s.conn k with decoded := (s.conn k).decoded ++ [msg] }
  match msg with
  | .control .ping =>
      if ok then some (s.setConn k { read with sent := read.sent ++ [.control .pong] })
      else (s.setConn k read).sessionTask (.leave k)
  -- a repeated authentication is ignored, and so is everything else
  | .control (.auth _) => some (s.setConn k read)
  | _ => some (s.setConn k read)

/-- A message is sent on a connection. -/
def send (s : GateState) (k : ConnId) (msg : Message) : GateState :=
  s.setConn k { s.conn k with sent := (s.conn k).sent ++ [msg] }

/-- The steps of the session manager's tasks that `first` and `forward` take. -/
def takenHere : Label → Bool
  | .authenticated _ => true
  | .forwarded _ => true
  | _ => false

/-- One step on one connection. -/
def gateStep (config : AuthConfig) (s : GateState) : GateLabel → Option GateState
  | .first k msg ok =>
      if (s.conn k).phase = .accepting then dispatchConnection config s k ok msg else none
  | .noFirst k =>
      if (s.conn k).phase = .accepting then some (s.setConn k { s.conn k with phase := .closed })
      else none
  | .message k msg ok =>
      match s.session.handler k with
      | .running => onMessage s k ok msg
      | _ => none
  | .push k req =>
      match s.session.handler k with
      | .pushing => some (send s k (.control (.serverAssignProxy req)))
      | _ => none
  | .forward k =>
      match s.session.handler k with
      | .forwarding msg => (send s k msg).sessionTask (.forwarded k)
      | _ => none
  | .bridgeSend k dataMsg =>
      if (s.conn k).phase = .work then some (send s k (.data dataMsg)) else none
  | .bridgeRead k msg =>
      if (s.conn k).phase = .work then
        some (s.setConn k { s.conn k with decoded := (s.conn k).decoded ++ [msg] })
      else none
  | .task label => if takenHere label then none else s.sessionTask label

/-! ## Admission -/

/-- A client id as the checks want it. -/
def WellFormedId (isAlphanumeric : Char → Bool) (id : ClientId) : Prop :=
  id ≠ "" ∧ (asBytes id).length ≤ 64 ∧
    ∀ c ∈ id.toList, isAlphanumeric c = true ∨ c = '-' ∨ c = '_' ∨ c = '.'

/-- The first message decoded on the connection asks for the client `c`, well-formed, with the token
of the server. -/
def Admitted (config : AuthConfig) (conn : TunnelConn) (c : ClientId) : Prop :=
  ∃ req later, conn.decoded = .control (.auth req) :: later ∧ req.clientId = c ∧
    WellFormedId config.isAlphanumeric c ∧ asBytes req.token = asBytes config.token

/-! ## What the tasks of the session manager do to the map -/

/-- A step of a handler that has been started, or of a caller of `send_to`: the session map only
gains the handler's own connection under its own id, and the handlers that have been started are the
same. -/
structure SessionEffect (client : ConnId → ClientId) (s : SessionState) (label : Label)
    (s' : SessionState) : Prop where
  gained : ∀ c k, s'.sessions c = some k →
    s.sessions c = some k ∨ (client k = c ∧ s.handler k ≠ .new)
  started : ∀ k, s'.handler k = .new ↔ s.handler k = .new
  acting : ∀ k, handlerOf label = some k → s.handler k ≠ .new

/-- A handler that has begun goes on. -/
lemma started_update {handler : ConnId → HandlerPc} {k : ConnId} {pc : HandlerPc}
    (hk : handler k ≠ .new) (hpc : pc ≠ .new) (j : ConnId) :
    Function.update handler k pc j = .new ↔ handler j = .new := by
  by_cases hj : j = k
  · subst hj
    simp [hk, hpc]
  · rw [Function.update_of_ne hj]

/-- Only a handler that has begun acts. -/
lemma acting_of_eq {s : SessionState} {k : ConnId} {label : Label} (hlabel : handlerOf label = some k)
    (hk : s.handler k ≠ .new) (j : ConnId) (hj : handlerOf label = some j) : s.handler j ≠ .new := by
  cases hlabel.symm.trans hj
  exact hk

/-- A handler goes on, and the map stays. -/
lemma SessionEffect.keep {client : ConnId → ClientId} {s s' : SessionState} {label : Label}
    {k : ConnId} (pc : HandlerPc) (hlabel : handlerOf label = some k) (hk : s.handler k ≠ .new)
    (hpc : pc ≠ .new) (hhandler : s'.handler = Function.update s.handler k pc)
    (hsessions : s'.sessions = s.sessions) : SessionEffect client s label s' where
  gained := by
    intro c j hj
    rw [hsessions] at hj
    exact Or.inl hj
  started := by
    rw [hhandler]
    exact started_update hk hpc
  acting := acting_of_eq hlabel hk

/-- A handler goes on, and an entry of the map is removed. -/
lemma SessionEffect.remove {client : ConnId → ClientId} {s s' : SessionState} {label : Label}
    {k : ConnId} (pc : HandlerPc) (hlabel : handlerOf label = some k) (hk : s.handler k ≠ .new)
    (hpc : pc ≠ .new) (hhandler : s'.handler = Function.update s.handler k pc) {c : ClientId}
    (hsessions : s'.sessions = Function.update s.sessions c none) :
    SessionEffect client s label s' where
  gained := by
    intro c' j hj
    rw [hsessions] at hj
    by_cases hc : c' = c
    · subst hc
      rw [Function.update_self] at hj
      cases hj
    · rw [Function.update_of_ne hc] at hj
      exact Or.inl hj
  started := by
    rw [hhandler]
    exact started_update hk hpc
  acting := acting_of_eq hlabel hk

/-- A handler goes on, and its connection enters the map under its id. -/
lemma SessionEffect.insert {client : ConnId → ClientId} {s s' : SessionState} {label : Label}
    {k : ConnId} (pc : HandlerPc) (hlabel : handlerOf label = some k) (hk : s.handler k ≠ .new)
    (hpc : pc ≠ .new) (hhandler : s'.handler = Function.update s.handler k pc)
    (hsessions : s'.sessions = Function.update s.sessions (client k) (some k)) :
    SessionEffect client s label s' where
  gained := by
    intro c j hj
    rw [hsessions] at hj
    by_cases hc : c = client k
    · subst hc
      rw [Function.update_self] at hj
      cases hj
      exact Or.inr ⟨rfl, hk⟩
    · rw [Function.update_of_ne hc] at hj
      exact Or.inl hj
  started := by
    rw [hhandler]
    exact started_update hk hpc
  acting := acting_of_eq hlabel hk

/-- A caller of `send_to` goes on. -/
lemma SessionEffect.sender {client : ConnId → ClientId} {s s' : SessionState} {label : Label}
    (hlabel : handlerOf label = none) (hhandler : s'.handler = s.handler)
    (hsessions : s'.sessions = s.sessions) : SessionEffect client s label s' where
  gained := by
    intro c j hj
    rw [hsessions] at hj
    exact Or.inl hj
  started := by simp [hhandler]
  acting := by
    intro k hk
    cases hlabel.symm.trans hk

/-- What a step of the sessions does, apart from a new one. -/
theorem sessionEffect_of_step {client : ConnId → ClientId} {s s' : SessionState} {label : Label}
    (h : Step client s label s') (hlabel : ∀ k, label ≠ .authenticated k) :
    SessionEffect client s label s' := by
  cases h with
  | authenticated k => exact absurd rfl (hlabel k)
  | registerTake k old hpc =>
      exact .remove (.replacing old) rfl (by simp [hpc]) (by simp) rfl rfl
  | registerNew k hpc => exact .insert .listing rfl (by simp [hpc]) (by simp) rfl rfl
  | replacedClosed k old hpc => exact .insert .listing rfl (by simp [hpc]) (by simp) rfl rfl
  | replacedSent k old hpc => exact .insert .listing rfl (by simp [hpc]) (by simp) rfl rfl
  | listed k hpc => exact .keep (.publishing _) rfl (by simp [hpc]) (by simp) rfl rfl
  | published k clients hpc => exact .keep .pushing rfl (by simp [hpc]) (by simp) rfl rfl
  | pushed k hpc => exact .keep .running rfl (by simp [hpc]) (by simp) rfl rfl
  | recv k msg hpc => exact .keep (.forwarding msg) rfl (by simp [hpc]) (by simp) rfl rfl
  | forwarded k msg hpc => exact .keep .running rfl (by simp [hpc]) (by simp) rfl rfl
  | leave k hpc =>
      refine .keep .unregistering rfl ?_ (by simp) rfl rfl
      rcases hpc with hpc | ⟨msg, hpc⟩ <;> simp [hpc]
  | unregister k hpc => exact .remove .relisting rfl (by simp [hpc]) (by simp) rfl rfl
  | relisted k hpc => exact .keep (.republishing _) rfl (by simp [hpc]) (by simp) rfl rfl
  | republished k clients hpc =>
      exact .keep .finished rfl (by simp [hpc]) (by simp) rfl rfl
  | sendTo => exact .sender rfl rfl rfl
  | lookupSome => exact .sender rfl rfl rfl
  | lookupNone => exact .sender rfl rfl rfl
  | sentClosed => exact .sender rfl rfl rfl
  | sentQueued => exact .sender rfl rfl rfl

/-! ## What a step of the tunnel can be -/

/-- What is known of a connection in each phase. -/
def ConnInv (config : AuthConfig) (conn : TunnelConn) : Prop :=
  match conn.phase with
  | .accepting => conn.decoded = [] ∧ conn.sent = []
  | .main => Admitted config conn conn.clientId
  | .work => (∃ resp later, conn.decoded = .control (.newWorkConnResp resp) :: later ∧
      resp.success = true) ∧ ∀ msg ∈ conn.sent, ∃ dataMsg, msg = .data dataMsg
  | .closed => conn.sent = [] ∨ ∃ resp, conn.sent = [.control (.authResp resp)] ∧
      resp.success = false ∧ resp.serverVersion = ""

/-- The connection may become `conn`: it keeps its id, and its phase if its handler has been
started. -/
structure Becomes (config : AuthConfig) (s : GateState) (k : ConnId) (conn : TunnelConn) : Prop where
  inv : ConnInv config conn
  clientId : conn.clientId = (s.conn k).clientId
  main : s.session.handler k ≠ .new → conn.phase = .main

/-- The invariant: the handlers that have been started, and the entries of the map, belong to admitted
connections. -/
structure GateInv (config : AuthConfig) (s : GateState) : Prop where
  conn : ∀ k, ConnInv config (s.conn k)
  main : ∀ k, s.session.handler k ≠ .new → (s.conn k).phase = .main
  sessions : ∀ c k, s.session.sessions c = some k →
    s.session.handler k ≠ .new ∧ (s.conn k).clientId = c

variable {config : AuthConfig} {s s' : GateState}

/-- Who is past the authentication was admitted. -/
lemma GateInv.admitted (h : GateInv config s) {k : ConnId} (hk : s.session.handler k ≠ .new) :
    Admitted config (s.conn k) (s.conn k).clientId := by
  have hconn := h.conn k
  unfold ConnInv at hconn
  rwa [h.main k hk] at hconn

/-- A step admits a connection on its first message, changes a connection, or is one of a task of the
session manager; the last two can come together. -/
inductive GateMove (config : AuthConfig) (s : GateState) : GateLabel → GateState → Prop
  | enter {label : GateLabel} {s' : GateState} (k : ConnId) (conn : TunnelConn)
      (hlabel : label.conn? = some k) (hphase : (s.conn k).phase = .accepting)
      (hmain : conn.phase = .main) (hadmitted : Admitted config conn conn.clientId)
      (hstep : (s.setConn k conn).sessionTask (.authenticated k) = some s') : GateMove config s label s'
  | change {label : GateLabel} (k : ConnId) (conn : TunnelConn) (hlabel : label.conn? = some k)
      (hconn : Becomes config s k conn) : GateMove config s label (s.setConn k conn)
  | both {label : GateLabel} {s' : GateState} (k : ConnId) (conn : TunnelConn) (task : Label)
      (hlabel : label.conn? = some k) (hconn : Becomes config s k conn)
      (htask : ∀ j, task ≠ .authenticated j) (hactor : handlerOf task = some k)
      (hstep : (s.setConn k conn).sessionTask task = some s') : GateMove config s label s'
  | task {s' : GateState} (task : Label) (htask : ∀ j, task ≠ .authenticated j)
      (hstep : s.sessionTask task = some s') : GateMove config s (.task task) s'

/-- Only the empty id is encoded as nothing. -/
lemma asBytes_eq_nil {id : String} (h : (asBytes id).length = 0) : id = "" := by
  have hempty : asBytes id = asBytes "" := List.length_eq_zero_iff.mp h
  exact asBytes_injective hempty

/-- The check accepts the well-formed ids. -/
lemma validateClientId_iff (isAlphanumeric : Char → Bool) (id : ClientId) :
    validateClientId isAlphanumeric id = true ↔ WellFormedId isAlphanumeric id := by
  unfold validateClientId WellFormedId
  constructor
  · intro h
    split_ifs at h with hlen
    have hne : id ≠ "" := by
      rintro rfl
      exact hlen (Or.inl rfl)
    refine ⟨hne, by omega, ?_⟩
    simpa [or_assoc] using h
  · rintro ⟨hne, hlen, hchars⟩
    have hpos : (asBytes id).length ≠ 0 := fun hzero => hne (asBytes_eq_nil hzero)
    rw [if_neg (by omega)]
    simpa [or_assoc] using hchars

/-- A request that is answered with a success is an admission. -/
lemma admitted_of_success {conn : TunnelConn} {req : AuthRequest} {later : List Message}
    (hdecoded : conn.decoded = .control (.auth req) :: later)
    (h : (authenticate config req).success = true) : Admitted config conn req.clientId := by
  obtain ⟨hid, htoken⟩ := (authenticate_success config req).mp h
  exact ⟨req, later, hdecoded, rfl, (validateClientId_iff _ _).mp hid, by rw [htoken]⟩

/-- A refusal does not name the version. -/
lemma authenticate_refused {req : AuthRequest} (h : (authenticate config req).success ≠ true) :
    (authenticate config req).success = false ∧ (authenticate config req).serverVersion = "" := by
  unfold authenticate at *
  split_ifs at h ⊢ <;> simp_all

/-- An admission is not undone by more messages. -/
lemma Admitted.append {conn : TunnelConn} {c : ClientId} (h : Admitted config conn c)
    {conn' : TunnelConn} {more : List Message} (hdecoded : conn'.decoded = conn.decoded ++ more) :
    Admitted config conn' c := by
  obtain ⟨req, later, hfirst, hid, hvalid, htoken⟩ := h
  exact ⟨req, later ++ more, by rw [hdecoded, hfirst, List.cons_append], hid, hvalid, htoken⟩

/-- A connection whose handler has been started reads and sends. -/
lemma GateInv.becomes_main (h : GateInv config s) {k : ConnId} (hk : s.session.handler k ≠ .new)
    (more sent : List Message) :
    Becomes config s k { s.conn k with decoded := (s.conn k).decoded ++ more, sent := sent } where
  inv := by
    unfold ConnInv
    simp only [h.main k hk]
    exact (h.admitted hk).append rfl
  clientId := rfl
  main := fun hk => h.main k hk

/-- A connection that is still accepting has no handler. -/
lemma GateInv.not_started (h : GateInv config s) {k : ConnId} (hphase : (s.conn k).phase ≠ .main) :
    s.session.handler k = .new := by
  by_contra hk
  exact hphase (h.main k hk)

/-- Before the session begins, the connection may change as long as it keeps its own invariant. -/
lemma becomes_of_new {k : ConnId} {conn : TunnelConn} (hnew : s.session.handler k = .new)
    (hinv : ConnInv config conn) (hclientId : conn.clientId = (s.conn k).clientId) :
    Becomes config s k conn where
  inv := hinv
  clientId := hclientId
  main := fun hk => absurd hnew hk

/-- What the first message of a control connection does. -/
lemma gateMove_handleClientWithAuth {label : GateLabel} {k : ConnId}
    {req : AuthRequest} {ok : Bool} (hlabel : label.conn? = some k)
    (hphase : (s.conn k).phase = .accepting) (hnew : s.session.handler k = .new)
    (hstep : handleClientWithAuth config s k req ok = some s') : GateMove config s label s' := by
  unfold handleClientWithAuth at hstep
  by_cases hok : (authenticate config req).success = true ∧ ok = true
  · simp only [if_pos hok] at hstep
    exact .enter k _ hlabel hphase rfl (admitted_of_success rfl hok.1) hstep
  · simp only [if_neg hok] at hstep
    cases hstep
    refine .change k _ hlabel (becomes_of_new hnew ?_ rfl)
    -- the answer is a refusal, or it could not be sent
    cases ok with
    | false => exact Or.inl rfl
    | true => exact Or.inr ⟨_, rfl, authenticate_refused fun hsuccess => hok ⟨hsuccess, rfl⟩⟩

/-- What the first message does. -/
lemma gateMove_dispatchConnection (h : GateInv config s) {label : GateLabel} {k : ConnId}
    {msg : Message} {ok : Bool} (hlabel : label.conn? = some k)
    (hphase : (s.conn k).phase = .accepting)
    (hstep : dispatchConnection config s k ok msg = some s') : GateMove config s label s' := by
  have hnew := h.not_started (k := k) (by simp [hphase])
  have hsent : (s.conn k).sent = [] := by
    have hconn := h.conn k
    unfold ConnInv at hconn
    rw [hphase] at hconn
    exact hconn.2
  unfold dispatchConnection at hstep
  split at hstep
  · exact gateMove_handleClientWithAuth hlabel hphase hnew hstep
  · rename_i resp
    cases hstep
    refine .change k _ hlabel (becomes_of_new hnew ?_ rfl)
    unfold ConnInv
    by_cases hsuccess : resp.success = true
    · simp [hsuccess, hsent]
    · simp [hsuccess, hsent]
  · cases hstep
    exact .change k _ hlabel (becomes_of_new hnew (Or.inl hsent) rfl)

/-- What a later message does. -/
lemma gateMove_onMessage (h : GateInv config s) {label : GateLabel} {k : ConnId} {msg : Message}
    {ok : Bool} (hlabel : label.conn? = some k) (hk : s.session.handler k ≠ .new)
    (hstep : onMessage s k ok msg = some s') : GateMove config s label s' := by
  have hread := fun sent => h.becomes_main hk [msg] sent
  unfold onMessage at hstep
  simp only at hstep
  split at hstep
  · split_ifs at hstep
    · cases hstep
      exact .change k _ hlabel (hread _)
    · exact .both k _ (.leave k) hlabel (hread _) (by simp) rfl hstep
  · cases hstep
    exact .change k _ hlabel (hread _)
  · cases hstep
    exact .change k _ hlabel (hread _)

/-- A message is sent on a connection whose handler has been started. -/
lemma GateInv.becomes_sent (h : GateInv config s) {k : ConnId} (hk : s.session.handler k ≠ .new)
    (msg : Message) : Becomes config s k { s.conn k with sent := (s.conn k).sent ++ [msg] } := by
  have hsent := h.becomes_main hk [] ((s.conn k).sent ++ [msg])
  rwa [List.append_nil] at hsent

/-- A work connection stays one while data goes over it. -/
lemma GateInv.becomes_work (h : GateInv config s) {k : ConnId} (hphase : (s.conn k).phase = .work)
    (more : List Message) (data : List DataMessage) :
    Becomes config s k
      { s.conn k with
        decoded := (s.conn k).decoded ++ more
        sent := (s.conn k).sent ++ data.map .data } := by
  have hconn := h.conn k
  unfold ConnInv at hconn
  rw [hphase] at hconn
  obtain ⟨⟨resp, later, hfirst, hsuccess⟩, hsent⟩ := hconn
  refine becomes_of_new (h.not_started (by simp [hphase])) ?_ rfl
  unfold ConnInv
  simp only [hphase]
  refine ⟨⟨resp, later ++ more, by rw [hfirst, List.cons_append], hsuccess⟩, ?_⟩
  intro msg hmsg
  rcases List.mem_append.mp hmsg with hmsg | hmsg
  · exact hsent msg hmsg
  · obtain ⟨dataMsg, -, rfl⟩ := List.mem_map.mp hmsg
    exact ⟨dataMsg, rfl⟩

/-- Every step is a move. -/
theorem gateMove_of_step (h : GateInv config s) {label : GateLabel}
    (hstep : gateStep config s label = some s') : GateMove config s label s' := by
  cases label with
  | first k msg ok =>
      simp only [gateStep] at hstep
      split_ifs at hstep with hphase
      exact gateMove_dispatchConnection h rfl hphase hstep
  | noFirst k =>
      simp only [gateStep] at hstep
      split_ifs at hstep with hphase
      cases hstep
      have hconn := h.conn k
      unfold ConnInv at hconn
      rw [hphase] at hconn
      exact .change k _ rfl (becomes_of_new (h.not_started (by simp [hphase])) (Or.inl hconn.2) rfl)
  | message k msg ok =>
      simp only [gateStep] at hstep
      split at hstep
      · rename_i hpc
        exact gateMove_onMessage h rfl (by simp [hpc]) hstep
      · cases hstep
  | push k req =>
      simp only [gateStep] at hstep
      split at hstep
      · rename_i hpc
        cases hstep
        exact .change k _ rfl (h.becomes_sent (by simp [hpc]) _)
      · cases hstep
  | forward k =>
      simp only [gateStep] at hstep
      split at hstep
      · rename_i msg hpc
        exact .both k _ (.forwarded k) rfl (h.becomes_sent (by simp [hpc]) msg) (by simp) rfl hstep
      · cases hstep
  | bridgeSend k dataMsg =>
      simp only [gateStep] at hstep
      split_ifs at hstep with hphase
      cases hstep
      have hsent := h.becomes_work hphase [] [dataMsg]
      rw [List.append_nil] at hsent
      exact .change k _ rfl hsent
  | bridgeRead k msg =>
      simp only [gateStep] at hstep
      split_ifs at hstep with hphase
      cases hstep
      have hread := h.becomes_work hphase [msg] []
      rw [List.map_nil, List.append_nil] at hread
      exact .change k _ rfl hread
  | task task =>
      simp only [gateStep] at hstep
      split_ifs at hstep with htaken
      refine .task task ?_ hstep
      rintro j rfl
      exact htaken rfl

/-! ## The invariant -/

/-- The start keeps the invariant. -/
lemma gateInv_start : GateInv config .start where
  conn := fun _ => ⟨rfl, rfl⟩
  main := fun _ hk => absurd rfl hk
  sessions := fun _ _ hk => by cases hk

/-- A task of the sessions is a step of theirs. -/
lemma sessionTask_eq_some {task : Label} (h : s.sessionTask task = some s') :
    ∃ session, sessionStep s.client s.session task = some session ∧ s' = { s with session } := by
  obtain ⟨session, hsession, rfl⟩ := Option.map_eq_some_iff.mp h
  exact ⟨session, hsession, rfl⟩

/-- A connection changes within its own invariant. -/
lemma GateInv.change (h : GateInv config s) {k : ConnId} {conn : TunnelConn}
    (hconn : Becomes config s k conn) : GateInv config (s.setConn k conn) where
  conn := by
    intro j
    by_cases hj : j = k
    · subst hj
      rw [setConn_conn_self]
      exact hconn.inv
    · rw [setConn_conn_of_ne s hj]
      exact h.conn j
  main := by
    intro j hstarted
    by_cases hj : j = k
    · subst hj
      rw [setConn_conn_self]
      exact hconn.main hstarted
    · rw [setConn_conn_of_ne s hj]
      exact h.main j hstarted
  sessions := by
    intro c j hsession
    obtain ⟨hstarted, hid⟩ := h.sessions c j hsession
    refine ⟨hstarted, ?_⟩
    by_cases hj : j = k
    · subst hj
      rw [setConn_conn_self, hconn.clientId, hid]
    · rw [setConn_conn_of_ne s hj, hid]

/-- A step of the sessions keeps the invariant. -/
lemma GateInv.task (h : GateInv config s) {task : Label} (htask : ∀ j, task ≠ .authenticated j)
    (hstep : s.sessionTask task = some s') : GateInv config s' := by
  obtain ⟨session, hsession, rfl⟩ := sessionTask_eq_some hstep
  have heffect := sessionEffect_of_step (step_of_sessionStep hsession) htask
  have hstarted : ∀ k, session.handler k ≠ .new ↔ s.session.handler k ≠ .new :=
    fun k => not_congr (heffect.started k)
  refine ⟨h.conn, fun k hk => h.main k ((hstarted k).mp hk), ?_⟩
  intro c k hk
  rcases heffect.gained c k hk with hold | ⟨hid, hnew⟩
  · obtain ⟨hold, hid⟩ := h.sessions c k hold
    exact ⟨(hstarted k).mpr hold, hid⟩
  · exact ⟨(hstarted k).mpr hnew, hid⟩

/-- An admitted connection enters the main loop. -/
lemma GateInv.enter (h : GateInv config s) {k : ConnId} {conn : TunnelConn}
    (hphase : (s.conn k).phase = .accepting) (hmain : conn.phase = .main)
    (hadmitted : Admitted config conn conn.clientId)
    (hstep : (s.setConn k conn).sessionTask (.authenticated k) = some s') : GateInv config s' := by
  have hnew : s.session.handler k = .new := h.not_started (by simp [hphase])
  obtain ⟨session, hsession, rfl⟩ := sessionTask_eq_some hstep
  have hmove := step_of_sessionStep hsession
  cases hmove
  refine ⟨?_, ?_, ?_⟩
  · intro j
    by_cases hj : j = k
    · subst hj
      rw [setConn_conn_self]
      unfold ConnInv
      rwa [hmain]
    · rw [setConn_conn_of_ne s hj]
      exact h.conn j
  · intro j hstarted
    by_cases hj : j = k
    · subst hj
      rwa [setConn_conn_self]
    · rw [setConn_conn_of_ne s hj]
      exact h.main j (by simpa [SessionState.setHandler, SessionState.requestLock, hj] using hstarted)
  · intro c j hentry
    obtain ⟨hstarted, hid⟩ := h.sessions c j hentry
    have hj : j ≠ k := by
      rintro rfl
      exact hstarted hnew
    rw [setConn_conn_of_ne s hj]
    exact ⟨by simpa [SessionState.setHandler, SessionState.requestLock, hj] using hstarted, hid⟩

/-- Every step keeps the invariant. -/
theorem GateInv.move (h : GateInv config s) {label : GateLabel} (hmove : GateMove config s label s') :
    GateInv config s' := by
  cases hmove with
  | enter k conn _ hphase hmain hadmitted hstep => exact h.enter hphase hmain hadmitted hstep
  | change k conn _ hconn => exact h.change hconn
  | both k conn task _ hconn htask _ hstep => exact (h.change hconn).task htask hstep
  | task task htask hstep => exact h.task htask hstep

/-- The invariant with the id of one connection: `k` has been started as the client `c`. -/
def StartedAs (config : AuthConfig) (k : ConnId) (c : ClientId) (s : GateState) : Prop :=
  GateInv config s ∧ s.session.handler k ≠ .new ∧ (s.conn k).clientId = c

/-- A step of the sessions leaves who has begun, and the connections. -/
lemma sessionTask_startedAs {task : Label} {k : ConnId} (hk : s.session.handler k ≠ .new)
    (htask : ∀ j, task ≠ .authenticated j) (hstep : s.sessionTask task = some s') :
    s'.session.handler k ≠ .new ∧ s'.conn = s.conn := by
  obtain ⟨session, hsession, rfl⟩ := sessionTask_eq_some hstep
  have heffect := sessionEffect_of_step (step_of_sessionStep hsession) htask
  exact ⟨fun hnew => hk ((heffect.started k).mp hnew), rfl⟩

/-- Nothing changes the id of a handler that has been started. -/
lemma StartedAs.move {k : ConnId} {c : ClientId} (h : StartedAs config k c s) {label : GateLabel}
    (hmove : GateMove config s label s') : StartedAs config k c s' := by
  obtain ⟨hinv, hk, hid⟩ := h
  refine ⟨hinv.move hmove, ?_⟩
  have hchange : ∀ j conn, Becomes config s j conn → ((s.setConn j conn).conn k).clientId = c := by
    intro j conn hconn
    by_cases hj : k = j
    · subst hj
      rw [setConn_conn_self, hconn.clientId, hid]
    · rw [setConn_conn_of_ne s hj, hid]
  cases hmove with
  | enter j conn _ hphase hmain hadmitted hstep =>
      have hj : k ≠ j := by
        rintro rfl
        exact hk (hinv.not_started (by simp [hphase]))
      obtain ⟨session, hsession, rfl⟩ := sessionTask_eq_some hstep
      cases step_of_sessionStep hsession
      refine ⟨by simpa [SessionState.setHandler, SessionState.requestLock, hj] using hk, ?_⟩
      rw [setConn_conn_of_ne s hj, hid]
  | change j conn _ hconn => exact ⟨hk, hchange j conn hconn⟩
  | both j conn task _ hconn htask _ hstep =>
      obtain ⟨hk', hsame⟩ := sessionTask_startedAs (s := s.setConn j conn) hk htask hstep
      exact ⟨hk', by rw [hsame, hchange j conn hconn]⟩
  | task task htask hstep =>
      obtain ⟨hk', hsame⟩ := sessionTask_startedAs hk htask hstep
      exact ⟨hk', by rw [hsame, hid]⟩

/-! ## The gate -/

/-- The server's answer that refuses an authentication, without its version. -/
def IsRefusal (msg : Message) : Prop :=
  ∃ resp, msg = .control (.authResp resp) ∧ resp.success = false ∧ resp.serverVersion = ""

/-- The message is an answer to an authentication. -/
def isAuthResp : Message → Bool
  | .control (.authResp _) => true
  | _ => false

/-- What has been sent on the connection: at most one answer, which is a refusal; and data, if the
connection was opened with a successful `NewWorkConnResp`. -/
def OnlyRefused (conn : TunnelConn) : Prop :=
  (∀ msg ∈ conn.sent, IsRefusal msg ∨ (∃ dataMsg, msg = .data dataMsg) ∧
    ∃ resp later, conn.decoded = .control (.newWorkConnResp resp) :: later ∧ resp.success = true) ∧
    (conn.sent.filter isAuthResp).length ≤ 1

/-- Every session belongs to a connection admitted under its id, and every connection that is not
admitted has been sent nothing but a refusal, or the data of a work connection. -/
structure Gated (config : AuthConfig) (s : GateState) : Prop where
  sessions : ∀ c k, s.session.sessions c = some k → Admitted config (s.conn k) c
  sent : ∀ k, (∀ c, ¬ Admitted config (s.conn k) c) → OnlyRefused (s.conn k)

/-- A connection that was sent nothing was only refused. -/
lemma onlyRefused_of_sent_nil {conn : TunnelConn} (h : conn.sent = []) : OnlyRefused conn := by
  simp [OnlyRefused, h]

/-- Who is not admitted was only refused. -/
lemma ConnInv.onlyRefused {conn : TunnelConn} (h : ConnInv config conn)
    (hnot : ∀ c, ¬ Admitted config conn c) : OnlyRefused conn := by
  unfold ConnInv at h
  split at h
  · exact onlyRefused_of_sent_nil h.2
  · exact absurd h (hnot _)
  · obtain ⟨hfirst, hsent⟩ := h
    constructor
    · intro msg hmsg
      exact Or.inr ⟨hsent msg hmsg, hfirst⟩
    · have hnone : conn.sent.filter isAuthResp = [] := by
        rw [List.filter_eq_nil_iff]
        intro msg hmsg
        obtain ⟨dataMsg, rfl⟩ := hsent msg hmsg
        simp [isAuthResp]
      simp [hnone]
  · rcases h with hnil | ⟨resp, hsent, hrefusal⟩
    · exact onlyRefused_of_sent_nil hnil
    · refine ⟨?_, (List.length_filter_le _ _).trans (by simp [hsent])⟩
      intro msg hmsg
      rw [hsent, List.mem_singleton] at hmsg
      exact Or.inl ⟨resp, hmsg, hrefusal⟩

/-- The invariant gates everything behind the authentication. -/
lemma GateInv.gated (h : GateInv config s) : Gated config s where
  sessions := by
    intro c k hsession
    obtain ⟨hstarted, rfl⟩ := h.sessions c k hsession
    exact h.admitted hstarted
  sent := fun k hnot => (h.conn k).onlyRefused hnot

/-- A step on a connection that is not admitted leaves the session map and the online list alone. -/
lemma GateMove.refused (h : GateInv config s) {label : GateLabel} {k : ConnId}
    (hlabel : label.conn? = some k) (hmove : GateMove config s label s')
    (hnot : ∀ c, ¬ Admitted config (s'.conn k) c) :
    s'.session.sessions = s.session.sessions ∧
      s'.session.connectedClients = s.session.connectedClients := by
  cases hmove with
  | enter j conn hj hphase hmain hadmitted hstep =>
      cases hlabel.symm.trans hj
      obtain ⟨session, -, rfl⟩ := sessionTask_eq_some hstep
      exact absurd hadmitted (by simpa using hnot conn.clientId)
  | change j conn hj hconn => exact ⟨rfl, rfl⟩
  | both j conn task hj hconn htask hactor hstep =>
      cases hlabel.symm.trans hj
      obtain ⟨session, hsession, rfl⟩ := sessionTask_eq_some hstep
      have heffect := sessionEffect_of_step (step_of_sessionStep hsession) htask
      have hinv := hconn.inv
      unfold ConnInv at hinv
      rw [hconn.main (heffect.acting k hactor)] at hinv
      exact absurd hinv (by simpa using hnot conn.clientId)
  | task task htask hstep =>
      obtain ⟨session, hsession, rfl⟩ := sessionTask_eq_some hstep
      have heffect := sessionEffect_of_step (step_of_sessionStep hsession) htask
      exact absurd (h.admitted (heffect.acting k hlabel)) (hnot _)

/-- **The gate of the tunnel.**  In every run of any number of connections, whatever the peers send:
sessions, assignments and queued messages go to connections only whose first message was an
authentication with a well-formed client id and the token of the server, under that id; a step on
any other connection leaves the session map and the online list alone; and however the run goes on, a
connection that has a session under an id keeps that id. -/
theorem tunnel_gate (config : AuthConfig) (labels : List GateLabel) (s : GateState)
    (hrun : exec (gateStep config) .start labels = some s) :
    Gated config s ∧
      (∀ label s' k, gateStep config s label = some s' → label.conn? = some k →
        (∀ c, ¬ Admitted config (s'.conn k) c) →
          s'.session.sessions = s.session.sessions ∧
            s'.session.connectedClients = s.session.connectedClients) ∧
      ∀ more s', exec (gateStep config) s more = some s' → ∀ k c,
        s.session.sessions c = some k → (s'.conn k).clientId = c ∧
          ∀ c', s'.session.sessions c' = some k → c' = c := by
  have hinv : GateInv config s := exec_invariant
    (fun _ _ _ h hstep => h.move (gateMove_of_step h hstep)) gateInv_start hrun
  refine ⟨hinv.gated, ?_, ?_⟩
  · intro label s' k hstep hlabel hnot
    exact (gateMove_of_step hinv hstep).refused hinv hlabel hnot
  · intro more s' hmore k c hsession
    have hlater : StartedAs config k c s' := exec_invariant
      (fun _ _ _ h hstep => h.move (gateMove_of_step h.1 hstep)) ⟨hinv, hinv.sessions c k hsession⟩
      hmore
    obtain ⟨hinv', -, hid⟩ := hlater
    refine ⟨hid, ?_⟩
    intro c' hsession'
    rw [← hid, (hinv'.sessions c' k hsession').2]

/-- The token of the sample runs. -/
def sampleConfig : AuthConfig where
  token := "s3cret"
  version := "0.1.8"
  isAlphanumeric := Char.isAlphanum

/-- Connection 0 is admitted as `laptop` and registered, and authenticates once more as another
client; connection 1 has the wrong token. -/
def sampleRun : List GateLabel :=
  [.first 0 (.control (.auth ⟨"laptop", "s3cret", "0.1.8"⟩)) true, .task (.register 0),
    .first 1 (.control (.auth ⟨"laptop", "secret", "0.1.8"⟩)) true, .task (.listed 0),
    .task (.published 0), .push 0 ⟨"web", "tcp", "127.0.0.1", 80, 8080, [], ""⟩, .task (.pushed 0),
    .message 0 (.control (.auth ⟨"other", "s3cret", "0.1.8"⟩)) true]

/-- The state that the sample run ends in is gated. -/
theorem tunnel_gate_sample : ∃ s, exec (gateStep sampleConfig) .start sampleRun = some s ∧
    s.session.sessions "laptop" = some 0 ∧ Gated sampleConfig s := by
  have hrun : ∃ s, exec (gateStep sampleConfig) .start sampleRun = some s ∧
      s.session.sessions "laptop" = some 0 := ⟨_, rfl, rfl⟩
  obtain ⟨s, hs, hsession⟩ := hrun
  exact ⟨s, hs, hsession, (tunnel_gate sampleConfig sampleRun s hs).1⟩

end RustProxy.Server.TunnelGate
