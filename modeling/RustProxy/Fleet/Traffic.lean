import RustProxy.Fleet.System
import RustProxy.Server.Tunnel

/-!
# Traffic

What forwards the data of the users: the bridges and UDP session workers of the server and the work
connections of the clients, over the requests, the connections and the waiting tasks of the two
models they are made of (`fleetStep` and `tunnelStep`).

* Every one of them is a task of its own.  A user's connection is accepted, or routed, by one task and
  gets its connection id in another, with a TLS handshake in between for HTTPS: a `User`.  The waiting
  tasks and their bridges are those of `TunnelState`; `ended` are the bridges and workers that have
  ended.  A `WorkTask` is what `connect_and_run` spawns for a `NewWorkConn`.
* The connection ids and the waiting tasks are those of the tunnel state; `dials` and the counter of
  the fleet are not used.
* `History` is what the properties speak about and no step reads: how often a rule has been created,
  in which era of its rule a task was started, and what became of each request.
-/

namespace RustProxy.Fleet

open RustProxy.Core RustProxy.Proto RustProxy.Control RustProxy.Client
open RustProxy.Server (ClientId ConnId channelCapacity AuthConfig Path Waiter WaitPc TunnelState
  TunnelLabel tunnelStep)

/-- A user whose connection or first datagram has been accepted and that has no connection id yet.
The era is that of its rule. -/
structure User where
  path : Path
  proxyName : String
  clientId : ClientId
  userAddr : Option String
  era : ℕ
  deriving DecidableEq, Repr

/-- A task that `connect_and_run` has spawned for a `NewWorkConn`, with what `open_work_connection` is
called with. -/
structure WorkTask where
  link : ConnId
  proxyName : String
  connId : UInt64
  userAddr : Option String
  target : WorkTarget
  era : ℕ
  deriving DecidableEq, Repr

/-- What has happened.  Requests are named by their tasks in the pool. -/
structure History where
  requests : List ApiRequest
  /-- How often a rule of this name has been created. -/
  births : String → ℕ
  /-- In which era of its rule the user of a waiting task came. -/
  era : ℕ → ℕ
  /-- The era of its rule that a deletion has ended. -/
  deleted : ℕ → Option ℕ
  /-- How many `ServerCloseProxy` of a rule have been handed to the session of a connection, and how
  many its client has processed. -/
  closesSent : ConnId → String → ℕ
  closesRead : ConnId → String → ℕ
  /-- The connection a request has sent its `ServerCloseProxy` on, the rule, and how many there were
  then. -/
  close : ℕ → Option (ConnId × String × ℕ)

/-- The server, its clients and its users. -/
structure TrafficState where
  fleet : FleetState
  tunnel : TunnelState
  users : List User
  ended : ℕ → Bool
  work : List WorkTask
  history : History

/-- What happens next. -/
inductive TrafficEvent where
  | api (e : ServerEvent)
  | link (k : ConnId) (e : LinkEvent)
  /-- A user connects to a listener, or sends it the first datagram of a session. -/
  | userOfListener (task : ListenerTask) (userAddr : Option String)
  /-- A user asks one of the shared listeners for a domain. -/
  | userOfDomain (domain : String) (userAddr : Option String)
  /-- The user gets its connection id. -/
  | arrive (i : ℕ) (u : User)
  /-- `send_to(client_id, NewWorkConn)` of a waiting task -/
  | notify (i : ℕ)
  /-- Another step of a waiting task, the first message of a tunnel connection, or its
  registration. -/
  | tunnel (label : TunnelLabel)
  | bridgeEnds (i : ℕ)
  | workEnds (t : WorkTask)

/-- The `ServerCloseProxy` of a rule. -/
def closeMessage (n : String) : ControlMessage := .serverCloseProxy { name := n }

/-- The rule that a message asks for a work connection for. -/
def askedFor : ControlMessage → Option String
  | .newWorkConn req => some req.proxyName
  | _ => none

/-- The connection that takes what is sent to a client. -/
def receiver (s : FleetState) (c : ClientId) : Option ConnId :=
  match s.sessions c with
  | some k => if (s.link k).stage = .finished then none else some k
  | none => none

/-- The next action of the requests hands a `ServerCloseProxy` to a session: on which connection, and
for which rule. -/
def closing (s : FleetState) (e : ServerEvent) : Option (ConnId × String) :=
  match nextNotification s.server e with
  | some (c, .serverCloseProxy req) => (receiver s c).map fun k => (k, req.name)
  | _ => none

/-- The message that the client handles in the step. -/
def Link.handles (l : Link) : LinkEvent → Option ControlMessage
  | .deliver =>
      match l.client.pc, l.wire with
      | .running, mail :: _ => some mail.msg
      | _, _ => none
  | _ => none

namespace History

/-- Nothing has happened. -/
def start : History where
  requests := []
  births := fun _ => 0
  era := fun _ => 0
  deleted := fun _ => none
  closesSent := fun _ _ => 0
  closesRead := fun _ _ => 0
  close := fun _ => none

/-- The deletion whose next action it is. -/
def deletion (h : History) : ServerEvent → Option (ℕ × String)
  | .arrive _ => none
  | .step j _ =>
      match h.requests[j]? with
      | some (.delete n) => some (j, n)
      | _ => none

/-- After an action of the requests. -/
def act (J : DomainsJson) (h : History) (s s' : FleetState) (e : ServerEvent) : History where
  requests :=
    match e with
    | .arrive req => h.requests ++ [req]
    | .step _ _ => h.requests
  births := fun n =>
    if s.server.state.stored J n = none ∧ s'.server.state.stored J n ≠ none then h.births n + 1
    else h.births n
  era := h.era
  deleted :=
    match h.deletion e with
    | some (j, n) =>
        if s.server.state.stored J n ≠ none ∧ s'.server.state.stored J n = none then
          Function.update h.deleted j (some (h.births n))
        else h.deleted
    | none => h.deleted
  closesSent := fun k n =>
    if closing s e = some (k, n) then h.closesSent k n + 1 else h.closesSent k n
  closesRead := h.closesRead
  close :=
    match h.deletion e, closing s e with
    | some (j, _), some (k, n) => Function.update h.close j (some (k, n, h.closesSent k n + 1))
    | _, _ => h.close

/-- After a client has handled a message. -/
def read (h : History) (k : ConnId) (msg : Option ControlMessage) : History :=
  { h with
    closesRead := fun j n =>
      if j = k ∧ msg = some (closeMessage n) then h.closesRead j n + 1 else h.closesRead j n }

end History

/-- The task that a message makes the client spawn: none without a local address. -/
def spawned (h : History) (k : ConnId) (rules : ProxyWorkerManager) :
    Option ControlMessage → Option WorkTask
  | some (.newWorkConn req) => (rules.workTarget req.proxyName).map fun target =>
      { link := k
        proxyName := req.proxyName
        connId := req.connId
        userAddr := req.userAddr
        target
        era := h.births req.proxyName }
  | _ => none

/-- A user of a rule comes. -/
def TrafficState.addUser (s : TrafficState) (path : Path) (proxyName : String) (clientId : ClientId)
    (userAddr : Option String) : TrafficState :=
  { s with
    users := s.users ++
      [{ path, proxyName, clientId, userAddr, era := s.history.births proxyName }] }

/-- The path of a listener's users. -/
def pathOf (task : ListenerTask) : Path := if task.proxyType = .udp then .udp else .stream

/-- The label of the step in which a user gets its connection id. -/
def User.label (u : User) (i : ℕ) : TunnelLabel :=
  .arrive i u.path u.proxyName u.clientId u.userAddr

/-- What a waiting task sends to the client. -/
def requestMail (J : DomainsJson) (s : FleetState) (w : Waiter) : Mail :=
  { msg := .newWorkConn w.request, stored := s.server.state.stored J w.proxyName }

/-- The step is one of the tunnel alone. -/
def alone : TunnelLabel → Bool
  | .arrive _ _ _ _ _ => false
  | .notified _ _ => false
  | _ => true

section

variable (T : StdText) (J : DomainsJson) (client : ConnId → ClientId) (config : AuthConfig)

/-- One step. -/
def trafficStep (s : TrafficState) : TrafficEvent → Option TrafficState
  | .api e => (apiStep T J s.fleet e).map fun fleet =>
      { s with fleet, history := s.history.act J s.fleet fleet e }
  | .link k e => (linkStep J client s.fleet k e).map fun fleet =>
      let l := s.fleet.link k
      { s with
        fleet
        work := s.work ++ (spawned s.history k l.client.rules (l.handles e)).toList
        history := s.history.read k (l.handles e) }
  | .userOfListener task userAddr =>
      if task ∈ s.fleet.server.state.tasks then
        some (s.addUser (pathOf task) task.name task.clientId userAddr)
      else none
  | .userOfDomain domain userAddr =>
      match s.fleet.server.state.domainRoutes domain with
      | some rule => some (s.addUser .stream rule.name rule.clientId userAddr)
      | none => none
  | .arrive i u =>
      if u ∈ s.users then
        (tunnelStep config s.tunnel (u.label i)).map fun tunnel =>
          { s with
            tunnel
            users := s.users.erase u
            history := { s.history with era := Function.update s.history.era i u.era } }
      else none
  | .notify i =>
      match s.tunnel.task i with
      | .notifying w =>
          (sendTo s.fleet w.clientId (requestMail J s.fleet w)).bind fun out =>
            (tunnelStep config s.tunnel (.notified i out.1)).map fun tunnel =>
              { s with fleet := out.2, tunnel }
      | _ => none
  | .tunnel label =>
      if alone label then (tunnelStep config s.tunnel label).map fun tunnel => { s with tunnel }
      else none
  | .bridgeEnds i =>
      match s.tunnel.task i with
      | .bridged _ _ =>
          if s.ended i then none else some { s with ended := Function.update s.ended i true }
      | _ => none
  | .workEnds t => if t ∈ s.work then some { s with work := s.work.erase t } else none

/-- A server that has started up, before any client or user has connected. -/
def quietStart (db : RuleTable) (outcomes : Stream' Bool) : TrafficState where
  fleet := opening J db outcomes 1
  tunnel := .start
  users := []
  ended := fun _ => false
  work := []
  history := .start

end

/-- A listener or a route leads users to the rule. -/
def Exposes (s : ControlState) (n : String) : Prop :=
  (∃ task ∈ s.tasks, task.name = n) ∨ ∃ d rule, s.domainRoutes d = some rule ∧ rule.name = n

/-- What a step can be. -/
inductive TrafficMove (T : StdText) (J : DomainsJson) (client : ConnId → ClientId)
    (config : AuthConfig) (s s' : TrafficState) : TrafficEvent → Prop
  | api (e : ServerEvent) (fleet : FleetState) (hstep : apiStep T J s.fleet e = some fleet)
      (hs' : s' = { s with fleet, history := s.history.act J s.fleet fleet e }) :
      TrafficMove T J client config s s' (.api e)
  | link (k : ConnId) (e : LinkEvent) (fleet : FleetState)
      (hstep : linkStep J client s.fleet k e = some fleet)
      (hs' : s' = { s with
        fleet
        work := s.work ++
          (spawned s.history k (s.fleet.link k).client.rules ((s.fleet.link k).handles e)).toList
        history := s.history.read k ((s.fleet.link k).handles e) }) :
      TrafficMove T J client config s s' (.link k e)
  | user (e : TrafficEvent) (u : User) (hexposed : Exposes s.fleet.server.state u.proxyName)
      (hera : u.era = s.history.births u.proxyName) (hs' : s' = { s with users := s.users ++ [u] }) :
      TrafficMove T J client config s s' e
  | arrive (i : ℕ) (u : User) (tunnel : TunnelState) (hmem : u ∈ s.users)
      (hstep : tunnelStep config s.tunnel (u.label i) = some tunnel)
      (hs' : s' = { s with
        tunnel
        users := s.users.erase u
        history := { s.history with era := Function.update s.history.era i u.era } }) :
      TrafficMove T J client config s s' (.arrive i u)
  | notify (i : ℕ) (w : Waiter) (out : Bool × FleetState) (tunnel : TunnelState)
      (hpc : s.tunnel.task i = .notifying w)
      (hsend : sendTo s.fleet w.clientId (requestMail J s.fleet w) = some out)
      (hstep : tunnelStep config s.tunnel (.notified i out.1) = some tunnel)
      (hs' : s' = { s with fleet := out.2, tunnel }) : TrafficMove T J client config s s' (.notify i)
  | tunnel (label : TunnelLabel) (tunnel : TunnelState) (halone : alone label = true)
      (hstep : tunnelStep config s.tunnel label = some tunnel) (hs' : s' = { s with tunnel }) :
      TrafficMove T J client config s s' (.tunnel label)
  | bridgeEnds (i : ℕ) (hbridged : ∃ w work, s.tunnel.task i = .bridged w work)
      (hs' : s' = { s with ended := Function.update s.ended i true }) :
      TrafficMove T J client config s s' (.bridgeEnds i)
  | workEnds (t : WorkTask) (hs' : s' = { s with work := s.work.erase t }) :
      TrafficMove T J client config s s' (.workEnds t)

variable {T : StdText} {J : DomainsJson} {client : ConnId → ClientId} {config : AuthConfig}
  {s s' : TrafficState} {e : TrafficEvent}

/-- A step is a move. -/
theorem trafficMove_of_step (h : trafficStep T J client config s e = some s') :
    TrafficMove T J client config s s' e := by
  cases e with
  | api e =>
      obtain ⟨fleet, hstep, rfl⟩ := Option.map_eq_some_iff.mp h
      exact .api e fleet hstep rfl
  | link k e =>
      obtain ⟨fleet, hstep, rfl⟩ := Option.map_eq_some_iff.mp h
      exact .link k e fleet hstep rfl
  | userOfListener task userAddr =>
      rw [trafficStep, Option.ite_none_right_eq_some, Option.some.injEq] at h
      exact .user _ _ (.inl ⟨task, h.1, rfl⟩) rfl h.2.symm
  | userOfDomain domain userAddr =>
      rw [trafficStep] at h
      split at h
      case h_1 rule hroute =>
          exact .user _ _ (.inr ⟨domain, rule, hroute, rfl⟩) rfl (Option.some.inj h).symm
      case h_2 => cases h
  | arrive i u =>
      rw [trafficStep, Option.ite_none_right_eq_some] at h
      obtain ⟨tunnel, hstep, rfl⟩ := Option.map_eq_some_iff.mp h.2
      exact .arrive i u tunnel h.1 hstep rfl
  | notify i =>
      rw [trafficStep] at h
      split at h
      case h_1 w hpc =>
          obtain ⟨out, hsend, h⟩ := Option.bind_eq_some_iff.mp h
          obtain ⟨tunnel, hstep, rfl⟩ := Option.map_eq_some_iff.mp h
          exact .notify i w out tunnel hpc hsend hstep rfl
      case h_2 => cases h
  | tunnel label =>
      rw [trafficStep, Option.ite_none_right_eq_some] at h
      obtain ⟨tunnel, hstep, rfl⟩ := Option.map_eq_some_iff.mp h.2
      exact .tunnel label tunnel h.1 hstep rfl
  | bridgeEnds i =>
      rw [trafficStep] at h
      split at h
      case h_1 w work hpc =>
          rw [Option.ite_none_left_eq_some, Option.some.injEq] at h
          exact .bridgeEnds i ⟨w, work, hpc⟩ h.2.symm
      case h_2 => cases h
  | workEnds t =>
      rw [trafficStep, Option.ite_none_right_eq_some, Option.some.injEq] at h
      exact .workEnds t h.2.symm

end RustProxy.Fleet
