import RustProxy.Client.Worker
import RustProxy.Control.Announcements
import RustProxy.Server.ClientSession

/-!
# The server and its clients

The API requests, the sessions of the clients, the messages on their connections and the rules each
client process has: what a change of a rule has to pass through to reach the client that serves it.

* A step is one action of a request, one critical section of the session map, or one message sent or
  read. `send_to` and `register` hold the lock of the map while they send on a channel, so each is a
  step, and one that is not enabled while the channel is full.
* A `Link` is one main connection: the handler at the server, the channel of its session, the
  messages sent and not read yet, and the client process.  A send that fails leaves the link
  `broken`: nothing is sent on it afterwards.
* Users connect to listener tasks that run and to domains that are routed; the request for a work
  connection is handed to the client's session some time later.
* A `Mail` is a message with a history variable: which rule was stored under its name when a
  `NewWorkConn` was handed to the session.
-/

namespace RustProxy.Fleet

open RustProxy.Core RustProxy.Proto RustProxy.Control RustProxy.Client
open RustProxy.Server (ClientId ConnId channelCapacity)

/-- A message for a client, and the rule that was stored when it was handed over. -/
structure Mail where
  msg : ControlMessage
  stored : Option ProxyRule
  deriving DecidableEq, Repr

/-- A message that is not about a user's connection. -/
def Mail.plain (msg : ControlMessage) : Mail := { msg, stored := none }

/-- The answer to a request that is authenticated. -/
def authResp : Mail :=
  .plain (.authResp { success := true, message := "认证成功", serverVersion := "0.1.8" })

/-- The assignment of a rule. -/
def assign (rule : ProxyRule) : Mail := .plain (assignMessage rule)

/-- Where the handler of a connection is.  Source: `client_session.rs`, `handle_client_with_auth`. -/
inductive Stage where
  /-- The connection is not authenticated. -/
  | new
  /-- `AuthResp` has been sent; about to register. -/
  | registering
  /-- The session is registered; about to call `list_proxies_by_client`. -/
  | listing
  /-- These rules are still to be pushed. -/
  | pushing (left : List ProxyRule)
  /-- The message loop waits in its `select!`. -/
  | running
  /-- The message loop sends a queued message. -/
  | forwarding (mail : Mail)
  /-- The loop is left; about to unregister. -/
  | unregistering
  /-- Unregistered; the receiver of the channel still lives. -/
  | closing
  | finished
  deriving DecidableEq, Repr

/-- One main connection. -/
structure Link where
  stage : Stage
  broken : Bool
  queue : List Mail
  wire : List Mail
  client : ClientRun

/-- A connection that is being accepted. -/
def Link.start : Link :=
  { stage := .new, broken := false, queue := [], wire := [], client := .start }

/-- A user's connection for which the client has not been asked yet. -/
structure Dial where
  proxyName : String
  clientId : ClientId
  connId : UInt64
  userAddr : Option String
  deriving DecidableEq, Repr

/-- The server, its connections and its users. -/
structure FleetState where
  server : Control.Server
  sessions : ClientId → Option ConnId
  link : ConnId → Link
  dials : List Dial
  connIdCounter : UInt64

/-- What happens to a connection; `ok` says whether a send succeeds. -/
inductive LinkEvent where
  | authenticated (ok : Bool)
  | register
  | listed
  | pushed (ok : Bool)
  | recv
  | forwarded (ok : Bool)
  /-- A `Ping` of the client is answered. -/
  | ponged
  | leave
  | unregister
  | closed
  /-- The client reads the next message. -/
  | deliver
  /-- The client leaves its message loop. -/
  | stop
  deriving DecidableEq, Repr

/-- What happens next. -/
inductive Event where
  | api (e : ServerEvent)
  | link (k : ConnId) (e : LinkEvent)
  /-- A user connects to a listener, or sends it the first datagram of a session. -/
  | userOfListener (task : ListenerTask) (userAddr : Option String)
  /-- A user asks one of the shared listeners for a domain. -/
  | userOfDomain (domain : String) (userAddr : Option String)
  /-- `send_to(client_id, NewWorkConn)` -/
  | dial (d : Dial)

namespace FleetState

/-- A connection changes. -/
def setLink (s : FleetState) (k : ConnId) (l : Link) : FleetState :=
  { s with link := Function.update s.link k l }

/-- The link that was set. -/
@[simp] lemma setLink_link_self (s : FleetState) (k : ConnId) (l : Link) : (s.setLink k l).link k = l :=
  Function.update_self _ _ _

/-- The other links stay. -/
lemma setLink_link_of_ne (s : FleetState) {j k : ConnId} (h : j ≠ k) (l : Link) :
    (s.setLink k l).link j = s.link j := Function.update_of_ne h _ _

/-- A link is not part of the server. -/
@[simp] lemma setLink_server (s : FleetState) (k : ConnId) (l : Link) :
    (s.setLink k l).server = s.server := rfl

/-- A link is not part of the sessions. -/
@[simp] lemma setLink_sessions (s : FleetState) (k : ConnId) (l : Link) :
    (s.setLink k l).sessions = s.sessions := rfl

end FleetState

/-- A message goes into the channel of the session. -/
def Link.enqueue (l : Link) (mail : Mail) : Link := { l with queue := l.queue ++ [mail] }

/-- `tx.send(msg).await` to a session: an error when the handler has returned. -/
def send (s : FleetState) (k : ConnId) (mail : Mail) : Option (Bool × FleetState) :=
  if (s.link k).stage = .finished then some (false, s)
  else if (s.link k).queue.length < channelCapacity then
    some (true, s.setLink k ((s.link k).enqueue mail))
  else none

/-- Source: `client_session.rs`, `ClientSessionManager::send_to`. -/
def sendTo (s : FleetState) (c : ClientId) (mail : Mail) : Option (Bool × FleetState) :=
  match s.sessions c with
  | some k => send s k mail
  | none => some (false, s)

/-- `inner.insert(client_id, ClientSession { client_id, tx })`, and the handler goes on. -/
def insertSession (s : FleetState) (c : ClientId) (k : ConnId) : FleetState :=
  ({ s with sessions := Function.update s.sessions c (some k) } : FleetState).setLink k
    { s.link k with stage := .listing }

/-- Source: `client_session.rs`, `ClientSessionManager::register`. -/
def register (s : FleetState) (c : ClientId) (k : ConnId) : Option FleetState :=
  match s.sessions c with
  | some old => (send s old (.plain .ping)).map fun out => insertSession out.2 c k
  | none => some (insertSession s c k)

/-- Source: `client_session.rs`, `ClientSessionManager::unregister`. -/
def unregister (s : FleetState) (c : ClientId) (k : ConnId) : FleetState :=
  ({ s with sessions := Function.update s.sessions c none } : FleetState).setLink k
    { s.link k with stage := .closing }

/-- Source: `proxy_manager.rs`, `ProxyManager::list_proxies_by_client`; the rules of its entries. -/
def listProxiesByClient (J : DomainsJson) (rules : RuleTable) (c : ClientId) : List ProxyRule :=
  (rules.rows.filter fun row => row.clientId = c).map (ProxyRuleRow.toRule J)

/-- The steps of a connection that concern no other; `rules` are those of its client. -/
def Link.step (rules : List ProxyRule) (l : Link) : LinkEvent → Option Link
  | .authenticated ok =>
      match l.stage with
      | .new =>
          if ok then some { l with stage := .registering, wire := l.wire ++ [authResp] }
          else some { l with stage := .finished }
      | _ => none
  | .listed =>
      match l.stage with
      | .listing => some { l with stage := .pushing rules }
      | _ => none
  | .pushed ok =>
      match l.stage with
      | .pushing [] => some { l with stage := .running }
      | .pushing (rule :: left) =>
          if ok then some { l with stage := .pushing left, wire := l.wire ++ [assign rule] }
          else some { l with stage := .running, broken := true }
      | _ => none
  | .recv =>
      match l.stage, l.queue with
      | .running, mail :: rest => some { l with stage := .forwarding mail, queue := rest }
      | _, _ => none
  | .forwarded ok =>
      match l.stage with
      | .forwarding mail =>
          if ok then
            if l.broken then none
            else some { l with stage := .running, wire := l.wire ++ [mail] }
          else some { l with stage := .unregistering }
      | _ => none
  | .ponged =>
      match l.stage with
      | .running => if l.broken then none else some { l with wire := l.wire ++ [.plain .pong] }
      | _ => none
  | .leave =>
      match l.stage with
      | .running => some { l with stage := .unregistering }
      | _ => none
  | .closed =>
      match l.stage with
      | .closing => some { l with stage := .finished }
      | _ => none
  | .deliver =>
      match l.client.pc, l.wire with
      | .stopped, _ => none
      | _, mail :: rest => some { l with wire := rest, client := l.client.onMessage mail.msg }
      | _, [] => none
  | .stop => some { l with client := l.client.stop }
  | .register => none
  | .unregister => none

/-- What a step of a connection can be. -/
inductive LinkMove (rules : List ProxyRule) (l : Link) : LinkEvent → Link → Prop
  | accepted (hstage : l.stage = .new) : LinkMove rules l (.authenticated true)
      { l with stage := .registering, wire := l.wire ++ [authResp] }
  | refused (hstage : l.stage = .new) :
      LinkMove rules l (.authenticated false) { l with stage := .finished }
  | listed (hstage : l.stage = .listing) :
      LinkMove rules l .listed { l with stage := .pushing rules }
  | allPushed (ok : Bool) (hstage : l.stage = .pushing []) :
      LinkMove rules l (.pushed ok) { l with stage := .running }
  | pushed (rule : ProxyRule) (left : List ProxyRule) (hstage : l.stage = .pushing (rule :: left)) :
      LinkMove rules l (.pushed true)
        { l with stage := .pushing left, wire := l.wire ++ [assign rule] }
  | pushFailed (rule : ProxyRule) (left : List ProxyRule)
      (hstage : l.stage = .pushing (rule :: left)) :
      LinkMove rules l (.pushed false) { l with stage := .running, broken := true }
  | recv (mail : Mail) (rest : List Mail) (hstage : l.stage = .running)
      (hqueue : l.queue = mail :: rest) :
      LinkMove rules l .recv { l with stage := .forwarding mail, queue := rest }
  | forwarded (mail : Mail) (hstage : l.stage = .forwarding mail) (hwhole : l.broken = false) :
      LinkMove rules l (.forwarded true) { l with stage := .running, wire := l.wire ++ [mail] }
  | dropped (mail : Mail) (hstage : l.stage = .forwarding mail) :
      LinkMove rules l (.forwarded false) { l with stage := .unregistering }
  | ponged (hstage : l.stage = .running) (hwhole : l.broken = false) :
      LinkMove rules l .ponged { l with wire := l.wire ++ [.plain .pong] }
  | leave (hstage : l.stage = .running) : LinkMove rules l .leave { l with stage := .unregistering }
  | closed (hstage : l.stage = .closing) : LinkMove rules l .closed { l with stage := .finished }
  | deliver (mail : Mail) (rest : List Mail) (hreading : l.client.pc ≠ .stopped)
      (hwire : l.wire = mail :: rest) :
      LinkMove rules l .deliver { l with wire := rest, client := l.client.onMessage mail.msg }
  | stop : LinkMove rules l .stop { l with client := l.client.stop }

/-- A step of a link is a move. -/
theorem linkMove_of_step {rules : List ProxyRule} {l l' : Link} {e : LinkEvent}
    (h : l.step rules e = some l') : LinkMove rules l e l' := by
  cases e with
  | authenticated ok =>
      rw [Link.step] at h
      split at h
      case h_1 hstage =>
          cases ok with
          | true =>
              cases h
              exact .accepted hstage
          | false =>
              cases h
              exact .refused hstage
      case h_2 => cases h
  | listed =>
      rw [Link.step] at h
      split at h
      case h_1 hstage =>
          cases h
          exact .listed hstage
      case h_2 => cases h
  | pushed ok =>
      rw [Link.step] at h
      split at h
      case h_1 hstage =>
          cases h
          exact .allPushed ok hstage
      case h_2 rule left hstage =>
          cases ok with
          | true =>
              cases h
              exact .pushed rule left hstage
          | false =>
              cases h
              exact .pushFailed rule left hstage
      case h_3 => cases h
  | recv =>
      rw [Link.step] at h
      split at h
      case h_1 mail rest hstage hqueue =>
          cases h
          exact .recv mail rest hstage hqueue
      case h_2 => cases h
  | forwarded ok =>
      rw [Link.step] at h
      split at h
      case h_1 mail hstage =>
          cases ok with
          | true =>
              rw [if_pos rfl, Option.ite_none_left_eq_some, Option.some.injEq] at h
              obtain ⟨hwhole, rfl⟩ := h
              exact .forwarded mail hstage (Bool.eq_false_iff.mpr hwhole)
          | false =>
              cases h
              exact .dropped mail hstage
      case h_2 => cases h
  | ponged =>
      rw [Link.step] at h
      split at h
      case h_1 hstage =>
          rw [Option.ite_none_left_eq_some, Option.some.injEq] at h
          obtain ⟨hwhole, rfl⟩ := h
          exact .ponged hstage (Bool.eq_false_iff.mpr hwhole)
      case h_2 => cases h
  | leave =>
      rw [Link.step] at h
      split at h
      case h_1 hstage =>
          cases h
          exact .leave hstage
      case h_2 => cases h
  | closed =>
      rw [Link.step] at h
      split at h
      case h_1 hstage =>
          cases h
          exact .closed hstage
      case h_2 => cases h
  | deliver =>
      rw [Link.step] at h
      split at h
      · cases h
      · cases h
        exact .deliver _ _ ‹_› ‹_›
      · cases h
  | stop =>
      cases h
      exact .stop
  | register => cases h
  | unregister => cases h

variable (T : StdText) (J : DomainsJson) (client : ConnId → ClientId)

/-- One step of a connection. -/
def linkStep (s : FleetState) (k : ConnId) : LinkEvent → Option FleetState
  | .register =>
      match (s.link k).stage with
      | .registering => register s (client k) k
      | _ => none
  | .unregister =>
      match (s.link k).stage with
      | .unregistering => some (unregister s (client k) k)
      | _ => none
  | e => ((s.link k).step (listProxiesByClient J s.server.state.rules (client k)) e).map (s.setLink k)

variable {J client} in
/-- A step of a connection is one that concerns no other, or one of the session map. -/
lemma linkStep_cases {s s' : FleetState} {k : ConnId} {e : LinkEvent}
    (h : linkStep J client s k e = some s') :
    (∃ l, (s.link k).step (listProxiesByClient J s.server.state.rules (client k)) e = some l ∧
        s' = s.setLink k l) ∨
      (e = .register ∧ (s.link k).stage = .registering ∧ register s (client k) k = some s') ∨
        e = .unregister ∧ (s.link k).stage = .unregistering ∧ s' = unregister s (client k) k := by
  cases e with
  | register =>
      rw [linkStep] at h
      split at h
      case h_1 hstage => exact .inr (.inl ⟨rfl, hstage, h⟩)
      case h_2 => cases h
  | unregister =>
      rw [linkStep] at h
      split at h
      case h_1 hstage => exact .inr (.inr ⟨rfl, hstage, (Option.some.inj h).symm⟩)
      case h_2 => cases h
  | authenticated | listed | pushed | recv | forwarded | ponged | leave | closed | deliver | stop =>
      rw [linkStep] at h
      case _ =>
          obtain ⟨l, hl, rfl⟩ := Option.map_eq_some_iff.mp h
          exact .inl ⟨l, hl, rfl⟩
      all_goals exact LinkEvent.noConfusion

/-- One action of a request; a notification goes to the session of the client, and its outcome is
that of `send_to`. -/
def apiStep (s : FleetState) (e : ServerEvent) : Option FleetState :=
  (serverStep T J s.server e).bind fun server =>
    match nextNotification s.server e with
    | none => some { s with server }
    | some (c, msg) =>
        (sendTo s c (.plain msg)).bind fun out =>
          if reports e out.1 then some { out.2 with server } else none

/-- A user's connection is accepted: `CONN_ID_COUNTER.fetch_add(1)`. -/
def accept (s : FleetState) (proxyName : String) (clientId : ClientId) (userAddr : Option String) :
    FleetState :=
  { s with
    connIdCounter := s.connIdCounter + 1
    dials := s.dials ++ [{ proxyName, clientId, connId := s.connIdCounter, userAddr }] }

/-- The request for a work connection, with the rule that is stored now. -/
def Dial.mail (d : Dial) (stored : Option ProxyRule) : Mail where
  msg := .newWorkConn { proxyName := d.proxyName, connId := d.connId, userAddr := d.userAddr }
  stored := stored

/-- The client is asked for a work connection. -/
def dial (s : FleetState) (d : Dial) : Option FleetState :=
  if d ∈ s.dials then
    (sendTo s d.clientId (d.mail (s.server.state.stored J d.proxyName))).map fun out =>
      { out.2 with dials := s.dials.erase d }
  else none

/-- One step. -/
def fleetStep (s : FleetState) : Event → Option FleetState
  | .api e => apiStep T J s e
  | .link k e => linkStep J client s k e
  | .userOfListener task userAddr =>
      if task ∈ s.server.state.tasks then some (accept s task.name task.clientId userAddr) else none
  | .userOfDomain domain userAddr =>
      match s.server.state.domainRoutes domain with
      | some rule => some (accept s rule.name rule.clientId userAddr)
      | none => none
  | .dial d => dial J s d

/-- A server that has started up, before any client has connected. -/
def opening (db : RuleTable) (outcomes : Stream' Bool) (connIdCounter : UInt64) : FleetState where
  server := accepting J db outcomes
  sessions := fun _ => none
  link := fun _ => .start
  dials := []
  connIdCounter := connIdCounter

end RustProxy.Fleet
