import Mathlib.Logic.Function.Basic
import RustProxy.Foundation.BoundedChannel
import RustProxy.Foundation.RwLock
import RustProxy.Foundation.Transition
import RustProxy.Proto.Message

/-!
# The session manager

`ClientSessionManager` of `crates/server/src/client_session.rs` and the tasks that use it: the
handlers of the main connections, from their authentication to their end, and the callers of
`send_to`.

* The map from client ids to sessions is guarded by a fair `RwLock`; a session is the sender of a
  bounded channel whose receiver is owned by the handler of one connection.  Sessions are named by
  that connection.
* `register` and `send_to` send on a session's channel while they hold the lock, so their guards are
  kept across an await.
* A step is one stretch of a task between two awaits.  What the peers and the clock do (a message, a
  failed or a stalled `framed.send`, a heartbeat timeout, the end of the connection) is the choice of
  the label, and any handler may leave its loop at any time.
* `lastRegistered` is a history variable: which connection of a client registered last.

The rules that a handler pushes before its loop go straight to the peer and touch nothing here, so
the push is one step.
-/

namespace RustProxy.Server

open RustProxy.Proto

/-- A client id. -/
abbrev ClientId := String

/-- A main connection, in the order in which the connections were accepted. -/
abbrev ConnId := ℕ

/-- The tasks that use the session map. -/
inductive Task where
  | handler (k : ConnId)
  | sender (i : ℕ)
  deriving DecidableEq, Repr

/-- Where the handler of a connection is.  Source: `client_session.rs`, `handle_client_with_auth`,
from the point where the authentication has succeeded. -/
inductive HandlerPc where
  /-- The connection is not authenticated. -/
  | new
  /-- `register` waits for the write lock. -/
  | registering
  /-- `register` holds the write lock and sends a `Ping` to the session it has removed. -/
  | replacing (old : ConnId)
  /-- `connected_clients` waits for the read lock, after `register`. -/
  | listing
  /-- `set_connected_clients` is about to publish the list that was read. -/
  | publishing (clients : ClientId → Bool)
  /-- The rules of the client are pushed. -/
  | pushing
  /-- The message loop waits in its `select!`. -/
  | running
  /-- The message loop sends a queued message to the peer. -/
  | forwarding (msg : Message)
  /-- `unregister` waits for the write lock. -/
  | unregistering
  /-- `connected_clients` waits for the read lock, after `unregister`. -/
  | relisting
  /-- `set_connected_clients` is about to publish the list that was read last. -/
  | republishing (clients : ClientId → Bool)
  /-- The handler has returned. -/
  | finished

/-- Where a caller of `send_to` is. -/
inductive SenderPc where
  | idle
  /-- `send_to` waits for the read lock. -/
  | waiting (clientId : ClientId) (msg : Message)
  /-- `send_to` holds the read lock and sends on the channel of a session. -/
  | sending (k : ConnId) (msg : Message)
  /-- `send_to` has returned. -/
  | done (ok : Bool)

/-- The session manager, its tasks, and the client list of the web state. -/
structure SessionState where
  sessions : ClientId → Option ConnId
  lock : RwLock Task
  channel : ConnId → Channel Task Message
  handler : ConnId → HandlerPc
  sender : ℕ → SenderPc
  connectedClients : ClientId → Bool
  lastRegistered : ClientId → Option ConnId

/-- The capacity of a session channel, `mpsc::channel::<Message>(256)`. -/
def channelCapacity : ℕ := 256

namespace SessionState

/-- No connection and no sender has started. -/
def start : SessionState where
  sessions := fun _ => none
  lock := .free
  channel := fun _ => .empty
  handler := fun _ => .new
  sender := fun _ => .idle
  connectedClients := fun _ => false
  lastRegistered := fun _ => none

/-! ## Elementary updates -/

/-- A handler goes on to another await. -/
def setHandler (s : SessionState) (k : ConnId) (pc : HandlerPc) : SessionState :=
  { s with handler := Function.update s.handler k pc }

/-- A sender goes on to another await. -/
def setSender (s : SessionState) (i : ℕ) (pc : SenderPc) : SessionState :=
  { s with sender := Function.update s.sender i pc }

/-- An operation on the channel of a connection. -/
def onChannel (s : SessionState) (k : ConnId)
    (f : Channel Task Message → Channel Task Message) : SessionState :=
  { s with channel := Function.update s.channel k (f (s.channel k)) }

/-- `inner.read().await` or `inner.write().await` is called. -/
def requestLock (s : SessionState) (t : Task) (access : Access) : SessionState :=
  { s with lock := s.lock.request t access }

/-- A guard is dropped. -/
def releaseLock (s : SessionState) (t : Task) : SessionState :=
  { s with lock := s.lock.release t }

/-- `inner.insert(client_id, ClientSession { client_id, tx })`. -/
def insertSession (s : SessionState) (c : ClientId) (k : ConnId) : SessionState :=
  { s with
    sessions := Function.update s.sessions c (some k)
    lastRegistered := Function.update s.lastRegistered c (some k) }

/-- `inner.remove(&client_id)` in `register`. -/
def takeSession (s : SessionState) (c : ClientId) : SessionState :=
  { s with
    sessions := Function.update s.sessions c none
    lastRegistered := Function.update s.lastRegistered c none }

/-- `inner.remove(client_id)` in `unregister`. -/
def removeSession (s : SessionState) (c : ClientId) : SessionState :=
  { s with sessions := Function.update s.sessions c none }

/-- The channel that was changed. -/
@[simp] lemma onChannel_channel_self (s : SessionState) (k : ConnId)
    (f : Channel Task Message → Channel Task Message) :
    (s.onChannel k f).channel k = f (s.channel k) := Function.update_self _ _ _

/-- The other channels stay. -/
@[simp] lemma onChannel_channel_of_ne (s : SessionState) {j k : ConnId} (h : j ≠ k)
    (f : Channel Task Message → Channel Task Message) :
    (s.onChannel k f).channel j = s.channel j := Function.update_of_ne h _ _

/-- The keys of the map, as `connected_clients` returns them. -/
def clientIds (s : SessionState) : ClientId → Bool := fun c => (s.sessions c).isSome

end SessionState

/-! ## Steps -/

/-- The step a task takes. -/
inductive Label where
  | authenticated (k : ConnId)
  | register (k : ConnId)
  | replaced (k : ConnId)
  | listed (k : ConnId)
  | published (k : ConnId)
  | pushed (k : ConnId)
  | recv (k : ConnId)
  | forwarded (k : ConnId)
  | leave (k : ConnId)
  | unregister (k : ConnId)
  | relisted (k : ConnId)
  | republished (k : ConnId)
  | sendTo (i : ℕ) (clientId : ClientId) (msg : Message)
  | lookup (i : ℕ)
  | sent (i : ℕ)
  deriving DecidableEq, Repr

variable (client : ConnId → ClientId)

open SessionState

/-- The end of `register`: the new session is inserted and the write lock given back;
`connected_clients` is called next. -/
def finishRegister (s : SessionState) (k : ConnId) : SessionState :=
  (((s.insertSession (client k) k).setHandler k .listing).releaseLock (.handler k)).requestLock
    (.handler k) .read

/-- Source: `client_session.rs`, `ClientSessionManager::register`, once it has the lock. -/
def register (s : SessionState) (k : ConnId) : SessionState :=
  match s.sessions (client k) with
  | some old =>
      ((s.takeSession (client k)).setHandler k (.replacing old)).onChannel old
        (·.park (.handler k))
  | none => finishRegister client s k

/-- `register` after its `send`, whose result is ignored. -/
def replaced (s : SessionState) (k old : ConnId) : Option SessionState :=
  if (s.channel old).closed then
    some (finishRegister client (s.onChannel old (·.abandon (.handler k))) k)
  else if (s.channel old).Permitted channelCapacity (.handler k) then
    some (finishRegister client
      (s.onChannel old (·.complete (.handler k) (.control .ping))) k)
  else none

/-- Source: `client_session.rs`, `ClientSessionManager::unregister`, once it has the lock;
`connected_clients` is called next. -/
def unregister (s : SessionState) (k : ConnId) : SessionState :=
  (((s.removeSession (client k)).setHandler k .relisting).releaseLock (.handler k)).requestLock
    (.handler k) .read

/-- Source: `client_session.rs`, `ClientSessionManager::connected_clients`, once it has the lock. -/
def connectedClients (s : SessionState) (k : ConnId) (pc : (ClientId → Bool) → HandlerPc) :
    SessionState :=
  (s.setHandler k (pc s.clientIds)).releaseLock (.handler k)

/-- `send_to` returns. -/
def finishSend (s : SessionState) (i : ℕ) (ok : Bool) : SessionState :=
  (s.setSender i (.done ok)).releaseLock (.sender i)

/-- Source: `client_session.rs`, `ClientSessionManager::send_to`, once it has the lock. -/
def sendTo (s : SessionState) (i : ℕ) (clientId : ClientId) (msg : Message) : SessionState :=
  match s.sessions clientId with
  | some k => (s.setSender i (.sending k msg)).onChannel k (·.park (.sender i))
  | none => finishSend s i false

/-- `session.tx.send(msg).await` returns. -/
def sent (s : SessionState) (i : ℕ) (k : ConnId) (msg : Message) : Option SessionState :=
  if (s.channel k).closed then
    some (finishSend (s.onChannel k (·.abandon (.sender i))) i false)
  else if (s.channel k).Permitted channelCapacity (.sender i) then
    some (finishSend (s.onChannel k (·.complete (.sender i) msg)) i true)
  else none

/-- The message loop is left and `unregister` is called. -/
def leave (s : SessionState) (k : ConnId) : SessionState :=
  (s.setHandler k .unregistering).requestLock (.handler k) .write

/-- One step of one task. -/
def sessionStep (s : SessionState) : Label → Option SessionState
  | .authenticated k =>
      match s.handler k with
      | .new => some ((s.setHandler k .registering).requestLock (.handler k) .write)
      | _ => none
  | .register k =>
      match s.handler k with
      | .registering =>
          if s.lock.writer = some (.handler k) then some (register client s k) else none
      | _ => none
  | .replaced k =>
      match s.handler k with
      | .replacing old => replaced client s k old
      | _ => none
  | .listed k =>
      match s.handler k with
      | .listing =>
          if .handler k ∈ s.lock.readers then some (connectedClients s k .publishing) else none
      | _ => none
  | .published k =>
      match s.handler k with
      | .publishing clients =>
          some { s.setHandler k .pushing with connectedClients := clients }
      | _ => none
  | .pushed k =>
      match s.handler k with
      | .pushing => some (s.setHandler k .running)
      | _ => none
  | .recv k =>
      match s.handler k, (s.channel k).queue with
      | .running, msg :: _ => some ((s.setHandler k (.forwarding msg)).onChannel k (·.recv))
      | _, _ => none
  | .forwarded k =>
      match s.handler k with
      | .forwarding _ => some (s.setHandler k .running)
      | _ => none
  | .leave k =>
      match s.handler k with
      | .running => some (leave s k)
      | .forwarding _ => some (leave s k)
      | _ => none
  | .unregister k =>
      match s.handler k with
      | .unregistering =>
          if s.lock.writer = some (.handler k) then some (unregister client s k) else none
      | _ => none
  | .relisted k =>
      match s.handler k with
      | .relisting =>
          if .handler k ∈ s.lock.readers then some (connectedClients s k .republishing) else none
      | _ => none
  | .republished k =>
      match s.handler k with
      | .republishing clients =>
          some { (s.setHandler k .finished).onChannel k (·.close) with connectedClients := clients }
      | _ => none
  | .sendTo i clientId msg =>
      match s.sender i with
      | .idle => some ((s.setSender i (.waiting clientId msg)).requestLock (.sender i) .read)
      | _ => none
  | .lookup i =>
      match s.sender i with
      | .waiting clientId msg =>
          if .sender i ∈ s.lock.readers then some (sendTo s i clientId msg) else none
      | _ => none
  | .sent i =>
      match s.sender i with
      | .sending k msg => sent s i k msg
      | _ => none

/-! ## What a step can be -/

/-- The steps, with the conditions under which they are enabled. -/
inductive Step (s : SessionState) : Label → SessionState → Prop
  | authenticated (k : ConnId) (hpc : s.handler k = .new) :
      Step s (.authenticated k) ((s.setHandler k .registering).requestLock (.handler k) .write)
  | registerTake (k old : ConnId) (hpc : s.handler k = .registering)
      (hlock : s.lock.writer = some (.handler k)) (hold : s.sessions (client k) = some old) :
      Step s (.register k) (((s.takeSession (client k)).setHandler k (.replacing old)).onChannel old
        (·.park (.handler k)))
  | registerNew (k : ConnId) (hpc : s.handler k = .registering)
      (hlock : s.lock.writer = some (.handler k)) (hnone : s.sessions (client k) = none) :
      Step s (.register k) (finishRegister client s k)
  | replacedClosed (k old : ConnId) (hpc : s.handler k = .replacing old)
      (hclosed : (s.channel old).closed = true) :
      Step s (.replaced k) (finishRegister client (s.onChannel old (·.abandon (.handler k))) k)
  | replacedSent (k old : ConnId) (hpc : s.handler k = .replacing old)
      (hpermit : (s.channel old).Permitted channelCapacity (.handler k)) :
      Step s (.replaced k) (finishRegister client
        (s.onChannel old (·.complete (.handler k) (.control .ping))) k)
  | listed (k : ConnId) (hpc : s.handler k = .listing) (hlock : .handler k ∈ s.lock.readers) :
      Step s (.listed k) (connectedClients s k .publishing)
  | published (k : ConnId) (clients : ClientId → Bool) (hpc : s.handler k = .publishing clients) :
      Step s (.published k) { s.setHandler k .pushing with connectedClients := clients }
  | pushed (k : ConnId) (hpc : s.handler k = .pushing) :
      Step s (.pushed k) (s.setHandler k .running)
  | recv (k : ConnId) (msg : Message) (hpc : s.handler k = .running)
      (hhead : (s.channel k).queue.head? = some msg) :
      Step s (.recv k) ((s.setHandler k (.forwarding msg)).onChannel k (·.recv))
  | forwarded (k : ConnId) (msg : Message) (hpc : s.handler k = .forwarding msg) :
      Step s (.forwarded k) (s.setHandler k .running)
  | leave (k : ConnId) (hpc : s.handler k = .running ∨ ∃ msg, s.handler k = .forwarding msg) :
      Step s (.leave k) (leave s k)
  | unregister (k : ConnId) (hpc : s.handler k = .unregistering)
      (hlock : s.lock.writer = some (.handler k)) : Step s (.unregister k) (unregister client s k)
  | relisted (k : ConnId) (hpc : s.handler k = .relisting) (hlock : .handler k ∈ s.lock.readers) :
      Step s (.relisted k) (connectedClients s k .republishing)
  | republished (k : ConnId) (clients : ClientId → Bool)
      (hpc : s.handler k = .republishing clients) :
      Step s (.republished k)
        { (s.setHandler k .finished).onChannel k (·.close) with connectedClients := clients }
  | sendTo (i : ℕ) (clientId : ClientId) (msg : Message) (hpc : s.sender i = .idle) :
      Step s (.sendTo i clientId msg)
        ((s.setSender i (.waiting clientId msg)).requestLock (.sender i) .read)
  | lookupSome (i : ℕ) (clientId : ClientId) (msg : Message) (k : ConnId)
      (hpc : s.sender i = .waiting clientId msg) (hlock : .sender i ∈ s.lock.readers)
      (hsession : s.sessions clientId = some k) :
      Step s (.lookup i) ((s.setSender i (.sending k msg)).onChannel k (·.park (.sender i)))
  | lookupNone (i : ℕ) (clientId : ClientId) (msg : Message)
      (hpc : s.sender i = .waiting clientId msg) (hlock : .sender i ∈ s.lock.readers)
      (hsession : s.sessions clientId = none) : Step s (.lookup i) (finishSend s i false)
  | sentClosed (i : ℕ) (k : ConnId) (msg : Message) (hpc : s.sender i = .sending k msg)
      (hclosed : (s.channel k).closed = true) :
      Step s (.sent i) (finishSend (s.onChannel k (·.abandon (.sender i))) i false)
  | sentQueued (i : ℕ) (k : ConnId) (msg : Message) (hpc : s.sender i = .sending k msg)
      (hpermit : (s.channel k).Permitted channelCapacity (.sender i)) :
      Step s (.sent i) (finishSend (s.onChannel k (·.complete (.sender i) msg)) i true)

variable {client}

/-- A step of a handler that registers. -/
private lemma step_register {s : SessionState} {k : ConnId} (hpc : s.handler k = .registering)
    (hlock : s.lock.writer = some (.handler k)) :
    Step client s (.register k) (register client s k) := by
  unfold register
  split
  · case h_1 old hold => exact .registerTake k old hpc hlock hold
  · case h_2 hnone => exact .registerNew k hpc hlock hnone

/-- A step of a handler that replaces an old session. -/
private lemma step_replaced {s s' : SessionState} {k old : ConnId}
    (hpc : s.handler k = .replacing old) (h : replaced client s k old = some s') :
    Step client s (.replaced k) s' := by
  unfold replaced at h
  split at h
  · case isTrue hclosed =>
    cases h
    exact .replacedClosed k old hpc hclosed
  · split at h
    · case isTrue hpermit =>
      cases h
      exact .replacedSent k old hpc hpermit
    · cases h

/-- A step of a sender that looks the session up. -/
private lemma step_lookup {s : SessionState} {i : ℕ} {clientId : ClientId} {msg : Message}
    (hpc : s.sender i = .waiting clientId msg) (hlock : .sender i ∈ s.lock.readers) :
    Step client s (.lookup i) (sendTo s i clientId msg) := by
  unfold sendTo
  split
  · case h_1 k hsession => exact .lookupSome i clientId msg k hpc hlock hsession
  · case h_2 hsession => exact .lookupNone i clientId msg hpc hlock hsession

/-- A step of a sender that has the channel. -/
private lemma step_sent {s s' : SessionState} {i : ℕ} {k : ConnId} {msg : Message}
    (hpc : s.sender i = .sending k msg) (h : sent s i k msg = some s') :
    Step client s (.sent i) s' := by
  unfold sent at h
  split at h
  · case isTrue hclosed =>
    cases h
    exact .sentClosed i k msg hpc hclosed
  · split at h
    · case isTrue hpermit =>
      cases h
      exact .sentQueued i k msg hpc hpermit
    · cases h

/-- Every step of the machine is one of the listed ones. -/
theorem step_of_sessionStep {s s' : SessionState} {label : Label}
    (h : sessionStep client s label = some s') : Step client s label s' := by
  cases label with
  | authenticated k =>
      simp only [sessionStep] at h
      split at h <;> cases h
      case h_1.refl hpc => exact .authenticated k hpc
  | register k =>
      simp only [sessionStep] at h
      split at h
      · case h_1 hpc =>
        split at h <;> cases h
        case isTrue.refl hlock => exact step_register hpc hlock
      · cases h
  | replaced k =>
      simp only [sessionStep] at h
      split at h
      · case h_1 old hpc => exact step_replaced hpc h
      · cases h
  | listed k =>
      simp only [sessionStep] at h
      split at h
      · case h_1 hpc =>
        split at h <;> cases h
        case isTrue.refl hlock => exact .listed k hpc hlock
      · cases h
  | published k =>
      simp only [sessionStep] at h
      split at h <;> cases h
      case h_1.refl clients hpc => exact .published k clients hpc
  | pushed k =>
      simp only [sessionStep] at h
      split at h <;> cases h
      case h_1.refl hpc => exact .pushed k hpc
  | recv k =>
      simp only [sessionStep] at h
      split at h <;> cases h
      case h_1.refl msg rest hpc hqueue => exact .recv k msg hpc (by rw [hqueue]; rfl)
  | forwarded k =>
      simp only [sessionStep] at h
      split at h <;> cases h
      case h_1.refl msg hpc => exact .forwarded k msg hpc
  | leave k =>
      simp only [sessionStep] at h
      split at h <;> cases h
      case h_1.refl hpc => exact .leave k (Or.inl hpc)
      case h_2.refl msg hpc => exact .leave k (Or.inr ⟨msg, hpc⟩)
  | unregister k =>
      simp only [sessionStep] at h
      split at h
      · case h_1 hpc =>
        split at h <;> cases h
        case isTrue.refl hlock => exact .unregister k hpc hlock
      · cases h
  | relisted k =>
      simp only [sessionStep] at h
      split at h
      · case h_1 hpc =>
        split at h <;> cases h
        case isTrue.refl hlock => exact .relisted k hpc hlock
      · cases h
  | republished k =>
      simp only [sessionStep] at h
      split at h <;> cases h
      case h_1.refl clients hpc => exact .republished k clients hpc
  | sendTo i clientId msg =>
      simp only [sessionStep] at h
      split at h <;> cases h
      case h_1.refl hpc => exact .sendTo i clientId msg hpc
  | lookup i =>
      simp only [sessionStep] at h
      split at h
      · case h_1 clientId msg hpc =>
        split at h <;> cases h
        case isTrue.refl hlock => exact step_lookup hpc hlock
      · cases h
  | sent i =>
      simp only [sessionStep] at h
      split at h
      · case h_1 k msg hpc => exact step_sent hpc h
      · cases h

end RustProxy.Server
