import RustProxy.Core.Config
import RustProxy.Foundation.Broadcast
import RustProxy.Foundation.Progress
import RustProxy.Web.App
import Mathlib.Logic.Function.Basic

/-!
# The status push of the panel

`ws_handler` and `handle_ws` of `crates/web/src/ws.rs` with `set_connected_clients` of
`crates/web/src/state.rs`: every open panel has a socket, whose task waits for the next tick or for
news of a change of the list of clients, and then reads what there is and pushes it.

* The list is written first and the change is announced after that, on a broadcast channel of
  capacity 16; a panel that is slow to take what is pushed can fall behind by more.
* `Informed` is the invariant of a socket: what it shows, or is about to show, is the current list,
  or there is news on the way to it.
* `panel_follows` says what follows for every run, without waiting for a tick.
-/

namespace RustProxy.Web

open RustProxy.Core Transition

/-- What `build_status_message` says of a rule. -/
structure ProxySummary where
  name : String
  status : String
  connections : ℕ
  deriving DecidableEq, Repr

/-- The messages that are pushed, before they are written as JSON. -/
inductive PushMessage where
  | status (proxies : List ProxySummary) (onlineClients : ℕ) (onlineClientIds : List String)
  | clientChange (onlineClients : List String)
  deriving DecidableEq, Repr

/-- The clients that a message shows as online. -/
def PushMessage.clients : PushMessage → List String
  | .status _ _ onlineClientIds => onlineClientIds
  | .clientChange onlineClients => onlineClients

/-- `proxy_summaries` of `build_status_message`. -/
def proxySummaries (proxies : List ProxyEntry) : List ProxySummary :=
  proxies.map fun p => { name := p.rule.name, status := p.status.toText, connections := p.connections }

/-- The end of `build_status_message`. -/
def buildStatusMessage (proxies : List ProxyEntry) (clients : List String) : PushMessage :=
  .status (proxySummaries proxies) clients.length clients

section

/-! `decode` checks the expiry of a token, so what it answers depends on the time. -/

variable (decode : ℕ → String → String → Option JwtClaims) (jwtSecret : String)

/-- Source: `ws.rs`, `validate_ws_token`, at the time `now`. -/
def validateWsToken (now : ℕ) (token : String) : Bool :=
  if token = "" then false else (validateJwt (decode now) token jwtSecret).toOption.isSome

/-- Source: `ws.rs`, `ws_handler`; the error is the body of a response with status 401. -/
def wsHandler (now : ℕ) (token : Option String) : Except String Unit :=
  match token with
  | some token => if !validateWsToken decode jwtSecret now token then .error "Unauthorized" else .ok ()
  | none => .error "Missing token"

end

/-! ## Sockets -/

/-- The await that `handle_ws` is suspended at. -/
inductive SocketPc where
  /-- There is no socket. -/
  | closed
  /-- In `select!`. -/
  | select
  /-- In `build_status_message`, about to list the rules. -/
  | listing
  /-- In `build_status_message`, about to read the list of clients. -/
  | reading (proxies : List ProxyEntry)
  /-- A change was announced; about to read the list of clients. -/
  | notified
  /-- In `socket.send`. -/
  | pushing (msg : PushMessage)
  deriving DecidableEq, Repr

/-- A socket: where its task is, its receiver of changes, the time at which it was opened and the token it
was opened with, and the last list the panel has been sent. -/
structure Socket where
  pc : SocketPc
  cursor : ℕ
  openedAt : ℕ
  token : String
  shown : Option (List String)
  deriving DecidableEq, Repr

/-- What the sockets share: the rules, the list of clients and the channel of changes. -/
structure PushState where
  proxies : List ProxyEntry
  connectedClients : List String
  changes : Broadcast String
  /-- The call of `set_connected_clients` has written the list and not announced it yet. -/
  announcing : ℕ → Bool
  socket : ℕ → Socket

/-- No panel is open and nothing has been announced. -/
def PushState.start : PushState where
  proxies := []
  connectedClients := []
  changes := .empty String 16 (by decide)
  announcing := fun _ => false
  socket := fun _ => { pc := .closed, cursor := 0, openedAt := 0, token := "", shown := none }

/-- The steps. -/
inductive PushLabel where
  /-- Rules, statuses or counters change. -/
  | rules (proxies : List ProxyEntry)
  /-- The critical section of `set_connected_clients`. -/
  | write (i : ℕ) (clients : List String)
  /-- `client_change_tx.send(..)`; without a receiver it fails, and what is sent here is read by
  nobody. -/
  | announce (i : ℕ)
  /-- A request for a socket, at the time `now`. -/
  | request (j : ℕ) (now : ℕ) (token : Option String)
  | tick (j : ℕ)
  | recv (j : ℕ)
  /-- The next read of the shared state. -/
  | read (j : ℕ)
  /-- `socket.send` returns. -/
  | sent (j : ℕ) (ok : Bool)
  deriving DecidableEq, Repr

/-- A socket goes on. -/
def PushState.setSocket (s : PushState) (j : ℕ) (socket : Socket) : PushState :=
  { s with socket := Function.update s.socket j socket }

section

variable (decode : ℕ → String → String → Option JwtClaims) (jwtSecret : String)

/-- One step of the server. -/
def pushStep (s : PushState) : PushLabel → Option PushState
  | .rules proxies => some { s with proxies }
  | .write i clients =>
      if s.announcing i then none
      else some { s with connectedClients := clients,
                         announcing := Function.update s.announcing i true }
  | .announce i =>
      if s.announcing i then
        some { s with changes := s.changes.send "change",
                      announcing := Function.update s.announcing i false }
      else none
  | .request j now token =>
      match (s.socket j).pc, wsHandler decode jwtSecret now token with
      | .closed, .ok () =>
          some (s.setSocket j
            { pc := .select, cursor := s.changes.tail, openedAt := now, token := token.getD "",
              shown := none })
      | .closed, .error _ => some s
      | _, _ => none
  | .tick j =>
      match (s.socket j).pc with
      | .select => some (s.setSocket j { s.socket j with pc := .listing })
      | _ => none
  | .recv j =>
      match (s.socket j).pc, s.changes.recv (s.socket j).cursor with
      | .select, some (.ok _, cursor) =>
          some (s.setSocket j { s.socket j with pc := .notified, cursor })
      | .select, some (.error _, cursor) => some (s.setSocket j { s.socket j with cursor })
      | _, _ => none
  | .read j =>
      match (s.socket j).pc with
      | .listing => some (s.setSocket j { s.socket j with pc := .reading s.proxies })
      | .reading proxies =>
          some (s.setSocket j
            { s.socket j with pc := .pushing (buildStatusMessage proxies s.connectedClients) })
      | .notified =>
          some (s.setSocket j { s.socket j with pc := .pushing (.clientChange s.connectedClients) })
      | _ => none
  | .sent j ok =>
      match (s.socket j).pc with
      | .pushing msg =>
          if ok then some (s.setSocket j { s.socket j with pc := .select, shown := some msg.clients })
          else some (s.setSocket j { s.socket j with pc := .closed })
      | _ => none

end

/-! ## What a step does -/

section

variable (decode : ℕ → String → String → Option JwtClaims) (jwtSecret : String)

/-- What a step does to the socket that takes it. -/
inductive SocketMove (s : PushState) : Socket → Socket → Prop
  | opened {x : Socket} {now : ℕ} {token : String} (hpc : x.pc = .closed)
      (hvalid : validateWsToken decode jwtSecret now token = true) :
      SocketMove s x
        { pc := .select, cursor := s.changes.tail, openedAt := now, token, shown := none }
  | tick {x : Socket} (hpc : x.pc = .select) : SocketMove s x { x with pc := .listing }
  | notified {x : Socket} {cursor : ℕ} {value : String} (hpc : x.pc = .select)
      (hrecv : s.changes.recv x.cursor = some (.ok value, cursor)) :
      SocketMove s x { x with pc := .notified, cursor }
  | lagged {x : Socket} {cursor n : ℕ} (hpc : x.pc = .select)
      (hrecv : s.changes.recv x.cursor = some (.error n, cursor)) : SocketMove s x { x with cursor }
  | listed {x : Socket} (hpc : x.pc = .listing) : SocketMove s x { x with pc := .reading s.proxies }
  | built {x : Socket} {proxies : List ProxyEntry} (hpc : x.pc = .reading proxies) :
      SocketMove s x { x with pc := .pushing (buildStatusMessage proxies s.connectedClients) }
  | changed {x : Socket} (hpc : x.pc = .notified) :
      SocketMove s x { x with pc := .pushing (.clientChange s.connectedClients) }
  | pushed {x : Socket} {msg : PushMessage} (hpc : x.pc = .pushing msg) :
      SocketMove s x { x with pc := .select, shown := some msg.clients }
  | failed {x : Socket} {msg : PushMessage} (hpc : x.pc = .pushing msg) :
      SocketMove s x { x with pc := .closed }

/-- What a step does: it changes the rules, writes or announces the list, or moves one socket. -/
inductive PushMove (s : PushState) : PushState → Prop
  | rules (proxies : List ProxyEntry) : PushMove s { s with proxies }
  | write (i : ℕ) (clients : List String) :
      PushMove s { s with connectedClients := clients,
                          announcing := Function.update s.announcing i true }
  | announce (i : ℕ) (h : s.announcing i = true) :
      PushMove s { s with changes := s.changes.send "change",
                          announcing := Function.update s.announcing i false }
  | refused : PushMove s s
  | socket (j : ℕ) (x : Socket) (h : SocketMove decode jwtSecret s (s.socket j) x) :
      PushMove s (s.setSocket j x)

end

variable {decode : ℕ → String → String → Option JwtClaims} {jwtSecret : String} {s s' t : PushState}
  {x x' : Socket}

/-- A socket is opened with a token that is valid at the time. -/
lemma wsHandler_ok {now : ℕ} {token : Option String}
    (h : wsHandler decode jwtSecret now token = .ok ()) :
    validateWsToken decode jwtSecret now (token.getD "") = true := by
  unfold wsHandler at h
  split at h
  · split at h
    · cases h
    · case isFalse hvalid => simpa using hvalid
  · cases h

/-- Every step is one of the moves. -/
theorem move_of_pushStep {label : PushLabel} (h : pushStep decode jwtSecret s label = some s') :
    PushMove decode jwtSecret s s' := by
  cases label with
  | rules proxies =>
      cases h
      exact .rules proxies
  | write i clients =>
      rw [pushStep] at h
      split at h <;> cases h
      exact .write i clients
  | announce i =>
      rw [pushStep] at h
      split at h <;> cases h
      case isTrue.refl hi => exact .announce i hi
  | request j now token =>
      rw [pushStep] at h
      split at h <;> cases h
      · case h_1.refl hpc haccepted => exact .socket j _ (.opened hpc (wsHandler_ok haccepted))
      · exact .refused
  | tick j =>
      rw [pushStep] at h
      split at h <;> cases h
      case h_1.refl hpc => exact .socket j _ (.tick hpc)
  | recv j =>
      rw [pushStep] at h
      split at h <;> cases h
      · case h_1.refl hpc hrecv => exact .socket j _ (.notified hpc hrecv)
      · case h_2.refl hpc hrecv => exact .socket j _ (.lagged hpc hrecv)
  | read j =>
      rw [pushStep] at h
      split at h <;> cases h
      · case h_1.refl hpc => exact .socket j _ (.listed hpc)
      · case h_2.refl hpc => exact .socket j _ (.built hpc)
      · case h_3.refl hpc => exact .socket j _ (.changed hpc)
  | sent j ok =>
      rw [pushStep] at h
      split at h
      · case h_1 msg hpc =>
        split at h <;> cases h
        · exact .socket j _ (.pushed hpc)
        · exact .socket j _ (.failed hpc)
      · cases h

/-! ## News -/

/-- The list that the panel shows, or is about to show. -/
def Socket.coming (x : Socket) : Option (List String) :=
  match x.pc with
  | .select => x.shown
  | .pushing msg => some msg.clients
  | _ => none

/-- There is an unread change, or one that is written and not announced. -/
def News (s : PushState) (x : Socket) : Prop :=
  x.cursor < s.changes.tail ∨ ∃ i, s.announcing i = true

variable (decode jwtSecret) in
/-- What is known of an open socket. -/
structure Informed (s : PushState) (x : Socket) : Prop where
  cursor : x.cursor ≤ s.changes.tail
  coming : ∀ clients ∈ x.coming, clients = s.connectedClients ∨ News s x
  token : validateWsToken decode jwtSecret x.openedAt x.token = true

/-- News for the socket keep it informed. -/
lemma Informed.of_news (h : Informed decode jwtSecret s x) (hcursor : x.cursor ≤ t.changes.tail)
    (hnews : News t x) : Informed decode jwtSecret t x where
  cursor := hcursor
  coming := fun _ _ => Or.inr hnews
  token := h.token

/-- A socket that takes a step stays informed. -/
lemma Informed.move (h : x.pc ≠ .closed → Informed decode jwtSecret s x)
    (hmove : SocketMove decode jwtSecret s x x') (hopen : x'.pc ≠ .closed) :
    Informed decode jwtSecret s x' := by
  cases hmove with
  | opened hpc hvalid => exact ⟨Nat.le_refl _, nofun, hvalid⟩
  | tick hpc =>
      obtain ⟨hcursor, -, htoken⟩ := h (by simp [hpc])
      exact ⟨hcursor, nofun, htoken⟩
  | notified hpc hrecv =>
      obtain ⟨-, -, htoken⟩ := h (by simp [hpc])
      rcases Broadcast.recv_cases hrecv with ⟨-, -, -, -, hle⟩ | ⟨-, ⟨⟩, -⟩
      exact ⟨hle, nofun, htoken⟩
  | lagged hpc hrecv =>
      obtain ⟨-, -, htoken⟩ := h (by simp [hpc])
      rcases Broadcast.recv_cases hrecv with ⟨-, ⟨⟩, -⟩ | ⟨-, -, -, -, hlt⟩
      exact ⟨hlt.le, fun _ _ => Or.inr (Or.inl hlt), htoken⟩
  | listed hpc =>
      obtain ⟨hcursor, -, htoken⟩ := h (by simp [hpc])
      exact ⟨hcursor, nofun, htoken⟩
  | built hpc =>
      obtain ⟨hcursor, -, htoken⟩ := h (by simp [hpc])
      refine ⟨hcursor, ?_, htoken⟩
      rintro _ ⟨⟩
      exact Or.inl rfl
  | changed hpc =>
      obtain ⟨hcursor, -, htoken⟩ := h (by simp [hpc])
      refine ⟨hcursor, ?_, htoken⟩
      rintro _ ⟨⟩
      exact Or.inl rfl
  | @pushed msg hpc =>
      obtain ⟨hcursor, hcoming, htoken⟩ := h (by simp [hpc])
      refine ⟨hcursor, ?_, htoken⟩
      rintro _ ⟨⟩
      exact hcoming msg.clients (by rw [Socket.coming, hpc]; rfl)
  | failed => exact absurd rfl hopen

variable (decode jwtSecret) in
/-- All open sockets are informed. -/
def AllInformed (s : PushState) : Prop :=
  ∀ j, (s.socket j).pc ≠ .closed → Informed decode jwtSecret s (s.socket j)

/-- Every step keeps all sockets informed. -/
lemma allInformed_step {label : PushLabel} (h : AllInformed decode jwtSecret s)
    (hstep : pushStep decode jwtSecret s label = some s') : AllInformed decode jwtSecret s' := by
  cases move_of_pushStep hstep with
  | rules proxies =>
      intro j hj
      exact { h j hj with }
  | write i clients =>
      intro j hj
      exact (h j hj).of_news (h j hj).cursor (Or.inr ⟨i, Function.update_self _ _ _⟩)
  | announce i =>
      intro j hj
      have hlt : (s.socket j).cursor < (s.changes.send "change").tail := by
        rw [Broadcast.tail_send]
        exact Nat.lt_succ_of_le (h j hj).cursor
      exact (h j hj).of_news hlt.le (Or.inl hlt)
  | refused => exact h
  | socket i x hmove =>
      intro j hj
      have hsame : ∀ y, Informed decode jwtSecret s y →
          Informed decode jwtSecret (s.setSocket i x) y := fun y hy => { hy with }
      by_cases hji : j = i
      · subst hji
        have hx : (s.setSocket j x).socket j = x := Function.update_self _ _ _
        rw [hx] at hj ⊢
        exact hsame x (Informed.move (h j) hmove hj)
      · have hx : (s.setSocket i x).socket j = s.socket j := Function.update_of_ne hji _ _
        rw [hx] at hj ⊢
        exact hsame _ (h j hj)

/-! ## Catching up -/

/-- The steps of a socket that do not wait for a tick, as long as the panel takes what is pushed. -/
def OwnStep (j : ℕ) (label : PushLabel) : Prop :=
  label = .recv j ∨ label = .read j ∨ label = .sent j true

/-- The steps to the end of a push. -/
def SocketPc.weight : SocketPc → ℕ
  | .closed => 0
  | .select => 0
  | .listing => 3
  | .reading _ => 2
  | .notified => 2
  | .pushing _ => 1

/-- A socket in `select!` that has read all news. -/
def Drained (s : PushState) (x : Socket) : Prop :=
  x.pc = .select ∧ s.changes.recv x.cursor = none

/-- What a socket has to do until it is drained. -/
def PushState.lag (s : PushState) (j : ℕ) : ℕ :=
  3 * s.changes.backlog (s.socket j).cursor + (s.socket j).pc.weight

/-- Where only socket `j` moves, with the weight and the cursor that the new socket has. -/
lemma lag_setSocket (j : ℕ) (x : Socket) :
    (s.setSocket j x).lag j = 3 * s.changes.backlog x.cursor + x.pc.weight := by
  have hx : (s.setSocket j x).socket j = x := Function.update_self _ _ _
  rw [PushState.lag, hx]
  rfl

variable (decode jwtSecret) in
/-- An open socket that is not drained has a step of its own, after which less is left to do. -/
lemma exists_ownStep {j : ℕ} (hopen : (s.socket j).pc ≠ .closed)
    (hdrained : ¬ Drained s (s.socket j)) :
    ∃ label x, OwnStep j label ∧ pushStep decode jwtSecret s label = some (s.setSocket j x) ∧
      x.pc ≠ .closed ∧ (s.setSocket j x).lag j < s.lag j := by
  have hlag : s.lag j = 3 * s.changes.backlog (s.socket j).cursor + (s.socket j).pc.weight := rfl
  cases hpc : (s.socket j).pc with
  | closed => exact absurd hpc hopen
  | select =>
      rw [hpc] at hlag
      cases hrecv : s.changes.recv (s.socket j).cursor with
      | none => exact absurd ⟨hpc, hrecv⟩ hdrained
      | some out =>
          obtain ⟨result, cursor⟩ := out
          have hlt := Broadcast.backlog_lt_of_recv hrecv
          cases result with
          | ok value =>
              refine ⟨.recv j, { s.socket j with pc := .notified, cursor }, Or.inl rfl, ?_, nofun, ?_⟩
              · simp only [pushStep, hpc, hrecv]
              · rw [lag_setSocket, hlag]
                simp only [SocketPc.weight]
                omega
          | error n =>
              refine ⟨.recv j, { s.socket j with cursor }, Or.inl rfl, ?_, hopen, ?_⟩
              · simp only [pushStep, hpc, hrecv]
              · rw [lag_setSocket, hlag, hpc]
                simp only [SocketPc.weight]
                omega
  | listing =>
      refine ⟨.read j, { s.socket j with pc := .reading s.proxies }, Or.inr (Or.inl rfl), ?_, nofun, ?_⟩
      · simp only [pushStep, hpc]
      · rw [lag_setSocket, hlag, hpc]
        exact Nat.lt_succ_self _
  | reading proxies =>
      refine ⟨.read j,
        { s.socket j with pc := .pushing (buildStatusMessage proxies s.connectedClients) },
        Or.inr (Or.inl rfl), ?_, nofun, ?_⟩
      · simp only [pushStep, hpc]
      · rw [lag_setSocket, hlag, hpc]
        exact Nat.lt_succ_self _
  | notified =>
      refine ⟨.read j, { s.socket j with pc := .pushing (.clientChange s.connectedClients) },
        Or.inr (Or.inl rfl), ?_, nofun, ?_⟩
      · simp only [pushStep, hpc]
      · rw [lag_setSocket, hlag, hpc]
        exact Nat.lt_succ_self _
  | pushing msg =>
      refine ⟨.sent j true, { s.socket j with pc := .select, shown := some msg.clients },
        Or.inr (Or.inr rfl), ?_, nofun, ?_⟩
      · simp only [pushStep, hpc, if_true]
      · rw [lag_setSocket, hlag, hpc]
        exact Nat.lt_succ_self _

/-- Nobody is about to announce a change. -/
def Quiet (s : PushState) : Prop := ∀ i, s.announcing i = false

/-- What a drained socket shows when nobody is about to announce a change. -/
lemma Informed.current (h : Informed decode jwtSecret s x) (hquiet : Quiet s) (hdrained : Drained s x) :
    ∀ clients ∈ x.shown, clients = s.connectedClients := by
  intro clients hclients
  have hcoming : clients ∈ x.coming := by
    rw [Socket.coming, hdrained.1]
    exact hclients
  rcases h.coming clients hcoming with hcurrent | hunread | ⟨i, hi⟩
  · exact hcurrent
  · exact absurd (Broadcast.recv_eq_none_iff.mp hdrained.2) (not_le.mpr hunread)
  · rw [hquiet i] at hi
    cases hi

/-! ## The theorem -/

/-- The steps in which a socket catches up, however many changes it has missed: one lag, the changes the
channel keeps, a push for each of them and one that was under way. -/
def catchUp : ℕ := 3 * (16 + 1) + 3

/-- A tick of a socket and the push that it leads to. -/
def pushNow (j : ℕ) : List PushLabel := [.tick j, .read j, .read j, .sent j true]

variable (decode jwtSecret) in
/-- A socket is open only if its token was valid when it was opened.  With no change to be announced, a
panel that has read all news shows the current list, or nothing yet; it can come to that by a bounded
number of steps of its own, without a tick, and with a tick it shows the current list. -/
structure PanelFollows (s : PushState) : Prop where
  authorized : ∀ j, (s.socket j).pc ≠ .closed →
    validateWsToken decode jwtSecret (s.socket j).openedAt (s.socket j).token = true
  current : ∀ j, Quiet s → Drained s (s.socket j) →
    ∀ clients ∈ (s.socket j).shown, clients = s.connectedClients
  catchesUp : ∀ j, Quiet s → (s.socket j).pc ≠ .closed →
    ∃ labels t, (∀ label ∈ labels, OwnStep j label) ∧ labels.length ≤ catchUp ∧
      exec (pushStep decode jwtSecret) s labels = some t ∧
      (Drained t (t.socket j) ∧ ∀ clients ∈ (t.socket j).shown, clients = s.connectedClients) ∧
      ∃ t', exec (pushStep decode jwtSecret) t (pushNow j) = some t' ∧ Drained t' (t'.socket j) ∧
        (t'.socket j).shown = some s.connectedClients

/-- The capacity of the channel never changes. -/
lemma capacity_step {label : PushLabel} (hstep : pushStep decode jwtSecret s label = some s') :
    s'.changes.capacity = s.changes.capacity := by
  cases move_of_pushStep hstep <;> rfl

/-- The lag of a socket is within what it can catch up. -/
lemma lag_le (hcapacity : s.changes.capacity = 16) (j : ℕ) : s.lag j ≤ catchUp := by
  have hbacklog := Broadcast.backlog_le s.changes (s.socket j).cursor
  have hweight : (s.socket j).pc.weight ≤ 3 := by
    cases (s.socket j).pc <;> simp [SocketPc.weight]
  rw [hcapacity] at hbacklog
  unfold PushState.lag catchUp
  omega

variable (decode jwtSecret) in
/-- After a tick, a socket that has read all news shows the current list. -/
lemma exec_pushNow {j : ℕ} (h : Drained s (s.socket j)) :
    ∃ t, exec (pushStep decode jwtSecret) s (pushNow j) = some t ∧ Drained t (t.socket j) ∧
      (t.socket j).shown = some s.connectedClients := by
  obtain ⟨hpc, hrecv⟩ := h
  let x : Socket := s.socket j
  let s₁ := s.setSocket j { x with pc := .listing }
  let s₂ := s₁.setSocket j { x with pc := .reading s.proxies }
  let msg := buildStatusMessage s.proxies s.connectedClients
  let s₃ := s₂.setSocket j { x with pc := .pushing msg }
  let s₄ := s₃.setSocket j { x with pc := .select, shown := some msg.clients }
  have hself : ∀ (u : PushState) (y : Socket), (u.setSocket j y).socket j = y :=
    fun _ _ => Function.update_self _ _ _
  have h₁ : pushStep decode jwtSecret s (.tick j) = some s₁ := by
    simp only [pushStep, hpc]
    rfl
  have h₂ : pushStep decode jwtSecret s₁ (.read j) = some s₂ := by
    simp only [pushStep, s₁, hself]
    rfl
  have h₃ : pushStep decode jwtSecret s₂ (.read j) = some s₃ := by
    simp only [pushStep, s₂, hself]
    rfl
  have h₄ : pushStep decode jwtSecret s₃ (.sent j true) = some s₄ := by
    simp only [pushStep, s₃, hself]
    rfl
  refine ⟨s₄, exec_cons_eq_some.mpr ⟨s₁, h₁, exec_cons_eq_some.mpr ⟨s₂, h₂, exec_cons_eq_some.mpr
    ⟨s₃, h₃, exec_cons_eq_some.mpr ⟨s₄, h₄, rfl⟩⟩⟩⟩, ?_, ?_⟩
  · rw [hself]
    exact ⟨rfl, hrecv⟩
  · rw [hself]
    rfl

/-- Informed sockets follow the panel. -/
lemma AllInformed.panelFollows (h : AllInformed decode jwtSecret s)
    (hcapacity : s.changes.capacity = 16) : PanelFollows decode jwtSecret s where
  authorized := fun j hj => (h j hj).token
  current := by
    intro j hquiet hdrained
    exact (h j (by rw [hdrained.1]; nofun)).current hquiet hdrained
  catchesUp := by
    intro j hquiet hopen
    let I (t : PushState) : Prop := AllInformed decode jwtSecret t ∧ (t.socket j).pc ≠ .closed ∧
      t.connectedClients = s.connectedClients ∧ t.announcing = s.announcing
    have hdescent : ∀ t, I t → ¬ Drained t (t.socket j) → ∃ label t', OwnStep j label ∧
        pushStep decode jwtSecret t label = some t' ∧ I t' ∧ t'.lag j < t.lag j := by
      rintro t ⟨hinformed, hopen, hclients, hannouncing⟩ hdrained
      obtain ⟨label, x, hown, hstep, hx, hlt⟩ :=
        exists_ownStep decode jwtSecret hopen hdrained
      have hself : (t.setSocket j x).socket j = x := Function.update_self _ _ _
      exact ⟨label, _, hown, hstep,
        ⟨allInformed_step hinformed hstep, by rwa [hself], hclients, hannouncing⟩, hlt⟩
    have hs : I s := ⟨h, hopen, rfl, rfl⟩
    obtain ⟨labels, t, hown, hlength, hrun, ⟨hinformed, hopen', hclients, hannouncing⟩, hdrained⟩ :=
      exec_descent (fun t : PushState => t.lag j) hdescent hs
    have hpushed := exec_pushNow decode jwtSecret hdrained
    refine ⟨labels, t, hown, hlength.trans (lag_le hcapacity j), hrun, ⟨hdrained, ?_⟩, ?_⟩
    · rw [← hclients]
      exact (hinformed j hopen').current (by rw [Quiet, hannouncing]; exact hquiet) hdrained
    · rw [← hclients]
      exact hpushed

/-- Over any number of panels, and any interleaving of changes of the list with the ticks, reads and
pushes of the sockets. -/
theorem panel_follows (decode : ℕ → String → String → Option JwtClaims) (jwtSecret : String)
    (labels : List PushLabel) :
    Always (pushStep decode jwtSecret) (PanelFollows decode jwtSecret) .start labels := by
  have hany : EachStep (pushStep decode jwtSecret) (fun _ _ => True) .start labels :=
    eachStep_of_forall_mem fun _ _ => trivial
  refine always_of_eachStep
    (I := fun s => AllInformed decode jwtSecret s ∧ s.changes.capacity = 16) ?_ ?_ ⟨?_, rfl⟩ hany
  · rintro s ⟨hinformed, hcapacity⟩
    exact hinformed.panelFollows hcapacity
  · rintro s label s' ⟨hinformed, hcapacity⟩ - hstep
    exact ⟨allInformed_step hinformed hstep, (capacity_step hstep).trans hcapacity⟩
  · exact fun j hj => absurd rfl hj

end RustProxy.Web
