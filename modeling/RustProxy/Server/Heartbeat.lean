import RustProxy.Foundation.Timed
import RustProxy.Server.Authentication

/-!
# The heartbeat of a main connection

A client (`connect_and_run` of `crates/client/src/connector.rs`) and the server's handler of its main
connection (`dispatch_connection` of `crates/server/src/tunnel.rs`, `handle_client_with_auth` of
`crates/server/src/client_session.rs`), with a clock.

* Moments and durations are in nanoseconds.  The `k`-th tick of an interval is due `k` periods after
  its start, however late the ticks before it were served.
* The client waits ten seconds for the response and then pings every ten seconds; the server looks
  every thirty seconds whether the last ping is more than ninety seconds ago.
* `Bounds` are the assumptions: a timer is served at most `timer` late by a task that is not held up
  in a send, and a ping is read at most `ping` after it was due and the loop of the server begun.
* `heartbeat_accurate_iff` says for which bounds the server never cuts off a client that is there, and
  `heartbeat_complete_iff` how long one that is not can go unnoticed.
-/

namespace RustProxy.Server.Heartbeat

open RustProxy.Proto Transition

/-- Source: `connector.rs`, the period of `ping_interval`. -/
def pingPeriod : ℕ := 10 * second

/-- Source: `connector.rs`, the timeout of `wait_auth_response`. -/
def responseTimeout : ℕ := 10 * second

/-- Source: `tunnel.rs`, the timeout of `dispatch_connection` for the first message. -/
def firstTimeout : ℕ := 10 * second

/-- Source: `client_session.rs`, the period of `heartbeat_interval`. -/
def heartbeatPeriod : ℕ := 30 * second

/-- Source: `client_session.rs`, `HEARTBEAT_TIMEOUT`. -/
def heartbeatTimeout : ℕ := 90 * second

/-- Where the client is. -/
inductive ClientPhase where
  | connecting
  /-- In `wait_auth_response`, which has begun at a moment. -/
  | waiting (since : ℕ)
  /-- In the message loop, whose interval has begun at a moment. -/
  | running (startedAt : ℕ)
  /-- It has returned, or the process or the machine is gone. -/
  | gone
  deriving DecidableEq, Repr

/-- Where the loop of `handle_client_with_auth` is: in `select!`, since a moment, or in the send of an
arm. -/
inductive LoopPhase where
  | select (since : ℕ)
  | sending
  deriving DecidableEq, Repr

/-- The local variables of the loop, with the pings it has read. -/
structure Session where
  startedAt : ℕ
  lastHeartbeat : ℕ
  nextTick : ℕ
  read : ℕ
  loop : LoopPhase
  deriving DecidableEq, Repr

/-- At the beginning of the loop; the first tick of an interval is due at once. -/
def Session.start (now : ℕ) : Session :=
  { startedAt := now, lastHeartbeat := now, nextTick := now, read := 0, loop := .select now }

/-- Where the server is with the connection. -/
inductive ServerPhase where
  | accepting
  /-- The first message is awaited. -/
  | first (since : ℕ)
  /-- The response is sent; the session is registered and the rules are pushed. -/
  | preparing
  | session (session : Session)
  /-- The handler has returned. -/
  | closed
  /-- It has returned because of the heartbeat. -/
  | timedOut
  deriving DecidableEq, Repr

/-- Both ends, the request and the response that are on their way or have been read, and the number of
pings that have been sent. -/
structure MainConn where
  client : ClientPhase
  server : ServerPhase
  authSent : Bool
  response : Option AuthResponse
  pings : ℕ

/-- Nothing has happened. -/
def MainConn.start : MainConn :=
  { client := .connecting, server := .accepting, authSent := false, response := none, pings := 0 }

/-- What the ends do next. -/
inductive Action where
  | sendAuth
  /-- `wait_auth_response` gets the response. -/
  | readResponse
  /-- `wait_auth_response` times out. -/
  | giveUp
  | ping
  /-- The client is gone, for whatever reason. -/
  | clientEnds
  | accept
  /-- The first message is read; `ok` says whether the response to it can be sent. -/
  | readAuth (ok : Bool)
  /-- `dispatch_connection` times out. -/
  | noFirst
  /-- The rules are pushed. -/
  | enterLoop
  | readPing
  /-- A queued message is taken. -/
  | push
  /-- The send of an arm is over. -/
  | sent (ok : Bool)
  | tick
  /-- The connection ends or breaks off, or the session is replaced. -/
  | serverEnds
  deriving DecidableEq, Repr

section

variable (config : AuthConfig) (req : AuthRequest)

/-- Source: `client_session.rs`, `handle_client_with_auth`, the arms of the loop. -/
def loopAction (now pings : ℕ) (S : Session) : Action → Option ServerPhase
  | .readPing =>
      match S.loop with
      | .select _ =>
          if S.read < pings then
            some (.session { S with lastHeartbeat := now, read := S.read + 1, loop := .sending })
          else none
      | .sending => none
  | .push =>
      match S.loop with
      | .select _ => some (.session { S with loop := .sending })
      | .sending => none
  | .sent ok =>
      match S.loop with
      | .sending => some (if ok then .session { S with loop := .select now } else .closed)
      | .select _ => none
  | .tick =>
      match S.loop with
      | .select _ =>
          if S.nextTick ≤ now then
            some (if heartbeatTimeout < now - S.lastHeartbeat then .timedOut
              else .session { S with nextTick := S.nextTick + heartbeatPeriod })
          else none
      | .sending => none
  | .serverEnds =>
      match S.loop with
      | .select _ => some .closed
      | .sending => none
  | _ => none

/-- Source: `tunnel.rs`, `dispatch_connection`, and `client_session.rs`, `handle_client_with_auth`. -/
def serverAction (now : ℕ) (c : MainConn) (a : Action) : Option MainConn :=
  match c.server, a with
  | .accepting, .accept => some { c with server := .first now }
  | .first _, .readAuth ok =>
      if c.authSent then
        let resp := authenticate config req
        some { c with
          server := if resp.success ∧ ok then .preparing else .closed
          response := if ok then some resp else none }
      else none
  | .first since, .noFirst =>
      if since + firstTimeout ≤ now then some { c with server := .closed } else none
  | .first _, .serverEnds => some { c with server := .closed }
  | .preparing, .enterLoop => some { c with server := .session (Session.start now) }
  | .session S, a => (loopAction now c.pings S a).map fun server => { c with server }
  | _, _ => none

/-- Source: `connector.rs`, `connect_and_run`. -/
def clientAction (now : ℕ) (c : MainConn) (a : Action) : Option MainConn :=
  match c.client, a with
  | .connecting, .sendAuth => some { c with client := .waiting now, authSent := true }
  | .waiting _, .readResponse => c.response.map fun resp =>
      { c with client := if resp.success then .running now else .gone }
  | .waiting since, .giveUp =>
      if since + responseTimeout ≤ now then some { c with client := .gone } else none
  | .running startedAt, .ping =>
      if startedAt + c.pings * pingPeriod ≤ now then some { c with pings := c.pings + 1 } else none
  | _, .clientEnds => some { c with client := .gone }
  | _, _ => none

/-- The end that takes the action. -/
def Action.ofClient : Action → Bool
  | .sendAuth | .readResponse | .giveUp | .ping | .clientEnds => true
  | _ => false

/-- One of the ends does something. -/
def act (now : ℕ) (c : MainConn) (a : Action) : Option MainConn :=
  if a.ofClient then clientAction now c a else serverAction config req now c a

end

/-! ## Time -/

/-- How late a timer may be served and a ping may be read. -/
structure Bounds where
  timer : ℕ
  ping : ℕ

/-- The timer of `wait_auth_response` is not overdue. -/
def ResponseInTime (B : Bounds) (now : ℕ) : ClientPhase → Prop
  | .waiting since => now ≤ since + responseTimeout + B.timer
  | _ => True

/-- The ping to be read next is not overdue. -/
def PingInTime (B : Bounds) (now : ℕ) : ClientPhase → ServerPhase → Prop
  | .running startedAt, .session S =>
      now ≤ max S.startedAt (startedAt + S.read * pingPeriod) + B.ping
  | _, _ => True

/-- The heartbeat of the server is not overdue. -/
def TickInTime (B : Bounds) (now : ℕ) : ServerPhase → Prop
  | .session { nextTick, loop := .select since, .. } => now ≤ max nextTick since + B.timer
  | _ => True

instance (B : Bounds) (now : ℕ) : ∀ client, Decidable (ResponseInTime B now client)
  | .waiting since => inferInstanceAs (Decidable (now ≤ since + responseTimeout + B.timer))
  | .connecting | .running _ | .gone => inferInstanceAs (Decidable True)

instance (B : Bounds) (now : ℕ) : ∀ client server, Decidable (PingInTime B now client server)
  | .running startedAt, .session S =>
      inferInstanceAs (Decidable (now ≤ max S.startedAt (startedAt + S.read * pingPeriod) + B.ping))
  | .running _, .accepting | .running _, .first _ | .running _, .preparing | .running _, .closed
  | .running _, .timedOut | .connecting, _ | .waiting _, _ | .gone, _ =>
      inferInstanceAs (Decidable True)

instance (B : Bounds) (now : ℕ) : ∀ server, Decidable (TickInTime B now server)
  | .session ⟨_, _, nextTick, _, .select since⟩ =>
      inferInstanceAs (Decidable (now ≤ max nextTick since + B.timer))
  | .session ⟨_, _, _, _, .sending⟩ | .accepting | .first _ | .preparing | .closed | .timedOut =>
      inferInstanceAs (Decidable True)

/-- Nothing is overdue. -/
def InTime (B : Bounds) (now : ℕ) (c : MainConn) : Prop :=
  ResponseInTime B now c.client ∧ PingInTime B now c.client c.server ∧ TickInTime B now c.server

instance (B : Bounds) (now : ℕ) (c : MainConn) : Decidable (InTime B now c) :=
  inferInstanceAs (Decidable (_ ∧ _ ∧ _))

/-- One step of a main connection. -/
def mainStep (config : AuthConfig) (req : AuthRequest) (B : Bounds) :
    Timed MainConn → TimedLabel Action → Option (Timed MainConn) :=
  Timed.step (act config req) (InTime B)

/-! ## What the ends can do -/

section

variable {config : AuthConfig} {req : AuthRequest} {B : Bounds} {now pings : ℕ} {S : Session}
  {c c' : MainConn} {a : Action} {p : ServerPhase}

/-- What the client can do. -/
inductive ClientStep (now : ℕ) (c : MainConn) : MainConn → Prop
  | sendAuth (h : c.client = .connecting) :
      ClientStep now c { c with client := .waiting now, authSent := true }
  | accepted {since : ℕ} (h : c.client = .waiting since) :
      ClientStep now c { c with client := .running now }
  | ping {startedAt : ℕ} (h : c.client = .running startedAt)
      (hdue : startedAt + c.pings * pingPeriod ≤ now) :
      ClientStep now c { c with pings := c.pings + 1 }
  | gone : ClientStep now c { c with client := .gone }

/-- What the client can do. -/
lemma clientStep_of_action (h : clientAction now c a = some c') : ClientStep now c c' := by
  unfold clientAction at h
  split at h
  · case h_1 hclient => cases h; exact .sendAuth hclient
  · case h_2 since hclient =>
    obtain ⟨resp, -, rfl⟩ := Option.map_eq_some_iff.mp h
    cases resp.success with
    | false => exact .gone
    | true => exact .accepted hclient
  · split at h <;> cases h
    exact .gone
  · case h_4 startedAt hclient =>
    split at h
    · case isTrue hdue => cases h; exact .ping hclient hdue
    · cases h
  · cases h; exact .gone
  · cases h

/-- What an arm of the loop can do. -/
inductive LoopStep (now pings : ℕ) (S : Session) : ServerPhase → Prop
  | readPing (hsent : S.read < pings) : LoopStep now pings S
      (.session { S with lastHeartbeat := now, read := S.read + 1, loop := .sending })
  | push : LoopStep now pings S (.session { S with loop := .sending })
  | sent : LoopStep now pings S (.session { S with loop := .select now })
  | tick (hdue : S.nextTick ≤ now) (hrecent : now - S.lastHeartbeat ≤ heartbeatTimeout) :
      LoopStep now pings S (.session { S with nextTick := S.nextTick + heartbeatPeriod })
  | cut (hsilent : heartbeatTimeout < now - S.lastHeartbeat) : LoopStep now pings S .timedOut
  | closed : LoopStep now pings S .closed

/-- What the loop can do. -/
lemma loopStep_of_action (h : loopAction now pings S a = some p) : LoopStep now pings S p := by
  cases a with
  | readPing =>
      simp only [loopAction] at h
      split at h
      · split at h
        · case isTrue hsent => cases h; exact .readPing hsent
        · cases h
      · cases h
  | push =>
      simp only [loopAction] at h
      split at h <;> cases h
      exact .push
  | sent ok =>
      simp only [loopAction] at h
      split at h <;> cases h
      cases ok with
      | false => exact .closed
      | true => exact .sent
  | tick =>
      simp only [loopAction] at h
      split at h
      · split at h
        · case isTrue hdue =>
          cases h
          by_cases hsilent : heartbeatTimeout < now - S.lastHeartbeat
          · rw [if_pos hsilent]
            exact .cut hsilent
          · rw [if_neg hsilent]
            exact .tick hdue (not_lt.mp hsilent)
        · cases h
      · cases h
  | serverEnds =>
      simp only [loopAction] at h
      split at h <;> cases h
      exact .closed
  | sendAuth | readResponse | giveUp | ping | clientEnds | accept | readAuth _ | noFirst | enterLoop =>
      cases h

/-- What the server can do. -/
inductive ServerStep (now : ℕ) (c : MainConn) : MainConn → Prop
  | accept : ServerStep now c { c with server := .first now }
  | answered (hsent : c.authSent = true) (response : Option AuthResponse) :
      ServerStep now c { c with server := .preparing, response }
  | closed (response : Option AuthResponse) : ServerStep now c { c with server := .closed, response }
  | enterLoop (h : c.server = .preparing) :
      ServerStep now c { c with server := .session (Session.start now) }
  | loop {S : Session} {p : ServerPhase} (h : c.server = .session S) (hstep : LoopStep now c.pings S p) :
      ServerStep now c { c with server := p }

/-- What the server can do. -/
lemma serverStep_of_action (h : serverAction config req now c a = some c') : ServerStep now c c' := by
  unfold serverAction at h
  split at h
  · cases h; exact .accept
  · case h_2 ok hserver =>
    split at h
    · case isTrue hsent =>
      cases h
      split
      · exact .answered hsent _
      · exact .closed _
    · cases h
  · split at h <;> cases h
    exact .closed c.response
  · cases h; exact .closed c.response
  · case h_5 hserver => cases h; exact .enterLoop hserver
  · case h_6 S a hserver =>
    obtain ⟨p, hp, rfl⟩ := Option.map_eq_some_iff.mp h
    exact .loop hserver (loopStep_of_action hp)
  · cases h

/-- What either end can do. -/
lemma step_of_act (h : act config req now c a = some c') : ClientStep now c c' ∨ ServerStep now c c' := by
  unfold act at h
  split at h
  · exact Or.inl (clientStep_of_action h)
  · exact Or.inr (serverStep_of_action h)

/-! ## The invariant -/

/-- What has been due on the side of the client. -/
def ClientInv (now pings : ℕ) : ClientPhase → Prop
  | .connecting => pings = 0
  | .waiting since => pings = 0 ∧ since ≤ now
  | .running startedAt => startedAt ≤ now ∧ ∀ k < pings, startedAt + k * pingPeriod ≤ now
  | .gone => True

/-- The next ping is due soon after the last one was read, or after the beginning. -/
def NextPing (B : Bounds) (S : Session) : ClientPhase → Prop
  | .connecting => False
  | .waiting since => since ≤ S.startedAt
  | .running startedAt =>
      startedAt + S.read * pingPeriod ≤ S.lastHeartbeat + responseTimeout + B.timer
  | .gone => True

/-- What holds of a session. -/
structure SessionInv (B : Bounds) (now pings : ℕ) (client : ClientPhase) (S : Session) : Prop where
  started : S.startedAt ≤ S.lastHeartbeat
  last : S.lastHeartbeat ≤ now
  tick : S.nextTick ≤ S.lastHeartbeat + heartbeatTimeout + heartbeatPeriod
  read : S.read ≤ pings
  next : NextPing B S client

/-- What holds of a main connection. -/
structure Inv (B : Bounds) (now : ℕ) (c : MainConn) : Prop where
  inTime : InTime B now c
  client : ClientInv now c.pings c.client
  request : c.authSent = true → c.client ≠ .connecting
  preparing : c.server = .preparing → c.authSent = true
  session : ∀ S, c.server = .session S → SessionInv B now c.pings c.client S

/-- At the start nothing is late. -/
lemma inv_start (B : Bounds) : Inv B 0 .start where
  inTime := ⟨trivial, trivial, trivial⟩
  client := rfl
  request h := by cases h
  preparing h := by cases h
  session S h := by cases h

/-- Time goes by. -/
lemma inv_elapse {duration : ℕ} (h : Inv B now c) (hin : InTime B (now + duration) c) :
    Inv B (now + duration) c where
  inTime := hin
  client := by
    have hclient := h.client
    cases hphase : c.client with
    | connecting => rw [hphase] at hclient; exact hclient
    | waiting since =>
        rw [hphase] at hclient
        exact ⟨hclient.1, hclient.2.trans (Nat.le_add_right _ _)⟩
    | running startedAt =>
        rw [hphase] at hclient
        exact ⟨hclient.1.trans (Nat.le_add_right _ _),
          fun k hk => (hclient.2 k hk).trans (Nat.le_add_right _ _)⟩
    | gone => trivial
  request := h.request
  preparing := h.preparing
  session S hS :=
    { h.session S hS with last := (h.session S hS).last.trans (Nat.le_add_right _ _) }

/-- A step of the client keeps the bounds. -/
lemma inv_client (h : Inv B now c) (hstep : ClientStep now c c') : Inv B now c' := by
  obtain ⟨client, server, authSent, response, pings⟩ := c
  have ⟨⟨hresponse, hping, htick⟩, hclient, hrequest, hpreparing, hsession⟩ := h
  cases hstep with
  | sendAuth hphase =>
      change client = _ at hphase
      subst hphase
      refine ⟨⟨?_, trivial, htick⟩, ⟨hclient, le_refl now⟩, fun _ => nofun, fun _ => rfl, ?_⟩
      · change now ≤ now + responseTimeout + B.timer
        omega
      · exact fun S hS => (hsession S hS).next.elim
  | accepted hphase =>
      change client = _ at hphase
      subst hphase
      refine ⟨⟨trivial, ?_, htick⟩, ⟨le_refl now, ?_⟩, fun _ => nofun, hpreparing, ?_⟩
      · cases server with
        | session S =>
            change now ≤ max S.startedAt (now + S.read * pingPeriod) + B.ping
            omega
        | _ => trivial
      · intro k hk
        exact absurd (hclient.1 ▸ hk) (Nat.not_lt_zero k)
      · intro S hS
        have hS' := hsession S hS
        refine { hS' with next := ?_ }
        -- no ping has been sent, and the response was read in time
        have hread : S.read = 0 := Nat.le_zero.mp (hclient.1 ▸ hS'.read)
        have hsince := hS'.next
        have hstarted := hS'.started
        change now + S.read * pingPeriod ≤ S.lastHeartbeat + responseTimeout + B.timer
        rw [hread, Nat.zero_mul, Nat.add_zero]
        change now ≤ _ + responseTimeout + B.timer at hresponse
        change _ ≤ S.startedAt at hsince
        omega
  | ping hphase hdue =>
      change client = _ at hphase
      subst hphase
      refine ⟨⟨hresponse, hping, htick⟩, ⟨hclient.1, ?_⟩, hrequest, hpreparing, ?_⟩
      · intro k hk
        rcases Nat.lt_succ_iff_lt_or_eq.mp hk with hlt | rfl
        · exact hclient.2 k hlt
        · exact hdue
      · exact fun S hS =>
          { hsession S hS with read := (hsession S hS).read.trans (Nat.le_succ _) }
  | gone =>
      exact ⟨⟨trivial, trivial, htick⟩, trivial, fun _ => nofun, hpreparing,
        fun S hS => { hsession S hS with next := trivial }⟩

/-- An arm of the loop keeps what holds of the session. -/
lemma sessionInv_loop {client : ClientPhase} (hclient : ClientInv now pings client)
    (h : SessionInv B now pings client S) {S' : Session}
    (hstep : LoopStep now pings S (.session S')) : SessionInv B now pings client S' := by
  have ⟨hstarted, hlast, htick, hread, hnext⟩ := h
  cases hstep with
  | readPing hsent =>
      refine ⟨hstarted.trans hlast, le_refl now, by dsimp only; omega, hsent, ?_⟩
      cases client with
      | connecting => exact hnext.elim
      | waiting since => exact hnext
      | running startedAt =>
          -- the ping was not sent before it was due
          have hdue := hclient.2 S.read hsent
          change startedAt + (S.read + 1) * pingPeriod ≤ now + responseTimeout + B.timer
          rw [Nat.succ_mul]
          have hperiod : pingPeriod = responseTimeout := rfl
          omega
      | gone => trivial
  | push => exact ⟨hstarted, hlast, htick, hread, by cases client <;> exact hnext⟩
  | sent => exact ⟨hstarted, hlast, htick, hread, by cases client <;> exact hnext⟩
  | tick hdue hrecent =>
      refine ⟨hstarted, hlast, ?_, hread, by cases client <;> exact hnext⟩
      change S.nextTick + heartbeatPeriod ≤ S.lastHeartbeat + heartbeatTimeout + heartbeatPeriod
      omega

/-- The bound on the next ping is about the beginning and the pings read. -/
lemma PingInTime.session {client : ClientPhase} {S' : Session}
    (h : PingInTime B now client (.session S)) (hstarted : S'.startedAt = S.startedAt)
    (hread : S'.read = S.read) : PingInTime B now client (.session S') := by
  cases client with
  | running startedAt =>
      change now ≤ max S'.startedAt (startedAt + S'.read * pingPeriod) + B.ping
      rw [hstarted, hread]
      exact h
  | _ => trivial

/-- An arm of the loop leaves nothing overdue. -/
lemma inTime_loop {client : ClientPhase} (hping : PingInTime B now client (.session S))
    (htick : TickInTime B now (.session S)) {S' : Session}
    (hstep : LoopStep now pings S (.session S')) :
    PingInTime B now client (.session S') ∧ TickInTime B now (.session S') := by
  cases hstep with
  | readPing hsent =>
      refine ⟨?_, trivial⟩
      cases client with
      | running startedAt =>
          change now ≤ max S.startedAt (startedAt + S.read * pingPeriod) + B.ping at hping
          change now ≤ max S.startedAt (startedAt + (S.read + 1) * pingPeriod) + B.ping
          rw [Nat.succ_mul]
          omega
      | _ => trivial
  | push => exact ⟨hping.session rfl rfl, trivial⟩
  | sent =>
      refine ⟨hping.session rfl rfl, ?_⟩
      change now ≤ max S.nextTick now + B.timer
      omega
  | tick hdue hrecent =>
      refine ⟨hping.session rfl rfl, ?_⟩
      obtain ⟨startedAt, last, nextTick, read, loop⟩ := S
      cases loop with
      | select since =>
          change now ≤ max nextTick since + B.timer at htick
          change now ≤ max (nextTick + heartbeatPeriod) since + B.timer
          omega
      | sending => trivial

/-- A step of the server keeps the bounds. -/
lemma inv_server (h : Inv B now c) (hstep : ServerStep now c c') : Inv B now c' := by
  obtain ⟨client, server, authSent, response, pings⟩ := c
  have ⟨⟨hresponse, hping, htick⟩, hclient, hrequest, hpreparing, hsession⟩ := h
  cases hstep with
  | accept =>
      exact ⟨⟨hresponse, by cases client <;> trivial, trivial⟩, hclient, hrequest, nofun, nofun⟩
  | answered hsent _ =>
      exact ⟨⟨hresponse, by cases client <;> trivial, trivial⟩, hclient, hrequest, fun _ => hsent,
        nofun⟩
  | closed _ =>
      exact ⟨⟨hresponse, by cases client <;> trivial, trivial⟩, hclient, hrequest, nofun, nofun⟩
  | enterLoop hserver =>
      change server = _ at hserver
      subst hserver
      refine ⟨⟨hresponse, ?_, ?_⟩, hclient, hrequest, nofun, ?_⟩
      · cases client with
        | running startedAt =>
            change now ≤ max now _ + B.ping
            omega
        | _ => trivial
      · change now ≤ max now now + B.timer
        omega
      · rintro S ⟨⟩
        refine ⟨le_refl now, le_refl now, ?_, Nat.zero_le _, ?_⟩
        · change now ≤ now + heartbeatTimeout + heartbeatPeriod
          omega
        · cases client with
          | connecting => exact absurd rfl (hrequest (hpreparing rfl))
          | waiting since => exact hclient.2
          | running startedAt =>
              have hstarted := hclient.1
              change startedAt + 0 * pingPeriod ≤ now + responseTimeout + B.timer
              omega
          | gone => trivial
  | @loop S p hserver hloop =>
      change server = _ at hserver
      subst hserver
      cases p with
      | session S' =>
          obtain ⟨hping', htick'⟩ := inTime_loop hping htick hloop
          refine ⟨⟨hresponse, hping', htick'⟩, hclient, hrequest, nofun, ?_⟩
          rintro _ ⟨⟩
          exact sessionInv_loop hclient (hsession S rfl) hloop
      | _ => cases hloop <;>
          exact ⟨⟨hresponse, by cases client <;> trivial, trivial⟩, hclient, hrequest, nofun, nofun⟩

/-- The step lemma. -/
lemma inv_act (h : Inv B now c) (hact : act config req now c a = some c') : Inv B now c' :=
  (step_of_act hact).elim (inv_client h) (inv_server h)

/-- The run lemma. -/
lemma inv_run {as : List (TimedLabel Action)} {m : Timed MainConn}
    (hrun : exec (mainStep config req B) ⟨0, .start⟩ as = some m) : Inv B m.now m.state :=
  Timed.timed_invariant (fun _ _ _ _ => inv_act) (fun _ _ _ => inv_elapse) (inv_start B) hrun

/-! ## Accuracy -/

/-- A client that is there has not been silent for long. -/
lemma recent_of_inv (h : Inv B now c) (hserver : c.server = .session S) (hthere : c.client ≠ .gone) :
    now ≤ S.lastHeartbeat + responseTimeout + B.timer + B.ping := by
  obtain ⟨client, server, authSent, response, pings⟩ := c
  obtain ⟨⟨hresponse, hping, -⟩, -, -, -, hsession⟩ := h
  change server = _ at hserver
  subst hserver
  obtain ⟨hstarted, -, -, -, hnext⟩ := hsession S rfl
  cases client with
  | connecting => exact hnext.elim
  | waiting since =>
      change since ≤ S.startedAt at hnext
      change now ≤ since + responseTimeout + B.timer at hresponse
      omega
  | running startedAt =>
      change startedAt + S.read * pingPeriod ≤ S.lastHeartbeat + responseTimeout + B.timer at hnext
      change now ≤ max S.startedAt (startedAt + S.read * pingPeriod) + B.ping at hping
      omega
  | gone => exact absurd rfl hthere

/-- With tight bounds only a client that is gone is cut off. -/
lemma gone_of_timedOut_act (hB : responseTimeout + B.timer + B.ping ≤ heartbeatTimeout)
    (h : Inv B now c) (hgone : c.server = .timedOut → c.client = .gone)
    (hact : act config req now c a = some c') : c'.server = .timedOut → c'.client = .gone := by
  rcases step_of_act hact with hstep | hstep
  · cases hstep with
    | sendAuth hphase => exact fun hout => nomatch hphase.symm.trans (hgone hout)
    | accepted hphase => exact fun hout => nomatch hphase.symm.trans (hgone hout)
    | ping _ _ => exact hgone
    | gone => exact fun _ => rfl
  · cases hstep with
    | accept | answered _ _ | closed _ | enterLoop _ =>
        intro hout
        cases hout
    | @loop S p hserver hloop =>
        intro hout
        change p = _ at hout
        subst hout
        cases hloop with
        | cut hsilent =>
            by_contra hthere
            have hrecent := recent_of_inv h hserver hthere
            omega

/-- With tight bounds only clients that are gone are cut off. -/
lemma gone_of_timedOut (hB : responseTimeout + B.timer + B.ping ≤ heartbeatTimeout)
    {as : List (TimedLabel Action)} {m : Timed MainConn}
    (hrun : exec (mainStep config req B) ⟨0, .start⟩ as = some m) :
    m.state.server = .timedOut → m.state.client = .gone := by
  refine (Timed.timed_invariant (I := fun now c =>
    Inv B now c ∧ (c.server = .timedOut → c.client = .gone)) ?_ ?_
    ⟨inv_start B, fun hout => by cases hout⟩ hrun).2
  · exact fun now c a c' h hact =>
      ⟨inv_act h.1 hact, gone_of_timedOut_act hB h.1 h.2 hact⟩
  · exact fun now duration c h hin => ⟨inv_elapse h.1 hin, h.2⟩

/-! ## Runs with long silences -/

/-- The connection with the server in the loop. -/
def MainConn.inLoop (c : MainConn) (S : Session) : MainConn := { c with server := .session S }

/-- A response that is in time later is in time now. -/
lemma ResponseInTime.mono {client : ClientPhase} {t : ℕ} (h : ResponseInTime B t client)
    (hle : now ≤ t) : ResponseInTime B now client := by
  cases client with
  | waiting since => exact hle.trans h
  | _ => trivial

/-- A ping that is in time later is in time now. -/
lemma PingInTime.mono {client : ClientPhase} {t : ℕ} (h : PingInTime B t client (.session S))
    (hle : now ≤ t) : PingInTime B now client (.session S) := by
  cases client with
  | running startedAt => exact hle.trans h
  | _ => trivial

variable (config req) in
/-- A run leads from one moment to the other. -/
abbrev MainLeads (B : Bounds) : Timed MainConn → Timed MainConn → Prop :=
  Timed.Leads (act config req) (InTime B)

/-- A waiting loop is in time until its timer is late. -/
lemma tickInTime_iff {t : ℕ} {since : ℕ} (hloop : S.loop = .select since) :
    TickInTime B t (.session S) ↔ t ≤ max S.nextTick since + B.timer := by
  obtain ⟨_, _, _, _, loop⟩ := S
  change loop = _ at hloop
  subst hloop
  exact Iff.rfl

/-- The first tick that is due not before the moment `t`, for an interval that begins at zero. -/
structure NextDue (t n : ℕ) : Prop where
  notBefore : t ≤ n
  first : n < t + heartbeatPeriod
  tick : heartbeatPeriod ∣ n

variable (config req) in
/-- Nothing but ticks. -/
lemma leads_idle {since t : ℕ} (hloop : S.loop = .select since) (hnow : now ≤ S.nextTick)
    (htick : heartbeatPeriod ∣ S.nextTick) (hsoon : S.nextTick < t + heartbeatPeriod) (hle : now ≤ t)
    (hrecent : t ≤ S.lastHeartbeat + heartbeatTimeout + 1)
    (hresponse : ResponseInTime B t c.client) (hping : PingInTime B t c.client (.session S)) :
    ∃ n, NextDue t n ∧
      MainLeads config req B ⟨now, c.inLoop S⟩ ⟨t, c.inLoop { S with nextTick := n }⟩ := by
  induction hn : t - S.nextTick using Nat.strong_induction_on generalizing S now with
  | _ n ih =>
      by_cases hdue : t ≤ S.nextTick
      · refine ⟨S.nextTick, ⟨hdue, hsoon, htick⟩, Timed.leads_elapse hle ⟨hresponse, hping, ?_⟩⟩
        exact (tickInTime_iff hloop).mpr (by omega)
      · have hperiod : 0 < heartbeatPeriod := by decide
        have hwait : MainLeads config req B ⟨now, c.inLoop S⟩ ⟨S.nextTick, c.inLoop S⟩ := by
          refine Timed.leads_elapse hnow ⟨hresponse.mono (by omega), hping.mono (by omega), ?_⟩
          exact (tickInTime_iff hloop).mpr (by omega)
        have hserved : MainLeads config req B ⟨S.nextTick, c.inLoop S⟩
            ⟨S.nextTick, c.inLoop { S with nextTick := S.nextTick + heartbeatPeriod }⟩ := by
          refine Timed.leads_act .tick ?_
          have hnot : ¬ heartbeatTimeout < S.nextTick - S.lastHeartbeat := by omega
          simp [act, Action.ofClient, serverAction, MainConn.inLoop, loopAction, hloop, hnot]
        obtain ⟨n', hdue', hrest⟩ := ih (t - (S.nextTick + heartbeatPeriod)) (by omega)
          (S := { S with nextTick := S.nextTick + heartbeatPeriod }) hloop (Nat.le_add_right _ _)
          (Nat.dvd_add htick (dvd_refl _)) (by dsimp only; omega) (by omega) hrecent
          (hping.session rfl rfl) rfl
        exact ⟨n', hdue', (hwait.trans hserved).trans hrest⟩

/-- A tick that finds a silence cuts the client off. -/
lemma leads_cut {since : ℕ} (hloop : S.loop = .select since) (hdue : S.nextTick ≤ now)
    (hsilent : heartbeatTimeout < now - S.lastHeartbeat) :
    MainLeads config req B ⟨now, c.inLoop S⟩ ⟨now, { c with server := .timedOut }⟩ :=
  Timed.leads_act .tick (by
    simp [act, Action.ofClient, serverAction, MainConn.inLoop, loopAction, hloop, hdue, hsilent])

variable (config req) in
/-- A ping that is sent, read and answered. -/
lemma leads_ping {since startedAt : ℕ} (hclient : c.client = .running startedAt)
    (hdue : startedAt + c.pings * pingPeriod ≤ now) (hloop : S.loop = .select since)
    (hread : S.read = c.pings) : MainLeads config req B ⟨now, c.inLoop S⟩
      ⟨now, MainConn.inLoop { c with pings := c.pings + 1 }
        { S with lastHeartbeat := now, read := S.read + 1, loop := .select now }⟩ := by
  have hping : act config req now (c.inLoop S) .ping =
      some (MainConn.inLoop { c with pings := c.pings + 1 } S) := by
    simp [act, Action.ofClient, clientAction, MainConn.inLoop, hclient, hdue]
  have hpong : act config req now (MainConn.inLoop { c with pings := c.pings + 1 } S) .readPing =
      some (MainConn.inLoop { c with pings := c.pings + 1 }
        { S with lastHeartbeat := now, read := S.read + 1, loop := .sending }) := by
    simp [act, Action.ofClient, serverAction, MainConn.inLoop, loopAction, hloop, hread]
  exact (Timed.leads_act .ping hping).trans
    ((Timed.leads_act .readPing hpong).trans (Timed.leads_act (.sent true) rfl))

variable (config req) in
/-- The request has been answered at once, and the response is still on its way. -/
def MainConn.answered : MainConn :=
  { client := .waiting 0
    server := .preparing
    authSent := true
    response := some (authenticate config req)
    pings := 0 }

/-- The loop begins. -/
lemma leads_loop (haccepted : (authenticate config req).success = true) :
    MainLeads config req B ⟨0, .start⟩ ⟨0, (MainConn.answered config req).inLoop (.start 0)⟩ := by
  have hfirst : MainLeads config req B ⟨0, .start⟩
      ⟨0, { MainConn.start with client := .waiting 0, authSent := true, server := .first 0 }⟩ :=
    (Timed.leads_act .sendAuth rfl).trans (Timed.leads_act .accept rfl)
  have hanswered : act config req 0
      { MainConn.start with client := .waiting 0, authSent := true, server := .first 0 }
      (.readAuth true) = some (MainConn.answered config req) := by
    simp [act, Action.ofClient, serverAction, MainConn.answered, MainConn.start, haccepted]
  exact hfirst.trans ((Timed.leads_act (.readAuth true) hanswered).trans
    (Timed.leads_act .enterLoop rfl))

/-- The client reads the response. -/
lemma leads_response (haccepted : (authenticate config req).success = true) :
    MainLeads config req B ⟨now, (MainConn.answered config req).inLoop S⟩
      ⟨now, MainConn.inLoop { MainConn.answered config req with client := .running now } S⟩ :=
  Timed.leads_act .readResponse (by
    simp [act, Action.ofClient, clientAction, MainConn.inLoop, MainConn.answered, haccepted])

/-- The tick that is due ninety seconds after the beginning is served late and cuts off. -/
lemma leads_late_cut {n : ℕ} (hnext : NextDue heartbeatTimeout n)
    (hresponse : ResponseInTime B (heartbeatTimeout + 1) c.client)
    (hping : PingInTime B (heartbeatTimeout + 1) c.client (.session (.start 0)))
    (hlate : 1 ≤ B.timer) : MainLeads config req B
      ⟨heartbeatTimeout, c.inLoop { Session.start 0 with nextTick := n }⟩
      ⟨heartbeatTimeout + 1, { c with server := .timedOut }⟩ := by
  have hn : n = heartbeatTimeout := by
    obtain ⟨hpast, hfirst, k, rfl⟩ := hnext
    simp only [heartbeatTimeout, heartbeatPeriod, second] at hpast hfirst ⊢
    omega
  rw [hn]
  have hin : InTime B (heartbeatTimeout + 1)
      (c.inLoop { Session.start 0 with nextTick := heartbeatTimeout }) := by
    refine ⟨hresponse, hping.session rfl rfl, ?_⟩
    change heartbeatTimeout + 1 ≤ max heartbeatTimeout 0 + B.timer
    omega
  refine (Timed.leads_elapse (Nat.le_succ _) hin).trans (leads_cut rfl (Nat.le_succ _) ?_)
  change heartbeatTimeout < heartbeatTimeout + 1 - 0
  omega

/-- The client still waits for the response. -/
lemma leads_waiting (haccepted : (authenticate config req).success = true) {t : ℕ}
    (ht : t ≤ heartbeatTimeout) (hresponse : t ≤ responseTimeout + B.timer) :
    ∃ n, NextDue t n ∧ MainLeads config req B ⟨0, .start⟩
      ⟨t, (MainConn.answered config req).inLoop { Session.start 0 with nextTick := n }⟩ := by
  have hbound : ResponseInTime B t (MainConn.answered config req).client := by
    change t ≤ 0 + responseTimeout + B.timer
    omega
  obtain ⟨n, hnext, hidle⟩ := leads_idle config req (S := .start 0) rfl
    (Nat.zero_le 0) (dvd_zero _) (Nat.add_pos_right t (by decide)) (Nat.zero_le t)
    (by change t ≤ 0 + heartbeatTimeout + 1; omega) hbound trivial
  exact ⟨n, hnext, (leads_loop haccepted).trans hidle⟩

/-- A client that waits for the response is cut off. -/
lemma waiting_cut (haccepted : (authenticate config req).success = true)
    (hB : heartbeatTimeout + 1 ≤ responseTimeout + B.timer) :
    MainLeads config req B ⟨0, .start⟩
      ⟨heartbeatTimeout + 1, { MainConn.answered config req with server := .timedOut }⟩ := by
  obtain ⟨n, hnext, hwaiting⟩ := leads_waiting (B := B) haccepted (le_refl heartbeatTimeout) (by omega)
  refine hwaiting.trans (leads_late_cut hnext ?_ trivial ?_)
  · change heartbeatTimeout + 1 ≤ 0 + responseTimeout + B.timer
    omega
  · simp only [heartbeatTimeout, responseTimeout, second] at hB
    omega

/-- A client that has read the response late is cut off before its first ping is read. -/
lemma first_ping_cut (haccepted : (authenticate config req).success = true)
    (hresponse : responseTimeout + B.timer ≤ heartbeatTimeout) (hlate : 1 ≤ B.timer)
    (hB : heartbeatTimeout + 1 ≤ responseTimeout + B.timer + B.ping) :
    MainLeads config req B ⟨0, .start⟩ ⟨heartbeatTimeout + 1,
      { MainConn.answered config req with
        client := .running (responseTimeout + B.timer), server := .timedOut }⟩ := by
  obtain ⟨n, hnext, hwaiting⟩ := leads_waiting (B := B) haccepted hresponse (le_refl _)
  have hping : PingInTime B (heartbeatTimeout + 1) (.running (responseTimeout + B.timer))
      (.session (.start 0)) := by
    change heartbeatTimeout + 1 ≤ max 0 (responseTimeout + B.timer + 0 * pingPeriod) + B.ping
    omega
  obtain ⟨n', hnext', hidle⟩ := leads_idle config req (B := B)
    (c := { MainConn.answered config req with client := .running (responseTimeout + B.timer) })
    (S := { Session.start 0 with nextTick := n }) (t := heartbeatTimeout) rfl hnext.notBefore
    hnext.tick (lt_of_lt_of_le hnext.first (by omega)) hresponse
    (by change _ ≤ 0 + heartbeatTimeout + 1; omega) trivial
    ((hping.mono (Nat.le_succ _)).session rfl rfl)
  exact (hwaiting.trans (leads_response haccepted)).trans
    (hidle.trans (leads_late_cut hnext' trivial hping hlate))

/-- A client whose fourth ping is late is cut off, if the third was read just before a tick. -/
lemma slow_ping_cut (haccepted : (authenticate config req).success = true)
    (hB : heartbeatTimeout + 1 ≤ responseTimeout + B.ping) :
    MainLeads config req B ⟨0, .start⟩ ⟨heartbeatPeriod + heartbeatTimeout,
      { MainConn.answered config req with
        client := .running (responseTimeout - 1), server := .timedOut, pings := 3 }⟩ := by
  simp only [heartbeatTimeout, responseTimeout, second] at hB
  obtain ⟨n, hnext, hwaiting⟩ := leads_waiting (B := B) (t := responseTimeout - 1) haccepted
    (by decide) (by omega)
  let c : MainConn :=
    { MainConn.answered config req with client := .running (responseTimeout - 1) }
  have hrecent : heartbeatPeriod - 1 ≤ 0 + heartbeatTimeout + 1 := by decide
  have hrecent' : heartbeatPeriod + heartbeatTimeout ≤ heartbeatPeriod - 1 + heartbeatTimeout + 1 := by
    decide
  have hdue₀ : responseTimeout - 1 + 0 * pingPeriod ≤ heartbeatPeriod - 1 := by decide
  have hdue₁ : responseTimeout - 1 + 1 * pingPeriod ≤ heartbeatPeriod - 1 := by decide
  have hdue₂ : responseTimeout - 1 + 2 * pingPeriod ≤ heartbeatPeriod - 1 := by decide
  obtain ⟨n', hnext', hidle⟩ := leads_idle config req (B := B) (c := c)
    (S := { Session.start 0 with nextTick := n }) (t := heartbeatPeriod - 1) rfl hnext.notBefore hnext.tick
    (lt_of_lt_of_le hnext.first (by decide)) (by decide) hrecent trivial (by
      change heartbeatPeriod - 1 ≤ max 0 (responseTimeout - 1 + 0 * pingPeriod) + B.ping
      simp only [heartbeatPeriod, responseTimeout, second]
      omega)
  have hpings := ((leads_ping config req (B := B) (c := c)
    (S := { Session.start 0 with nextTick := n' }) rfl hdue₀ rfl rfl).trans
      (leads_ping config req rfl hdue₁ rfl rfl)).trans (leads_ping config req rfl hdue₂ rfl rfl)
  obtain ⟨n'', hnext'', hsilent⟩ := leads_idle config req (B := B)
    (c := { c with pings := 3 })
    (S := ⟨0, heartbeatPeriod - 1, n', 3, .select (heartbeatPeriod - 1)⟩)
    (t := heartbeatPeriod + heartbeatTimeout) rfl hnext'.notBefore
    hnext'.tick (lt_of_lt_of_le hnext'.first (by decide)) (by decide) hrecent' trivial (by
      change heartbeatPeriod + heartbeatTimeout ≤
        max 0 (responseTimeout - 1 + 3 * pingPeriod) + B.ping
      simp only [heartbeatPeriod, heartbeatTimeout, responseTimeout, pingPeriod, second]
      omega)
  have hdue : n'' ≤ heartbeatPeriod + heartbeatTimeout := by
    obtain ⟨-, hfirst, k, rfl⟩ := hnext''
    simp only [heartbeatTimeout, heartbeatPeriod, second] at hfirst ⊢
    omega
  exact (((hwaiting.trans (leads_response haccepted)).trans hidle).trans hpings).trans
    (hsilent.trans (leads_cut rfl hdue (by change _ < _ - (heartbeatPeriod - 1); decide)))

/-- **Accuracy.**  No client that is there is ever cut off for its silence exactly if what the timers
may be late and what a ping may take come to no more than eighty seconds. -/
theorem heartbeat_accurate_iff (haccepted : (authenticate config req).success = true) :
    (∀ as m, exec (mainStep config req B) ⟨0, .start⟩ as = some m →
      m.state.server = .timedOut → m.state.client = .gone) ↔ B.timer + B.ping ≤ 80 * second := by
  constructor
  · intro hnever
    by_contra hB
    have hcut : ∀ now c, MainLeads config req B ⟨0, .start⟩ ⟨now, c⟩ → c.server = .timedOut →
        c.client = .gone := by
      rintro now c ⟨as, hrun⟩ hout
      exact hnever as _ hrun hout
    simp only [second] at hB
    by_cases hping : 80 * second < B.ping
    · refine nomatch hcut _ _ (slow_ping_cut haccepted ?_) rfl
      simp only [heartbeatTimeout, responseTimeout, second] at hping ⊢
      omega
    · by_cases htimer : 80 * second < B.timer
      · refine nomatch hcut _ _ (waiting_cut haccepted ?_) rfl
        simp only [heartbeatTimeout, responseTimeout, second] at htimer ⊢
        omega
      · simp only [second] at hping htimer
        refine nomatch hcut _ _ (first_ping_cut haccepted ?_ (by omega) ?_) rfl
        · simp only [heartbeatTimeout, responseTimeout, second]
          omega
        · simp only [heartbeatTimeout, responseTimeout, second]
          omega
  · intro hB as m hrun
    refine gone_of_timedOut ?_ hrun
    simp only [heartbeatTimeout, responseTimeout, second] at hB ⊢
    omega

/-- With punctual timers eighty seconds for a ping are fine, and a nanosecond more is not. -/
theorem heartbeat_accurate_eighty : let config : AuthConfig := ⟨"token", "0.1.0", Char.isAlphanum⟩
    let req : AuthRequest := ⟨"laptop", "token", "0.1.0"⟩
    (∀ as m, exec (mainStep config req ⟨0, 80 * second⟩) ⟨0, .start⟩ as = some m →
      m.state.server = .timedOut → m.state.client = .gone) ∧
    ¬ ∀ as m, exec (mainStep config req ⟨0, 80 * second + 1⟩) ⟨0, .start⟩ as = some m →
      m.state.server = .timedOut → m.state.client = .gone :=
  have haccepted : (authenticate ⟨"token", "0.1.0", Char.isAlphanum⟩
      ⟨"laptop", "token", "0.1.0"⟩).success = true := by decide
  ⟨(heartbeat_accurate_iff haccepted).mpr (by decide),
    mt (heartbeat_accurate_iff haccepted).mp (by decide)⟩

/-! ## Completeness -/

/-- A session that is not held up for long in a send is not silent for long. -/
lemma silence_le (h : Inv B now c) {since : ℕ} (hserver : c.server = .session S)
    (hloop : S.loop = .select since)
    (hsince : since ≤ S.lastHeartbeat + heartbeatTimeout + heartbeatPeriod) :
    now ≤ S.lastHeartbeat + heartbeatTimeout + heartbeatPeriod + B.timer := by
  have htick := h.inTime.2.2
  rw [hserver, tickInTime_iff hloop] at htick
  have hnext := (h.session S hserver).tick
  omega

/-- A client that disappears when the loop begins, and then any silence of up to two minutes. -/
lemma leads_gone (haccepted : (authenticate config req).success = true) {silence : ℕ}
    (hsilence : silence ≤ heartbeatTimeout + heartbeatPeriod + B.timer) :
    ∃ n, MainLeads config req B ⟨0, .start⟩ ⟨silence, MainConn.inLoop
      { MainConn.answered config req with client := .gone } { Session.start 0 with nextTick := n }⟩ := by
  let c : MainConn := { MainConn.answered config req with client := .gone }
  have hgone : MainLeads config req B ⟨0, .start⟩ ⟨0, c.inLoop (.start 0)⟩ :=
    (leads_loop haccepted).trans (Timed.leads_act .clientEnds rfl)
  -- up to the last tick that finds nothing
  obtain ⟨n, hnext, hidle⟩ := leads_idle config req (B := B) (c := c)
    (S := .start 0) (t := min silence (heartbeatTimeout + 1)) rfl (Nat.zero_le 0) (dvd_zero _)
    (Nat.add_pos_right _ (by decide)) (Nat.zero_le _)
    (by change _ ≤ 0 + heartbeatTimeout + 1; omega) trivial trivial
  refine ⟨n, (hgone.trans hidle).trans (Timed.leads_elapse (min_le_left _ _) ⟨trivial, trivial, ?_⟩)⟩
  change silence ≤ max n 0 + B.timer
  obtain ⟨hpast, -, k, rfl⟩ := hnext
  simp only [heartbeatTimeout, heartbeatPeriod, second] at hpast hsilence ⊢
  omega

/-- **Completeness.**  After the client is gone, a session whose loop is not held up in a send can go
on without a ping for two minutes and as long as a timer may be late, and no longer; one that is in a
send can go on for ever. -/
theorem heartbeat_complete_iff (haccepted : (authenticate config req).success = true) (silence : ℕ) :
    ((∃ as m S since, exec (mainStep config req B) ⟨0, .start⟩ as = some m ∧
      m.state.client = .gone ∧ m.state.server = .session S ∧ S.loop = .select since ∧
      since ≤ S.lastHeartbeat + 120 * second ∧ m.now = S.lastHeartbeat + silence) ↔
        silence ≤ 120 * second + B.timer) ∧
    ∃ as m S, exec (mainStep config req B) ⟨0, .start⟩ as = some m ∧
      m.state.client = .gone ∧ m.state.server = .session S ∧ S.loop = .sending ∧
      m.now = S.lastHeartbeat + silence := by
  have hminutes : 120 * second = heartbeatTimeout + heartbeatPeriod := rfl
  rw [hminutes]
  refine ⟨⟨?_, ?_⟩, ?_⟩
  · rintro ⟨as, m, S, since, hrun, -, hserver, hloop, hsince, hnow⟩
    have hle := silence_le (inv_run hrun) hserver hloop (by omega)
    omega
  · intro hsilence
    obtain ⟨n, as, hrun⟩ := leads_gone haccepted hsilence
    exact ⟨as, _, _, _, hrun, rfl, rfl, rfl, Nat.zero_le _, (Nat.zero_add silence).symm⟩
  · let c : MainConn := { MainConn.answered config req with client := .gone }
    have hsending : MainLeads config req B ⟨0, .start⟩
        ⟨0, c.inLoop { Session.start 0 with loop := .sending }⟩ :=
      (leads_loop haccepted).trans ((Timed.leads_act .clientEnds rfl).trans
        (Timed.leads_act .push rfl))
    obtain ⟨as, hrun⟩ := hsending.trans (Timed.leads_elapse (Nat.zero_le silence)
      ⟨trivial, trivial, trivial⟩)
    exact ⟨as, _, _, hrun, rfl, rfl, rfl, (Nat.zero_add silence).symm⟩

/-- With punctual timers two minutes can go by, and a nanosecond more cannot. -/
theorem heartbeat_complete_two_minutes :
    let config : AuthConfig := ⟨"token", "0.1.0", Char.isAlphanum⟩
    let req : AuthRequest := ⟨"laptop", "token", "0.1.0"⟩
    let Unnoticed (silence : ℕ) : Prop := ∃ as m S since,
      exec (mainStep config req ⟨0, 0⟩) ⟨0, .start⟩ as = some m ∧ m.state.client = .gone ∧
        m.state.server = .session S ∧ S.loop = .select since ∧
        since ≤ S.lastHeartbeat + 120 * second ∧ m.now = S.lastHeartbeat + silence
    Unnoticed (120 * second) ∧ ¬ Unnoticed (120 * second + 1) :=
  have haccepted : (authenticate ⟨"token", "0.1.0", Char.isAlphanum⟩
      ⟨"laptop", "token", "0.1.0"⟩).success = true := by decide
  ⟨(heartbeat_complete_iff haccepted _).1.mpr (by decide),
    mt (heartbeat_complete_iff haccepted _).1.mp (by decide)⟩

end

end RustProxy.Server.Heartbeat
