import RustProxy.Fleet.Mirror
import RustProxy.Fleet.Traffic

/-!
# What the history of the traffic says

The history variables of `TrafficState` are those of its state, whatever runs.

* `closes_apiStep` and `closes_linkStep` count the `ServerCloseProxy` on a connection: they are handed
  over by requests, and gone when the client has handled them.
* `BridgeMove` is what a step of the tunnel does to the bridge of one task.
* `TrafficInv` is the invariant, and `TrafficInv.step` that every step keeps it.
-/

namespace RustProxy.Fleet

open RustProxy.Core RustProxy.Proto RustProxy.Control RustProxy.Client
open RustProxy.Server (ClientId ConnId AuthConfig Waiter WaitPc TunnelState TunnelLabel tunnelStep)

variable {T : StdText} {J : DomainsJson} {client : ConnId → ClientId} {config : AuthConfig}
  {s s' : TrafficState} {e : TrafficEvent}

/-! ## Messages are handled once -/

/-- The message that the handler is sending. -/
def Stage.inHand : Stage → List Mail
  | .forwarding mail => [mail]
  | _ => []

/-- The messages on their way to the client, the first to arrive first. -/
def Link.mails (l : Link) : List Mail := l.wire ++ l.stage.inHand ++ l.queue

/-- How many of them are `ServerCloseProxy` of a rule. -/
def Link.closes (l : Link) (n : String) : ℕ :=
  l.mails.countP fun mail => mail.msg = closeMessage n

/-- The messages that close a rule are on the wire, in hand or in the queue. -/
lemma Link.closes_eq (l : Link) (n : String) : l.closes n =
    l.wire.countP (fun mail => mail.msg = closeMessage n) +
      l.stage.inHand.countP (fun mail => mail.msg = closeMessage n) +
      l.queue.countP fun mail => mail.msg = closeMessage n := by
  rw [Link.closes, Link.mails, List.countP_append, List.countP_append]

/-- Enqueueing a message adds one if it closes the rule. -/
lemma closes_enqueue (l : Link) (mail : Mail) (n : String) :
    (l.enqueue mail).closes n = l.closes n + if mail.msg = closeMessage n then 1 else 0 := by
  rw [Link.closes_eq, Link.closes_eq]
  simp [Link.enqueue, List.countP_append, List.countP_cons]
  omega

/-- A step of a connection hands over no message; one that its client handles is gone. -/
lemma closes_step {rules : List ProxyRule} {l l' : Link} {e : LinkEvent}
    (h : l.step rules e = some l') (n : String) :
    l'.closes n + (if l.handles e = some (closeMessage n) then 1 else 0) ≤ l.closes n := by
  rw [Link.closes_eq, Link.closes_eq]
  cases linkMove_of_step h with
  | accepted hstage => simp [Link.handles, Stage.inHand, hstage, authResp, Mail.plain, closeMessage]
  | pushed rule left hstage =>
      simp [Link.handles, Stage.inHand, hstage, assign, assignMessage, Mail.plain, closeMessage]
  | recv mail rest hstage hqueue =>
      simp [Link.handles, Stage.inHand, hstage, hqueue, List.countP_cons]
      omega
  | forwarded mail hstage hwhole =>
      simp [Link.handles, Stage.inHand, hstage, List.countP_cons]
  | ponged hstage => simp [Link.handles, Stage.inHand, hstage, Mail.plain, closeMessage]
  | deliver mail rest hreading hwire =>
      rw [Link.handles, hwire, List.countP_cons]
      cases l.client.pc <;> simp
      omega
  | refused hstage | listed hstage | allPushed _ hstage | pushFailed _ _ hstage | dropped _ hstage
  | leave hstage | closed hstage =>
      simp [Link.handles, Stage.inHand, hstage]
  | stop => simp [Link.handles]

/-- A step of a connection hands over no request for a work connection. -/
lemma asked_step {rules : List ProxyRule} {l l' : Link} {e : LinkEvent}
    (h : l.step rules e = some l') {mail : Mail} (hmail : mail ∈ l'.mails) {n : String}
    (hasked : askedFor mail.msg = some n) : mail ∈ l.mails := by
  rw [Link.mails] at hmail ⊢
  cases linkMove_of_step h with
  | accepted hstage =>
      have hne : mail ≠ authResp := by
        rintro rfl
        cases hasked
      simpa [Stage.inHand, hstage, hne] using hmail
  | pushed rule left hstage =>
      have hne : mail ≠ assign rule := by
        rintro rfl
        cases hasked
      simpa [Stage.inHand, hstage, hne] using hmail
  | ponged hstage =>
      have hne : mail ≠ .plain .pong := by
        rintro rfl
        cases hasked
      simpa [Stage.inHand, hstage, hne] using hmail
  | recv first rest hstage hqueue => simpa [Stage.inHand, hstage, hqueue] using hmail
  | forwarded first hstage hwhole => simpa [Stage.inHand, hstage] using hmail
  | deliver first rest hreading hwire =>
      rw [hwire]
      exact List.mem_cons_of_mem first hmail
  | dropped first hstage =>
      rw [hstage]
      simp only [Stage.inHand, List.append_nil, List.mem_append] at hmail ⊢
      exact hmail.imp_left Or.inl
  | refused hstage | listed hstage | allPushed _ hstage | pushFailed _ _ hstage | leave hstage
  | closed hstage => simpa [Stage.inHand, hstage] using hmail
  | stop => exact hmail

/-- What `send_to` does. -/
lemma sendTo_cases {s : FleetState} {c : ClientId} {mail : Mail} {out : Bool × FleetState}
    (h : sendTo s c mail = some out) :
    (∃ k, receiver s c = some k ∧ out = (true, s.setLink k ((s.link k).enqueue mail))) ∨
      receiver s c = none ∧ out = (false, s) := by
  rw [sendTo] at h
  rw [receiver]
  cases hsession : s.sessions c with
  | some k =>
      rw [hsession] at h
      have hsend : send s k mail = some out := h
      unfold send at hsend
      split_ifs at hsend with hfinished hroom
      · exact .inr ⟨if_pos hfinished, (Option.some.inj hsend).symm⟩
      · exact .inl ⟨k, if_neg hfinished, (Option.some.inj hsend).symm⟩
  | none =>
      rw [hsession] at h
      exact .inr ⟨rfl, (Option.some.inj h).symm⟩

/-- What is handed to a session is on its way, and nothing else changes. -/
lemma closes_sendTo {s : FleetState} {c : ClientId} {mail : Mail} {out : Bool × FleetState}
    (h : sendTo s c mail = some out) (k : ConnId) (n : String) : (out.2.link k).closes n =
      (s.link k).closes n +
        if receiver s c = some k ∧ mail.msg = closeMessage n then 1 else 0 := by
  obtain ⟨j, hj, rfl⟩ | ⟨hnone, rfl⟩ := sendTo_cases h
  · by_cases hjk : k = j
    · subst hjk
      rw [FleetState.setLink_link_self, closes_enqueue]
      simp [hj]
    · rw [FleetState.setLink_link_of_ne _ hjk, hj, if_neg, Nat.add_zero]
      exact fun hk => hjk (Option.some.inj hk.1).symm
  · rw [hnone]
    simp

/-- A step of the server adds the message that it sends. -/
lemma closes_apiStep {s s' : FleetState} {e : ServerEvent} (h : apiStep T J s e = some s')
    (k : ConnId) (n : String) : (s'.link k).closes n =
      (s.link k).closes n + if closing s e = some (k, n) then 1 else 0 := by
  obtain ⟨server, hstep, h⟩ := Option.bind_eq_some_iff.mp h
  rw [closing]
  split at h
  case h_1 hnone =>
      cases h
      simp [hnone]
  case h_2 c msg hsome =>
      obtain ⟨out, hout, h⟩ := Option.bind_eq_some_iff.mp h
      rw [Option.ite_none_right_eq_some, Option.some.injEq] at h
      obtain ⟨-, rfl⟩ := h
      rw [hsome]
      show (out.2.link k).closes n = _
      rw [closes_sendTo hout]
      congr 1
      cases msg with
      | serverCloseProxy req =>
          obtain ⟨name⟩ := req
          simp [Mail.plain, closeMessage]
      | _ => simp [Mail.plain, closeMessage]

/-- Other messages that are handed over are not counted. -/
lemma Posted.closes {s s' : FleetState} {c : ClientId} {mail : Mail} (h : Posted s s' c mail)
    {n : String} (hmail : mail.msg ≠ closeMessage n) (k : ConnId) :
    (s'.link k).closes n = (s.link k).closes n := by
  obtain ⟨-, hk⟩ | ⟨-, hk⟩ := h.link k
  · rw [hk]
  · rw [hk, closes_enqueue, if_neg hmail, Nat.add_zero]

/-- What is handed to a session is on its way, and nothing else. -/
lemma Posted.asked {s s' : FleetState} {c : ClientId} {mail m : Mail} (h : Posted s s' c mail)
    {k : ConnId} (hm : m ∈ (s'.link k).mails) : m ∈ (s.link k).mails ∨ m = mail := by
  obtain ⟨-, hk⟩ | ⟨-, hk⟩ := h.link k
  · rw [hk] at hm
    exact .inl hm
  · rw [hk, Link.mails, Link.enqueue, ← List.append_assoc] at hm
    exact (List.mem_append.mp hm).imp_right List.mem_singleton.mp

/-- A notification that is no request for a work connection hands over none. -/
lemma asked_apiStep {s s' : FleetState} {e : ServerEvent} (h : apiStep T J s e = some s')
    (hother : ∀ c msg, nextNotification s.server e = some (c, msg) → askedFor msg = none)
    {k : ConnId} {mail : Mail} (hmail : mail ∈ (s'.link k).mails) {n : String}
    (hasked : askedFor mail.msg = some n) : mail ∈ (s.link k).mails := by
  obtain ⟨server, -, h⟩ := Option.bind_eq_some_iff.mp h
  split at h
  case h_1 =>
      cases h
      exact hmail
  case h_2 c msg hsome =>
      obtain ⟨out, hout, h⟩ := Option.bind_eq_some_iff.mp h
      rw [Option.ite_none_right_eq_some, Option.some.injEq] at h
      obtain ⟨-, rfl⟩ := h
      rcases (posted_of_sendTo hout).asked hmail with hmail | rfl
      · exact hmail
      · cases (hother c msg hsome).symm.trans hasked

/-- A link that loses messages leaves fewer. -/
lemma closes_setLink {s : FleetState} {j : ConnId} {l : Link} {n : String} {m : ℕ}
    (h : l.closes n + m ≤ (s.link j).closes n) (k : ConnId) :
    ((s.setLink j l).link k).closes n + (if k = j then m else 0) ≤ (s.link k).closes n := by
  by_cases hkj : k = j
  · subst hkj
    rw [FleetState.setLink_link_self, if_pos rfl]
    exact h
  · rw [FleetState.setLink_link_of_ne _ hkj, if_neg hkj, Nat.add_zero]

/-- A handler that goes on without sending leaves what is on its way. -/
lemma closes_stage (l : Link) (stage : Stage) (hbefore : l.stage.inHand = [])
    (hafter : stage.inHand = []) (n : String) : ({ l with stage } : Link).closes n = l.closes n := by
  rw [Link.closes_eq, Link.closes_eq, hbefore, hafter]

/-- Registering brings no message that closes a rule. -/
lemma closes_register {s s' : FleetState} {c : ClientId} {j : ConnId}
    (hstage : (s.link j).stage = .registering) (h : register s c j = some s') (k : ConnId)
    (n : String) : (s'.link k).closes n ≤ (s.link k).closes n := by
  have hinsert : ∀ t : FleetState, (t.link j).stage = .registering →
      ((insertSession t c j).link k).closes n ≤ (t.link k).closes n := by
    intro t ht
    have hsame := closes_stage (t.link j) .listing (by rw [ht]; rfl) rfl n
    refine le_trans (Nat.le_add_right _ _) (closes_setLink (m := 0) ?_ k)
    exact hsame.le
  rw [register] at h
  split at h
  case h_1 old hold =>
      obtain ⟨out, hout, rfl⟩ := Option.map_eq_some_iff.mp h
      have hping := posted_of_send hold hout
      rw [← hping.closes (n := n) ControlMessage.noConfusion k]
      exact hinsert out.2 ((hping.stage j).trans hstage)
  case h_2 =>
      cases h
      exact hinsert s hstage

/-- Unregistering brings no message that closes a rule. -/
lemma closes_unregister {s : FleetState} {c : ClientId} {j : ConnId}
    (hstage : (s.link j).stage = .unregistering) (k : ConnId) (n : String) :
    ((unregister s c j).link k).closes n ≤ (s.link k).closes n := by
  have hsame := closes_stage (s.link j) .closing (by rw [hstage]; rfl) rfl n
  refine le_trans (Nat.le_add_right _ _) (closes_setLink (m := 0) ?_ k)
  exact hsame.le

/-- A step of a connection hands over no `ServerCloseProxy`; one that its client handles is gone. -/
lemma closes_linkStep {s s' : FleetState} {j : ConnId} {e : LinkEvent}
    (h : linkStep J client s j e = some s') (k : ConnId) (n : String) :
    (s'.link k).closes n +
      (if k = j ∧ (s.link j).handles e = some (closeMessage n) then 1 else 0) ≤
        (s.link k).closes n := by
  rcases linkStep_cases h with ⟨l, hl, rfl⟩ | ⟨rfl, hstage, hregister⟩ | ⟨rfl, hstage, rfl⟩
  · have hset := closes_setLink (closes_step hl n) k
    rwa [← ite_and] at hset
  · simpa [Link.handles] using closes_register hstage hregister k n
  · simpa [Link.handles] using closes_unregister hstage k n

/-- A connection changes, and what is on its way was so before. -/
lemma asked_setLink {s : FleetState} {j k : ConnId} {l : Link} {mail : Mail}
    (h : mail ∈ l.mails → mail ∈ (s.link j).mails) (hmail : mail ∈ ((s.setLink j l).link k).mails) :
    mail ∈ (s.link k).mails := by
  by_cases hkj : k = j
  · subst hkj
    rw [FleetState.setLink_link_self] at hmail
    exact h hmail
  · rwa [FleetState.setLink_link_of_ne _ hkj] at hmail

/-- A connection hands over no request for a work connection. -/
lemma asked_linkStep {s s' : FleetState} {j k : ConnId} {e : LinkEvent}
    (h : linkStep J client s j e = some s') {mail : Mail} (hmail : mail ∈ (s'.link k).mails)
    {n : String} (hasked : askedFor mail.msg = some n) : mail ∈ (s.link k).mails := by
  rcases linkStep_cases h with ⟨l, hl, rfl⟩ | ⟨rfl, hstage, hregister⟩ | ⟨rfl, hstage, rfl⟩
  · exact asked_setLink (fun hl' => asked_step hl hl' hasked) hmail
  · have hinsert : ∀ t : FleetState, (t.link j).stage = .registering →
        mail ∈ ((insertSession t (client j) j).link k).mails → mail ∈ (t.link k).mails := by
      intro t ht
      refine asked_setLink (s := t) fun hl' => ?_
      rw [Link.mails, ht]
      exact hl'
    rw [register] at hregister
    split at hregister
    case h_1 old hold =>
        obtain ⟨out, hout, rfl⟩ := Option.map_eq_some_iff.mp hregister
        have hping := posted_of_send hold hout
        rcases hping.asked (hinsert out.2 ((hping.stage j).trans hstage) hmail) with hmail | rfl
        · exact hmail
        · cases hasked
    case h_2 =>
        cases hregister
        exact hinsert s hstage hmail
  · refine asked_setLink (s := s) (fun hl' => ?_) hmail
    rw [Link.mails, hstage]
    exact hl'

/-! ## Bridges -/

open RustProxy.Server in
/-- A first message is handled beside the waiting tasks. -/
lemma dispatchConnection_task (t : TunnelState) (peer : Peer) (msg : Message) :
    (dispatchConnection config t peer msg).task = t.task := by
  unfold dispatchConnection
  split
  · rfl
  · split <;> rfl
  · rfl

open RustProxy.Server in
/-- What is registered waits in a channel. -/
lemma registerWorkConn_task (t : TunnelState) (connId : UInt64) (work : RustProxy.Server.WorkConn) :
    (registerWorkConn t connId work).1.task = t.task := by
  unfold registerWorkConn
  split
  · split <;> rfl
  · rfl

/-- What a task of the tunnel may do in a step, as far as bridges go. -/
inductive BridgeMove (t t' : TunnelState) (label : TunnelLabel) (i : ℕ) : Prop
  | same (hsame : t'.task i = t.task i)
  | opened (w : Waiter) (work : RustProxy.Server.WorkConn) (hlabel : label = .resume i)
      (hbefore : t.task i = .waiting w) (hafter : t'.task i = .bridged w work)
  | neither (hbefore : ∀ w work, t.task i ≠ .bridged w work)
      (hafter : ∀ w work, t'.task i ≠ .bridged w work)

open RustProxy.Server in
/-- A step of a task that is bridged neither before nor after moves no bridge. -/
lemma bridgeMove_setTask {t t₁ : TunnelState} {label : TunnelLabel} {j : ℕ} {old pc : WaitPc}
    (hpc : t.task j = old) (hbefore : ∀ w work, old ≠ .bridged w work)
    (hafter : ∀ w work, pc ≠ .bridged w work) (i : ℕ) (htask : t₁.task = t.task) :
    BridgeMove t (t₁.setTask j pc) label i := by
  by_cases hij : i = j
  · subst hij
    refine .neither (hpc ▸ hbefore) ?_
    rw [TunnelState.setTask_self]
    exact hafter
  · refine .same ?_
    rw [TunnelState.setTask_of_ne _ hij, htask]

open RustProxy.Server in
/-- A bridge stays, and comes up only where a waiting task takes its work connection. -/
theorem bridgeMove_of_tunnelStep {t t' : TunnelState} {label : TunnelLabel}
    (h : tunnelStep config t label = some t') (i : ℕ) : BridgeMove t t' label i := by
  cases tunnelMove_of_step h with
  | arrive j path proxyName clientId userAddr hpc =>
      refine bridgeMove_setTask hpc (by simp) ?_ i rfl
      cases path <;> simp
  | insertPending j w hpc =>
      refine bridgeMove_setTask hpc (by simp) ?_ i rfl
      cases w.path <;> simp
  | notified j sent w hpc =>
      cases sent with
      | true =>
          refine bridgeMove_setTask hpc (by simp) ?_ i rfl
          cases w.path <;> simp
      | false =>
          refine bridgeMove_setTask hpc (by simp) ?_ i rfl
          cases w.path <;> simp
  | resume j w work hpc hslot =>
      by_cases hij : i = j
      · subst hij
        exact .opened w work rfl hpc (t.setTask_self i _)
      · exact .same (t.setTask_of_ne hij _)
  | timeout j w hpc | senderDropped j w hpc =>
      exact bridgeMove_setTask hpc (by simp) (by simp) i rfl
  | cleanup j w rx hpc =>
      unfold cleanedUp
      cases w.path with
      | stream => exact bridgeMove_setTask hpc (by simp) (by simp) i rfl
      | udp => exact bridgeMove_setTask hpc (by simp) (by simp) i rfl
  | unmapped j w hpc => exact bridgeMove_setTask hpc (by simp) (by simp) i rfl
  | firstMessage peer msg => exact .same (congrFun (dispatchConnection_task t peer msg) i)
  | register work rest => exact .same (congrFun (registerWorkConn_task t work.connId work) i)

/-! ## What the history says -/

/-- What a request has been answered with. -/
def answer (p : Control.Server) (j : ℕ) : Option ApiAnswer :=
  p.tasks[j]?.bind fun t => t.prog.result?

/-- The history is that of the state: requests are those of the pool, deletions are on their outline,
a request that has sent its `ServerCloseProxy` has been answered, what a client has processed or is
still to process has been handed over, and what is over has been a bridge. -/
structure TrafficInv (s : TrafficState) : Prop where
  requests : s.history.requests.length = s.fleet.server.tasks.length
  ending : ∀ (j : ℕ) (n : String) (t : PoolTask Op ApiAnswer Ghost),
    s.history.requests[j]? = some (.delete n) → s.fleet.server.tasks[j]? = some t →
      EndsWith (.unit (success ())) t.prog
  answered : ∀ j, s.history.close j ≠ none → answer s.fleet.server j = some (.unit (success ()))
  accounted : ∀ k n, s.history.closesRead k n + (s.fleet.link k).closes n ≤ s.history.closesSent k n
  ended : ∀ i, s.ended i = true → ∃ w work, s.tunnel.task i = .bridged w work

/-- At the start nothing has happened. -/
lemma trafficInv_start (J : DomainsJson) (db : RuleTable) (outcomes : Stream' Bool) :
    TrafficInv (quietStart J db outcomes) where
  requests := rfl
  ending := fun j n t hj => by cases hj
  answered := fun j hj => absurd rfl hj
  accounted := fun k n => by rfl
  ended := fun i hi => by cases hi

section

variable {p p' : Control.Server} {ev : ServerEvent} {j : ℕ}

/-- A request that has been answered stays so, and takes no more steps. -/
lemma answer_step (h : serverStep T J p ev = some p') {a : ApiAnswer} (hj : answer p j = some a) :
    answer p' j = some a ∧ ∀ c, ev ≠ .step j c := by
  obtain ⟨t, htask, hresult⟩ := Option.bind_eq_some_iff.mp hj
  obtain ⟨req, rfl, rfl⟩ | ⟨i, c, g, β, op, next, rfl, hget, -, rfl⟩ := Pool.step_cases h
  · refine ⟨?_, fun c hc => by cases hc⟩
    rw [answer, List.getElem?_append_left (List.getElem?_eq_some_iff.mp htask).1, htask]
    exact hresult
  · have hij : i ≠ j := by
      rintro rfl
      cases hget.symm.trans htask
      cases hresult
    refine ⟨?_, fun c' hc => hij (by cases hc; rfl)⟩
    rw [answer, List.getElem?_set_ne hij, htask]
    exact hresult

/-- A step of the server among all is one of its own. -/
lemma server_of_apiStep {s s' : FleetState} (h : apiStep T J s ev = some s') :
    serverStep T J s.server ev = some s'.server := by
  obtain ⟨server, hstep, h⟩ := Option.bind_eq_some_iff.mp h
  rw [hstep]
  split at h
  · cases h
    rfl
  · obtain ⟨out, -, h⟩ := Option.bind_eq_some_iff.mp h
    rw [Option.ite_none_right_eq_some, Option.some.injEq] at h
    rw [← h.2]

/-- A step of a link leaves the server. -/
lemma server_of_linkStep {s s' : FleetState} {k : ConnId} {e : LinkEvent}
    (h : linkStep J client s k e = some s') : s'.server = s.server := by
  rcases linkStep_cases h with ⟨l, -, rfl⟩ | ⟨-, -, hregister⟩ | ⟨-, -, rfl⟩
  · rfl
  · rw [register] at hregister
    split at hregister
    · obtain ⟨out, hout, rfl⟩ := Option.map_eq_some_iff.mp hregister
      exact (posted_of_send ‹_› hout).server
    · cases hregister
      rfl
  · rfl

/-- A deletion takes its next action. -/
lemma deletion_eq_some {h : History} {n : String} (hj : h.deletion ev = some (j, n)) :
    (∃ c, ev = .step j c) ∧ h.requests[j]? = some (.delete n) := by
  cases ev with
  | arrive req => cases hj
  | step i c =>
      rw [History.deletion] at hj
      split at hj
      case h_1 n' hget =>
          obtain ⟨rfl, rfl⟩ := Prod.mk.inj (Option.some.inj hj)
          exact ⟨⟨c, rfl⟩, hget⟩
      case h_2 => cases hj

end

/-- Only a deletion that sends a `ServerCloseProxy` records one. -/
lemma close_act (J : DomainsJson) (h : History) (t t' : FleetState) (ev : ServerEvent) (j : ℕ) :
    (h.act J t t' ev).close j = h.close j ∨ ∃ n k n', h.deletion ev = some (j, n) ∧
      closing t ev = some (k, n') ∧
        (h.act J t t' ev).close j = some (k, n', h.closesSent k n' + 1) := by
  dsimp only [History.act]
  cases hdeletion : h.deletion ev with
  | none => exact .inl rfl
  | some pair =>
      obtain ⟨i, n⟩ := pair
      cases hclosing : closing t ev with
      | none => exact .inl rfl
      | some pair =>
          obtain ⟨k, n'⟩ := pair
          dsimp only
          by_cases hij : j = i
          · subst hij
            exact .inr ⟨n, k, n', rfl, rfl, Function.update_self _ _ _⟩
          · exact .inl (Function.update_of_ne hij _ _)

/-- The deletion that sends its `ServerCloseProxy` is answered. -/
lemma TrafficInv.answered_of_closing (hs : TrafficInv s) {ev : ServerEvent} {fleet : FleetState}
    (hstep : serverStep T J s.fleet.server ev = some fleet.server) {j : ℕ} {n : String}
    (hj : s.history.deletion ev = some (j, n)) (hclosing : closing s.fleet ev ≠ none) :
    answer fleet.server j = some (.unit (success ())) := by
  obtain ⟨⟨c, rfl⟩, hrequest⟩ := deletion_eq_some hj
  obtain ⟨req, hev, -⟩ | ⟨i, c', g, β, op, next, hev, hget, -, hserver⟩ := Pool.step_cases hstep
  · cases hev
  · cases hev
    have hnotify : notification op ≠ none := by
      intro hnone
      refine hclosing ?_
      rw [closing, nextNotification, nextOf, hget]
      dsimp only
      rw [hnone]
    have hends := (hs.ending j n _ hrequest hget).1 hnotify
    rw [hserver, answer]
    dsimp only
    rw [List.getElem?_set_self (List.getElem?_eq_some_iff.mp hget).1, hends]
    rfl

/-- A step of the server keeps the history true. -/
lemma TrafficInv.api (hs : TrafficInv s) {ev : ServerEvent} {fleet : FleetState}
    (h : apiStep T J s.fleet ev = some fleet) :
    TrafficInv { s with fleet, history := s.history.act J s.fleet fleet ev } where
  requests := by
    obtain ⟨req, rfl, hserver⟩ | ⟨i, c, g, β, op, next, rfl, -, -, hserver⟩ :=
      Pool.step_cases (server_of_apiStep h)
    · rw [hserver]
      simp [History.act, hs.requests]
    · rw [hserver]
      simp [History.act, hs.requests]
  ending := by
    intro j n t hj ht
    obtain ⟨req, rfl, hserver⟩ | ⟨i, c, g, β, op, next, rfl, hget, -, hserver⟩ :=
      Pool.step_cases (server_of_apiStep h)
    · rw [hserver] at ht
      have hj : (s.history.requests ++ [req])[j]? = some (.delete n) := hj
      rcases Pool.getElem?_append_cases ht with ⟨rfl, rfl⟩ | ht
      · rw [← hs.requests, List.getElem?_concat_length, Option.some.injEq] at hj
        rw [hj]
        exact endsWith_handle_delete (T := T) n
      · rw [List.getElem?_append_left] at hj
        · exact hs.ending j n t hj ht
        · rw [hs.requests]
          exact (List.getElem?_eq_some_iff.mp ht).1
    · rw [hserver] at ht
      rcases Pool.getElem?_set_cases ht with ⟨rfl, rfl⟩ | ⟨-, ht⟩
      · exact (hs.ending j n _ hj hget).2 _
      · exact hs.ending j n t hj ht
  answered := by
    intro j hj
    have hserver := server_of_apiStep h
    rcases close_act J s.history s.fleet fleet ev j with hsame | ⟨n, k, n', hdeletion, hclosing, -⟩
    · exact (answer_step hserver (hs.answered j (hsame ▸ hj))).1
    · refine hs.answered_of_closing hserver hdeletion ?_
      rw [hclosing]
      exact Option.some_ne_none _
  accounted := by
    intro k n
    have hcount := hs.accounted k n
    show s.history.closesRead k n + (fleet.link k).closes n ≤
      if closing s.fleet ev = some (k, n) then s.history.closesSent k n + 1
      else s.history.closesSent k n
    rw [closes_apiStep h k n]
    split
    · omega
    · omega
  ended := hs.ended

/-- Steps that are no action of a request. -/
lemma TrafficInv.carry (hs : TrafficInv s) (hserver : s'.fleet.server = s.fleet.server)
    (hrequests : s'.history.requests = s.history.requests)
    (hclose : s'.history.close = s.history.close)
    (haccounted : ∀ k n, s'.history.closesRead k n + (s'.fleet.link k).closes n ≤
      s'.history.closesSent k n)
    (hended : ∀ i, s'.ended i = true → ∃ w work, s'.tunnel.task i = .bridged w work) :
    TrafficInv s' where
  requests := by
    rw [hrequests, hserver]
    exact hs.requests
  ending := by
    rw [hrequests, hserver]
    exact hs.ending
  answered := by
    rw [hclose, hserver]
    exact hs.answered
  accounted := haccounted
  ended := hended

/-- A bridge that has ended is still there to be counted. -/
lemma TrafficInv.ended_tunnelStep (hs : TrafficInv s) {label : TunnelLabel} {tunnel : TunnelState}
    (h : tunnelStep config s.tunnel label = some tunnel) (i : ℕ) (hi : s.ended i = true) :
    ∃ w work, tunnel.task i = .bridged w work := by
  obtain ⟨w, work, hbridged⟩ := hs.ended i hi
  cases bridgeMove_of_tunnelStep h i with
  | same hsame => exact ⟨w, work, hsame.trans hbridged⟩
  | opened w' work' hlabel hbefore hafter => cases hbefore.symm.trans hbridged
  | neither hbefore hafter => exact absurd hbridged (hbefore w work)

/-- No more messages are read than were sent. -/
lemma TrafficInv.accounted_read (hs : TrafficInv s) {k : ConnId} {ev : LinkEvent} {fleet : FleetState}
    (h : linkStep J client s.fleet k ev = some fleet) (j : ConnId) (n : String) :
    (s.history.read k ((s.fleet.link k).handles ev)).closesRead j n + (fleet.link j).closes n ≤
      s.history.closesSent j n := by
  have hcount := hs.accounted j n
  have hstep := closes_linkStep h j n
  dsimp only [History.read]
  split
  case isTrue hread =>
      rw [if_pos hread] at hstep
      omega
  case isFalse hread =>
      rw [if_neg hread] at hstep
      omega

/-- Every step keeps the history that of the state. -/
theorem TrafficInv.step (hs : TrafficInv s) (h : trafficStep T J client config s e = some s') :
    TrafficInv s' := by
  cases trafficMove_of_step h with
  | api ev fleet hstep hs' =>
      rw [hs']
      exact hs.api hstep
  | link k ev fleet hstep hs' =>
      rw [hs']
      exact hs.carry (server_of_linkStep hstep) rfl rfl (hs.accounted_read hstep) hs.ended
  | user _ u _ _ hs' =>
      rw [hs']
      exact hs.carry rfl rfl rfl hs.accounted hs.ended
  | arrive i u tunnel _ hstep hs' =>
      rw [hs']
      exact hs.carry rfl rfl rfl hs.accounted (hs.ended_tunnelStep hstep)
  | notify i w out tunnel _ hsend hstep hs' =>
      rw [hs']
      have hposted := posted_of_sendTo hsend
      refine hs.carry hposted.server rfl rfl (fun k n => ?_) (hs.ended_tunnelStep hstep)
      show _ + (out.2.link k).closes n ≤ _
      rw [hposted.closes ControlMessage.noConfusion k]
      exact hs.accounted k n
  | tunnel label tunnel halone hstep hs' =>
      rw [hs']
      exact hs.carry rfl rfl rfl hs.accounted (hs.ended_tunnelStep hstep)
  | bridgeEnds i hbridged hs' =>
      rw [hs']
      refine hs.carry rfl rfl rfl hs.accounted fun j hj => ?_
      by_cases hij : j = i
      · subst hij
        exact hbridged
      · have hj : Function.update s.ended i true j = true := hj
        rw [Function.update_of_ne hij] at hj
        exact hs.ended j hj
  | workEnds t hs' =>
      rw [hs']
      exact hs.carry rfl rfl rfl hs.accounted hs.ended

end RustProxy.Fleet
