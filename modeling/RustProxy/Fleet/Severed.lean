import RustProxy.Fleet.Completeness
import RustProxy.Fleet.History

/-!
# Rules that are gone

What is under way for a rule when it is deleted, and what stays true of the rule from then on.

* A rule is `Unused` when no user, task, request for a work connection or work connection of it is
  under way at the server or at a client.
* `Severed` is a rule whose era `g` is over: nothing of that era is under way, and as long as the rule
  is not created again nothing leads users to it.
* `Severed.step` and `Severed.api` are the step lemmas, and `severed_of_closing` says how a rule comes
  to be severed.
-/

namespace RustProxy.Fleet

open RustProxy.Core RustProxy.Proto RustProxy.Control RustProxy.Client
open RustProxy.Server (ClientId ConnId AuthConfig Waiter WaitPc TunnelState TunnelLabel tunnelStep
  tunnelMove_of_step)

/-- The user that a task is bridged to, or may still be bridged to. -/
def carries : WaitPc → Option Waiter
  | .inserting w => some w
  | .notifying w => some w
  | .waiting w => some w
  | .bridged w _ => some w
  | _ => none

/-- Task `i` is on its way to a bridge for the user, or the bridge forwards. -/
structure Underway (s : TrafficState) (i : ℕ) (w : Waiter) : Prop where
  carries : carries (s.tunnel.task i) = some w
  alive : s.ended i = false

/-- Nothing is under way for the rule, at the server or at a client. -/
structure Unused (s : TrafficState) (n : String) : Prop where
  users : ∀ u ∈ s.users, u.proxyName ≠ n
  tasks : ∀ i w, Underway s i w → w.proxyName ≠ n
  requests : ∀ k, ∀ mail ∈ (s.fleet.link k).mails, askedFor mail.msg ≠ some n
  work : ∀ t ∈ s.work, t.proxyName ≠ n

variable {T : StdText} {J : DomainsJson} {client : ConnId → ClientId} {config : AuthConfig}
  {s s' : TrafficState} {e : TrafficEvent} {n : String} {g : ℕ}

/-! ## What is under way -/

/-- A task goes on with its user, or gives it up. -/
lemma carries_setTask {t t₁ : TunnelState} {i₀ : ℕ} {old pc : WaitPc} (hpc : t.task i₀ = old)
    (hsame : ∀ w, carries pc = some w → carries old = some w) (htask : t₁.task = t.task) {i : ℕ}
    {w : Waiter} (hw : carries ((t₁.setTask i₀ pc).task i) = some w) :
    carries (t.task i) = some w := by
  by_cases hi : i = i₀
  · subst hi
    rw [TunnelState.setTask_self] at hw
    rw [hpc]
    exact hsame w hw
  · rwa [TunnelState.setTask_of_ne _ hi, htask] at hw

open RustProxy.Server in
/-- A task takes on a user only when it starts. -/
lemma carries_of_tunnelStep {t t' : TunnelState} {label : TunnelLabel}
    (h : tunnelStep config t label = some t') {i : ℕ} {w : Waiter}
    (hw : carries (t'.task i) = some w) : carries (t.task i) = some w ∨
      ∃ path clientId userAddr, label = .arrive i path w.proxyName clientId userAddr := by
  cases tunnelMove_of_step h with
  | arrive i₀ path proxyName clientId userAddr hpc =>
      by_cases hi : i = i₀
      · subst hi
        refine .inr ⟨path, clientId, userAddr, ?_⟩
        unfold RustProxy.Server.arrive at hw
        rw [TunnelState.setTask_self] at hw
        cases path with
        | stream =>
            obtain rfl := Option.some.inj hw
            rfl
        | udp =>
            obtain rfl := Option.some.inj hw
            rfl
      · unfold RustProxy.Server.arrive at hw
        rw [TunnelState.setTask_of_ne _ hi] at hw
        exact .inl hw
  | insertPending i₀ w₀ hpc =>
      refine .inl (carries_setTask hpc (fun w hw => ?_) rfl hw)
      cases hpath : w₀.path <;> rw [hpath] at hw <;> exact hw
  | notified i₀ sent w₀ hpc =>
      cases sent with
      | true =>
          refine .inl (carries_setTask hpc (fun w hw => ?_) rfl hw)
          cases hpath : w₀.path <;> rw [hpath] at hw <;> exact hw
      | false =>
          refine .inl (carries_setTask hpc (fun w hw => ?_) rfl hw)
          cases hpath : w₀.path <;> rw [hpath] at hw <;> cases hw
  | resume i₀ w₀ work hpc =>
      have hsame : ∀ w, carries (.bridged w₀ work) = some w → carries (.waiting w₀) = some w :=
        fun w hw => hw
      exact .inl (carries_setTask hpc hsame rfl hw)
  | timeout i₀ w₀ hpc | senderDropped i₀ w₀ hpc | unmapped i₀ w₀ hpc =>
      exact .inl (carries_setTask hpc (fun w hw => by cases hw) rfl hw)
  | cleanup i₀ w₀ rx hpc =>
      unfold cleanedUp at hw
      cases hpath : w₀.path <;> rw [hpath] at hw <;>
        exact .inl (carries_setTask hpc (fun w hw => by cases hw) rfl hw)
  | firstMessage peer msg =>
      have hsame : carries ((dispatchConnection config t peer msg).task i) = some w := hw
      rw [dispatchConnection_task] at hsame
      exact .inl hsame
  | register work rest =>
      have hsame : carries ((registerWorkConn t work.connId work).1.task i) = some w := hw
      rw [registerWorkConn_task] at hsame
      exact .inl hsame

/-- A client opens a work connection because it has been asked to. -/
lemma spawned_cases {h : History} {k : ConnId} {l : Link} {ev : LinkEvent} {t : WorkTask}
    (ht : spawned h k l.client.rules (l.handles ev) = some t) :
    ∃ mail ∈ l.mails, askedFor mail.msg = some t.proxyName ∧ t.era = h.births t.proxyName := by
  unfold spawned at ht
  split at ht
  case h_1 req hhandles =>
      obtain ⟨target, -, rfl⟩ := Option.map_eq_some_iff.mp ht
      unfold Link.handles at hhandles
      split at hhandles
      case h_1 =>
          split at hhandles
          case h_1 mail rest hpc hwire =>
              refine ⟨mail, ?_, ?_, rfl⟩
              · rw [Link.mails, hwire]
                exact List.mem_cons_self
              · rw [Option.some.inj hhandles]
                rfl
          case h_2 => cases hhandles
      case h_2 => cases hhandles
  case h_2 => cases ht

/-- Only an idle task can begin to serve a user. -/
lemma idle_of_arrive {t t' : TunnelState} {u : User} {i : ℕ}
    (h : tunnelStep config t (u.label i) = some t') : t.task i = .idle := by
  cases tunnelMove_of_step h with
  | arrive _ _ _ _ _ hpc => exact hpc

/-- A task of the tunnel goes on. -/
lemma underway_tunnelStep {label : TunnelLabel} {i : ℕ} {w : Waiter} (h : Underway s' i w)
    (hstep : tunnelStep config s.tunnel label = some s'.tunnel) (hended : s'.ended = s.ended) :
    Underway s i w ∨
      ∃ path clientId userAddr, label = .arrive i path w.proxyName clientId userAddr := by
  have halive := h.alive
  rw [hended] at halive
  exact (carries_of_tunnelStep hstep h.carries).imp_left fun hcarries => ⟨hcarries, halive⟩

/-- A task that asks the client for a work connection has not had a bridge yet. -/
lemma underway_of_notifying (hs : TrafficInv s) {i : ℕ} {w : Waiter}
    (hw : s.tunnel.task i = .notifying w) : Underway s i w where
  carries := by
    rw [hw]
    rfl
  alive := by
    by_contra hended
    obtain ⟨w', work, hbridged⟩ := hs.ended i (by simpa using hended)
    cases hw.symm.trans hbridged

/-! ## A rule that is gone -/

/-- The era is later than `g`, and one that the rule has had. -/
def Later (s : TrafficState) (n : String) (g era : ℕ) : Prop := g < era ∧ era ≤ s.history.births n

/-- Nothing that was started for the rule in the era `g` or before is under way; if the rule has not
been created since, it is not stored and no request is applying a change of it. -/
structure Severed (J : DomainsJson) (s : TrafficState) (n : String) (g : ℕ) : Prop where
  born : g ≤ s.history.births n
  gone : s.history.births n = g →
    s.fleet.server.state.stored J n = none ∧ ¬ Held s.fleet.server n
  users : ∀ u ∈ s.users, u.proxyName = n → Later s n g u.era
  tasks : ∀ i w, Underway s i w → w.proxyName = n → Later s n g (s.history.era i)
  requests : ∀ k, ∀ mail ∈ (s.fleet.link k).mails, askedFor mail.msg = some n →
    g < s.history.births n
  work : ∀ t ∈ s.work, t.proxyName = n → g < t.era

/-- What is later has been born. -/
lemma Later.born {era : ℕ} (h : Later s n g era) : g < s.history.births n := lt_of_lt_of_le h.1 h.2

/-- A rule that is unused when it is gone. -/
lemma Unused.severed (h : Unused s n) (hborn : g ≤ s.history.births n)
    (hgone : s.fleet.server.state.stored J n = none ∧ ¬ Held s.fleet.server n) : Severed J s n g where
  born := hborn
  gone := fun _ => hgone
  users := fun u hu hname => absurd hname (h.users u hu)
  tasks := fun i w hw hname => absurd hname (h.tasks i w hw)
  requests := fun k mail hmail hasked => absurd hasked (h.requests k mail hmail)
  work := fun t ht hname => absurd hname (h.work t ht)

/-- No listener and no route leads users to it. -/
lemma Severed.not_exposed {pending : String → Option Change} (h : Severed J s n g)
    (hdrafted : Drafted J pending s.fleet.server) (hold : s.history.births n = g) :
    ¬ Exposes s.fleet.server.state n := by
  obtain ⟨hstored, hfree⟩ := h.gone hold
  have hsettled : Settled J n s.fleet.server.state :=
    hdrafted.inv.settled n fun t ht hheld => hfree ⟨t, ht, hheld⟩
  rw [Settled, hstored] at hsettled
  obtain ⟨hidle, -⟩ := hsettled
  rintro (⟨task, htask, hname⟩ | ⟨d, rule, hroute, hname⟩)
  · exact hidle.tasks task htask hname
  · exact hidle.routes d rule hroute hname

/-! ## Steps -/

/-- Steps that are no action of a request. -/
lemma Severed.carry (h : Severed J s n g) (hserver : s'.fleet.server = s.fleet.server)
    (hbirths : s'.history.births = s.history.births)
    (husers : ∀ u ∈ s'.users, u.proxyName = n → u ∈ s.users ∨ Later s n g u.era)
    (htasks : ∀ i w, Underway s' i w → w.proxyName = n →
      (Underway s i w ∧ s'.history.era i = s.history.era i) ∨ Later s n g (s'.history.era i))
    (hrequests : ∀ k, ∀ mail ∈ (s'.fleet.link k).mails, askedFor mail.msg = some n →
      mail ∈ (s.fleet.link k).mails ∨ g < s.history.births n)
    (hwork : ∀ t ∈ s'.work, t.proxyName = n → t ∈ s.work ∨ g < t.era) : Severed J s' n g where
  born := by
    rw [hbirths]
    exact h.born
  gone := by
    rw [hbirths, hserver]
    exact h.gone
  users := by
    intro u hu hname
    rw [Later, hbirths]
    rcases husers u hu hname with hu | hlater
    · exact h.users u hu hname
    · exact hlater
  tasks := by
    intro i w hw hname
    rw [Later, hbirths]
    rcases htasks i w hw hname with ⟨hw, hera⟩ | hlater
    · rw [hera]
      exact h.tasks i w hw hname
    · exact hlater
  requests := by
    intro k mail hmail hasked
    rw [hbirths]
    rcases hrequests k mail hmail hasked with hmail | hlater
    · exact h.requests k mail hmail hasked
    · exact hlater
  work := by
    intro t ht hname
    rcases hwork t ht hname with ht | hlater
    · exact h.work t ht hname
    · exact hlater

/-- The steps of the connections, the users and what forwards leave a rule severed. -/
lemma Severed.step {pending : String → Option Change} (h : Severed J s n g)
    (hs : TrafficInv s) (hdrafted : Drafted J pending s.fleet.server) (hapi : ∀ ev, e ≠ .api ev)
    (hrun : trafficStep T J client config s e = some s') : Severed J s' n g := by
  -- an era that is counted now is later, once somebody is under way
  have hnow : g < s.history.births n → Later s n g (s.history.births n) := fun hlt => ⟨hlt, le_rfl⟩
  cases trafficMove_of_step hrun with
  | api ev => exact absurd rfl (hapi ev)
  | link k ev fleet hstep hs' =>
      subst hs'
      refine h.carry (server_of_linkStep hstep) rfl (fun u hu _ => .inl hu)
        (fun i w hw _ => .inl ⟨⟨hw.carries, hw.alive⟩, rfl⟩) (fun k' mail hmail hasked => ?_)
        fun t ht hname => ?_
      · exact .inl (asked_linkStep hstep hmail hasked)
      · rcases List.mem_append.mp ht with ht | ht
        · exact .inl ht
        · right
          obtain ⟨mail, hmail, hasked, hera⟩ := spawned_cases (Option.mem_toList.mp ht)
          rw [hname] at hasked hera
          rw [hera]
          exact h.requests k mail hmail hasked
  | user _ u hexposed hera hs' =>
      subst hs'
      refine h.carry rfl rfl (fun u' hu' hname => ?_)
        (fun i w hw _ => .inl ⟨⟨hw.carries, hw.alive⟩, rfl⟩) (fun k mail hmail _ => .inl hmail)
        fun t ht _ => .inl ht
      rcases List.mem_append.mp hu' with hu' | hu'
      · exact .inl hu'
      · obtain rfl := List.mem_singleton.mp hu'
        right
        rw [hera, hname]
        refine hnow (lt_of_le_of_ne h.born fun hold => ?_)
        exact h.not_exposed hdrafted hold.symm (hname ▸ hexposed)
  | arrive i₀ u tunnel hmem hstep hs' =>
      subst hs'
      refine h.carry rfl rfl (fun u' hu' _ => .inl (List.mem_of_mem_erase hu'))
        (fun i w hw hname => ?_) (fun k mail hmail _ => .inl hmail) fun t ht _ => .inl ht
      show (_ ∧ Function.update s.history.era i₀ u.era i = _) ∨
        Later s n g (Function.update s.history.era i₀ u.era i)
      by_cases hi : i = i₀
      · subst hi
        rw [Function.update_self]
        rcases underway_tunnelStep (s := s) hw hstep rfl with hw | ⟨path, clientId, userAddr, hlabel⟩
        · have hcarries := hw.carries
          rw [idle_of_arrive hstep] at hcarries
          cases hcarries
        · have hproxy := (TunnelLabel.arrive.inj hlabel).2.2.1
          exact .inr (h.users u hmem (hproxy.trans hname))
      · rw [Function.update_of_ne hi]
        rcases underway_tunnelStep (s := s) hw hstep rfl with hw | ⟨path, clientId, userAddr, hlabel⟩
        · exact .inl ⟨hw, rfl⟩
        · exact absurd (TunnelLabel.arrive.inj hlabel).1.symm hi
  | notify i₀ w₀ out tunnel hpc hsend hstep hs' =>
      subst hs'
      have hposted := posted_of_sendTo hsend
      refine h.carry hposted.server rfl (fun u hu _ => .inl hu) (fun i w hw _ => ?_)
        (fun k mail hmail hasked => ?_) fun t ht _ => .inl ht
      · rcases underway_tunnelStep (s := s) hw hstep rfl with hw | ⟨path, clientId, userAddr, hlabel⟩
        · exact .inl ⟨hw, rfl⟩
        · cases hlabel
      · rcases hposted.asked hmail with hmail | rfl
        · exact .inl hmail
        · right
          have hunderway := underway_of_notifying hs hpc
          exact (h.tasks i₀ w₀ hunderway (Option.some.inj hasked)).born
  | tunnel label tunnel halone hstep hs' =>
      subst hs'
      refine h.carry rfl rfl (fun u hu _ => .inl hu) (fun i w hw _ => ?_)
        (fun k mail hmail _ => .inl hmail) fun t ht _ => .inl ht
      rcases underway_tunnelStep (s := s) hw hstep rfl with hw | ⟨path, clientId, userAddr, rfl⟩
      · exact .inl ⟨hw, rfl⟩
      · cases halone
  | bridgeEnds i₀ hbridged hs' =>
      subst hs'
      refine h.carry rfl rfl (fun u hu _ => .inl hu) (fun i w hw _ => .inl ⟨⟨hw.carries, ?_⟩, rfl⟩)
        (fun k mail hmail _ => .inl hmail) fun t ht _ => .inl ht
      have halive : Function.update s.ended i₀ true i = false := hw.alive
      by_cases hi : i = i₀
      · subst hi
        rw [Function.update_self] at halive
        cases halive
      · rwa [Function.update_of_ne hi] at halive
  | workEnds t₀ hs' =>
      subst hs'
      exact h.carry rfl rfl (fun u hu _ => .inl hu)
        (fun i w hw _ => .inl ⟨⟨hw.carries, hw.alive⟩, rfl⟩)
        (fun k mail hmail _ => .inl hmail) fun t ht _ => .inl (List.mem_of_mem_erase ht)

/-- A request notifies a client of a rule it has, or of its end. -/
lemma not_asking {p p' : Control.Server} {pending pending' : String → Option Change}
    {ev : ServerEvent} (hmove : ServerMove J p p' pending (nextNotification p ev) pending')
    (c : ClientId) (msg : ControlMessage) (hsome : nextNotification p ev = some (c, msg)) :
    askedFor msg = none := by
  rw [hsome] at hmove
  cases hmove with
  | notify ch _ _ _ hannounces =>
      rw [Change.Announces] at hannounces
      split at hannounces
      · rw [hannounces.2.2]
        rfl
      · rw [hannounces.2]
        rfl

/-- A rule that is not stored and not being changed stays so, until it is created. -/
lemma gone_of_serverMove {p p' : Control.Server} {pending pending' : String → Option Change}
    {sent : Option (String × ControlMessage)} (hmove : ServerMove J p p' pending sent pending')
    (hstored : p.state.stored J n = none) (hpending : pending n = none)
    (hstill : p'.state.stored J n = none) : pending' n = none := by
  cases hmove with
  | quiet => exact hpending
  | write ch _ hreal hold hnew =>
      by_cases hn : n = ch.name
      · subst hn
        rw [hnew, Function.update_self] at hstill
        rw [← hold, hstored] at hreal
        rcases hreal with hold | hnew
        · exact absurd rfl hold
        · exact absurd hstill hnew
      · rwa [Function.update_of_ne hn]
  | notify ch _ _ _ _ _ =>
      by_cases hn : n = ch.name
      · subst hn
        exact Function.update_self _ _ _
      · rwa [Function.update_of_ne hn]

/-- Eras only begin. -/
lemma births_le_act (J : DomainsJson) (h : History) (t t' : FleetState) (ev : ServerEvent) (n : String) :
    h.births n ≤ (h.act J t t' ev).births n := by
  show _ ≤ if _ then _ else _
  split
  · exact Nat.le_succ _
  · exact le_rfl

/-- An action of a request leaves a rule severed; creating the rule starts another era. -/
lemma Severed.api {pending pending' : String → Option Change} {ev : ServerEvent} {fleet : FleetState}
    (h : Severed J s n g) (hstep : apiStep T J s.fleet ev = some fleet)
    (hdrafted : Drafted J pending s.fleet.server) (hdrafted' : Drafted J pending' fleet.server)
    (hmove : ServerMove J s.fleet.server fleet.server pending (nextNotification s.fleet.server ev)
      pending') :
    Severed J { s with fleet, history := s.history.act J s.fleet fleet ev } n g := by
  have hbirths := births_le_act J s.history s.fleet fleet ev n
  have hlater : ∀ era, Later s n g era →
      Later { s with fleet, history := s.history.act J s.fleet fleet ev } n g era :=
    fun era hera => ⟨hera.1, le_trans hera.2 hbirths⟩
  refine ⟨le_trans h.born hbirths, ?_, fun u hu hname => hlater _ (h.users u hu hname),
    fun i w hw hname => hlater _ (h.tasks i w ⟨hw.carries, hw.alive⟩ hname), ?_, h.work⟩
  · intro hold
    have hborn := h.born
    have hold : (if s.fleet.server.state.stored J n = none ∧ fleet.server.state.stored J n ≠ none
      then s.history.births n + 1 else s.history.births n) = g := hold
    split at hold
    case isTrue => omega
    case isFalse hcreated =>
        obtain ⟨hstored, hfree⟩ := h.gone hold
        have hstill : fleet.server.state.stored J n = none := by
          by_contra hnew
          exact hcreated ⟨hstored, hnew⟩
        rw [← hdrafted.held, Option.not_isSome_iff_eq_none] at hfree
        refine ⟨hstill, ?_⟩
        rw [← hdrafted'.held, gone_of_serverMove hmove hstored hfree hstill]
        exact Bool.false_ne_true
  · intro k mail hmail hasked
    refine lt_of_lt_of_le ?_ hbirths
    exact h.requests k mail (asked_apiStep hstep (not_asking hmove) hmail hasked) hasked

/-- A deletion that notifies the client finds the rule unused, and leaves it severed. -/
lemma severed_of_closing {pending pending' : String → Option Change} {ev : ServerEvent}
    {fleet : FleetState} {k : ConnId} (hunused : Unused s n)
    (hstep : apiStep T J s.fleet ev = some fleet) (hclosing : closing s.fleet ev = some (k, n))
    (hdrafted : Drafted J pending s.fleet.server) (hdrafted' : Drafted J pending' fleet.server)
    (hmove : ServerMove J s.fleet.server fleet.server pending (nextNotification s.fleet.server ev)
      pending')
    (hborn : g ≤ (s.history.act J s.fleet fleet ev).births n) :
    Severed J { s with fleet, history := s.history.act J s.fleet fleet ev } n g := by
  refine Unused.severed ⟨hunused.users, fun i w hw => hunused.tasks i w ⟨hw.carries, hw.alive⟩,
    fun k' mail hmail hasked => ?_, hunused.work⟩ hborn ?_
  · exact hunused.requests k' mail (asked_apiStep hstep (not_asking hmove) hmail hasked) hasked
  · rw [closing] at hclosing
    split at hclosing
    case h_1 c req hsome =>
        obtain ⟨k', -, hpair⟩ := Option.map_eq_some_iff.mp hclosing
        obtain ⟨-, hname⟩ := Prod.mk.inj hpair
        rw [hsome] at hmove
        cases hmove with
        | notify ch _ _ hpending hannounces hsame =>
            rw [Change.Announces] at hannounces
            split at hannounces
            case h_1 => cases hannounces.2.2
            case h_2 hnew =>
                obtain rfl : n = ch.name := by
                  rw [← hname, ControlMessage.serverCloseProxy.inj hannounces.2]
                have hstored := (hdrafted.stored _ ch hpending).2
                refine ⟨(congrFun hsame ch.name).trans (hstored.trans hnew), ?_⟩
                rw [← hdrafted'.held, Function.update_self]
                exact Bool.false_ne_true
    case h_2 => cases hclosing

end RustProxy.Fleet
