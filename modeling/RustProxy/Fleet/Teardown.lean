import RustProxy.Fleet.Severed

/-!
# Deleting a rule and its traffic

`delete_proxy` stops the listener or removes the routes of the rule and notifies its client;
`stop_proxy` removes the rule there.  Neither ends a task that forwards: the bridges, the UDP session
workers and the waiting tasks of the server are in no table, and nothing is ever put into the `tasks`
of the client that `stop_proxy` aborts.

* `CutOff` is a deletion that has been answered with success and whose `ServerCloseProxy` the client
  has processed; `TrafficCut` says that nothing that was started for the rule forwards then.  A rule
  that is created again starts a new era.
* `DeletesUnused` is the condition on a step: requests change rules in turn, and a deletion that
  notifies the client finds the rule unused, with no user, waiting task, bridge, request for a work
  connection or work connection under way.
* `TeardownInv` is the invariant: a rule whose deletion has notified the client is severed.
* `trafficCut_of_deletesUnused` is about whole runs, and `trafficCut_bridged` a deletion under an open
  connection.
-/

namespace RustProxy.Fleet

open RustProxy.Core RustProxy.Proto RustProxy.Control RustProxy.Client Transition
open RustProxy.Server (ClientId ConnId AuthConfig TunnelState TunnelLabel tunnelStep)

/-- Request `j` has deleted the rule and been answered with success; it has ended the era `g`. -/
structure Deleted (s : TrafficState) (j : ℕ) (n : String) (g : ℕ) : Prop where
  request : s.history.requests[j]? = some (.delete n)
  answered : answer s.fleet.server j = some (.unit (success ()))
  era : s.history.deleted j = some g

/-- The client has also processed the `ServerCloseProxy` of the request. -/
structure CutOff (s : TrafficState) (j : ℕ) (n : String) (g : ℕ) : Prop where
  deleted : Deleted s j n g
  processed : ∃ k m, s.history.close j = some (k, n, m) ∧ m ≤ s.history.closesRead k n

/-- The user of task `i` came for the rule in the era `g` or before, and its bridge or session worker
forwards. -/
structure Bridges (s : TrafficState) (n : String) (g i : ℕ) : Prop where
  alive : s.ended i = false
  era : s.history.era i ≤ g
  bridged : ∃ w work, s.tunnel.task i = .bridged w work ∧ w.proxyName = n

/-- A bridge, a session worker or a work connection forwards that was started for the rule in the era
`g` or before. -/
def Forwards (s : TrafficState) (n : String) (g : ℕ) : Prop :=
  (∃ i, Bridges s n g i) ∨ ∃ t ∈ s.work, t.proxyName = n ∧ t.era ≤ g

/-- Where a deletion is complete on both sides, nothing forwards that was started for the rule. -/
def TrafficCut (s : TrafficState) : Prop := ∀ j n g, CutOff s j n g → ¬ Forwards s n g

/-- Requests change rules in turn, and a deletion that notifies the client finds its rule unused. -/
def DeletesUnused (J : DomainsJson) (s : TrafficState) : TrafficEvent → Prop
  | .api e => InTurn J s.fleet.server e ∧ ∀ k n, closing s.fleet e = some (k, n) → Unused s n
  | _ => True

variable {T : StdText} {J : DomainsJson} {client : ConnId → ClientId} {config : AuthConfig}
  {s s' : TrafficState} {e : TrafficEvent} {j : ℕ} {n : String} {g : ℕ}

/-! ## Deletions -/

/-- A step that is no action of a request is no part of a deletion. -/
lemma still_of_step (hapi : ∀ ev, e ≠ .api ev) (h : trafficStep T J client config s e = some s') :
    s'.fleet.server = s.fleet.server ∧ ∃ era closesRead,
      s'.history = { s.history with era, closesRead } := by
  cases trafficMove_of_step h with
  | api ev => exact absurd rfl (hapi ev)
  | link k ev fleet hstep hs' =>
      rw [hs']
      exact ⟨server_of_linkStep hstep, _, _, rfl⟩
  | notify i w out tunnel _ hsend _ hs' =>
      rw [hs']
      exact ⟨(posted_of_sendTo hsend).server, _, _, rfl⟩
  | user _ _ _ _ hs' | arrive _ _ _ _ _ hs' | tunnel _ _ _ _ hs' | bridgeEnds _ _ hs'
  | workEnds _ hs' =>
      rw [hs']
      exact ⟨rfl, _, _, rfl⟩

/-- Nothing is recorded any more of a request that has been answered. -/
lemma act_of_answered (hs : TrafficInv s) {ev : ServerEvent} {fleet : FleetState} {a : ApiAnswer}
    (h : apiStep T J s.fleet ev = some fleet) (hj : answer s.fleet.server j = some a) :
    (s.history.act J s.fleet fleet ev).requests[j]? = s.history.requests[j]? ∧
      (s.history.act J s.fleet fleet ev).deleted j = s.history.deleted j ∧
      (s.history.act J s.fleet fleet ev).close j = s.history.close j := by
  obtain ⟨-, hother⟩ := answer_step (server_of_apiStep h) hj
  have hdeletion : ∀ n, s.history.deletion ev ≠ some (j, n) := by
    intro n hn
    obtain ⟨⟨c, hc⟩, -⟩ := deletion_eq_some hn
    exact hother c hc
  refine ⟨?_, ?_, ?_⟩
  · cases ev with
    | arrive req =>
        refine List.getElem?_append_left ?_
        obtain ⟨t, ht, -⟩ := Option.bind_eq_some_iff.mp hj
        rw [hs.requests]
        exact (List.getElem?_eq_some_iff.mp ht).1
    | step i c => rfl
  · dsimp only [History.act]
    cases hcase : s.history.deletion ev with
    | none => rfl
    | some pair =>
        obtain ⟨i, n⟩ := pair
        have hij : j ≠ i := by
          rintro rfl
          exact hdeletion n hcase
        dsimp only
        split
        · exact Function.update_of_ne hij _ _
        · rfl
  · rcases close_act J s.history s.fleet fleet ev j with hsame | ⟨n, k, n', hn, -, -⟩
    · exact hsame
    · exact absurd hn (hdeletion n)

/-- Nothing forwards for it. -/
lemma Severed.not_forwards (h : Severed J s n g) : ¬ Forwards s n g := by
  rintro (⟨i, hi⟩ | ⟨t, ht, hname, hera⟩)
  · obtain ⟨w, work, hbridged, hname⟩ := hi.bridged
    have hunderway : Underway s i w := ⟨by rw [hbridged]; rfl, hi.alive⟩
    exact absurd hi.era (not_le.mpr (h.tasks i w hunderway hname).1)
  · exact absurd hera (not_le.mpr (h.work t ht hname))

/-! ## Whole runs -/

/-- What holds in every state reached: the history is that of the state, requests announce what they
change, a deletion has ended an era that its rule has had, and a rule whose deletion has notified the
client is severed. -/
structure TeardownInv (J : DomainsJson) (s : TrafficState) : Prop where
  history : TrafficInv s
  drafted : ∃ pending, Drafted J pending s.fleet.server
  deleted : ∀ j g, s.history.deleted j = some g →
    ∃ n, s.history.requests[j]? = some (.delete n) ∧ g ≤ s.history.births n
  severed : ∀ j n g k m, s.history.requests[j]? = some (.delete n) → s.history.deleted j = some g →
    s.history.close j = some (k, n, m) → Severed J s n g

/-- At the start nothing has been deleted. -/
lemma teardownInv_start (J : DomainsJson) (db : RuleTable) (outcomes : Stream' Bool) :
    TeardownInv J (quietStart J db outcomes) where
  history := trafficInv_start J db outcomes
  drafted := ⟨_, drafted_accepting db outcomes⟩
  deleted := fun j g hj => by cases hj
  severed := fun j n g k m hj => by cases hj

/-- The invariant says that the traffic is cut. -/
lemma TeardownInv.trafficCut (h : TeardownInv J s) : TrafficCut s := by
  intro j n g hoff
  obtain ⟨k, m, hclose, -⟩ := hoff.processed
  exact (h.severed j n g k m hoff.deleted.request hoff.deleted.era hclose).not_forwards

section

variable {ev : ServerEvent} {fleet : FleetState}

/-- Requests keep their places. -/
lemma requests_act {h : History} {t t' : FleetState} {r : ApiRequest}
    (hj : h.requests[j]? = some r) : (h.act J t t' ev).requests[j]? = some r := by
  cases ev with
  | arrive req => exact (List.getElem?_append_left (List.getElem?_eq_some_iff.mp hj).1).trans hj
  | step i c => exact hj

/-- A deletion records the era it ends. -/
lemma deleted_act {h : History} {t t' : FleetState} (hj : (h.act J t t' ev).deleted j = some g) :
    h.deleted j = some g ∨ ∃ n, h.deletion ev = some (j, n) ∧ g = h.births n := by
  dsimp only [History.act] at hj
  cases hdeletion : h.deletion ev with
  | none =>
      rw [hdeletion] at hj
      exact .inl hj
  | some pair =>
      obtain ⟨i, n⟩ := pair
      rw [hdeletion] at hj
      dsimp only at hj
      split at hj
      case isTrue =>
          by_cases hij : j = i
          · subst hij
            rw [Function.update_self] at hj
            exact .inr ⟨n, rfl, (Option.some.inj hj).symm⟩
          · rw [Function.update_of_ne hij] at hj
            exact .inl hj
      case isFalse => exact .inl hj

/-- The requests take an action. -/
lemma TeardownInv.api (h : TeardownInv J s) (hstep : apiStep T J s.fleet ev = some fleet)
    (hok : DeletesUnused J s (.api ev)) :
    TeardownInv J { s with fleet, history := s.history.act J s.fleet fleet ev } := by
  obtain ⟨pending, hdrafted⟩ := h.drafted
  obtain ⟨pending', hmove, hdrafted'⟩ := drafted_step hdrafted hok.1 (server_of_apiStep hstep)
  have hdeleted : ∀ j g, (s.history.act J s.fleet fleet ev).deleted j = some g →
      ∃ n, (s.history.act J s.fleet fleet ev).requests[j]? = some (.delete n) ∧
        g ≤ (s.history.act J s.fleet fleet ev).births n := by
    intro j g hj
    rcases deleted_act hj with hj | ⟨n, hdeletion, rfl⟩
    · obtain ⟨n, hrequest, hle⟩ := h.deleted j g hj
      exact ⟨n, requests_act hrequest, le_trans hle (births_le_act J s.history s.fleet fleet ev n)⟩
    · obtain ⟨-, hrequest⟩ := deletion_eq_some hdeletion
      exact ⟨n, requests_act hrequest, births_le_act J s.history s.fleet fleet ev n⟩
  refine ⟨h.history.api hstep, ⟨pending', hdrafted'⟩, hdeleted, ?_⟩
  intro j n g k m hrequest hera hclose
  rcases close_act J s.history s.fleet fleet ev j with hsame | ⟨n₀, k', n', -, hclosing, hnew⟩
  · have hbefore : s.history.close j = some (k, n, m) := hsame.symm.trans hclose
    have hanswer := h.history.answered j (by rw [hbefore]; exact Option.some_ne_none _)
    obtain ⟨hrequests, hdeleted, -⟩ := act_of_answered h.history hstep hanswer
    exact (h.severed j n g k m (hrequests.symm.trans hrequest) (hdeleted.symm.trans hera)
      hbefore).api hstep hdrafted hdrafted' hmove
  · -- the deletion notifies the client
    obtain ⟨rfl, hpair⟩ := Prod.mk.inj (Option.some.inj (hnew.symm.trans hclose))
    obtain ⟨rfl, -⟩ := Prod.mk.inj hpair
    obtain ⟨n, hrequest', hle⟩ := hdeleted j g hera
    obtain rfl : n = n' := ApiRequest.delete.inj (Option.some.inj (hrequest'.symm.trans hrequest))
    exact severed_of_closing (hok.2 k' n hclosing) hstep hclosing hdrafted hdrafted' hmove hle

end

/-- As long as rules are unused when they are deleted, every step keeps the invariant. -/
theorem TeardownInv.step (h : TeardownInv J s) (hok : DeletesUnused J s e)
    (hrun : trafficStep T J client config s e = some s') : TeardownInv J s' := by
  by_cases hapi : ∃ ev, e = .api ev
  · obtain ⟨ev, rfl⟩ := hapi
    obtain ⟨fleet, hstep, rfl⟩ := Option.map_eq_some_iff.mp hrun
    exact h.api hstep hok
  · have hapi : ∀ ev, e ≠ .api ev := fun ev hev => hapi ⟨ev, hev⟩
    obtain ⟨hserver, era, closesRead, hhistory⟩ := still_of_step hapi hrun
    obtain ⟨pending, hdrafted⟩ := h.drafted
    refine ⟨h.history.step hrun, ⟨pending, hserver ▸ hdrafted⟩, ?_, ?_⟩
    · rw [hhistory]
      exact h.deleted
    · intro j n g k m hrequest hera hclose
      rw [hhistory] at hrequest hera hclose
      exact (h.severed j n g k m hrequest hera hclose).step h.history hdrafted hapi hrun

/-- In a run of any requests, connections, users, work connections and failures in which requests
change rules in turn and a deletion that notifies the client finds its rule unused: wherever a deletion
is complete on both sides nothing forwards for the rule, and nothing comes to forward for it. -/
theorem trafficCut_of_deletesUnused (T : StdText) (J : DomainsJson) (client : ConnId → ClientId)
    (config : AuthConfig) (db : RuleTable) (outcomes : Stream' Bool) (events : List TrafficEvent)
    (hunused : EachStep (trafficStep T J client config) (DeletesUnused J) (quietStart J db outcomes)
      events) :
    Always (trafficStep T J client config) TrafficCut (quietStart J db outcomes) events :=
  always_of_eachStep (I := TeardownInv J) (fun _ hs => hs.trafficCut)
    (fun _ _ _ hs hok hrun => hs.step hok hrun) (teardownInv_start J db outcomes) hunused

/-! ## Runs with few tasks and connections -/

/-- The next step uses only these tasks and connections, and deletes a rule only when they have
nothing under way for it. -/
def DeletesUnusedIn (J : DomainsJson) (tasks : List ℕ) (links : List ConnId) (s : TrafficState) :
    TrafficEvent → Prop
  | .api e => InTurn J s.fleet.server e ∧ ∀ p ∈ closing s.fleet e,
      (∀ u ∈ s.users, u.proxyName ≠ p.2) ∧
      (∀ i ∈ tasks, ∀ w ∈ carries (s.tunnel.task i), s.ended i = false → w.proxyName ≠ p.2) ∧
      (∀ k ∈ links, ∀ mail ∈ (s.fleet.link k).mails, askedFor mail.msg ≠ some p.2) ∧
      ∀ t ∈ s.work, t.proxyName ≠ p.2
  | .link k _ => k ∈ links
  | .arrive i _ => i ∈ tasks
  | _ => True

instance (tasks : List ℕ) (links : List ConnId) (s : TrafficState) :
    ∀ e, Decidable (DeletesUnusedIn J tasks links s e)
  | .api _ => inferInstanceAs (Decidable (_ ∧ _))
  | .link k _ => inferInstanceAs (Decidable (k ∈ links))
  | .arrive i _ => inferInstanceAs (Decidable (i ∈ tasks))
  | .userOfListener _ _ | .userOfDomain _ _ | .notify _ | .tunnel _ | .bridgeEnds _ | .workEnds _ =>
      .isTrue trivial

/-- Other connections have no session and nothing to deliver. -/
def Unlinked (links : List ConnId) (s : FleetState) : Prop :=
  ∀ k ∉ links, (s.link k).mails = [] ∧ ∀ c, s.sessions c ≠ some k

/-- Other tasks have not started. -/
structure Confined (tasks : List ℕ) (links : List ConnId) (s : TrafficState) : Prop where
  idle : ∀ i ∉ tasks, carries (s.tunnel.task i) = none
  links : Unlinked links s.fleet

section

variable {tasks : List ℕ} {links : List ConnId}

/-- A message links nobody. -/
lemma Posted.unlinked {s s' : FleetState} {c : ClientId} {mail : Mail} (h : Posted s s' c mail)
    (hs : Unlinked links s) : Unlinked links s' := by
  intro k hk
  obtain ⟨hmails, hsession⟩ := hs k hk
  rw [h.sessions]
  obtain ⟨-, hlink⟩ | ⟨hk', -⟩ := h.link k
  · rw [hlink]
    exact ⟨hmails, hsession⟩
  · exact absurd hk' (hsession c)

/-- One of the connections changes, and may become the session of its client. -/
lemma Unlinked.setLink {s : FleetState} (hs : Unlinked links s) {j : ConnId} (hj : j ∈ links) (l : Link)
    {sessions : ClientId → Option ConnId}
    (hsessions : ∀ c k, sessions c = some k → s.sessions c = some k ∨ k = j) :
    Unlinked links (({ s with sessions } : FleetState).setLink j l) := by
  intro k hk
  have hkj : k ≠ j := by
    rintro rfl
    exact hk hj
  obtain ⟨hmails, hsession⟩ := hs k hk
  refine ⟨?_, fun c hc => ?_⟩
  · rw [FleetState.setLink_link_of_ne _ hkj]
    exact hmails
  · rcases hsessions c k hc with hc | rfl
    · exact hsession c hc
    · exact hkj rfl

/-- A step among the links keeps the others unlinked. -/
lemma Unlinked.step {s s' : FleetState} {ev : Event} (hs : Unlinked links s)
    (hmove : Move T J client s s' ev) (hlinks : ∀ k e, ev = .link k e → k ∈ links) :
    Unlinked links s' := by
  cases hmove with
  | link k e l hstep hs' =>
      rw [hs']
      exact hs.setLink (hlinks k e rfl) l fun c k hk => .inl hk
  | register k t hstage hping hs' =>
      rw [hs']
      refine (hping.unlinked hs).setLink (hlinks k _ rfl) _ fun c k' hk' => ?_
      by_cases hc : c = client k
      · subst hc
        rw [Function.update_self] at hk'
        exact .inr (Option.some.inj hk').symm
      · rw [Function.update_of_ne hc] at hk'
        exact .inl hk'
  | unregister k hstage hs' =>
      rw [hs']
      refine hs.setLink (hlinks k _ rfl) _ fun c k' hk' => ?_
      by_cases hc : c = client k
      · subst hc
        rw [Function.update_self] at hk'
        cases hk'
      · rw [Function.update_of_ne hc] at hk'
        exact .inl hk'
  | api e server hstep hnone hs' =>
      rw [hs']
      exact hs
  | announce e server c msg hstep hsome hposted => exact hposted.unlinked hs
  | user e hserver hsessions hlink =>
      intro k hk
      rw [hlink, hsessions]
      exact hs k hk
  | dial d hposted => exact hposted.unlinked hs

/-- A confined run stays confined. -/
lemma Confined.step (h : Confined tasks links s) (hok : DeletesUnusedIn J tasks links s e)
    (hrun : trafficStep T J client config s e = some s') : Confined tasks links s' := by
  have htunnel : ∀ {label : TunnelLabel} {tunnel : TunnelState},
      tunnelStep config s.tunnel label = some tunnel →
      (∀ i path n c addr, label = .arrive i path n c addr → i ∈ tasks) →
      ∀ i ∉ tasks, carries (tunnel.task i) = none := by
    intro label tunnel hstep hlabel i hi
    rw [Option.eq_none_iff_forall_ne_some]
    intro w hw
    rcases carries_of_tunnelStep hstep hw with hw | ⟨path, c, addr, harrive⟩
    · cases (h.idle i hi).symm.trans hw
    · exact hi (hlabel i path _ c addr harrive)
  cases trafficMove_of_step hrun with
  | api ev fleet hstep hs' =>
      rw [hs']
      have hmove : Move T J client s.fleet fleet (.api ev) := move_of_apiStep hstep
      exact ⟨h.idle, h.links.step hmove fun k e he => by cases he⟩
  | link k ev fleet hstep hs' =>
      rw [hs']
      have hmove : Move T J client s.fleet fleet (.link k ev) := move_of_step hstep
      refine ⟨h.idle, h.links.step hmove fun k' ev' he => ?_⟩
      cases he
      exact hok
  | arrive i u tunnel hmem hstep hs' =>
      rw [hs']
      refine ⟨htunnel hstep ?_, h.links⟩
      intro i' path n c addr hlabel
      obtain rfl := (TunnelLabel.arrive.inj hlabel).1
      exact hok
  | notify i w out tunnel hpc hsend hstep hs' =>
      rw [hs']
      refine ⟨htunnel hstep fun i path n c addr hlabel => ?_,
        (posted_of_sendTo hsend).unlinked h.links⟩
      cases hlabel
  | tunnel label tunnel halone hstep hs' =>
      rw [hs']
      refine ⟨htunnel hstep ?_, h.links⟩
      rintro i path n c addr rfl
      cases halone
  | user _ _ _ _ hs' | bridgeEnds _ _ hs' | workEnds _ hs' =>
      rw [hs']
      exact ⟨h.idle, h.links⟩

/-- In a confined run, looking at the tasks and links at hand is enough. -/
lemma Confined.deletesUnused (h : Confined tasks links s) (hok : DeletesUnusedIn J tasks links s e) :
    DeletesUnused J s e := by
  cases e with
  | api ev =>
      obtain ⟨hturn, hclosing⟩ := hok
      refine ⟨hturn, fun k n hk => ?_⟩
      obtain ⟨husers, htasks, hrequests, hwork⟩ := hclosing (k, n) hk
      refine ⟨husers, fun i w hw => ?_, fun k' mail hmail => ?_, hwork⟩
      · by_cases hi : i ∈ tasks
        · exact htasks i hi w hw.carries hw.alive
        · cases (h.idle i hi).symm.trans hw.carries
      · by_cases hk' : k' ∈ links
        · exact hrequests k' hk' mail hmail
        · rw [(h.links k' hk').1] at hmail
          cases hmail
  | link | userOfListener | userOfDomain | arrive | notify | tunnel | bridgeEnds | workEnds => trivial

/-- Whether rules are unused when they are deleted can be checked in a run with few tasks and
connections. -/
lemma deletesUnused_of_confined (tasks : List ℕ) (links : List ConnId) (db : RuleTable)
    (outcomes : Stream' Bool) {events : List TrafficEvent}
    (h : EachStep (trafficStep T J client config) (DeletesUnusedIn J tasks links)
      (quietStart J db outcomes) events) :
    EachStep (trafficStep T J client config) (DeletesUnused J) (quietStart J db outcomes) events :=
  eachStep_of_eachStep (I := Confined tasks links) (fun _ _ hs hok => hs.deletesUnused hok)
    (fun _ _ _ hs hok hrun => hs.step hok hrun)
    ⟨fun _ _ => rfl, fun _ _ => ⟨rfl, fun _ hc => by cases hc⟩⟩ h

end

/-! ## Two deletions -/

open DomainsText

/-- A client joins with rule `a`, and a user connects to its port and is bridged to the client. -/
def bridgedUser : List TrafficEvent :=
  List.flatten [
    [.link 0 (.authenticated true), .link 0 .deliver, .link 0 .register, .link 0 .listed,
      .link 0 (.pushed true), .link 0 (.pushed true), .link 0 .deliver],
    [.userOfListener ⟨0, "a", .tcp, 8080, "c"⟩ none, .arrive 0 ⟨.stream, "a", "c", none, 0⟩,
      .tunnel (.insertPending 0), .notify 0, .link 0 .recv, .link 0 (.forwarded true),
      .link 0 .deliver,
      .tunnel (.firstMessage 0
        (.control (.newWorkConnResp { proxyName := "a", connId := 1, success := true }))),
      .tunnel .register, .tunnel (.resume 0)]]

/-- The rule is deleted, and the client processes the message. -/
def deletion : List TrafficEvent :=
  List.flatten [
    [.api (.arrive (.delete "a"))], List.replicate 11 (.api (.step 0 true)),
    [.link 0 .recv, .link 0 (.forwarded true), .link 0 .deliver]]

/-- The token of the two runs. -/
def asciiConfig : AuthConfig where
  token := "secret"
  version := "1"
  isAlphanumeric := Char.isAlphanum

/-- The work connection of the user. -/
def userWork : WorkTask where
  link := 0
  proxyName := "a"
  connId := 1
  userAddr := none
  target := ⟨"127.0.0.1:22", "tcp", some ""⟩
  era := 0

/-- Before the deletion the user closes its connection, and both bridges end. -/
def deletedUnused : List TrafficEvent :=
  List.flatten [bridgedUser, [.bridgeEnds 0, .workEnds userWork], deletion]

/-- Then the deletion is complete, and nothing forwards. -/
theorem trafficCut_of_deletesUnused_sample :
    ((exec (trafficStep asciiText domainsText (fun _ => "c") asciiConfig)
      (quietStart domainsText oneRule fun _ => true) deletedUnused).map fun s =>
        (s.history.deleted 0, s.history.close 0, s.history.closesRead 0 "a")) =
      some (some 0, some (0, "a", 1), 1) ∧
    Always (trafficStep asciiText domainsText (fun _ => "c") asciiConfig) TrafficCut
      (quietStart domainsText oneRule fun _ => true) deletedUnused :=
  ⟨by decide +kernel, trafficCut_of_deletesUnused asciiText domainsText (fun _ => "c") asciiConfig
    oneRule (fun _ => true) deletedUnused
    (deletesUnused_of_confined [0] [0] oneRule (fun _ => true) (by decide +kernel))⟩

/-- The user is still connected when the rule is deleted. -/
def deletedUnderTraffic : List TrafficEvent := bridgedUser ++ deletion

/-- The bridge and the work connection still forward. -/
theorem trafficCut_bridged :
    ¬ ∀ (T : StdText) (J : DomainsJson) (client : ConnId → ClientId) (config : AuthConfig)
      (db : RuleTable) (outcomes : Stream' Bool) (events : List TrafficEvent),
      Always (trafficStep T J client config) TrafficCut (quietStart J db outcomes) events := by
  intro h
  have hrun : ((exec (trafficStep asciiText domainsText (fun _ => "c") asciiConfig)
      (quietStart domainsText oneRule fun _ => true) deletedUnderTraffic).map fun s => decide
        (s.history.requests[0]? = some (.delete "a") ∧
          answer s.fleet.server 0 = some (.unit (success ())) ∧ s.history.deleted 0 = some 0 ∧
          s.history.close 0 = some (0, "a", 1) ∧ s.history.closesRead 0 "a" = 1 ∧
          ∃ t ∈ s.work, t.proxyName = "a" ∧ t.era ≤ 0)) = some true := by decide +kernel
  obtain ⟨s, hexec, hs⟩ := Option.map_eq_some_iff.mp hrun
  obtain ⟨hrequest, hanswer, hdeleted, hclose, hread, hwork⟩ := of_decide_eq_true hs
  have hcut := (h asciiText domainsText (fun _ => "c") asciiConfig oneRule (fun _ => true)
    deletedUnderTraffic).last hexec
  exact hcut 0 "a" 0 ⟨⟨hrequest, hanswer, hdeleted⟩, 0, 1, hclose, hread.ge⟩ (.inr hwork)

end RustProxy.Fleet
