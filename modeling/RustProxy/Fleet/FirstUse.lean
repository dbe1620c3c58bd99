import RustProxy.Fleet.Completeness

/-!
# Assignments and the first use of a rule

The request handler, the listeners and the pushes of a new session all send to the client of a rule.

* `create_proxy` and `update_proxy` start the listener or the route of a rule before they notify its
  client; `dialled_before_assigned` is a run in which a user's connection comes first and is given up.
* `Orderly` are the steps without such an overtaking, and `assigned_first` is what holds in their
  runs: whenever a client is asked for a work connection for a rule, it has been assigned the
  version that was stored when it was asked.
-/

namespace RustProxy.Fleet

open RustProxy.Core RustProxy.Proto RustProxy.Control RustProxy.Client Transition
open RustProxy.Server (ClientId ConnId)

/-- Where a work connection for a rule is opened to. -/
def targetOf (rule : ProxyRule) : WorkTarget where
  localAddr := localAddr rule.localIp rule.localPort
  proxyType := rule.proxyType.asStr
  proxyProtocol := some rule.proxyProtocol

/-- The client has been assigned the version of the rule that was stored when the request was handed
over, and opens the work connection to the local service of this version. -/
def ServedAsStored (m : ProxyWorkerManager) (mail : Mail) : Prop :=
  match mail.msg, mail.stored with
  | .newWorkConn req, some rule =>
      m.entry req.proxyName = assignedEntry rule ∧ m.workTarget req.proxyName = some (targetOf rule)
  | _, _ => True

instance (m : ProxyWorkerManager) : ∀ mail, Decidable (ServedAsStored m mail)
  | ⟨.newWorkConn req, some rule⟩ =>
      inferInstanceAs (Decidable (m.entry req.proxyName = assignedEntry rule ∧
      m.workTarget req.proxyName = some (targetOf rule)))
  | ⟨.newWorkConn _, none⟩ | ⟨.auth _, _⟩ | ⟨.authResp _, _⟩ | ⟨.serverAssignProxy _, _⟩
  | ⟨.serverCloseProxy _, _⟩ | ⟨.newWorkConnResp _, _⟩ | ⟨.ping, _⟩ | ⟨.pong, _⟩ => .isTrue trivial

/-- The message that a client takes from its connection is served as stored. -/
def AssignedFirst (s : FleetState) : Event → Prop
  | .link k .deliver => (s.link k).client.pc = .running →
      ∀ mail ∈ (s.link k).wire.head?, ServedAsStored (s.link k).client.rules mail
  | _ => True

instance (s : FleetState) : ∀ e, Decidable (AssignedFirst s e)
  | .link k .deliver => inferInstanceAs (Decidable ((s.link k).client.pc = .running →
      ∀ mail ∈ (s.link k).wire.head?, ServedAsStored (s.link k).client.rules mail))
  | .link _ (.authenticated _) | .link _ .register | .link _ .listed | .link _ (.pushed _)
  | .link _ .recv | .link _ (.forwarded _) | .link _ .ponged | .link _ .leave | .link _ .unregister
  | .link _ .closed | .link _ .stop | .api _ | .userOfListener _ _ | .userOfDomain _ _ | .dial _ =>
      .isTrue trivial

/-- A handler that is still to list its rules has a request for this rule in its channel. -/
def Link.Dialled (l : Link) (n : String) : Prop :=
  l.Live ∧ l.stage = .listing ∧ ∃ mail ∈ l.queue, mail.Asks n

/-- A statement that succeeds changes a rule in turn, and what clients learn of it only if no client
is asked for it that is still to be sent its first rules.  A client is asked only for rules of its
own; and, unless it is still to be sent the rule, not between a change of what it learns and the
announcement. -/
def Orderly (J : DomainsJson) (s : FleetState) : Event → Prop
  | .api e => InTurn J s.server e ∧
      (reports e true → ∀ target ∈ nextOf (Op.stores J) s.server e,
        target.2.map service ≠ (s.server.state.stored J target.1).map service →
          ∀ k, ¬ (s.link k).Dialled target.1)
  | .dial d => ∀ rule ∈ s.server.state.stored J d.proxyName, ∀ k ∈ s.sessions d.clientId,
      (s.link k).Live → rule.clientId = d.clientId ∧
        ((s.link k).Unseen d.proxyName ∨ ∀ t ∈ s.server.tasks,
          t.ghost.applying = some d.proxyName → t.ghost.seen.map service = some (service rule))
  | _ => True

section

variable {T : StdText} {J : DomainsJson} {client : ConnId → ClientId} {s s' : FleetState}
  {pending : String → Option Change} {e : Event} {c : ClientId} {mail : Mail}

/-- A work connection of an assigned rule goes where the rule says. -/
lemma workTarget_of_assignedEntry {m : ProxyWorkerManager} {rule : ProxyRule} {n : String}
    (h : m.entry n = assignedEntry rule) : m.workTarget n = some (targetOf rule) := by
  have hassigned : m.entry n = .assigned
      { name := rule.name
        proxyType := rule.proxyType.asStr
        localIp := rule.localIp
        localPort := rule.localPort
        remotePort := rule.remotePort
        customDomains := rule.customDomains
        proxyProtocol := rule.proxyProtocol } := h
  exact workTarget_of_assigned hassigned

/-- What is served is served as stored. -/
lemma servedAsStored_of_served {m : ProxyWorkerManager} (h : Served m mail) :
    ServedAsStored m mail := by
  unfold Served at h
  unfold ServedAsStored
  split
  case h_1 req rule hmsg hstored =>
      rw [hmsg, hstored] at h
      exact ⟨h, workTarget_of_assignedEntry h⟩
  case h_2 => trivial

/-- All messages that are still to be read will be served. -/
def AllServed (J : DomainsJson) (client : ConnId → ClientId) (s : FleetState) : Prop :=
  ∀ k, (s.link k).AllServed (rulesOf J client s k)

/-- A message that is posted is served by everybody if its reader serves it. -/
lemma AllServed.posted (h : AllServed J client s) (hposted : Posted s s' c mail)
    (hmail : ∀ k, s.sessions c = some k → (s.link k).Live →
      Served ((s.link k).eventual (rulesOf J client s k)) mail) : AllServed J client s' := by
  intro k
  rw [rulesOf_congr hposted.server]
  obtain ⟨-, hk⟩ | ⟨hsession, hk⟩ := hposted.link k
  · rw [hk]
    exact h k
  · rw [hk]
    exact (h k).enqueue (hmail k hsession)

/-- One link is replaced. -/
lemma AllServed.setLink (h : AllServed J client s) (k : ConnId) {l : Link}
    (hl : l.AllServed (rulesOf J client s k)) : AllServed J client (s.setLink k l) := by
  intro j
  rw [rulesOf_congr (s.setLink_server k l)]
  by_cases hjk : j = k
  · subst hjk
    rw [s.setLink_link_self]
    exact hl
  · rw [s.setLink_link_of_ne hjk]
    exact h j

/-- Snapshots of versions that clients cannot tell apart. -/
lemma entry_snapshot_congr {p p' : ControlState} {m : ProxyWorkerManager} {n : String}
    (h : (p'.stored J n).map service = (p.stored J n).map service) :
    (replay onMail m ((listProxiesByClient J p.rules c).map assign)).entry n =
      (replay onMail m ((listProxiesByClient J p'.rules c).map assign)).entry n := by
  rw [entry_snapshot, entry_snapshot]
  cases hold : p.stored J n with
  | none =>
      rw [hold] at h
      rw [Option.map_eq_none_iff.mp h]
  | some old =>
      rw [hold] at h
      obtain ⟨new, hnew, hservice⟩ := Option.map_eq_some_iff.mp h
      obtain ⟨howner, hentry⟩ := Prod.mk.inj hservice
      rw [hnew]
      dsimp only
      rw [howner, hentry]

/-- A change of the stored rules for which nobody is asked before the first pushes. -/
lemma AllServed.server (h : AllServed J client s) {server : Control.Server}
    (hdialled : ∀ n, (server.state.stored J n).map service ≠
      (s.server.state.stored J n).map service → ∀ k, ¬ (s.link k).Dialled n) :
    AllServed J client { s with server } := by
  refine fun k => (h k).of_snapshot fun mail hmail n hasks hlive hstage m => ?_
  refine entry_snapshot_congr ?_
  by_contra hne
  exact hdialled n hne k ⟨hlive, hstage, mail, hmail, hasks⟩

/-- A request for a rule that is announced to its client is served. -/
lemma served_dial (h : Mirror J client pending s) {d : Dial} (horderly : Orderly J s (.dial d))
    {k : ConnId} (hsession : s.sessions d.clientId = some k) (hlive : (s.link k).Live) :
    Served ((s.link k).eventual (rulesOf J client s k))
      (d.mail (s.server.state.stored J d.proxyName)) := by
  obtain ⟨hclient, -⟩ := h.linked.owner d.clientId k hsession
  cases hstored : s.server.state.stored J d.proxyName with
  | none => trivial
  | some rule =>
      obtain ⟨howner, hannounced⟩ := horderly rule hstored k hsession hlive
      have howner' : rule.clientId = client k := howner.trans hclient.symm
      show outlook J client s k d.proxyName = assignedEntry rule
      rcases hannounced with hunseen | happlying
      · -- the snapshot is still to be taken
        obtain ⟨hstage, hqueue⟩ := hunseen hlive
        rw [outlook_of_queue h.linked hlive hstage hqueue, snapshot, hstored]
        exact if_pos howner'
      · refine h.complete k ⟨?_, hlive⟩ d.proxyName rule ?_ hstored howner'
        · rw [hclient]
          exact hsession
        · intro ch hch
          obtain ⟨t, ht, hheld, hseen⟩ := h.drafted.seen_of_pending hch
          rw [← hseen]
          exact happlying t ht hheld

/-- Orderly steps keep all messages served. -/
lemma AllServed.step (h : AllServed J client s) (hmirror : Mirror J client pending s)
    (horderly : Orderly J s e) (hstep : fleetStep T J client s e = some s') :
    AllServed J client s' := by
  have hserver (ev : ServerEvent) (server : Control.Server) (he : e = .api ev)
      (hserver : serverStep T J s.server ev = some server) : AllServed J client { s with server } := by
    subst he
    refine h.server fun n hne k => ?_
    have hchanged : server.state.stored J n ≠ s.server.state.stored J n :=
      fun heq => hne (congrArg (Option.map service) heq)
    obtain ⟨hstores, hreports⟩ := stores_of_step hserver hchanged
    exact horderly.2 hreports _ hstores hne k
  cases move_of_step hstep with
  | link k le l hlink hs' =>
      rw [hs']
      exact h.setLink k ((Link.moves_step hlink).allServed (h k))
  | register k t hstage hping hs' =>
      have ht := h.posted hping fun k _ _ => served_plain _ _
      have hstage' := (hping.stage k).trans hstage
      have hqueue := ((hping.linked hmirror.linked).sane k).queue fun hborn => hborn.2 hstage'
      rw [hs']
      exact ht.setLink k ((ht k).listing hstage' hqueue)
  | unregister k hstage hs' =>
      rw [hs']
      exact h.setLink k ((h k).closing hstage)
  | api ev server hserverStep hnone hs' =>
      rw [hs']
      exact hserver ev server rfl hserverStep
  | announce ev server c msg hserverStep hsome hposted =>
      exact (hserver ev server rfl hserverStep).posted hposted fun k _ _ => served_plain _ _
  | user _ hsame hsessions hlink =>
      intro k
      rw [rulesOf_congr hsame, hlink]
      exact h k
  | dial d hposted =>
      exact h.posted hposted fun k hsession hlive => served_dial hmirror horderly hsession hlive

/-- In every run of orderly steps, whenever a client takes the request for a work connection from
its connection, it has been assigned the version of the rule that was stored when the request was
handed to its session, and opens the connection to the local service of that version. -/
theorem assigned_first (T : StdText) (J : DomainsJson) (client : ConnId → ClientId) (db : RuleTable)
    (outcomes : Stream' Bool) (connIdCounter : UInt64) (events : List Event)
    (horderly : EachStep (fleetStep T J client) (Orderly J) (opening J db outcomes connIdCounter)
      events) :
    EachStep (fleetStep T J client) AssignedFirst (opening J db outcomes connIdCounter) events := by
  refine eachStep_of_eachStep
    (I := fun s => AllServed J client s ∧ ∃ pending, Mirror J client pending s) ?_ ?_
    ⟨?_, _, mirror_opening J client db outcomes connIdCounter⟩ horderly
  · rintro s e ⟨hserved, -⟩ -
    unfold AssignedFirst
    split
    case h_1 k =>
        intro hpc mail hmail
        have hreading : (s.link k).client.pc ≠ .stopped := by
          rw [hpc]
          exact ClientPc.noConfusion
        exact servedAsStored_of_served ((hserved k).head hreading hmail)
    case h_2 => trivial
  · rintro s e s' ⟨hserved, pending, hmirror⟩ horderly hstep
    have hturn : ∀ ev, e = .api ev → InTurn J s.server ev := by
      rintro ev rfl
      exact horderly.1
    obtain ⟨pending', hmirror', -⟩ := hmirror.step hturn hstep
    exact ⟨hserved.step hmirror horderly hstep, pending', hmirror'⟩
  · exact fun k => trivial

end

open DomainsText

/-- No statement changes what clients learn of a rule. -/
def Steady (J : DomainsJson) (s : FleetState) : Event → Prop
  | .api e => InTurn J s.server e ∧ ∀ target ∈ nextOf (Op.stores J) s.server e,
      target.2.map service = (s.server.state.stored J target.1).map service
  | e => Orderly J s e

/-- A steady step is an orderly one. -/
lemma orderly_of_steady {J : DomainsJson} {s : FleetState} {e : Event} (h : Steady J s e) :
    Orderly J s e := by
  cases e with
  | api e => exact ⟨h.1, fun _ target htarget hne => absurd (h.2 target htarget) hne⟩
  | link | userOfListener | userOfDomain | dial => exact h

instance (J : DomainsJson) (s : FleetState) : ∀ e, Decidable (Steady J s e)
  | .api e => inferInstanceAs (Decidable (InTurn J s.server e ∧
      ∀ target ∈ nextOf (Op.stores J) s.server e,
        target.2.map service = (s.server.state.stored J target.1).map service))
  | .dial d => inferInstanceAs (Decidable (∀ rule ∈ s.server.state.stored J d.proxyName,
      ∀ k ∈ s.sessions d.clientId, (s.link k).Live → rule.clientId = d.clientId ∧
        ((s.link k).Unseen d.proxyName ∨ ∀ t ∈ s.server.tasks,
          t.ghost.applying = some d.proxyName → t.ghost.seen.map service = some (service rule))))
  | .link _ _ | .userOfListener _ _ | .userOfDomain _ _ => .isTrue trivial

/-- A user connects to the port that an update has given a rule, before the update is announced. -/
def newPortRun : List Event :=
  List.flatten [
    joins 0 1, [.api (.arrive (.update "a" (movePort 8081)))], acts 10,
    [.userOfListener ⟨1, "a", .tcp, 8081, "c"⟩ (some "192.0.2.1:40000"),
      .dial ⟨"a", "c", 1, some "192.0.2.1:40000"⟩, .link 0 .recv, .link 0 (.forwarded true),
      .link 0 .deliver]]

/-- The local service of the rule is the same, and the client knows it. -/
theorem assigned_first_newPortRun :
    (exec (fleetStep asciiText domainsText fun _ => "c")
        (opening domainsText oneRule (fun _ => true) 1) newPortRun).isSome ∧
      EachStep (fleetStep asciiText domainsText fun _ => "c") AssignedFirst
        (opening domainsText oneRule (fun _ => true) 1) newPortRun :=
  ⟨by decide +kernel, assigned_first asciiText domainsText (fun _ => "c") oneRule (fun _ => true) 1
    newPortRun (.imp (fun _ _ => orderly_of_steady)
      (by decide +kernel : EachStep (fleetStep asciiText domainsText fun _ => "c")
        (Steady domainsText) (opening domainsText oneRule (fun _ => true) 1) newPortRun))⟩

/-! ## A user who is faster than the announcement -/

/-- Client `c` is connected and rule `b` is created for it; the domain is routed, and a user asks
for it before the client is notified. -/
def overtakingRun : List Event :=
  List.flatten [
    joins 0 1, [.api (.arrive (.create createB))], acts 6,
    [.userOfDomain "b.example" (some "192.0.2.1:40000"),
      .dial ⟨"b", "c", 1, some "192.0.2.1:40000"⟩, .link 0 .recv, .link 0 (.forwarded true)]]

/-- The client reads the request first, has no local address for the rule and gives the connection
up. -/
theorem dialled_before_assigned :
    ∃ s, exec (fleetStep asciiText domainsText fun _ => "c")
        (opening domainsText oneRule (fun _ => true) 1) overtakingRun = some s ∧
      (fleetStep asciiText domainsText (fun _ => "c") s (.link 0 .deliver)).isSome ∧
      ¬ AssignedFirst s (.link 0 .deliver) ∧
      s.server.state.stored domainsText "b" = some (createB.rule .http) ∧
      (s.link 0).client.rules.workTarget "b" = none := by
  have hrun : ((exec (fleetStep asciiText domainsText fun _ => "c")
      (opening domainsText oneRule (fun _ => true) 1) overtakingRun).map fun s =>
        ((fleetStep asciiText domainsText (fun _ => "c") s (.link 0 .deliver)).isSome,
          decide (AssignedFirst s (.link 0 .deliver)), s.server.state.stored domainsText "b",
          (s.link 0).client.rules.workTarget "b")) =
      some (true, false, some (createB.rule .http), none) := by decide +kernel
  obtain ⟨s, hexec, hs⟩ := Option.map_eq_some_iff.mp hrun
  simp only [Prod.mk.injEq, decide_eq_false_iff_not] at hs
  exact ⟨s, hexec, hs⟩

end RustProxy.Fleet
