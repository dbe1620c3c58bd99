import RustProxy.Fleet.Coming

/-!
# The clients' rules and the stored rules

What a step of the server and its clients does to the rules that the clients will have.

* `Linked` says that the session of a client is a connection of its own that has been registered.
* `Online` is a registered connection that lives, and `outlook` what its client will have under a name
  when it has read everything.
* `Turn` is what a step does to the outlooks: a step that is not an action of a request changes none
  of them, except that a session that has just been registered has that of the snapshot it will
  take; an action of a request tells at most one client.
-/

namespace RustProxy.Fleet

open RustProxy.Core RustProxy.Proto RustProxy.Control RustProxy.Client
open RustProxy.Server (ClientId ConnId channelCapacity)

/-- A message has been handed to the session of a client, if it has one that takes it. -/
structure Posted (s s' : FleetState) (c : ClientId) (mail : Mail) : Prop where
  server : s'.server = s.server
  sessions : s'.sessions = s.sessions
  link : ∀ k, (¬ (s.sessions c = some k ∧ (s.link k).Live) ∧ s'.link k = s.link k) ∨
    (s.sessions c = some k ∧ s'.link k = (s.link k).enqueue mail)

/-- A message to nobody is lost. -/
lemma posted_nobody {s s' : FleetState} {c : ClientId} {mail : Mail} (hserver : s'.server = s.server)
    (hsessions : s'.sessions = s.sessions) (hlink : s'.link = s.link)
    (h : ∀ k, s.sessions c = some k → ¬ (s.link k).Live) : Posted s s' c mail where
  server := hserver
  sessions := hsessions
  link := fun k => .inl ⟨fun hk => h k hk.1 hk.2, congrFun hlink k⟩

/-- A message that is sent to a session is posted. -/
lemma posted_of_send {s : FleetState} {c : ClientId} {k : ConnId} {mail : Mail} {out : Bool × FleetState}
    (hk : s.sessions c = some k) (h : send s k mail = some out) : Posted s out.2 c mail := by
  unfold send at h
  split at h
  case isTrue hfinished =>
      cases h
      refine posted_nobody rfl rfl rfl fun j hj hlive => ?_
      cases hk.symm.trans hj
      have hstage := hlive.2
      rw [hfinished] at hstage
      exact hstage
  case isFalse =>
      split at h
      · cases h
        refine ⟨rfl, rfl, fun j => ?_⟩
        by_cases hjk : j = k
        · subst hjk
          exact .inr ⟨hk, s.setLink_link_self j _⟩
        · refine .inl ⟨fun hj => hjk ?_, s.setLink_link_of_ne hjk _⟩
          exact Option.some.inj (hj.1.symm.trans hk)
      · cases h

/-- A message that is sent to a client is posted. -/
lemma posted_of_sendTo {s : FleetState} {c : ClientId} {mail : Mail} {out : Bool × FleetState}
    (h : sendTo s c mail = some out) : Posted s out.2 c mail := by
  rw [sendTo] at h
  split at h
  case h_1 k hk => exact posted_of_send hk h
  case h_2 hnone =>
      cases h
      refine posted_nobody rfl rfl rfl fun k hk => ?_
      cases hnone.symm.trans hk

/-- What a step does, by what it does to the connections. -/
inductive Move (T : StdText) (J : DomainsJson) (client : ConnId → ClientId) (s s' : FleetState) :
    Event → Prop
  | link (k : ConnId) (e : LinkEvent) (l : Link)
      (hstep : (s.link k).step (listProxiesByClient J s.server.state.rules (client k)) e = some l)
      (hs' : s' = s.setLink k l) : Move T J client s s' (.link k e)
  | register (k : ConnId) (t : FleetState) (hstage : (s.link k).stage = .registering)
      (hping : Posted s t (client k) (.plain .ping)) (hs' : s' = insertSession t (client k) k) :
      Move T J client s s' (.link k .register)
  | unregister (k : ConnId) (hstage : (s.link k).stage = .unregistering)
      (hs' : s' = unregister s (client k) k) : Move T J client s s' (.link k .unregister)
  | api (e : ServerEvent) (server : Control.Server) (hstep : serverStep T J s.server e = some server)
      (hnone : nextNotification s.server e = none) (hs' : s' = { s with server }) :
      Move T J client s s' (.api e)
  | announce (e : ServerEvent) (server : Control.Server) (c : ClientId) (msg : ControlMessage)
      (hstep : serverStep T J s.server e = some server)
      (hsome : nextNotification s.server e = some (c, msg))
      (hposted : Posted { s with server } s' c (.plain msg)) : Move T J client s s' (.api e)
  | user (e : Event) (hserver : s'.server = s.server) (hsessions : s'.sessions = s.sessions)
      (hlink : s'.link = s.link) : Move T J client s s' e
  | dial (d : Dial)
      (hposted : Posted s s' d.clientId (d.mail (s.server.state.stored J d.proxyName))) :
      Move T J client s s' (.dial d)

section

variable {T : StdText} {J : DomainsJson} {client : ConnId → ClientId} {s s' : FleetState} {e : Event}

/-- What registering does. -/
lemma move_of_register {k : ConnId} (hstage : (s.link k).stage = .registering)
    (h : register s (client k) k = some s') : Move T J client s s' (.link k .register) := by
  rw [register] at h
  split at h
  case h_1 old hold =>
      obtain ⟨out, hout, rfl⟩ := Option.map_eq_some_iff.mp h
      exact .register k out.2 hstage (posted_of_send hold hout) rfl
  case h_2 hnone =>
      cases h
      refine .register k s hstage (posted_nobody rfl rfl rfl fun j hj => ?_) rfl
      cases hnone.symm.trans hj

/-- What a step of the server does. -/
lemma move_of_apiStep {e : ServerEvent} (h : apiStep T J s e = some s') :
    Move T J client s s' (.api e) := by
  obtain ⟨server, hstep, h⟩ := Option.bind_eq_some_iff.mp h
  split at h
  case h_1 hnone =>
      cases h
      exact .api e server hstep hnone rfl
  case h_2 c msg hsome =>
      obtain ⟨out, hout, h⟩ := Option.bind_eq_some_iff.mp h
      rw [Option.ite_none_right_eq_some, Option.some.injEq] at h
      obtain ⟨-, rfl⟩ := h
      have hposted := posted_of_sendTo hout
      exact .announce e server c msg hstep hsome ⟨rfl, hposted.sessions, hposted.link⟩

/-- What a step can be. -/
theorem move_of_step (h : fleetStep T J client s e = some s') : Move T J client s s' e := by
  cases e with
  | api e => exact move_of_apiStep h
  | link k e =>
      rcases linkStep_cases h with ⟨l, hl, hs'⟩ | ⟨rfl, hstage, hregister⟩ | ⟨rfl, hstage, hs'⟩
      · exact .link k e l hl hs'
      · exact move_of_register hstage hregister
      · exact .unregister k hstage hs'
  | userOfListener task userAddr =>
      rw [fleetStep, Option.ite_none_right_eq_some, Option.some.injEq] at h
      obtain ⟨-, rfl⟩ := h
      exact .user _ rfl rfl rfl
  | userOfDomain domain userAddr =>
      rw [fleetStep] at h
      split at h
      · cases h
        exact .user _ rfl rfl rfl
      · cases h
  | dial d =>
      rw [fleetStep, Fleet.dial, Option.ite_none_right_eq_some] at h
      obtain ⟨out, hout, rfl⟩ := Option.map_eq_some_iff.mp h.2
      have hposted := posted_of_sendTo hout
      exact .dial d ⟨hposted.server, hposted.sessions, hposted.link⟩

end

/-! ## Sessions -/

/-- Sessions belong to connections of their client whose handlers have registered them. -/
structure Linked (client : ConnId → ClientId) (s : FleetState) : Prop where
  owner : ∀ c k, s.sessions c = some k → client k = c ∧ (s.link k).Born
  sane : ∀ k, (s.link k).Sane

section

variable {T : StdText} {J : DomainsJson} {client : ConnId → ClientId} {s s' : FleetState} {e : Event}
  {c : ClientId} {mail : Mail}

/-- At the opening nobody is linked. -/
lemma linked_opening (client : ConnId → ClientId) (J : DomainsJson) (db : RuleTable)
    (outcomes : Stream' Bool) (connIdCounter : UInt64) :
    Linked client (opening J db outcomes connIdCounter) where
  owner := fun c k h => by cases h
  sane := fun _ => Link.sane_start

/-- A message on a sane link leaves it sane. -/
lemma Link.Sane.enqueue {l : Link} (h : l.Sane) (hborn : l.Born) : (l.enqueue mail).Sane where
  queue := fun hunborn => absurd hborn hunborn
  blank := fun hearly => ⟨(h.blank hearly).rules, (h.blank hearly).wire⟩

/-- Handing a message over leaves a connection where it is. -/
lemma Posted.stage (h : Posted s s' c mail) (k : ConnId) : (s'.link k).stage = (s.link k).stage := by
  obtain ⟨-, hk⟩ | ⟨-, hk⟩ := h.link k
  · rw [hk]
  · rw [hk]
    rfl

/-- A message that is posted leaves the sessions linked. -/
lemma Posted.linked (h : Posted s s' c mail) (hs : Linked client s) : Linked client s' where
  owner := fun c' k hk => by
    rw [h.sessions] at hk
    obtain ⟨hclient, hborn⟩ := hs.owner c' k hk
    refine ⟨hclient, ?_⟩
    rw [Link.Born, h.stage]
    exact hborn
  sane := fun k => by
    obtain ⟨-, hk⟩ | ⟨hsession, hk⟩ := h.link k
    · rw [hk]
      exact hs.sane k
    · rw [hk]
      exact (hs.sane k).enqueue (hs.owner c k hsession).2

/-- A connection changes and keeps what is said of its session. -/
lemma Linked.setLink (k : ConnId) {l : Link} (hs : Linked client s) (hsane : l.Sane)
    (hborn : (s.link k).Born → l.Born) : Linked client (s.setLink k l) where
  owner := fun c j hj => by
    obtain ⟨hclient, hbefore⟩ := hs.owner c j hj
    refine ⟨hclient, ?_⟩
    by_cases hjk : j = k
    · subst hjk
      rw [s.setLink_link_self]
      exact hborn hbefore
    · rw [s.setLink_link_of_ne hjk]
      exact hbefore
  sane := fun j => by
    by_cases hjk : j = k
    · subst hjk
      rw [s.setLink_link_self]
      exact hsane
    · rw [s.setLink_link_of_ne hjk]
      exact hs.sane j

/-- A handler that registers goes on to list its rules. -/
lemma Link.Sane.listing {l : Link} (h : l.Sane) (hstage : l.stage = .registering) :
    ({ l with stage := .listing } : Link).Sane where
  queue := fun hunborn => absurd ⟨Stage.noConfusion, Stage.noConfusion⟩ hunborn
  blank := fun _ => by
    have hblank := h.blank (.inl fun hborn => hborn.2 hstage)
    exact ⟨hblank.rules, hblank.wire⟩

/-- The session that is registered is the client's own. -/
lemma Linked.insertSession {k : ConnId} (hs : Linked client s)
    (hstage : (s.link k).stage = .registering) : Linked client (insertSession s (client k) k) := by
  have hborn : ({ s.link k with stage := .listing } : Link).Born :=
    ⟨Stage.noConfusion, Stage.noConfusion⟩
  have hset := Linked.setLink k hs ((hs.sane k).listing hstage) fun _ => hborn
  refine ⟨fun c j hj => ?_, hset.sane⟩
  have hj' : Function.update s.sessions (client k) (some k) c = some j := hj
  by_cases hc : c = client k
  · subst hc
    rw [Function.update_self] at hj'
    obtain rfl : k = j := Option.some.inj hj'
    refine ⟨rfl, ?_⟩
    rw [Fleet.insertSession, FleetState.setLink_link_self]
    exact hborn
  · rw [Function.update_of_ne hc] at hj'
    exact hset.owner c j hj'

/-- A session that is unregistered is gone. -/
lemma Linked.unregister {k : ConnId} (hs : Linked client s) :
    Linked client (unregister s (client k) k) := by
  have hborn : ({ s.link k with stage := .closing } : Link).Born :=
    ⟨Stage.noConfusion, Stage.noConfusion⟩
  have hset := Linked.setLink k hs (.of_later hborn Stage.noConfusion) fun _ => hborn
  refine ⟨fun c j hj => ?_, hset.sane⟩
  have hj' : Function.update s.sessions (client k) none c = some j := hj
  by_cases hc : c = client k
  · subst hc
    rw [Function.update_self] at hj'
    cases hj'
  · rw [Function.update_of_ne hc] at hj'
    exact hset.owner c j hj'

/-- Being linked depends on the sessions and the links only. -/
lemma Linked.of_same (hs : Linked client s) (hsessions : s'.sessions = s.sessions)
    (hlink : s'.link = s.link) : Linked client s' where
  owner := by
    rw [hsessions, hlink]
    exact hs.owner
  sane := by
    rw [hlink]
    exact hs.sane

/-- Every step keeps the sessions with their connections. -/
theorem Linked.step (hs : Linked client s) (h : fleetStep T J client s e = some s') :
    Linked client s' := by
  cases move_of_step h with
  | link k e l hstep hs' =>
      rw [hs']
      exact Linked.setLink k hs (Link.sane_step hstep (hs.sane k)) (Link.born_step hstep)
  | register k t hstage hping hs' =>
      rw [hs']
      exact (hping.linked hs).insertSession ((hping.stage k).trans hstage)
  | unregister k hstage hs' =>
      rw [hs']
      exact hs.unregister
  | api e server hstep hnone hs' => exact hs.of_same (hs' ▸ rfl) (hs' ▸ rfl)
  | announce e server c msg hstep hsome hposted => exact hposted.linked (hs.of_same rfl rfl)
  | user _ hserver hsessions hlink => exact hs.of_same hsessions hlink
  | dial d hposted => exact hposted.linked hs

end

/-! ## Outlooks -/

/-- The rules that a snapshot would find now. -/
def rulesOf (J : DomainsJson) (client : ConnId → ClientId) (s : FleetState) (k : ConnId) :
    List ProxyRule := listProxiesByClient J s.server.state.rules (client k)

/-- What the client of a connection will have under a name. -/
def outlook (J : DomainsJson) (client : ConnId → ClientId) (s : FleetState) (k : ConnId) (n : String) :
    Entry := ((s.link k).eventual (rulesOf J client s k)).entry n

/-- The connection is that of its client's session, and lives. -/
def Online (client : ConnId → ClientId) (s : FleetState) (k : ConnId) : Prop :=
  s.sessions (client k) = some k ∧ (s.link k).Live

/-- What the pushes of a snapshot leave with a client that has no rules. -/
def snapshot (stored : String → Option ProxyRule) (c : ClientId) (n : String) : Entry :=
  match stored n with
  | some rule => if rule.clientId = c then assignedEntry rule else .absent
  | none => .absent

/-- What a notification leaves with a client. -/
def told (sent : Option (String × ControlMessage)) (c : ClientId) (n : String) (e : Entry) : Entry :=
  match sent with
  | some (c', msg) => if c' = c then effect msg n e else e
  | none => e

/-- What a step does to the outlooks of those who are online after it. -/
inductive Turn (T : StdText) (J : DomainsJson) (client : ConnId → ClientId) (s s' : FleetState) :
    Event → Prop
  | quiet (e : Event) (hserver : s'.server = s.server)
      (hsees : ∀ k, Online client s' k →
        (∀ n, outlook J client s' k n = snapshot (s.server.state.stored J) (client k) n) ∨
          (Online client s k ∧ ∀ n, outlook J client s' k n = outlook J client s k n)) :
      Turn T J client s s' e
  | api (e : ServerEvent) (hstep : serverStep T J s.server e = some s'.server)
      (hsees : ∀ k, Online client s' k → Online client s k ∧ ∀ n, outlook J client s' k n =
        told (nextNotification s.server e) (client k) n
          (outlook J client { s with server := s'.server } k n)) : Turn T J client s s' (.api e)

section

variable {T : StdText} {J : DomainsJson} {client : ConnId → ClientId} {s s' : FleetState} {e : Event}
  {c : ClientId} {mail : Mail} {k : ConnId}

/-- The rules of a client depend on the server only. -/
lemma rulesOf_congr (h : s'.server = s.server) (k : ConnId) :
    rulesOf J client s' k = rulesOf J client s k := by
  rw [rulesOf, rulesOf, h]

/-- A message brings nobody online. -/
lemma Posted.online (h : Posted s s' c mail) (hk : Online client s' k) : Online client s k := by
  obtain ⟨hsession, hlive⟩ := hk
  rw [h.sessions] at hsession
  refine ⟨hsession, ?_⟩
  obtain ⟨-, hlink⟩ | ⟨-, hlink⟩ := h.link k
  · rwa [hlink] at hlive
  · rw [hlink] at hlive
    exact hlive

/-- A client that is online is told what is sent to it. -/
lemma Posted.outlook (h : Posted s s' c mail) (hs : Linked client s) (hk : Online client s k)
    (n : String) : outlook J client s' k n = told (some (c, mail.msg)) (client k) n
      (outlook J client s k n) := by
  rw [Fleet.outlook, Fleet.outlook, told, rulesOf_congr h.server]
  obtain ⟨hnot, hlink⟩ | ⟨hsession, hlink⟩ := h.link k
  · rw [hlink, if_neg]
    rintro rfl
    exact hnot hk
  · rw [hlink, if_pos (hs.owner c k hsession).1.symm]
    exact Link.entry_eventual_enqueue hk.2 n

/-- A message that is about no rule changes no outlook. -/
lemma told_of_neutral (h : mail.Neutral) (n : String) (e : Entry) :
    told (some (c, mail.msg)) (client k) n e = e := by
  rw [told]
  split
  · refine effect_of_ruleName_ne ?_ e
    rw [h]
    exact Option.some_ne_none n |>.symm
  · rfl

/-- A neutral message is a turn that changes nothing. -/
lemma turn_of_posted (h : Posted s s' c mail) (hs : Linked client s) (hneutral : mail.Neutral) :
    Turn T J client s s' e := by
  refine .quiet e h.server fun k hk => .inr ⟨h.online hk, fun n => ?_⟩
  rw [h.outlook hs (h.online hk), told_of_neutral hneutral]

/-- A step of a link is a turn. -/
lemma turn_of_link {l : Link} {le : LinkEvent}
    (hstep : (s.link k).step (rulesOf J client s k) le = some l) :
    Turn T J client s (s.setLink k l) e := by
  refine .quiet e rfl fun j hj => .inr ?_
  by_cases hjk : j = k
  · subst hjk
    have hlive := hj.2
    rw [s.setLink_link_self] at hlive
    obtain ⟨hlive', heventual⟩ := (Link.moves_step hstep).eventual hlive
    refine ⟨⟨hj.1, hlive'⟩, fun n => ?_⟩
    rw [outlook, outlook, rulesOf_congr (s.setLink_server j l), s.setLink_link_self, heventual]
  · have hlive := hj.2
    rw [s.setLink_link_of_ne hjk] at hlive
    refine ⟨⟨hj.1, hlive⟩, fun n => ?_⟩
    rw [outlook, outlook, rulesOf_congr (s.setLink_server k l), s.setLink_link_of_ne hjk]

/-- A handler that registers has an empty channel, and its client no rules. -/
lemma outlook_insertSession (hs : Linked client s) (hstage : (s.link k).stage = .registering)
    (hpc : (s.link k).client.pc ≠ .stopped) (n : String) :
    outlook J client (insertSession s (client k) k) k n =
      snapshot (s.server.state.stored J) (client k) n := by
  have hunborn : ¬ (s.link k).Born := fun hborn => hborn.2 hstage
  have hqueue := (hs.sane k).queue hunborn
  have hblank := ((hs.sane k).listing hstage).blank (.inr rfl)
  rw [outlook, insertSession, FleetState.setLink_link_self, Link.eventual_of_listing hblank hpc rfl]
  dsimp only
  rw [hqueue, Replay.replay_nil]
  exact entry_snapshot s.server.state (client k) .new n

/-- Registering is a turn. -/
lemma turn_of_register {t : FleetState} (hs : Linked client s)
    (hstage : (s.link k).stage = .registering) (hping : Posted s t (client k) (.plain .ping)) :
    Turn T J client s (insertSession t (client k) k) e := by
  have ht := hping.linked hs
  have hstage' := (hping.stage k).trans hstage
  refine .quiet e hping.server fun j hj => ?_
  by_cases hjk : j = k
  · subst hjk
    left
    intro n
    have hpc := hj.2.1
    rw [insertSession, FleetState.setLink_link_self] at hpc
    rw [outlook_insertSession ht hstage' hpc, hping.server]
  · right
    have hlink : (insertSession t (client k) k).link j = t.link j :=
      FleetState.setLink_link_of_ne _ hjk _
    have hne : client j ≠ client k := by
      intro hclient
      have hsession : Function.update t.sessions (client k) (some k) (client j) = some j := hj.1
      rw [hclient, Function.update_self] at hsession
      exact hjk (Option.some.inj hsession).symm
    have honline : Online client t j := by
      obtain ⟨hsession, hlive⟩ := hj
      rw [hlink] at hlive
      exact ⟨(Function.update_of_ne hne ..).symm.trans hsession, hlive⟩
    refine ⟨hping.online honline, fun n => ?_⟩
    have hsame := hping.outlook (J := J) hs (hping.online honline) n
    rw [told_of_neutral (show (Mail.plain .ping).Neutral from rfl)] at hsame
    rw [← hsame, outlook, outlook, hlink]
    rfl

/-- Unregistering is a turn. -/
lemma turn_of_unregister : Turn T J client s (unregister s (client k) k) e := by
  refine .quiet e rfl fun j hj => .inr ?_
  obtain ⟨hsession, hlive⟩ := hj
  have hsession' : Function.update s.sessions (client k) none (client j) = some j := hsession
  have hne : client j ≠ client k := by
    intro hclient
    rw [hclient, Function.update_self] at hsession'
    cases hsession'
  have hjk : j ≠ k := fun h => hne (congrArg client h)
  have hlink : (unregister s (client k) k).link j = s.link j := FleetState.setLink_link_of_ne _ hjk _
  rw [hlink] at hlive
  refine ⟨⟨(Function.update_of_ne hne ..).symm.trans hsession, hlive⟩, fun n => ?_⟩
  rw [outlook, outlook, hlink]
  rfl

/-- What a step does to the outlooks. -/
theorem turn_of_step (hs : Linked client s) (h : fleetStep T J client s e = some s') :
    Turn T J client s s' e := by
  cases move_of_step h with
  | link k le l hstep hs' =>
      rw [hs']
      exact turn_of_link hstep
  | register k t hstage hping hs' =>
      rw [hs']
      exact turn_of_register hs hstage hping
  | unregister k hstage hs' =>
      rw [hs']
      exact turn_of_unregister
  | api ev server hstep hnone hs' =>
      subst hs'
      refine .api ev hstep fun k hk => ⟨hk, fun n => ?_⟩
      rw [hnone]
      rfl
  | announce ev server c msg hstep hsome hposted =>
      have hserver : s'.server = server := hposted.server
      refine .api ev (hserver ▸ hstep) fun k hk => ⟨hposted.online hk, fun n => ?_⟩
      rw [hsome, hserver]
      exact hposted.outlook (hs.of_same rfl rfl) (hposted.online hk) n
  | user _ hserver hsessions hlink =>
      refine .quiet _ hserver fun k hk => .inr ?_
      rw [Online, hsessions, hlink] at hk
      refine ⟨hk, fun n => ?_⟩
      rw [outlook, outlook, rulesOf_congr hserver, hlink]
  | dial d hposted => exact turn_of_posted hposted hs rfl

/-! ## Other stored rules -/

variable {server : Control.Server} {n : String}

/-- A change of other rules changes no outlook on this one. -/
lemma outlook_server_congr (h : server.state.stored J n = s.server.state.stored J n) :
    outlook J client { s with server } k n = outlook J client s k n := by
  refine Link.entry_eventual_congr (s.link k) fun m => ?_
  rw [rulesOf, rulesOf, entry_snapshot, entry_snapshot, h]

/-- A change of the rule changes the outlook only of those who are still to list their rules, and to
the rule that is stored now. -/
lemma outlook_server_or (hs : Linked client s) (hlive : (s.link k).Live) (server : Control.Server)
    (n : String) :
    outlook J client { s with server } k n = outlook J client s k n ∨
      (s.link k).stage = .listing ∧ outlook J client { s with server } k n =
        snapshot (server.state.stored J) (client k) n := by
  refine (Link.entry_eventual_or (fun hstage => (hs.sane k).blank (.inr hstage)) hlive.1 _ _
    n).imp_right
    fun h => ⟨h.1, h.2.trans ?_⟩
  exact entry_snapshot server.state (client k) .new n

/-- Unless the channel has a message about the rule, those will have the rule that is stored now. -/
lemma outlook_of_queue (hs : Linked client s) (hlive : (s.link k).Live)
    (hstage : (s.link k).stage = .listing)
    (hqueue : ∀ mail ∈ (s.link k).queue, ruleName mail.msg ≠ some n) :
    outlook J client s k n = snapshot (s.server.state.stored J) (client k) n :=
  (Link.entry_eventual_of_queue ((hs.sane k).blank (.inr hstage)) hlive.1 hstage hqueue).trans
    (entry_snapshot s.server.state (client k) .new n)

end

end RustProxy.Fleet
