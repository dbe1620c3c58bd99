import RustProxy.Fleet.Mirror

/-!
# No update is lost

The pushes of a new session bypass its channel, so a snapshot, the commits of requests and their
notifications interleave.

* `Complete` is the invariant: a client that is online will have the current version of each of its
  rules, unless a request has changed what clients learn of the rule and not announced it yet.
* `client_rules_complete` reads it off where nothing is left to announce, to send or to read.
-/

namespace RustProxy.Fleet

open RustProxy.Core RustProxy.Proto RustProxy.Control RustProxy.Client Transition
open RustProxy.Server (ClientId ConnId)

/-- What clients learn of a rule: whose it is, and where it leads. -/
def service (rule : ProxyRule) : ClientId × Entry := (rule.clientId, assignedEntry rule)

/-- Whoever is online will have the current version of its rules, unless a change of what clients
learn of it is still to be announced. -/
def Complete (J : DomainsJson) (client : ConnId → ClientId) (pending : String → Option Change)
    (s : FleetState) : Prop :=
  ∀ k, Online client s k → ∀ n rule, (∀ ch ∈ pending n, ch.old.map service = some (service rule)) →
    s.server.state.stored J n = some rule → rule.clientId = client k →
      outlook J client s k n = assignedEntry rule

/-- The requests announce what they change, and the clients will have what has been announced. -/
structure Mirror (J : DomainsJson) (client : ConnId → ClientId) (pending : String → Option Change)
    (s : FleetState) : Prop where
  linked : Linked client s
  drafted : Drafted J pending s.server
  complete : Complete J client pending s

/-- What a step does to the outlooks and to the changes that are still to be announced. -/
inductive Follows (T : StdText) (J : DomainsJson) (client : ConnId → ClientId) (s s' : FleetState)
    (pending : String → Option Change) : Event → (String → Option Change) → Prop
  | quiet (e : Event) (hserver : s'.server = s.server)
      (hsees : ∀ k, Online client s' k →
        (∀ n, outlook J client s' k n = snapshot (s.server.state.stored J) (client k) n) ∨
          (Online client s k ∧ ∀ n, outlook J client s' k n = outlook J client s k n)) :
      Follows T J client s s' pending e pending
  | api (e : ServerEvent) (pending' : String → Option Change)
      (hstep : serverStep T J s.server e = some s'.server)
      (hmove : ServerMove J s.server s'.server pending (nextNotification s.server e) pending')
      (hsees : ∀ k, Online client s' k → Online client s k ∧ ∀ n, outlook J client s' k n =
        told (nextNotification s.server e) (client k) n
          (outlook J client { s with server := s'.server } k n)) :
      Follows T J client s s' pending (.api e) pending'

section

variable {T : StdText} {J : DomainsJson} {client : ConnId → ClientId} {s s' : FleetState}
  {pending pending' : String → Option Change} {e : Event}

/-- A change is announced by a message about its rule. -/
lemma ruleName_of_announces {ch : Change} {c : ClientId} {msg : ControlMessage}
    (h : ch.Announces c msg) : ruleName msg = some ch.name := by
  unfold Change.Announces at h
  split at h
  case h_1 rule _ =>
      obtain ⟨hname, -, rfl⟩ := h
      exact congrArg some hname
  case h_2 =>
      obtain ⟨-, rfl⟩ := h
      rfl

/-- The announcement of a rule that is stored leaves its current version with its client. -/
lemma told_announced {ch : Change} {c : ClientId} {msg : ControlMessage} {rule : ProxyRule}
    (h : ch.Announces c msg) (hnew : ch.new = some rule) (e : Entry) :
    told (some (c, msg)) rule.clientId ch.name e = assignedEntry rule := by
  rw [Change.Announces, hnew] at h
  obtain ⟨hname, rfl, rfl⟩ := h
  rw [told, if_pos rfl, ← hname]
  exact if_pos rfl

/-- An announcement leaves the other rules alone. -/
lemma told_of_ne {ch : Change} {c c' : ClientId} {msg : ControlMessage} {n : String}
    (h : ch.Announces c msg) (hn : n ≠ ch.name) (e : Entry) : told (some (c, msg)) c' n e = e := by
  rw [told]
  split
  · refine effect_of_ruleName_ne ?_ e
    rw [ruleName_of_announces h]
    exact fun hname => hn (Option.some.inj hname).symm
  · rfl

/-- A step that changes no rule, and what the clients see of none, keeps completeness. -/
lemma Complete.quiet (h : Complete J client pending s) (hserver : s'.server = s.server)
    (hsees : ∀ k, Online client s' k →
      (∀ n, outlook J client s' k n = snapshot (s.server.state.stored J) (client k) n) ∨
        (Online client s k ∧ ∀ n, outlook J client s' k n = outlook J client s k n)) :
    Complete J client pending s' := by
  intro k hk n rule hpending hstored hclient
  rw [hserver] at hstored
  obtain hfresh | ⟨honline, hsame⟩ := hsees k hk
  · rw [hfresh n, snapshot, hstored]
    exact if_pos hclient
  · rw [hsame n]
    exact h k honline n rule hpending hstored hclient

/-- A step of the server keeps completeness, if its message is seen. -/
lemma Complete.move (h : Complete J client pending s) (hs : Linked client s)
    (hdrafted : Drafted J pending s.server)
    {sent : Option (String × ControlMessage)}
    (hmove : ServerMove J s.server s'.server pending sent pending')
    (hsees : ∀ k, Online client s' k → Online client s k ∧ ∀ n, outlook J client s' k n =
      told sent (client k) n (outlook J client { s with server := s'.server } k n)) :
    Complete J client pending' s' := by
  intro k hk n rule hpending hstored hclient
  obtain ⟨honline, hsees⟩ := hsees k hk
  rw [hsees n]
  cases hmove with
  | quiet hsame =>
      rw [hsame] at hstored
      rw [told, outlook_server_congr (congrFun hsame n)]
      exact h k honline n rule hpending hstored hclient
  | write ch hfree _ hold hchange =>
      unfold told
      by_cases hn : n = ch.name
      · subst hn
        rw [Function.update_self] at hpending
        obtain ⟨old, hchold, hservice⟩ := Option.map_eq_some_iff.mp (hpending ch rfl)
        obtain ⟨howner, hentry⟩ := Prod.mk.inj hservice
        rcases outlook_server_or (J := J) hs honline.2 s'.server ch.name with
          hsame | ⟨-, hpush⟩
        · rw [hsame, ← hentry]
          refine h k honline ch.name old ?_ (hold.trans hchold) (howner.trans hclient)
          intro ch' hch'
          cases hfree.symm.trans hch'
        · rw [hpush, snapshot, hstored]
          exact if_pos hclient
      · rw [Function.update_of_ne hn] at hpending
        rw [hchange, Function.update_of_ne hn] at hstored
        rw [outlook_server_congr]
        · exact h k honline n rule hpending hstored hclient
        · rw [hchange, Function.update_of_ne hn]
  | notify ch c msg hch hannounces hsame =>
      rw [hsame] at hstored
      by_cases hn : n = ch.name
      · subst hn
        obtain ⟨-, hnew⟩ := hdrafted.stored ch.name ch hch
        rw [← hclient]
        exact told_announced hannounces (hnew.symm.trans hstored) _
      · rw [Function.update_of_ne hn] at hpending
        rw [told_of_ne hannounces hn, outlook_server_congr (congrFun hsame n)]
        exact h k honline n rule hpending hstored hclient

/-- As long as requests change rules in turn, every step keeps the invariant. -/
theorem Mirror.step (h : Mirror J client pending s)
    (hturn : ∀ ev, e = .api ev → InTurn J s.server ev) (hstep : fleetStep T J client s e = some s') :
    ∃ pending', Mirror J client pending' s' ∧ Follows T J client s s' pending e pending' := by
  have hlinked := h.linked.step hstep
  cases turn_of_step h.linked hstep with
  | quiet _ hserver hsees =>
      refine ⟨pending, ⟨hlinked, ?_, h.complete.quiet hserver hsees⟩, .quiet e hserver hsees⟩
      rw [hserver]
      exact h.drafted
  | api ev hserver hsees =>
      obtain ⟨pending', hmove, hdrafted⟩ := drafted_step h.drafted (hturn ev rfl) hserver
      exact ⟨pending', ⟨hlinked, hdrafted, h.complete.move h.linked h.drafted hmove hsees⟩,
        .api ev pending' hserver hmove hsees⟩

/-- At the opening the clients mirror the rules. -/
lemma mirror_opening (J : DomainsJson) (client : ConnId → ClientId) (db : RuleTable)
    (outcomes : Stream' Bool) (connIdCounter : UInt64) :
    Mirror J client (fun _ => none) (opening J db outcomes connIdCounter) where
  linked := linked_opening client J db outcomes connIdCounter
  drafted := drafted_accepting db outcomes
  complete := fun k hk => by cases hk.1

/-! ## Requests one after the other -/

/-- A request arrives only when the requests before it have been answered. -/
def Sequential (s : FleetState) : Event → Prop
  | .api ev => OneAtATime s.server ev
  | _ => True

instance (s : FleetState) : ∀ e, Decidable (Sequential s e)
  | .api ev => inferInstanceAs (Decidable (OneAtATime s.server ev))
  | .link _ _ | .userOfListener _ _ | .userOfDomain _ _ | .dial _ => .isTrue trivial

/-- Requests that come in turn leave nobody beside the one under way. -/
lemma alone_step (hs : Linked client s) (h : Alone J s.server) (hseq : Sequential s e)
    (hstep : fleetStep T J client s e = some s') : Alone J s'.server := by
  cases turn_of_step hs hstep with
  | quiet _ hserver hsees => exact hserver ▸ h
  | api ev hserver hsees => exact h.step hseq hserver

/-- The session is registered, its handler has made all pushes without an error and waits in its loop,
the client has not left, and nothing is left in the channel or on the connection. -/
structure AtRest (client : ConnId → ClientId) (s : FleetState) (k : ConnId) : Prop where
  session : s.sessions (client k) = some k
  stage : (s.link k).stage = .running
  pushed : (s.link k).broken = false
  reading : (s.link k).client.pc ≠ .stopped
  queue : (s.link k).queue = []
  wire : (s.link k).wire = []

instance (s : FleetState) (k : ConnId) : Decidable (AtRest client s k) :=
  decidable_of_iff (s.sessions (client k) = some k ∧ (s.link k).stage = .running ∧
      (s.link k).broken = false ∧ (s.link k).client.pc ≠ .stopped ∧ (s.link k).queue = [] ∧
      (s.link k).wire = [])
    ⟨fun ⟨h₁, h₂, h₃, h₄, h₅, h₆⟩ => ⟨h₁, h₂, h₃, h₄, h₅, h₆⟩,
      fun h => ⟨h.session, h.stage, h.pushed, h.reading, h.queue, h.wire⟩⟩

/-- A client at rest is online. -/
lemma AtRest.online {k : ConnId} (h : AtRest client s k) : Online client s k := by
  refine ⟨h.session, h.reading, ?_⟩
  rw [h.stage]
  exact h.pushed

/-- At rest a client has what it will have. -/
lemma AtRest.outlook {k : ConnId} (h : AtRest client s k) (n : String) :
    outlook J client s k n = (s.link k).client.rules.entry n := by
  rw [Fleet.outlook, Link.eventual, Link.coming_of_reading h.reading, Link.underway, h.stage, h.wire]
  dsimp only
  rw [h.pushed, h.queue]
  rfl

/-- When no request has changed a rule without having announced it, nothing is pending. -/
lemma Mirror.pending_of_quiescent (h : Mirror J client pending s) (halone : Alone J s.server)
    (hquiescent : s.server.Quiescent) (n : String) : pending n = none := by
  rw [← Option.not_isSome_iff_eq_none, h.drafted.held n]
  rintro ⟨t, ht, hheld⟩
  refine halone.free ht ?_ n hheld
  intro hrunning
  have hdone := hquiescent t ht
  rw [hrunning] at hdone
  cases hdone

/-- In every run in which each request is answered before the next arrives, however it interleaves
with the connections, the sessions and the users: whenever no request is running, a client whose
session is at rest has the current version of every stored rule with its id. -/
theorem client_rules_complete (T : StdText) (J : DomainsJson) (client : ConnId → ClientId)
    (db : RuleTable) (outcomes : Stream' Bool) (connIdCounter : UInt64) (events : List Event)
    (hsequential : EachStep (fleetStep T J client) Sequential (opening J db outcomes connIdCounter)
      events) :
    Always (fleetStep T J client)
      (fun s => s.server.Quiescent → ∀ k, AtRest client s k →
        ∀ rule, s.server.state.stored J rule.name = some rule → rule.clientId = client k →
          (s.link k).client.rules.entry rule.name = assignedEntry rule)
      (opening J db outcomes connIdCounter) events := by
  refine always_of_eachStep
    (I := fun s => Alone J s.server ∧ ∃ pending, Mirror J client pending s) ?_ ?_
    ⟨alone_accepting db outcomes, _, mirror_opening J client db outcomes connIdCounter⟩ hsequential
  · rintro s ⟨halone, pending, hmirror⟩ hquiescent k hrest rule hstored hclient
    rw [← hrest.outlook (J := J)]
    refine hmirror.complete k hrest.online rule.name rule ?_ hstored hclient
    intro ch hch
    cases (hmirror.pending_of_quiescent halone hquiescent rule.name).symm.trans hch
  · rintro s e s' ⟨halone, pending, hmirror⟩ hseq hstep
    obtain ⟨pending', hmirror', -⟩ := hmirror.step (fun ev _ => halone.inTurn ev) hstep
    exact ⟨alone_step hmirror.linked halone hseq hstep, pending', hmirror'⟩

end

open DomainsText

/-- A connection is opened by a client with so many rules, up to its message loop. -/
def joins (k : ConnId) (rules : ℕ) : List Event :=
  List.flatten [
    [.link k (.authenticated true), .link k .deliver, .link k .register, .link k .listed],
    List.replicate (rules + 1) (.link k (.pushed true)), List.replicate rules (.link k .deliver)]

/-- Some actions of the first request. -/
def acts (n : ℕ) : List Event := List.replicate n (.api (.step 0 true))

/-- A client connects, and rule `b` is created while the handler takes its snapshot: the rule is both
pushed and announced. -/
def snapshotRun : List Event :=
  List.flatten [
    [.link 0 (.authenticated true), .link 0 .register, .link 0 .deliver,
      .api (.arrive (.create createB))],
    acts 2, [.link 0 .listed], acts 8, List.replicate 3 (.link 0 (.pushed true)),
    [.link 0 .recv, .link 0 (.forwarded true)], List.replicate 3 (.link 0 .deliver)]

/-- At its end the client is at rest and has the rule. -/
theorem client_rules_complete_snapshotRun :
    (exec (fleetStep asciiText domainsText fun _ => "c")
        (opening domainsText oneRule (fun _ => true) 1) snapshotRun).map
      (fun s => (decide s.server.Quiescent, decide (AtRest (fun _ => "c") s 0),
        (s.link 0).client.rules.entry "b")) =
      some (true, true, assignedEntry (createB.rule .http)) ∧
    Always (fleetStep asciiText domainsText fun _ => "c")
      (fun s => s.server.Quiescent → ∀ k, AtRest (fun _ => "c") s k →
        ∀ rule, s.server.state.stored domainsText rule.name = some rule → rule.clientId = "c" →
          (s.link k).client.rules.entry rule.name = assignedEntry rule)
      (opening domainsText oneRule (fun _ => true) 1) snapshotRun :=
  ⟨by decide +kernel, client_rules_complete asciiText domainsText (fun _ => "c") oneRule
    (fun _ => true) 1 snapshotRun (by decide +kernel)⟩

end RustProxy.Fleet
