import RustProxy.Fleet.Completeness

/-!
# Stale rules

What a client has although it is no rule of its any more.

* `update_proxy` notifies the client that a rule goes to and says nothing to the client it is taken
  from; `moved_rule_stays` is a run in which that client keeps it.
* `Sound` is the invariant of all other runs: a client that is online will have only rules of its own,
  and those of a deletion that it is still to be told of.
* `no_stale_rules` is what holds when a rule is given to another client only while the old one has not
  seen it.
-/

namespace RustProxy.Fleet

open RustProxy.Core RustProxy.Proto RustProxy.Control RustProxy.Client Transition
open RustProxy.Server (ClientId ConnId)

/-- The client of a rule: of the stored version, or of the one whose deletion is still to be
announced. -/
def keeper (J : DomainsJson) (pending : String → Option Change) (p : Control.Server) (n : String) :
    Option ClientId :=
  (p.state.stored J n <|> (pending n).bind Change.old).map ProxyRule.clientId

/-- Whoever is online will have only rules that are kept for it. -/
def Sound (J : DomainsJson) (client : ConnId → ClientId) (pending : String → Option Change)
    (s : FleetState) : Prop :=
  ∀ k, Online client s k → ∀ n, outlook J client s k n ≠ .absent →
    keeper J pending s.server n = some (client k)

/-- A statement that succeeds gives a rule to another client only while the session of the old
client has not seen it. -/
def MovesUnseen (J : DomainsJson) (s : FleetState) : Event → Prop
  | .api e => reports e true → ∀ target ∈ nextOf (Op.stores J) s.server e, ∀ new ∈ target.2,
      ∀ old ∈ s.server.state.stored J target.1, old.clientId ≠ new.clientId →
        ∀ k ∈ s.sessions old.clientId, (s.link k).Unseen target.1
  | _ => True

instance (J : DomainsJson) (s : FleetState) : ∀ e, Decidable (MovesUnseen J s e)
  | .api e => inferInstanceAs (Decidable (reports e true →
      ∀ target ∈ nextOf (Op.stores J) s.server e, ∀ new ∈ target.2,
        ∀ old ∈ s.server.state.stored J target.1, old.clientId ≠ new.clientId →
          ∀ k ∈ s.sessions old.clientId, (s.link k).Unseen target.1))
  | .link _ _ | .userOfListener _ _ | .userOfDomain _ _ | .dial _ => .isTrue trivial

section

variable {T : StdText} {J : DomainsJson} {client : ConnId → ClientId} {s s' : FleetState}
  {pending pending' : String → Option Change} {e : Event} {n : String} {c : ClientId}

/-- A snapshot has only rules of the client. -/
lemma keeper_of_snapshot {p : Control.Server} (h : snapshot (p.state.stored J) c n ≠ .absent) :
    keeper J pending p n = some c := by
  unfold snapshot at h
  split at h
  case h_1 rule hstored =>
      split at h
      case isTrue hclient =>
          rw [keeper, hstored]
          exact congrArg some hclient
      case isFalse => exact absurd rfl h
  case h_2 => exact absurd rfl h

/-- A step that changes no rule, and what the clients see of none, keeps soundness. -/
lemma Sound.quiet (h : Sound J client pending s) (hserver : s'.server = s.server)
    (hsees : ∀ k, Online client s' k →
      (∀ n, outlook J client s' k n = snapshot (s.server.state.stored J) (client k) n) ∨
        (Online client s k ∧ ∀ n, outlook J client s' k n = outlook J client s k n)) :
    Sound J client pending s' := by
  intro k hk n hpresent
  rw [hserver]
  obtain hfresh | ⟨honline, hsame⟩ := hsees k hk
  · rw [hfresh n] at hpresent
    exact keeper_of_snapshot hpresent
  · rw [hsame n] at hpresent
    exact h k honline n hpresent

/-- What a change of a rule leaves with a client is kept for it, unless the rule goes to another
client. -/
lemma keeper_of_write {server : Control.Server} {ch : Change} {k : ConnId} (h : Sound J client pending s)
    (hs : Linked client s) (hk : Online client s k) (hfree : pending ch.name = none)
    (hold : s.server.state.stored J ch.name = ch.old) (hnew : server.state.stored J ch.name = ch.new)
    (hunseen : ∀ old new, ch.old = some old → ch.new = some new → old.clientId ≠ new.clientId →
      client k = old.clientId → (s.link k).Unseen ch.name)
    (hpresent : outlook J client { s with server } k ch.name ≠ .absent) :
    keeper J (Function.update pending ch.name (some ch)) server ch.name = some (client k) := by
  rcases outlook_server_or (J := J) hs hk.2 server ch.name with hsame | ⟨-, hpush⟩
  · rw [hsame] at hpresent
    have hkeeper := h k hk ch.name hpresent
    rw [keeper, hold, hfree] at hkeeper
    rw [keeper, hnew, Function.update_self]
    cases hchold : ch.old with
    | none =>
        rw [hchold] at hkeeper
        cases hkeeper
    | some old =>
        rw [hchold] at hkeeper
        obtain hclient : old.clientId = client k := Option.some.inj hkeeper
        cases hchnew : ch.new with
        | none =>
            rw [Option.bind_some, hchold]
            exact hkeeper
        | some new =>
            by_cases hmoves : old.clientId = new.clientId
            · rw [← hclient, hmoves]
              rfl
            · -- the old client is still to be sent its first rules, and this one is not among them
              obtain ⟨hstage, hqueue⟩ := hunseen old new hchold hchnew hmoves hclient.symm hk.2
              have hpush : outlook J client { s with server } k ch.name =
                  snapshot (server.state.stored J) (client k) ch.name :=
                outlook_of_queue (hs.of_same rfl rfl) hk.2 hstage hqueue
              rw [← hsame, hpush, snapshot, hnew, hchnew] at hpresent
              refine absurd (if_neg ?_) hpresent
              rw [← hclient]
              exact Ne.symm hmoves
  · rw [hpush] at hpresent
    exact keeper_of_snapshot hpresent

/-- What an announcement leaves with a client is kept for it. -/
lemma keeper_of_announce {ch : Change} {c' : ClientId} {msg : ControlMessage} {p : Control.Server}
    {entry : Entry} (hpending : pending ch.name = some ch) (hstored : p.state.stored J ch.name = ch.new)
    (hannounces : ch.Announces c' msg)
    (hentry : entry ≠ .absent → keeper J pending p ch.name = some c)
    (hpresent : told (some (c', msg)) c ch.name entry ≠ .absent) :
    keeper J (Function.update pending ch.name none) p ch.name = some c := by
  rw [keeper, hstored, hpending] at hentry
  rw [keeper, hstored, Function.update_self]
  rw [Change.Announces] at hannounces
  cases hnew : ch.new with
  | some rule =>
      rw [hnew] at hannounces hentry
      by_cases hclient : c' = c
      · rw [← hclient, hannounces.2.1]
        rfl
      · rw [told, if_neg hclient] at hpresent
        exact hentry hpresent
  | none =>
      rw [hnew] at hannounces hentry
      obtain ⟨⟨old, hold, rfl⟩, rfl⟩ := hannounces
      refine absurd ?_ hpresent
      rw [told]
      by_cases hclient : old.clientId = c
      · rw [if_pos hclient]
        exact if_pos rfl
      · rw [if_neg hclient]
        by_contra hentry'
        have hkeeper := hentry hentry'
        rw [Option.bind_some, hold] at hkeeper
        exact hclient (Option.some.inj hkeeper)

/-- A step of the server keeps soundness, if a client that loses a rule has not seen it. -/
lemma Sound.move (h : Sound J client pending s) (hs : Linked client s)
    (hdrafted : Drafted J pending s.server) {sent : Option (String × ControlMessage)}
    (hmove : ServerMove J s.server s'.server pending sent pending')
    (hunseen : ∀ n old new, s.server.state.stored J n = some old →
      s'.server.state.stored J n = some new → old.clientId ≠ new.clientId →
        ∀ k, Online client s k → client k = old.clientId → (s.link k).Unseen n)
    (hsees : ∀ k, Online client s' k → Online client s k ∧ ∀ n, outlook J client s' k n =
      told sent (client k) n (outlook J client { s with server := s'.server } k n)) :
    Sound J client pending' s' := by
  intro k hk n hpresent
  obtain ⟨honline, hsees⟩ := hsees k hk
  rw [hsees n] at hpresent
  cases hmove with
  | quiet hsame =>
      rw [told, outlook_server_congr (congrFun hsame n)] at hpresent
      rw [keeper, hsame]
      exact h k honline n hpresent
  | write ch hfree _ hold hchange =>
      unfold told at hpresent
      by_cases hn : n = ch.name
      · subst hn
        have hnew : s'.server.state.stored J ch.name = ch.new := by
          rw [hchange, Function.update_self]
        refine keeper_of_write h hs honline hfree hold hnew ?_ hpresent
        intro old new hchold hchnew hne hclient
        exact hunseen ch.name old new (hold.trans hchold) (hnew.trans hchnew) hne k honline hclient
      · have hstored : s'.server.state.stored J n = s.server.state.stored J n := by
          rw [hchange, Function.update_of_ne hn]
        rw [outlook_server_congr hstored] at hpresent
        rw [keeper, hstored, Function.update_of_ne hn]
        exact h k honline n hpresent
  | notify ch c msg hch hannounces hsame =>
      rw [outlook_server_congr (congrFun hsame n)] at hpresent
      by_cases hn : n = ch.name
      · subst hn
        have hstored := (hdrafted.stored ch.name ch hch).2
        rw [← hsame] at hstored
        refine keeper_of_announce hch hstored hannounces ?_ hpresent
        intro hentry
        have hkeeper := h k honline ch.name hentry
        rwa [keeper, ← hsame] at hkeeper
      · rw [told_of_ne hannounces hn] at hpresent
        rw [keeper, hsame, Function.update_of_ne hn]
        exact h k honline n hpresent

/-- A step after which no client is left with a rule that it has seen and that is given to another. -/
lemma Sound.follows (h : Sound J client pending s) (hmirror : Mirror J client pending s)
    (hunseen : MovesUnseen J s e) (hfollows : Follows T J client s s' pending e pending') :
    Sound J client pending' s' := by
  cases hfollows with
  | quiet _ hserver hsees => exact h.quiet hserver hsees
  | api ev _ hstep hmove hsees =>
      refine h.move hmirror.linked hmirror.drafted hmove ?_ hsees
      intro n old new hold hnew hne k honline hclient
      have hchanged : s'.server.state.stored J n ≠ s.server.state.stored J n := by
        rw [hold, hnew]
        exact fun heq => hne (congrArg _ (Option.some.inj heq)).symm
      obtain ⟨hstores, hreports⟩ := stores_of_step hstep hchanged
      have hsession := honline.1
      rw [hclient] at hsession
      exact hunseen hreports _ hstores new hnew old hold hne k hsession

/-- In every run in which each request is answered before the next arrives, and in which a rule is
given to another client only while the session of the old one has not seen it: whenever no request
is running, a client whose session is at rest has only names of stored rules with its id. -/
theorem no_stale_rules (T : StdText) (J : DomainsJson) (client : ConnId → ClientId) (db : RuleTable)
    (outcomes : Stream' Bool) (connIdCounter : UInt64) (events : List Event)
    (hunseen : EachStep (fleetStep T J client) (fun s e => Sequential s e ∧ MovesUnseen J s e)
      (opening J db outcomes connIdCounter) events) :
    Always (fleetStep T J client)
      (fun s => s.server.Quiescent → ∀ k, AtRest client s k →
        ∀ n, (s.link k).client.rules.entry n ≠ .absent →
          ∃ rule, s.server.state.stored J n = some rule ∧ rule.clientId = client k)
      (opening J db outcomes connIdCounter) events := by
  refine always_of_eachStep
    (I := fun s => Alone J s.server ∧ ∃ pending, Mirror J client pending s ∧ Sound J client pending s)
    ?_ ?_ ⟨alone_accepting db outcomes, _, mirror_opening J client db outcomes connIdCounter,
      fun k hk => by cases hk.1⟩ hunseen
  · rintro s ⟨halone, pending, hmirror, hsound⟩ hquiescent k hrest n hpresent
    rw [← hrest.outlook (J := J)] at hpresent
    have hkeeper := hsound k hrest.online n hpresent
    rw [keeper, hmirror.pending_of_quiescent halone hquiescent n] at hkeeper
    cases hstored : s.server.state.stored J n with
    | none =>
        rw [hstored] at hkeeper
        cases hkeeper
    | some rule =>
        rw [hstored] at hkeeper
        exact ⟨rule, rfl, Option.some.inj hkeeper⟩
  · rintro s e s' ⟨halone, pending, hmirror, hsound⟩ ⟨hseq, hmoves⟩ hstep
    obtain ⟨pending', hmirror', hfollows⟩ := hmirror.step (fun ev _ => halone.inTurn ev) hstep
    exact ⟨alone_step hmirror.linked halone hseq hstep, pending', hmirror',
      hsound.follows hmirror hmoves hfollows⟩

end

open DomainsText

/-- A request that gives a rule to another client. -/
def moveTo (clientId : ClientId) : UpdateProxyRequest where
  proxyType := none
  clientId := some clientId
  localIp := none
  localPort := none
  remotePort := none
  customDomains := none
  proxyProtocol := none

/-- Rule `a` is given to client `b`, who is told of it. -/
def moveRun : List Event :=
  List.flatten [
    [.api (.arrive (.update "a" (moveTo "b")))], acts 14,
    [.link 1 .recv, .link 1 (.forwarded true), .link 1 .deliver]]

/-- The first connection is that of client `c`, the others are those of `b`. -/
def cThenB (k : ConnId) : ClientId := if k = 0 then "c" else "b"

/-- While client `c` is not connected its rule can be given away. -/
theorem no_stale_rules_moveRun :
    (exec (fleetStep asciiText domainsText cThenB) (opening domainsText oneRule (fun _ => true) 1)
        (joins 1 0 ++ moveRun)).map
      (fun s => (decide s.server.Quiescent, decide (AtRest cThenB s 1),
        decide ((s.link 1).client.rules.entry "a" = .absent))) = some (true, true, false) ∧
    Always (fleetStep asciiText domainsText cThenB)
      (fun s => s.server.Quiescent → ∀ k, AtRest cThenB s k →
        ∀ n, (s.link k).client.rules.entry n ≠ .absent →
          ∃ rule, s.server.state.stored domainsText n = some rule ∧ rule.clientId = cThenB k)
      (opening domainsText oneRule (fun _ => true) 1) (joins 1 0 ++ moveRun) :=
  ⟨by decide +kernel, no_stale_rules asciiText domainsText cThenB oneRule (fun _ => true) 1
    (joins 1 0 ++ moveRun) (by decide +kernel)⟩

/-- While it is connected it keeps the rule when all is delivered. -/
theorem moved_rule_stays :
    ∃ s, exec (fleetStep asciiText domainsText cThenB) (opening domainsText oneRule (fun _ => true) 1)
        (joins 0 1 ++ joins 1 0 ++ moveRun) = some s ∧
      s.server.Quiescent ∧ AtRest cThenB s 0 ∧ AtRest cThenB s 1 ∧
      (s.link 0).client.rules.entry "a" ≠ .absent ∧
      (s.server.state.stored domainsText "a").map ProxyRule.clientId = some "b" := by
  have hrun : ((exec (fleetStep asciiText domainsText cThenB)
      (opening domainsText oneRule (fun _ => true) 1) (joins 0 1 ++ joins 1 0 ++ moveRun)).map fun s =>
        (decide s.server.Quiescent, decide (AtRest cThenB s 0), decide (AtRest cThenB s 1),
          decide ((s.link 0).client.rules.entry "a" = .absent),
          (s.server.state.stored domainsText "a").map ProxyRule.clientId)) =
      some (true, true, true, false, some "b") := by decide +kernel
  obtain ⟨s, hexec, hs⟩ := Option.map_eq_some_iff.mp hrun
  simp only [Prod.mk.injEq, decide_eq_true_eq, decide_eq_false_iff_not] at hs
  exact ⟨s, hexec, hs⟩

end RustProxy.Fleet
