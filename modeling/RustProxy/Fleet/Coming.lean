import RustProxy.Fleet.System
import RustProxy.Foundation.Replay

/-!
# What is still to come on a connection

The rules a client will have when it has read everything that is on its way to it.

* `Link.coming` are the messages a client will read: those on the connection, then the pushes that are
  left, then those in the channel of the session.  For a handler that is still to list its rules the
  pushes are those of the rules that are stored now.
* `Link.eventual` are the client's rules after them.  `Link.Moves` is what a step of the connection
  does to the messages to come, and `Moves.eventual` that a connection that lives on ends up the
  same.
* `Served` is a message that finds its rule as it was stored when the message was handed over.
-/

namespace RustProxy.Fleet

open RustProxy.Core RustProxy.Proto RustProxy.Control RustProxy.Client
open RustProxy.Server (ClientId)

/-- The message loop of the client, with the history variables of the messages. -/
def onMail (m : ProxyWorkerManager) (mail : Mail) : ProxyWorkerManager := m.onControl mail.msg

/-- What the assignment of a rule leaves under its name. -/
def assignedEntry (rule : ProxyRule) : Entry where
  localAddr := some (localAddr rule.localIp rule.localPort)
  proxyType := some rule.proxyType.asStr
  proxyProtocol := some rule.proxyProtocol

/-- A request for a work connection finds its rule as it was stored when the request was handed
over. -/
def Served (m : ProxyWorkerManager) (mail : Mail) : Prop :=
  match mail.msg, mail.stored with
  | .newWorkConn req, some rule => m.entry req.proxyName = assignedEntry rule
  | _, _ => True

instance (m : ProxyWorkerManager) : ∀ mail, Decidable (Served m mail)
  | ⟨.newWorkConn req, some rule⟩ =>
      inferInstanceAs (Decidable (m.entry req.proxyName = assignedEntry rule))
  | ⟨.newWorkConn _, none⟩ | ⟨.auth _, _⟩ | ⟨.authResp _, _⟩ | ⟨.serverAssignProxy _, _⟩
  | ⟨.serverCloseProxy _, _⟩ | ⟨.newWorkConnResp _, _⟩ | ⟨.ping, _⟩ | ⟨.pong, _⟩ => .isTrue trivial

/-- The message asks for a work connection for a rule that was stored when it was handed over. -/
def Mail.Asks (mail : Mail) (n : String) : Prop :=
  match mail.msg, mail.stored with
  | .newWorkConn req, some _ => req.proxyName = n
  | _, _ => False

/-- The message is about no rule. -/
def Mail.Neutral (mail : Mail) : Prop := ruleName mail.msg = none

/-- What a message makes of an entry. -/
lemma entry_onMail (m : ProxyWorkerManager) (mail : Mail) (n : String) :
    (onMail m mail).entry n = effect mail.msg n (m.entry n) := entry_onControl m mail.msg n

/-- An assignment enters its rule. -/
lemma effect_assign (rule : ProxyRule) (n : String) (e : Entry) :
    effect (assign rule).msg n e = if rule.name = n then assignedEntry rule else e := rfl

/-- A neutral message changes nothing. -/
lemma onMail_of_neutral {mail : Mail} (h : mail.Neutral) (m : ProxyWorkerManager) : onMail m mail = m :=
  onControl_of_ruleName h m

/-- A message without a promise is always served. -/
lemma served_plain (m : ProxyWorkerManager) (msg : ControlMessage) : Served m (.plain msg) := by
  cases msg <;> trivial

/-- A request looks at the entry of its rule. -/
lemma Served.congr {m m' : ProxyWorkerManager} {mail : Mail}
    (h : ∀ n, mail.Asks n → m.entry n = m'.entry n) (hserved : Served m mail) : Served m' mail := by
  rw [Served] at hserved ⊢
  split
  case h_1 req rule hmsg hstored =>
      rw [hmsg, hstored] at hserved
      have hasks : mail.Asks req.proxyName := by
        rw [Mail.Asks, hmsg, hstored]
      exact (h req.proxyName hasks).symm.trans hserved
  case h_2 => trivial

/-! ## The pushes of a snapshot -/

section

variable {rules : List ProxyRule} {m m' : ProxyWorkerManager} {n : String}

/-- Pushes keep what they do not assign. -/
lemma entry_pushes_of_not_mem (h : ∀ rule ∈ rules, rule.name ≠ n) :
    (replay onMail m (rules.map assign)).entry n = m.entry n := by
  refine Replay.view_replay_of_keeps entry_onMail ?_ m
  intro mail hmail e
  obtain ⟨rule, hrule, rfl⟩ := List.mem_map.mp hmail
  exact if_neg (h rule hrule)

/-- Pushes of different rules assign each of them. -/
lemma entry_pushes_of_mem (hnodup : (rules.map ProxyRule.name).Nodup) {rule : ProxyRule}
    (hrule : rule ∈ rules) :
    (replay onMail m (rules.map assign)).entry rule.name = assignedEntry rule := by
  induction rules generalizing m with
  | nil => cases hrule
  | cons head rules ih =>
      rw [List.map_cons, List.nodup_cons] at hnodup
      rw [List.map_cons, Replay.replay_cons]
      rcases List.mem_cons.mp hrule with rfl | hrule
      · rw [entry_pushes_of_not_mem, entry_onMail, effect_assign, if_pos rfl]
        intro r hr hname
        exact hnodup.1 (List.mem_map.mpr ⟨r, hr, hname⟩)
      · exact ih hnodup.2 hrule

end

section

variable {J : DomainsJson} {c : ClientId} {m m' : ProxyWorkerManager} {n : String}

/-- The rules of a client are the stored ones with its id. -/
lemma mem_listProxiesByClient {s : ControlState} {rule : ProxyRule} :
    rule ∈ listProxiesByClient J s.rules c ↔ s.stored J rule.name = some rule ∧ rule.clientId = c := by
  rw [listProxiesByClient, List.mem_map]
  constructor
  · rintro ⟨row, hrow, rfl⟩
    rw [List.mem_filter, decide_eq_true_eq] at hrow
    exact ⟨congrArg (Option.map (ProxyRuleRow.toRule J)) (KeyedTable.lookup_key hrow.1), hrow.2⟩
  · rintro ⟨hstored, hclient⟩
    obtain ⟨row, hrow, rfl⟩ := Option.map_eq_some_iff.mp hstored
    refine ⟨row, ?_, rfl⟩
    rw [List.mem_filter, decide_eq_true_eq]
    exact ⟨KeyedTable.mem_of_lookup hrow, hclient⟩

/-- A client is assigned each of its rules once. -/
lemma nodup_listProxiesByClient (J : DomainsJson) (t : RuleTable) (c : ClientId) :
    ((listProxiesByClient J t c).map ProxyRule.name).Nodup := by
  rw [listProxiesByClient, List.map_map]
  exact t.nodup.sublist (List.filter_sublist.map _)

/-- After the pushes of a snapshot: the stored rules of the client, and what was there before. -/
lemma entry_snapshot (s : ControlState) (c : ClientId) (m : ProxyWorkerManager) (n : String) :
    (replay onMail m ((listProxiesByClient J s.rules c).map assign)).entry n =
      match s.stored J n with
      | some rule => if rule.clientId = c then assignedEntry rule else m.entry n
      | none => m.entry n := by
  have hkeep (h : ∀ rule, s.stored J n = some rule → rule.clientId ≠ c) :
      (replay onMail m ((listProxiesByClient J s.rules c).map assign)).entry n = m.entry n := by
    refine entry_pushes_of_not_mem fun rule hrule hname => ?_
    obtain ⟨hstored, hclient⟩ := mem_listProxiesByClient.mp hrule
    exact h rule (hname ▸ hstored) hclient
  cases hstored : s.stored J n with
  | none => exact hkeep (by simp [hstored])
  | some rule =>
      obtain rfl : rule.name = n := name_of_stored hstored
      dsimp only
      by_cases hclient : rule.clientId = c
      · rw [if_pos hclient]
        exact entry_pushes_of_mem (nodup_listProxiesByClient J s.rules c)
          (mem_listProxiesByClient.mpr ⟨hstored, hclient⟩)
      · rw [if_neg hclient]
        exact hkeep (by simpa [hstored] using hclient)

end

/-- A client that goes on has read a message that is its answer, or handled it. -/
lemma rules_onMessage {r : ClientRun} {mail : Mail} (hpc : r.pc ≠ .stopped)
    (hgo : (r.onMessage mail.msg).pc ≠ .stopped) :
    (r.onMessage mail.msg).rules = onMail r.rules mail := by
  obtain ⟨msg, stored⟩ := mail
  obtain ⟨pc, rules⟩ := r
  cases pc with
  | awaiting =>
      cases msg with
      | authResp resp =>
          by_cases hsuccess : resp.success = true
          · simp [ClientRun.onMessage, hsuccess, onMail, ProxyWorkerManager.onControl]
          · exact absurd (by simp [ClientRun.onMessage, hsuccess, ClientRun.stop]) hgo
      | auth | newWorkConn | newWorkConnResp | serverAssignProxy | serverCloseProxy | ping | pong =>
          exact absurd rfl hgo
  | running => rfl
  | stopped => exact absurd rfl hpc

/-- A client that has stopped reads nothing. -/
lemma onMessage_of_stopped {r : ClientRun} {msg : ControlMessage} (h : r.pc = .stopped) :
    r.onMessage msg = r := by
  obtain ⟨pc, rules⟩ := r
  obtain rfl : pc = .stopped := h
  rfl

/-- A client that stops drops its rules. -/
lemma rules_onMessage_of_stopped {r : ClientRun} {msg : ControlMessage} (hpc : r.pc ≠ .stopped)
    (hstop : (r.onMessage msg).pc = .stopped) : (r.onMessage msg).rules = .new := by
  obtain ⟨pc, rules⟩ := r
  cases pc with
  | awaiting =>
      cases msg with
      | authResp resp =>
          by_cases hsuccess : resp.success = true
          · simp [ClientRun.onMessage, hsuccess] at hstop
          · simp [ClientRun.onMessage, hsuccess, ClientRun.stop, ProxyWorkerManager.stopAll]
      | auth | newWorkConn | newWorkConnResp | serverAssignProxy | serverCloseProxy | ping | pong => rfl
  | running => cases hstop
  | stopped => exact absurd rfl hpc

/-! ## A connection -/

/-- The stages from the pushes on. -/
def Stage.isLater : Stage → Bool
  | .new | .registering | .listing => false
  | _ => true

namespace Link

/-- What the handler still has to send. -/
def underway (rules : List ProxyRule) (l : Link) : List Mail :=
  match l.stage with
  | .listing => rules.map assign ++ l.queue
  | .pushing left => left.map assign ++ l.queue
  | .running => if l.broken then [] else l.queue
  | .forwarding mail => if l.broken then [] else mail :: l.queue
  | _ => []

/-- What the client still has to read. -/
def coming (rules : List ProxyRule) (l : Link) : List Mail :=
  match l.client.pc with
  | .stopped => []
  | _ => l.wire ++ l.underway rules

/-- The client's rules when it has read all that. -/
def eventual (rules : List ProxyRule) (l : Link) : ProxyWorkerManager :=
  replay onMail l.client.rules (l.coming rules)

/-- The handler pushes or is in its loop, its sends have not failed, and the client reads them. -/
def Live (l : Link) : Prop :=
  l.client.pc ≠ .stopped ∧
    match l.stage with
    | .listing | .pushing _ => True
    | .running | .forwarding _ => l.broken = false
    | _ => False

instance (l : Link) : Decidable l.Live := by
  rw [Live]
  cases l.stage <;> infer_instance

/-- The client has not seen a rule: it reads nothing any more, or it is still to be sent its first
rules and its channel has no message about this one. -/
def Unseen (l : Link) (n : String) : Prop :=
  l.Live → l.stage = .listing ∧ ∀ mail ∈ l.queue, ruleName mail.msg ≠ some n

instance (l : Link) (n : String) : Decidable (l.Unseen n) :=
  inferInstanceAs (Decidable (l.Live → l.stage = .listing ∧
    ∀ mail ∈ l.queue, ruleName mail.msg ≠ some n))

/-- Every message that is still to be read will be served. -/
def AllServed (rules : List ProxyRule) (l : Link) : Prop :=
  AtEach onMail Served l.client.rules (l.coming rules)

/-- The session of the connection has been registered. -/
def Born (l : Link) : Prop := l.stage ≠ .new ∧ l.stage ≠ .registering

/-- The client has no rule, and none is on the connection. -/
structure Blank (l : Link) : Prop where
  rules : l.client.rules = .new
  wire : ∀ mail ∈ l.wire, mail.Neutral

/-- What holds of a connection whose handler has not registered it, or is still to list its rules. -/
structure Sane (l : Link) : Prop where
  queue : ¬ l.Born → l.queue = []
  blank : ¬ l.Born ∨ l.stage = .listing → l.Blank

/-- What a step of a connection does to the messages to come. -/
inductive Moves (rules : List ProxyRule) (l l' : Link) : Prop
  | same (hrules : l'.client.rules = l.client.rules) (hcoming : l'.coming rules = l.coming rules)
      (hlive : l'.Live → l.Live) : Moves rules l l'
  | insert (msg : ControlMessage) (front back : List Mail) (hneutral : (Mail.plain msg).Neutral)
      (hrules : l'.client.rules = l.client.rules) (hcoming : l.coming rules = front ++ back)
      (hcoming' : l'.coming rules = front ++ .plain msg :: back)
      (hlive : l'.Live → l.Live) : Moves rules l l'
  | read (mail : Mail) (hcoming : l.coming rules = mail :: l'.coming rules)
      (hrules : l'.client.rules = onMail l.client.rules mail) (hlive : l'.Live → l.Live) :
      Moves rules l l'
  | cut (hrules : l'.client.rules = l.client.rules) (hcoming : l'.coming rules <+: l.coming rules)
      (hdead : ¬ l'.Live) : Moves rules l l'
  | stopped (hcoming : l'.coming rules = []) (hdead : ¬ l'.Live) : Moves rules l l'

variable {rules : List ProxyRule} {l l' : Link} {e : LinkEvent}

/-- A connection that lives on ends up the same. -/
lemma Moves.eventual (h : Moves rules l l') (hlive' : l'.Live) :
    l.Live ∧ l'.eventual rules = l.eventual rules := by
  cases h with
  | same hrules hcoming hlive =>
      refine ⟨hlive hlive', ?_⟩
      rw [Link.eventual, Link.eventual, hrules, hcoming]
  | insert msg front back hneutral hrules hcoming hcoming' hlive =>
      refine ⟨hlive hlive', ?_⟩
      rw [Link.eventual, Link.eventual, hrules, hcoming, hcoming']
      exact Replay.replay_insert (onMail_of_neutral hneutral) _ _ _
  | read mail hcoming hrules hlive =>
      refine ⟨hlive hlive', ?_⟩
      rw [Link.eventual, Link.eventual, hrules, hcoming]
      rfl
  | cut _ _ hdead => exact absurd hlive' hdead
  | stopped _ hdead => exact absurd hlive' hdead

/-- What was going to be served still is. -/
lemma Moves.allServed (h : Moves rules l l') (hserved : l.AllServed rules) : l'.AllServed rules := by
  rw [AllServed] at hserved ⊢
  cases h with
  | same hrules hcoming _ =>
      rw [hrules, hcoming]
      exact hserved
  | insert msg front back hneutral hrules hcoming hcoming' _ =>
      rw [hcoming] at hserved
      rw [hrules, hcoming']
      exact (Replay.atEach_insert (onMail_of_neutral hneutral) fun m => served_plain m msg).mpr hserved
  | read mail hcoming hrules _ =>
      rw [hcoming] at hserved
      rw [hrules]
      exact hserved.2
  | cut hrules hcoming _ =>
      obtain ⟨rest, hrest⟩ := hcoming
      rw [← hrest] at hserved
      rw [hrules]
      exact (Replay.atEach_append.mp hserved).1
  | stopped hcoming _ =>
      rw [hcoming]
      trivial

/-- Nothing is coming to a client that has stopped. -/
lemma coming_of_stopped (h : l.client.pc = .stopped) : l.coming rules = [] := by
  rw [coming, h]

/-- To a client that reads comes what is on the wire and what is under way. -/
lemma coming_of_reading (h : l.client.pc ≠ .stopped) :
    l.coming rules = l.wire ++ l.underway rules := by
  rw [coming]
  cases hpc : l.client.pc with
  | awaiting | running => rfl
  | stopped => exact absurd hpc h

/-- A step that puts a message on the connection; `back` is what comes after it. -/
lemma Moves.of_sent (msg : ControlMessage) (back : List Mail) (hneutral : (Mail.plain msg).Neutral)
    (hclient : l'.client = l.client) (hwire : l'.wire = l.wire ++ [.plain msg])
    (hback : l.underway rules = back) (hback' : l'.underway rules = back) (hlive : l'.Live → l.Live) :
    Moves rules l l' := by
  by_cases hpc : l.client.pc = .stopped
  · rw [← hclient] at hpc
    exact .stopped (coming_of_stopped hpc) fun h => h.1 hpc
  · refine .insert msg l.wire back hneutral (congrArg _ hclient) ?_ ?_ hlive
    · rw [coming_of_reading hpc, hback]
    · rw [← hclient] at hpc
      rw [coming_of_reading hpc, hwire, hback', List.append_assoc]
      rfl

/-- A step that sends the next message, or none. -/
lemma Moves.of_same (hclient : l'.client = l.client)
    (hcoming : l'.wire ++ l'.underway rules = l.wire ++ l.underway rules) (hlive : l'.Live → l.Live) :
    Moves rules l l' := by
  by_cases hpc : l.client.pc = .stopped
  · rw [← hclient] at hpc
    exact .stopped (coming_of_stopped hpc) fun h => h.1 hpc
  · refine .same (congrArg _ hclient) ?_ hlive
    rw [coming_of_reading hpc, coming_of_reading (hclient ▸ hpc), hcoming]

/-- A step after which nothing more is sent. -/
lemma Moves.of_cut (hclient : l'.client = l.client) (hwire : l'.wire = l.wire)
    (hunderway : l'.underway rules = []) (hdead : ¬ l'.Live) : Moves rules l l' := by
  by_cases hpc : l.client.pc = .stopped
  · rw [← hclient] at hpc
    exact .stopped (coming_of_stopped hpc) hdead
  · refine .cut (congrArg _ hclient) ?_ hdead
    rw [coming_of_reading hpc, coming_of_reading (hclient ▸ hpc), hwire, hunderway, List.append_nil]
    exact List.prefix_append _ _

/-- The client reads a message. -/
lemma moves_deliver {mail : Mail} {rest : List Mail} (hpc : l.client.pc ≠ .stopped)
    (hwire : l.wire = mail :: rest) :
    Moves rules l { l with wire := rest, client := l.client.onMessage mail.msg } := by
  by_cases hstop : (l.client.onMessage mail.msg).pc = .stopped
  · exact .stopped (coming_of_stopped hstop) fun hlive => hlive.1 hstop
  · refine .read mail ?_ (rules_onMessage hpc hstop) fun hlive => ⟨hpc, hlive.2⟩
    rw [coming_of_reading hpc, coming_of_reading hstop, hwire]
    rfl

/-- What a step of a connection can do. -/
theorem moves_step (h : l.step rules e = some l') : Moves rules l l' := by
  cases linkMove_of_step h with
  | accepted hstage =>
      refine .of_sent authResp.msg [] rfl rfl rfl ?_ rfl fun hlive => hlive.2.elim
      rw [underway, hstage]
  | listed hstage =>
      refine .of_same rfl (by rw [underway, underway, hstage]) fun hlive => ⟨hlive.1, ?_⟩
      rw [hstage]
      trivial
  | allPushed ok hstage =>
      cases hbroken : l.broken with
      | true => exact .of_cut rfl rfl rfl fun hlive => Bool.noConfusion hlive.2
      | false =>
          refine .of_same rfl ?_ fun hlive => ⟨hlive.1, ?_⟩
          · rw [underway, underway, hstage]
            simp
          · rw [hstage]
            trivial
  | pushed rule left hstage =>
      refine .of_same rfl ?_ fun hlive => ⟨hlive.1, ?_⟩
      · rw [underway, underway, hstage]
        simp
      · rw [hstage]
        trivial
  | pushFailed rule left hstage => exact .of_cut rfl rfl rfl fun hlive => Bool.noConfusion hlive.2
  | recv mail rest hstage hqueue =>
      refine .of_same rfl ?_ fun hlive => ⟨hlive.1, ?_⟩
      · rw [underway, underway, hstage]
        dsimp only
        rw [hqueue]
      · rw [hstage]
        exact hlive.2
  | forwarded mail hstage hwhole =>
      refine .of_same rfl ?_ fun hlive => ⟨hlive.1, ?_⟩
      · rw [underway, underway, hstage]
        simp [hwhole]
      · rw [hstage]
        exact hlive.2
  | ponged hstage hwhole => exact .of_sent .pong (l.underway rules) rfl rfl rfl rfl rfl id
  | refused | dropped | leave | closed => exact .of_cut rfl rfl rfl fun hlive => hlive.2.elim
  | deliver mail rest hreading hwire => exact moves_deliver hreading hwire
  | stop => exact .stopped rfl fun hlive => hlive.1 rfl

/-! ## Before the pushes -/

/-- The start is sane. -/
lemma sane_start : Link.start.Sane where
  queue := fun _ => rfl
  blank := fun _ => ⟨rfl, fun mail hmail => by cases hmail⟩

/-- Past the listing, only what the stage is about can be wrong. -/
lemma Sane.of_later (hborn : l.Born) (hstage : l.stage ≠ .listing) : l.Sane where
  queue := fun h => absurd hborn h
  blank := fun h => h.elim (absurd hborn) fun h => absurd h hstage

/-- A client without rules reads a message that is about none. -/
lemma Blank.deliver {mail : Mail} {rest : List Mail} (h : l.Blank) (hwire : l.wire = mail :: rest) :
    Blank { l with wire := rest, client := l.client.onMessage mail.msg } where
  rules := by
    have hneutral : mail.Neutral := h.wire mail (by rw [hwire]; exact List.mem_cons_self)
    by_cases hpc : l.client.pc = .stopped
    · rw [onMessage_of_stopped hpc]
      exact h.rules
    · by_cases hstop : (l.client.onMessage mail.msg).pc = .stopped
      · exact rules_onMessage_of_stopped hpc hstop
      · exact (rules_onMessage hpc hstop).trans ((onMail_of_neutral hneutral _).trans h.rules)
  wire := fun m hm => h.wire m (by rw [hwire]; exact List.mem_cons_of_mem mail hm)

/-- The later stages come after the listing. -/
lemma later_of_isLater (h : l.stage.isLater = true) : l.Born ∧ l.stage ≠ .listing := by
  refine ⟨⟨?_, ?_⟩, ?_⟩ <;> (intro hstage; rw [hstage] at h; cases h)

/-- A step leads to the later stages, or leaves the channel alone; before the pushes the answer to the
authentication is the only message. -/
lemma step_early (h : l.step rules e = some l') :
    (l'.Born ∧ l'.stage ≠ .listing) ∨
      (l'.queue = l.queue ∧ (l.Blank → l'.Blank) ∧
        (l'.stage = l.stage ∨ ¬ l.Born ∧ l'.stage ≠ .listing)) := by
  cases linkMove_of_step h with
  | accepted hstage =>
      have hunborn : ¬ l.Born := fun hborn => hborn.1 hstage
      refine .inr ⟨rfl, fun hblank => ⟨hblank.rules, ?_⟩, .inr ⟨hunborn, Stage.noConfusion⟩⟩
      intro mail hmail
      rcases List.mem_append.mp hmail with hmail | hmail
      · exact hblank.wire mail hmail
      · obtain rfl := List.mem_singleton.mp hmail
        rfl
  | deliver mail rest hreading hwire =>
      exact .inr ⟨rfl, fun hblank => hblank.deliver hwire, .inl rfl⟩
  | stop => exact .inr ⟨rfl, fun hblank => ⟨rfl, hblank.wire⟩, .inl rfl⟩
  | ponged hstage => exact .inl (later_of_isLater (congrArg Stage.isLater hstage))
  | refused | listed | allPushed | pushed | pushFailed | recv | forwarded | dropped | leave | closed =>
      exact .inl (later_of_isLater rfl)

/-- A step of a link that was born leaves it born. -/
lemma born_step (h : l.step rules e = some l') (hborn : l.Born) : l'.Born := by
  obtain ⟨hborn', -⟩ | ⟨-, -, hstage | ⟨hunborn, -⟩⟩ := step_early h
  · exact hborn'
  · rw [Born, hstage]
    exact hborn
  · exact absurd hborn hunborn

/-- Every step keeps the link sane. -/
lemma sane_step (h : l.step rules e = some l') (hsane : l.Sane) : l'.Sane := by
  obtain ⟨hborn, hstage⟩ | ⟨hqueue, hblank, hstage⟩ := step_early h
  · exact .of_later hborn hstage
  · refine ⟨fun hunborn => ?_, fun hearly => hblank (hsane.blank ?_)⟩
    · rw [hqueue]
      exact hsane.queue fun hborn => hunborn (born_step h hborn)
    · rcases hstage with hstage | ⟨hunborn, -⟩
      · rw [Born, hstage] at hearly
        exact hearly
      · exact .inl hunborn

/-! ## Handing a message over -/

variable {mail : Mail}

/-- What is enqueued on a live link is coming last. -/
lemma coming_enqueue_of_live (h : l.Live) :
    (l.enqueue mail).coming rules = l.coming rules ++ [mail] := by
  obtain ⟨hpc, hstage⟩ := h
  rw [coming_of_reading hpc, coming_of_reading (l := l.enqueue mail) hpc, List.append_assoc]
  congr 1
  rw [underway, underway, enqueue]
  cases hl : l.stage with
  | listing | pushing left => exact (List.append_assoc _ _ _).symm
  | running | forwarding mail =>
      rw [hl] at hstage
      dsimp only at hstage ⊢
      rw [hstage]
      rfl
  | new | registering | unregistering | closing | finished =>
      rw [hl] at hstage
      exact hstage.elim

/-- What is enqueued on a dead link is lost. -/
lemma coming_enqueue_of_not_live (h : ¬ l.Live) :
    (l.enqueue mail).coming rules = l.coming rules := by
  by_cases hpc : l.client.pc = .stopped
  · rw [coming_of_stopped hpc, coming_of_stopped (l := l.enqueue mail) hpc]
  · rw [coming_of_reading hpc, coming_of_reading (l := l.enqueue mail) hpc]
    congr 1
    rw [underway, underway, enqueue]
    cases hl : l.stage with
    | listing | pushing left =>
        refine absurd ⟨hpc, ?_⟩ h
        rw [hl]
        trivial
    | running | forwarding mail =>
        have hbroken : l.broken = true := by
          by_contra hbroken
          refine h ⟨hpc, ?_⟩
          rw [hl]
          exact Bool.eq_false_iff.mpr hbroken
        dsimp only
        rw [hbroken]
        rfl
    | new | registering | unregistering | closing | finished => rfl

/-- A message that is handed to a live session is read in the end. -/
lemma entry_eventual_enqueue (h : l.Live) (n : String) :
    ((l.enqueue mail).eventual rules).entry n = effect mail.msg n ((l.eventual rules).entry n) := by
  rw [eventual, coming_enqueue_of_live h, Replay.replay_append]
  exact entry_onMail _ mail n

/-- What is enqueued is served if it is when it arrives. -/
lemma AllServed.enqueue (h : l.AllServed rules) (hmail : l.Live → Served (l.eventual rules) mail) :
    (l.enqueue mail).AllServed rules := by
  rw [AllServed] at h ⊢
  by_cases hlive : l.Live
  · rw [coming_enqueue_of_live hlive]
    exact Replay.atEach_append.mpr ⟨h, Replay.atEach_singleton.mpr (hmail hlive)⟩
  · rw [coming_enqueue_of_not_live hlive]
    exact h

/-! ## A handler that is still to list its rules -/

variable {rules' : List ProxyRule} {n : String}

/-- Only such a handler pushes what is stored now. -/
lemma coming_of_not_listing (h : l.stage ≠ .listing) (rules rules' : List ProxyRule) :
    l.coming rules = l.coming rules' := by
  rw [coming, coming]
  congr 1
  rw [underway, underway]
  split <;> first | rfl | exact absurd ‹_› h

/-- To a blank link comes nothing that makes a difference. -/
lemma Blank.replay_wire (h : l.Blank) : replay onMail l.client.rules l.wire = .new := by
  rw [h.rules]
  have hwire := h.wire
  generalize l.wire = wire at hwire ⊢
  induction wire with
  | nil => rfl
  | cons mail rest ih =>
      rw [Replay.replay_cons, onMail_of_neutral (hwire mail List.mem_cons_self)]
      exact ih fun m hm => hwire m (List.mem_cons_of_mem mail hm)

/-- The pushes come before what is in the channel. -/
lemma coming_of_listing (hpc : l.client.pc ≠ .stopped) (h : l.stage = .listing) :
    l.coming rules = l.wire ++ (rules.map assign ++ l.queue) := by
  rw [coming_of_reading hpc, underway, h]

/-- While the session lists the rules, all of them are still to come. -/
lemma eventual_of_listing (hblank : l.Blank) (hpc : l.client.pc ≠ .stopped) (h : l.stage = .listing) :
    l.eventual rules = replay onMail (replay onMail .new (rules.map assign)) l.queue := by
  rw [eventual, coming_of_listing hpc h, Replay.replay_append, Replay.replay_append,
    hblank.replay_wire]

/-- Snapshots that agree on a rule. -/
lemma entry_eventual_congr (l : Link)
    (h : ∀ m, (replay onMail m (rules.map assign)).entry n =
      (replay onMail m (rules'.map assign)).entry n) :
    (l.eventual rules).entry n = (l.eventual rules').entry n := by
  by_cases hpc : l.client.pc = .stopped
  · rw [eventual, eventual, coming_of_stopped hpc, coming_of_stopped hpc]
  · by_cases hstage : l.stage = .listing
    · rw [eventual, eventual, coming_of_listing hpc hstage, coming_of_listing hpc hstage,
        Replay.replay_append, Replay.replay_append, Replay.replay_append, Replay.replay_append]
      exact Replay.view_replay_congr entry_onMail (h _) _
    · rw [eventual, eventual, coming_of_not_listing hstage]

/-- Another snapshot changes an entry to what it pushes, or not at all. -/
lemma entry_eventual_or (hblank : l.stage = .listing → l.Blank) (hpc : l.client.pc ≠ .stopped)
    (rules rules' : List ProxyRule) (n : String) :
    (l.eventual rules').entry n = (l.eventual rules).entry n ∨
      l.stage = .listing ∧
        (l.eventual rules').entry n = (replay onMail .new (rules'.map assign)).entry n := by
  by_cases hstage : l.stage = .listing
  · rw [eventual_of_listing (hblank hstage) hpc hstage, eventual_of_listing (hblank hstage) hpc hstage]
    refine (Replay.overwrites_or_keeps entry_onMail ?_ _ _ _ _).imp_right fun h => ⟨hstage, h⟩
    exact fun mail k => effect_overwrites_or_keeps mail.msg k
  · left
    rw [eventual, eventual, coming_of_not_listing hstage]

/-- What is in the channel does not matter for a rule that it is not about. -/
lemma entry_eventual_of_queue (hblank : l.Blank) (hpc : l.client.pc ≠ .stopped)
    (hstage : l.stage = .listing) (hqueue : ∀ mail ∈ l.queue, ruleName mail.msg ≠ some n) :
    (l.eventual rules).entry n = (replay onMail .new (rules.map assign)).entry n := by
  rw [eventual_of_listing hblank hpc hstage]
  exact Replay.view_replay_of_keeps entry_onMail
    (fun mail hmail e => effect_of_ruleName_ne (hqueue mail hmail) e) _

/-- Pushes are served. -/
lemma atEach_pushes (rules : List ProxyRule) (m : ProxyWorkerManager) :
    AtEach onMail Served m (rules.map assign) := by
  refine Replay.atEach_of_forall fun mail hmail m => ?_
  obtain ⟨rule, -, rfl⟩ := List.mem_map.mp hmail
  exact served_plain m _

/-- Another snapshot serves the requests in the channel as well, if it agrees on their rules. -/
lemma AllServed.of_snapshot (h : l.AllServed rules)
    (hagree : ∀ mail ∈ l.queue, ∀ n, mail.Asks n → l.Live → l.stage = .listing →
      ∀ m, (replay onMail m (rules.map assign)).entry n =
        (replay onMail m (rules'.map assign)).entry n) :
    l.AllServed rules' := by
  rw [AllServed] at h ⊢
  by_cases hpc : l.client.pc = .stopped
  · rw [coming_of_stopped hpc]
    trivial
  · by_cases hstage : l.stage = .listing
    · have hlive : l.Live := by
        refine ⟨hpc, ?_⟩
        rw [hstage]
        trivial
      rw [coming_of_listing hpc hstage] at h ⊢
      obtain ⟨hwire, hrest⟩ := Replay.atEach_append.mp h
      obtain ⟨-, hqueue⟩ := Replay.atEach_append.mp hrest
      refine Replay.atEach_append.mpr ⟨hwire, Replay.atEach_append.mpr ⟨atEach_pushes rules' _, ?_⟩⟩
      refine Replay.atEach_congr entry_onMail Mail.Asks (fun _ _ _ => Served.congr) ?_ hqueue
      exact fun mail hmail n hasks => hagree mail hmail n hasks hlive hstage _
    · rw [coming_of_not_listing hstage rules' rules]
      exact h

/-- A handler that registers with an empty channel serves what it served before. -/
lemma AllServed.listing (h : l.AllServed rules) (hstage : l.stage = .registering)
    (hqueue : l.queue = []) : ({ l with stage := .listing } : Link).AllServed rules := by
  by_cases hpc : l.client.pc = .stopped
  · rw [AllServed, coming_of_stopped (l := { l with stage := .listing }) hpc]
    trivial
  · rw [AllServed, coming_of_reading hpc, underway, hstage] at h
    rw [AllServed, coming_of_listing (l := { l with stage := .listing }) hpc rfl]
    refine Replay.atEach_append.mpr ⟨(Replay.atEach_append.mp h).1, ?_⟩
    dsimp only
    rw [hqueue, List.append_nil]
    exact atEach_pushes rules _

/-- Closing the connection serves nothing less. -/
lemma AllServed.closing (h : l.AllServed rules) (hstage : l.stage = .unregistering) :
    ({ l with stage := .closing } : Link).AllServed rules := by
  rw [AllServed, coming, underway, hstage] at h
  exact h

/-- What the client reads next is served. -/
lemma AllServed.head {mail : Mail} (h : l.AllServed rules) (hpc : l.client.pc ≠ .stopped)
    (hmail : mail ∈ l.wire.head?) : Served l.client.rules mail := by
  obtain ⟨rest, hwire⟩ := List.head?_eq_some_iff.mp (Option.mem_def.mp hmail)
  rw [AllServed, coming_of_reading hpc, hwire] at h
  exact h.1

end Link

end RustProxy.Fleet
