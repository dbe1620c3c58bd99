import RustProxy.Control.Ports

/-!
# Restart

A server that has served requests, and the same server started anew on the same database.  A fresh
start-up visits the rules in the order of insertion, so a port goes to the first rule that asks for
it and a domain to the last one that lists it.

* `occupies_startUp` is what a start-up makes of a database.
* `portStep` is a request that runs alone, with binds that fail exactly on taken ports.
* `restartEquivalent_iff`: the server equals the fresh one in every state exactly when every change
  keeps the order in which the rules would be served.
-/

namespace RustProxy.Control

open RustProxy.Core Prog Semantics Transition Priority

/-- The stored rules in the order of insertion. -/
def ruleList (J : DomainsJson) (rules : RuleTable) : List ProxyRule :=
  rules.rows.map (ProxyRuleRow.toRule J)

/-- The rules that were inserted before the rule of the name. -/
def ControlState.earlier (J : DomainsJson) (s : ControlState) (name : String) : List ProxyRule :=
  (s.rules.before name).map (ProxyRuleRow.toRule J)

/-- The rules that were inserted after the rule of the name. -/
def ControlState.later (J : DomainsJson) (s : ControlState) (name : String) : List ProxyRule :=
  (s.rules.after name).map (ProxyRuleRow.toRule J)

/-- The running TCP and UDP listeners, by rule, protocol, port and client. -/
def ControlState.listening (s : ControlState) : List (String × ProxyType × UInt16 × String) :=
  s.tasks.map fun task => (task.name, task.proxyType, task.remotePort, task.clientId)

/-- The same listeners run, and the same domains are routed to the same rules. -/
def SameServices (s u : ControlState) : Prop :=
  (∀ listener, listener ∈ s.listening ↔ listener ∈ u.listening) ∧ s.domainRoutes = u.domainRoutes

/-- The server equals every fresh start-up on its database. -/
def RestartEquivalent (J : DomainsJson) (s : ControlState) : Prop :=
  ∀ outcomes, semantics.along (bindsByPort []) (startUp J) outcomes (.boot s.rules) = true →
    SameServices s (started J s.rules outcomes)

/-- A request that runs alone; a `bind` fails exactly when a live listener has the port. -/
def portStep (T : StdText) (J : DomainsJson) (reserved : List UInt16) (s : ControlState)
    (call : ApiCall) : Option ControlState :=
  if semantics.along (bindsByPort reserved) (handle T J call.req) call.outcomes s then
    requestStep T J s call
  else none

/-- The change leaves every port and every domain with the rule that a fresh start-up gives it to. -/
def KeepsOrder (T : StdText) (J : DomainsJson) (reserved : List UInt16) (s : ControlState)
    (call : ApiCall) : Prop :=
  ∀ c, change T J s call.outcomes call.req = some c →
    (∀ port, ((∀ r ∈ s.earlier J c.name, ¬ Wants r port) → (∃ r ∈ s.later J c.name, Wants r port) →
        (Claimed Wants c.old port ↔ Claimed Wants c.new port)) ∧
      (Claimed Wants c.new port → ¬ Reserved reserved port)) ∧
    ∀ d, ((∃ r ∈ s.later J c.name, ListsDomain r d) →
        ¬ Claimed ListsDomain c.old d ∧ ¬ Claimed ListsDomain c.new d) ∧
      (Claimed ListsDomain c.old d → ¬ Claimed ListsDomain c.new d →
        ∀ r ∈ s.earlier J c.name, ¬ ListsDomain r d)

section

variable {T : StdText} {J : DomainsJson} {reserved : List UInt16} {s s' u : ControlState}
  {held held' : ProxyType × UInt16 → Option ProxyRule}

/-! ## The list of rules -/

/-- The names of the stored rules are distinct. -/
lemma ruleList_names (J : DomainsJson) (rules : RuleTable) :
    ((ruleList J rules).map ProxyRule.name).Nodup := by
  have hnames : (ruleList J rules).map ProxyRule.name = rules.rows.map ProxyRuleRow.name := by
    rw [ruleList, List.map_map]
    rfl
  rw [hnames]
  exact rules.nodup

/-- A stored rule is determined by its name. -/
lemma eq_of_mem_ruleList {rules : RuleTable} {r r' : ProxyRule} (hr : r ∈ ruleList J rules)
    (hr' : r' ∈ ruleList J rules) (hname : r.name = r'.name) : r = r' :=
  List.inj_on_of_nodup_map (ruleList_names J rules) hr hr' hname

/-- A change replaces one rule of the list in its place, or adds one at its end. -/
lemma Change.Edits.ruleList {c : Change} {rules : RuleTable} (h : c.Edits J s.rules rules) :
    ruleList J s.rules = s.earlier J c.name ++ c.old.toList ++ s.later J c.name ∧
      ruleList J rules = s.earlier J c.name ++ c.new.toList ++ s.later J c.name := by
  unfold ControlState.earlier ControlState.later Control.ruleList
  have hsplit := s.rules.rows_split c.name
  generalize s.rules = before at h hsplit
  cases h with
  | @insert rule _ _ hins =>
      have hnone := KeyedTable.lookup_of_insert hins
      have hafter := KeyedTable.rows_insert hins
      change before.lookup rule.name = none at hnone
      rw [hnone] at hsplit
      refine ⟨?_, ?_⟩
      · rw [hsplit]
        simp
      · rw [hafter]
        simp [ProxyRuleRow.toRule_ofRule]
  | @modify name old new _ hcolumns hold hname =>
      obtain ⟨row, hrow, rfl⟩ := Option.map_eq_some_iff.mp hold
      have hkey : row.name = new.name := (KeyedTable.key_of_lookup hrow).trans hname.symm
      refine ⟨?_, ?_⟩
      · rw [hsplit, hrow]
        simp
      · rw [KeyedTable.rows_modify, hrow]
        simp [setColumns_ofRule hkey, ProxyRuleRow.toRule_ofRule]
  | @erase name old _ hold =>
      obtain ⟨row, hrow, rfl⟩ := Option.map_eq_some_iff.mp hold
      refine ⟨?_, ?_⟩
      · rw [hsplit, hrow]
        simp
      · rw [KeyedTable.rows_erase]
        simp

/-- A rule is stored under its own name. -/
lemma name_of_lookup {rules : RuleTable} {name : String} {rule : ProxyRule}
    (h : (rules.lookup name).map (ProxyRuleRow.toRule J) = some rule) : rule.name = name :=
  name_of_stored (s := .boot rules) h

/-- Both versions of the rule have the name of the change. -/
lemma Change.Edits.names {c : Change} {rules rules' : RuleTable} (h : c.Edits J rules rules') :
    (∀ old, c.old = some old → old.name = c.name) ∧ ∀ new, c.new = some new → new.name = c.name := by
  cases h with
  | insert hins => exact ⟨by simp, by simp⟩
  | modify _ hold hname => exact ⟨by simpa using name_of_lookup hold, by simpa using hname⟩
  | erase hold => exact ⟨by simpa using name_of_lookup hold, by simp⟩

/-- The other rules have other names. -/
lemma Change.Edits.others {c : Change} {rules : RuleTable} (h : c.Edits J s.rules rules) :
    Others ProxyRule.name c.old c.new (s.earlier J c.name ++ s.later J c.name) := by
  intro r hr x hx
  have hname : r.name = c.name := hr.elim (h.names.1 r) (h.names.2 r)
  rw [hname]
  rcases List.mem_append.mp hx with hx | hx
  · obtain ⟨row, hrow, rfl⟩ := List.mem_map.mp hx
    have hne : row.name ≠ c.name := KeyedTable.ne_of_mem_before hrow
    exact hne
  · obtain ⟨row, hrow, rfl⟩ := List.mem_map.mp hx
    have hne : row.name ≠ c.name := KeyedTable.ne_of_mem_after hrow
    exact hne

/-! ## Start-up -/

/-- The entries that are loaded are those of the stored rules. -/
lemma map_entryOf (runtime : Runtime) (db : RuleTable) :
    (db.rows.map fun row => entryOf runtime (row.toRule J)).map ProxyEntry.rule = ruleList J db := by
  rw [List.map_map]
  rfl

/-- Without reserved ports, none is blocked. -/
lemma takeFree_reserved_nil (rule : ProxyRule) (held : ProxyType × UInt16 → Option ProxyRule) :
    takeFree Wants (Reserved []) rule held = takeFree Wants (fun _ => False) rule held := by
  funext port
  simp [takeFree, Reserved]

/-- The rules of the list up to here have been started. -/
def Opening (J : DomainsJson) (db : RuleTable) (rest : List ProxyEntry) (s : ControlState) : Prop :=
  s.rules = db ∧ ∃ done, ruleList J db = done ++ rest.map ProxyEntry.rule ∧
    Occupies s (firstCome Wants done) ∧ s.domainRoutes = lastCome ListsDomain done

/-- One more rule is started in the order of the table. -/
lemma Opening.step {db : RuleTable} {entry : ProxyEntry} {rest : List ProxyEntry}
    {outcomes : Stream' Bool}
    (hok : semantics.along (bindsByPort []) (startExisting entry) outcomes s = true)
    (h : Opening J db (entry :: rest) s) :
    Opening J db rest (semantics.run (startExisting entry) outcomes s).2.2 := by
  obtain ⟨hrules, done, hlist, hports, hdomains⟩ := h
  have hname : ∀ t ∈ s.tasks, t.name ≠ entry.rule.name := by
    apply hports.name_ne
    intro port r hr hn
    have hnodup := ruleList_names J db
    rw [hlist, List.map_append] at hnodup
    have hdisjoint := List.disjoint_of_nodup_append hnodup
    apply hdisjoint (List.mem_map_of_mem (of_firstCome hr).1)
    rw [hn]
    simp
  obtain ⟨hrules', hroutes'⟩ := Prod.mk.inj (table_startProxyListener entry.rule outcomes s)
  rw [startExisting, along_bind] at hok
  have hports' := occupies_startProxyListener hports hname hok.1
  rw [takeFree_reserved_nil, ← firstCome_concat] at hports'
  rw [startExisting, run_bind]
  refine ⟨hrules'.trans hrules, done ++ [entry.rule], ?_, hports'.of_eq rfl rfl, ?_⟩
  · rw [hlist]
    simp
  · refine hroutes'.trans ((congrArg (startRoutes entry.rule) hdomains).trans ?_)
    rw [startRoutes_eq_takeOver, lastCome_concat]

/-- The routes of the rules up to here have been registered once more. -/
def Rerouting (J : DomainsJson) (db : RuleTable) (rest : List ProxyEntry) (s : ControlState) : Prop :=
  Occupies s (firstCome Wants (ruleList J db)) ∧
    ∃ done, ruleList J db = done ++ rest.map ProxyEntry.rule ∧
      s.domainRoutes = lastCome ListsDomain (ruleList J db ++ done)

/-- One more rule is routed in the order of the table. -/
lemma Rerouting.step {db : RuleTable} {entry : ProxyEntry} {rest : List ProxyEntry}
    (h : Rerouting J db (entry :: rest) s) (outcomes : Stream' Bool) :
    Rerouting J db rest (semantics.run (registerExisting entry) outcomes s).2.2 := by
  obtain ⟨hports, done, hlist, hdomains⟩ := h
  obtain ⟨-, hroutes'⟩ := Prod.mk.inj (routes_registerExisting entry outcomes s)
  refine ⟨?_, done ++ [entry.rule], ?_, ?_⟩
  · unfold registerExisting
    cases entry.rule.proxyType <;> exact hports.of_eq rfl rfl
  · rw [hlist]
    simp
  · refine hroutes'.trans ((congrArg (startRoutes entry.rule) hdomains).trans ?_)
    rw [startRoutes_eq_takeOver, ← lastCome_concat, List.append_assoc]

/-- A fresh start-up gives a port to the first rule of the database that asks for it and a domain to
the last rule that lists it. -/
theorem occupies_startUp {db : RuleTable} {outcomes : Stream' Bool}
    (hok : semantics.along (bindsByPort []) (startUp J) outcomes (.boot db) = true) :
    Occupies (started J db outcomes) (firstCome Wants (ruleList J db)) ∧
      (started J db outcomes).domainRoutes = lastCome ListsDomain (ruleList J db) := by
  obtain ⟨outcomes₁, hload⟩ := run_loadFromDb (J := J) db outcomes
  rw [startUp, along_bind, hload, along_bind] at hok
  obtain ⟨-, hstart, -⟩ := hok
  rw [started, startUp, run_bind, hload, run_bind]
  dsimp only at hstart ⊢
  obtain ⟨outcomes₂, hlist⟩ := run_listProxies (J := J) outcomes₁ (loaded db)
  rw [startExistingListeners, along_bind, hlist] at hstart
  have hopening :
      Opening J db [] (semantics.run (startExistingListeners J) outcomes₁ (loaded db)).2.2 := by
    rw [startExistingListeners, run_bind, hlist]
    apply run_forM_along (fun entry rest outcomes s hok h => h.step hok) _ outcomes₂ hstart.2
    exact ⟨rfl, [], (map_entryOf (loaded db).runtime db).symm, occupies_none rfl rfl, rfl⟩
  generalize semantics.run (startExistingListeners J) outcomes₁ (loaded db) = out at hopening
  obtain ⟨hrules, done, hdone, hports, hdomains⟩ := hopening
  rw [List.map_nil, List.append_nil] at hdone
  subst hdone
  obtain ⟨outcomes₃, hlist'⟩ := run_listProxies (J := J) out.2.1 out.2.2
  rw [registerExistingDomainRoutes, run_bind, hlist', hrules]
  have hrerouting : Rerouting J db (db.rows.map fun row => entryOf out.2.2.runtime (row.toRule J))
      out.2.2 :=
    ⟨hports, [], (map_entryOf out.2.2.runtime db).symm, by rw [List.append_nil]; exact hdomains⟩
  obtain ⟨hports', done, hdone, hdomains'⟩ := run_forM semantics
    (fun entry rest outcomes s (h : Rerouting J db (entry :: rest) s) => h.step outcomes) _ outcomes₃
    hrerouting
  refine ⟨hports', hdomains'.trans ?_⟩
  rw [List.map_nil, List.append_nil] at hdone
  subst hdone
  funext d
  rw [lastCome_append, Option.or_self]

/-! ## The step -/

/-- The server has what a fresh start-up on its database would have. -/
structure Arranged (J : DomainsJson) (reserved : List UInt16) (s : ControlState) : Prop where
  settled : ∀ n, Settled J n s
  ports : Occupies s (firstCome Wants (ruleList J s.rules))
  domains : s.domainRoutes = lastCome ListsDomain (ruleList J s.rules)
  unreserved : ∀ r ∈ ruleList J s.rules, ∀ port, Wants r port → ¬ Reserved reserved port

/-- A step with ports is a request whose binds succeed exactly on free ports. -/
lemma portStep_eq_some {call : ApiCall} (h : portStep T J reserved s call = some s') :
    semantics.along (bindsByPort reserved) (handle T J call.req) call.outcomes s = true ∧
      (semantics.run (handle T J call.req) call.outcomes s).2.2 = s' := by
  unfold portStep requestStep at h
  split at h
  case isTrue hok => exact ⟨hok, Option.some.inj h⟩
  case isFalse => cases h

/-- A task of the name of a change is one of its old version. -/
lemma Arranged.old_of_task (h : Arranged J reserved s) {c : Change} {rules : RuleTable}
    (hedits : c.Edits J s.rules rules) {task : ListenerTask} (htask : task ∈ s.tasks)
    (hname : task.name = c.name) : ∃ old, c.old = some old ∧ old.proxyType.isStream = true := by
  obtain ⟨-, -, -, -, hlistener⟩ := listener_of_task h.settled htask
  obtain ⟨rule, hstored, -, -, hstream, -⟩ := rule_of_listener h.settled hlistener
  rw [hname] at hstored
  unfold ControlState.stored at hstored
  generalize s.rules = before at hedits hstored
  cases hedits with
  | insert hins =>
      have hnone := KeyedTable.lookup_of_insert hins
      rw [ProxyRuleRow.ofRule_name] at hnone
      rw [hnone] at hstored
      cases hstored
  | modify _ hold | erase hold =>
      obtain rfl := Option.some.inj (hold.symm.trans hstored)
      exact ⟨_, rfl, hstream⟩

/-- What a request does to rules, listeners and routes. -/
theorem Arranged.step (h : Arranged J reserved s) {call : ApiCall}
    (hstep : portStep T J reserved s call = some s') :
    (∀ n, Settled J n s') ∧
    match change T J s call.outcomes call.req with
    | none => s'.services = s.services
    | some c => c.Edits J s.rules s'.rules ∧
        Occupies s' (replaceFree ProxyRule.name Wants (Reserved reserved) c.old c.new
          (firstCome Wants (ruleList J s.rules))) ∧
        s'.domainRoutes = replaceOver ListsDomain c.old c.new
          (lastCome ListsDomain (ruleList J s.rules)) := by
  obtain ⟨hok, rfl⟩ := portStep_eq_some hstep
  refine ⟨settled_handle h.settled call.req call.outcomes, ?_⟩
  have happlies := applies_handle (T := T) (J := J) call.req call.outcomes s
  have hchanged := changed_handle (T := T) (J := J) call.req call.outcomes s
  cases hchange : change T J s call.outcomes call.req with
  | none =>
      rw [hchange] at happlies
      exact happlies
  | some c =>
      rw [hchange] at happlies hchanged
      obtain ⟨k, outcomes, s₁, hreach, hk, hedits, hsame⟩ := happlies
      have hok₁ := hreach.along hok
      rw [along_bind] at hok₁
      have hports₁ : Occupies s₁ (firstCome Wants (ruleList J s.rules)) :=
        h.ports.of_eq (congrArg (fun t => t.1) hsame) (congrArg (fun t => t.2.2.1) hsame)
      have htask : ∀ t ∈ s₁.tasks, t.name = c.name →
          ∃ old, c.old = some old ∧ old.proxyType.isStream = true := by
        intro t ht hname
        rw [show s₁.tasks = s.tasks from congrArg (fun t => t.1) hsame] at ht
        exact h.old_of_task hedits ht hname
      have hports₂ := occupies_callbacks hports₁ hedits.names.1 hedits.names.2 htask hok₁.1
      have hservices := hk (semantics.run c.callbacks outcomes s₁).1
        (semantics.run c.callbacks outcomes s₁).2.1 (semantics.run c.callbacks outcomes s₁).2.2
      have hrules₂ := congrArg Prod.fst (table_callbacks c outcomes s₁)
      rw [hreach.run_eq, run_bind] at hchanged ⊢
      refine ⟨?_, hports₂.of_eq (congrArg (fun t => t.2.1) hservices)
        (congrArg (fun t => t.2.2.2.1) hservices), ?_⟩
      · have hrules := (congrArg Prod.fst hservices).trans hrules₂
        exact Eq.mpr (congrArg (c.Edits J s.rules) hrules) hedits
      · rw [hchanged.2, h.domains, Change.routes_eq_replaceOver]

/-! ## Comparing two servers -/

/-- The same table of ports means the same listeners. -/
lemma Occupies.listening_subset (h : Occupies s held) (h' : Occupies u held)
    (listener : String × ProxyType × UInt16 × String) (hmem : listener ∈ s.listening) :
    listener ∈ u.listening := by
  obtain ⟨task, htask, rfl⟩ := List.mem_map.mp hmem
  obtain ⟨rule, hheld, hname, htype, hport, hclient⟩ := h.of_task task htask
  obtain ⟨-, task', htask', hname', htype', hport', hclient'⟩ := h'.of_held _ rule hheld
  apply List.mem_map.mpr
  refine ⟨task', htask', ?_⟩
  rw [hname, hname', htype, htype', hport, hport', hclient, hclient']

/-- What listens in one server has its port in the other one, under the same name. -/
lemma Occupies.held_of_listening (h : Occupies s held) (h' : Occupies u held')
    (hsub : ∀ listener ∈ s.listening, listener ∈ u.listening) {port : ProxyType × UInt16}
    {rule : ProxyRule} (hheld : held port = some rule) :
    ∃ rule', held' port = some rule' ∧ rule.name = rule'.name := by
  obtain ⟨⟨-, -, rfl⟩, task, htask, hname, htype, hport, hclient⟩ := h.of_held port rule hheld
  obtain ⟨task', htask', heq⟩ := List.mem_map.mp (hsub _ (List.mem_map_of_mem htask))
  simp only [Prod.mk.injEq] at heq
  obtain ⟨hname', htype', hport', -⟩ := heq
  obtain ⟨rule', hheld', hname'', -⟩ := h'.of_task task' htask'
  rw [htype', hport', htype, hport] at hheld'
  refine ⟨rule', hheld', ?_⟩
  rw [← hname, ← hname', hname'']

/-- The same listeners mean the same table of ports, if both tables are made of the same rules. -/
lemma Occupies.eq_of_listening (h : Occupies s held) (h' : Occupies u held') {rules : RuleTable}
    (hmem : ∀ port rule, held port = some rule → rule ∈ ruleList J rules)
    (hmem' : ∀ port rule, held' port = some rule → rule ∈ ruleList J rules)
    (hsame : ∀ listener, listener ∈ s.listening ↔ listener ∈ u.listening) : held = held' := by
  funext port
  cases hport : held port with
  | some rule =>
      obtain ⟨rule', hheld', hname⟩ := h.held_of_listening h' (fun l => (hsame l).mp) hport
      rw [hheld', eq_of_mem_ruleList (hmem port rule hport) (hmem' port rule' hheld') hname]
  | none =>
      cases hport' : held' port with
      | none => rfl
      | some rule' =>
          obtain ⟨rule, hheld, -⟩ := h'.held_of_listening h (fun l => (hsame l).mpr) hport'
          cases hport.symm.trans hheld

/-- A server that has what a fresh start-up would have equals every fresh one. -/
lemma Arranged.restartEquivalent (h : Arranged J reserved s) : RestartEquivalent J s := by
  intro outcomes hok
  obtain ⟨hports, hdomains⟩ := occupies_startUp hok
  refine ⟨?_, h.domains.trans hdomains.symm⟩
  intro listener
  exact ⟨h.ports.listening_subset hports listener, hports.listening_subset h.ports listener⟩

/-- Binds can go by the ports. -/
lemma exists_bindsByPort (reserved : List UInt16) {β : Type} (op : Op β) (s : ControlState) :
    ∃ ok, bindsByPort reserved op ok s = true := by
  cases op with
  | bindAndSpawn name proxyType remotePort clientId => exact ⟨_, beq_self_eq_true _⟩
  | _ => exact ⟨true, rfl⟩

/-! ## The theorem -/

/-- A change that keeps the order leads to what a fresh start-up would have. -/
lemma Arranged.of_keepsOrder (h : Arranged J reserved s) {call : ApiCall}
    (hkeeps : KeepsOrder T J reserved s call) (hstep : portStep T J reserved s call = some s') :
    Arranged J reserved s' := by
  obtain ⟨hsettled, hcases⟩ := h.step hstep
  cases hchange : change T J s call.outcomes call.req with
  | none =>
      rw [hchange] at hcases
      have hrules : s'.rules = s.rules := congrArg Prod.fst hcases
      have hdomains : s'.domainRoutes = s.domainRoutes := congrArg (fun t => t.2.2.2.2) hcases
      refine ⟨hsettled, ?_, ?_, ?_⟩
      · rw [hrules]
        exact h.ports.of_eq (congrArg (fun t => t.2.1) hcases) (congrArg (fun t => t.2.2.2.1) hcases)
      · rw [hrules, hdomains]
        exact h.domains
      · rw [hrules]
        exact h.unreserved
  | some c =>
      rw [hchange] at hcases
      obtain ⟨hedits, hports, hdomains⟩ := hcases
      obtain ⟨hkeptPorts, hkeptDomains⟩ := hkeeps c hchange
      obtain ⟨hbefore, hafter⟩ := hedits.ruleList
      have hunreserved := h.unreserved
      rw [hbefore] at hports hdomains hunreserved
      rw [(firstCome_replace_iff hedits.others hunreserved).mpr hkeptPorts, ← hafter] at hports
      rw [(lastCome_replace_iff hedits.others).mpr hkeptDomains, ← hafter] at hdomains
      refine ⟨hsettled, hports, hdomains, ?_⟩
      rw [hafter]
      intro r hr port hwants
      by_cases hnew : c.new = some r
      · exact (hkeptPorts port).2 ⟨r, hnew, hwants⟩
      · apply hunreserved r _ port hwants
        simp only [List.mem_append, Option.mem_toList] at hr ⊢
        tauto

/-- A change that does not keep the order leads away from what a fresh start-up would have. -/
lemma Arranged.keepsOrder (h : Arranged J reserved s) {call : ApiCall}
    (hstep : portStep T J reserved s call = some s') (hrestart : RestartEquivalent J s') :
    KeepsOrder T J reserved s call := by
  intro c hchange
  obtain ⟨-, hcases⟩ := h.step hstep
  rw [hchange] at hcases
  obtain ⟨hedits, hports, hdomains⟩ := hcases
  obtain ⟨hbefore, hafter⟩ := hedits.ruleList
  obtain ⟨outcomes, hok⟩ := semantics.exists_along (exists_bindsByPort []) (startUp J) (.boot s'.rules)
  obtain ⟨hsame, hroutes⟩ := hrestart outcomes hok
  obtain ⟨hports', hdomains'⟩ := occupies_startUp hok
  have hunreserved := h.unreserved
  rw [hbefore] at hports hdomains hunreserved
  have hmem : ∀ port rule, replaceFree ProxyRule.name Wants (Reserved reserved) c.old c.new
      (firstCome Wants (s.earlier J c.name ++ c.old.toList ++ s.later J c.name)) port = some rule →
      rule ∈ ruleList J s'.rules := by
    intro port rule hrule
    rw [hafter]
    rcases of_replaceFree hrule with hnew | ⟨hheld, hold⟩
    · simp [hnew]
    · have hmem := (of_firstCome hheld).1
      simp only [List.mem_append, Option.mem_toList] at hmem ⊢
      rcases hmem with (hmem | hmem) | hmem
      · exact Or.inl (Or.inl hmem)
      · exact absurd rfl (hold rule hmem)
      · exact Or.inr hmem
  have hheld := hports.eq_of_listening hports' hmem (fun _ _ hrule => (of_firstCome hrule).1) hsame
  rw [hafter] at hheld hdomains'
  refine ⟨(firstCome_replace_iff hedits.others hunreserved).mp hheld, ?_⟩
  apply (lastCome_replace_iff hedits.others).mp
  rw [← hdomains, hroutes, hdomains']

end

/-- A server without rules. -/
lemma arranged_empty (J : DomainsJson) (reserved : List UInt16) (outcomes : Stream' Bool) :
    Arranged J reserved (started J .empty outcomes) where
  settled := settled_startUp .empty outcomes
  ports := occupies_none rfl rfl
  domains := rfl
  unreserved := by
    rw [rules_started]
    exact fun r hr => absurd hr List.not_mem_nil

/-- From an empty database and over any requests, each run to its end, with binds that fail exactly on
ports that a live listener of the server has: the listeners and the domain routes are those of a
fresh start-up on the same database in every state exactly when every change keeps the order. -/
theorem restartEquivalent_iff (T : StdText) (J : DomainsJson) (reserved : List UInt16)
    (outcomes : Stream' Bool) (calls : List ApiCall) :
    Always (portStep T J reserved) (RestartEquivalent J) (started J .empty outcomes) calls ↔
      EachStep (portStep T J reserved) (KeepsOrder T J reserved) (started J .empty outcomes) calls := by
  have hstart := arranged_empty J reserved outcomes
  apply always_iff_eachStep (I := fun s => Arranged J reserved s) _ _ _ hstart
  · exact fun s h => h.restartEquivalent
  · exact fun s call s' h hkeeps hstep => h.of_keepsOrder hkeeps hstep
  · exact fun s call s' h hbad hstep hrestart => hbad (h.keepsOrder hstep hrestart)

/-- Of two rules that list one domain the first is deleted: nothing is routed any more, and a fresh
start-up routes the domain to the second. -/
theorem restart_reroutes :
    ¬ ∀ (T : StdText) (J : DomainsJson) (reserved : List UInt16) (outcomes : Stream' Bool)
      (calls : List ApiCall),
      Always (portStep T J reserved) (RestartEquivalent J) (started J .empty outcomes) calls := by
  intro h
  have hrun : ((exec (portStep asciiText DomainsText.domainsText [])
      (started DomainsText.domainsText .empty fun _ => true) sharedCalls).map fun s =>
        (semantics.along (bindsByPort []) (startUp DomainsText.domainsText) (fun _ => true)
          (.boot s.rules), s.domainRoutes "b.example",
          (started DomainsText.domainsText s.rules fun _ => true).domainRoutes "b.example")) =
      some (true, none, some ((createShared "b").rule .http)) := by decide +kernel
  obtain ⟨s, hexec, hs⟩ := Option.map_eq_some_iff.mp hrun
  obtain ⟨hok, hs⟩ := Prod.mk.inj hs
  obtain ⟨hnone, hsome⟩ := Prod.mk.inj hs
  have hrestart := (h asciiText DomainsText.domainsText [] (fun _ => true) sharedCalls).last hexec
  have hroutes := (hrestart _ hok).2
  rw [hroutes, hsome] at hnone
  cases hnone

end RustProxy.Control
