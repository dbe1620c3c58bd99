import RustProxy.Control.Changes
import RustProxy.Foundation.Transition

/-!
# Routes of rules that share a domain

`domain_routes` has one entry per domain, and nothing keeps two HTTP or HTTPS rules from listing the
same domain.  `unregister_domain_route` removes the entries of a rule's domains whoever they point
at.

* `Change.routes` is what the callbacks of a change do to the routes, and `changed_handle` what a
  request that runs alone does to rules and routes.
* `requestStep` is the server as a transition system: one request after the other, each with outcomes
  of its own.
* `routed_iff_keepsShared`: every domain of a stored rule stays routed exactly when no rule is stopped
  whose domains another stored rule lists.
-/

namespace RustProxy.Control

open RustProxy.Core Prog Semantics Transition

/-- An HTTP or HTTPS rule. -/
def IsWeb (rule : ProxyRule) : Prop := rule.proxyType = .http ∨ rule.proxyType = .https

instance (rule : ProxyRule) : Decidable (IsWeb rule) :=
  inferInstanceAs (Decidable (rule.proxyType = .http ∨ rule.proxyType = .https))

/-- Starting a rule registers the routes of an HTTP or HTTPS rule. -/
def startRoutes (rule : ProxyRule) (routes : String → Option ProxyRule) : String → Option ProxyRule :=
  if IsWeb rule then insertRoutes rule routes else routes

/-- Stopping a rule removes the routes of an HTTP or HTTPS rule. -/
def stopRoutes (rule : ProxyRule) (routes : String → Option ProxyRule) : String → Option ProxyRule :=
  if IsWeb rule then removeRoutes rule routes else routes

/-- The routes after a change: the old version is stopped, then the new one is started. -/
def Change.routes (c : Change) (routes : String → Option ProxyRule) : String → Option ProxyRule :=
  c.new.elim id startRoutes (c.old.elim id stopRoutes routes)

/-- The state `s'` is `s` after the change, as far as rules and routes go. -/
def Changed (J : DomainsJson) (s : ControlState) (c : Option Change) (s' : ControlState) : Prop :=
  match c with
  | none => s'.stored J = s.stored J ∧ s'.domainRoutes = s.domainRoutes
  | some c =>
      s'.stored J = Function.update (s.stored J) c.name c.new ∧
        s'.domainRoutes = c.routes s.domainRoutes

/-! ## The effect of the programs -/

/-- The part of the state that rules and routes are kept in. -/
def ControlState.table (s : ControlState) : RuleTable × (String → Option ProxyRule) :=
  (s.rules, s.domainRoutes)

section

variable {T : StdText} {J : DomainsJson} {α : Type}

/-- Change the routes of a table. -/
def onRoutes (f : (String → Option ProxyRule) → String → Option ProxyRule)
    (t : RuleTable × (String → Option ProxyRule)) : RuleTable × (String → Option ProxyRule) :=
  (t.1, f t.2)

/-- A status leaves stored rules and routes. -/
lemma table_updateStatus (name : String) (status : ProxyStatus) :
    semantics.Transforms ControlState.table (updateStatus name status) id :=
  transforms_lift fun _ _ => rfl

/-- Binding a port leaves stored rules and routes. -/
lemma table_startStreamListener (proxyType : ProxyType) (name : String) (port : UInt16)
    (clientId : String) :
    semantics.Transforms ControlState.table (startStreamListener proxyType name port clientId) id := by
  intro outcomes s
  rw [startStreamListener, lift_bind, run_call]
  cases outcomes.head <;> rfl

/-- Stopping a task leaves stored rules and routes. -/
lemma table_stopListener (name : String) :
    semantics.Transforms ControlState.table (stopListener name) id := by
  intro outcomes s
  rw [stopListener, lift_bind, run_call]
  dsimp only [semantics, perform]
  cases s.listeners name <;> rfl

/-- `start_proxy_listener` registers the routes of an HTTP or HTTPS rule. -/
lemma table_startProxyListener (rule : ProxyRule) :
    semantics.Transforms ControlState.table (startProxyListener rule)
      (onRoutes (startRoutes rule)) := by
  unfold startProxyListener
  cases htype : rule.proxyType with
  | tcp | udp =>
      have hroutes : onRoutes (startRoutes rule) = id := by
        funext t
        simp [onRoutes, startRoutes, IsWeb, htype]
      rw [hroutes]
      dsimp only
      split
      · exact transforms_ret _
      · exact table_startStreamListener _ _ _ _
  | http | https =>
      have hroutes : onRoutes (startRoutes rule) = onRoutes (insertRoutes rule) := by
        funext t
        simp [onRoutes, startRoutes, IsWeb, htype]
      rw [hroutes]
      exact Transforms.bind (g := id) (transforms_lift fun _ _ => rfl) fun _ => transforms_ret _

/-- `stop_proxy_listener` removes the routes of an HTTP or HTTPS rule. -/
lemma table_stopProxyListener (rule : ProxyRule) :
    semantics.Transforms ControlState.table (stopProxyListener rule) (onRoutes (stopRoutes rule)) := by
  unfold stopProxyListener
  cases htype : rule.proxyType with
  | tcp | udp =>
      have hroutes : onRoutes (stopRoutes rule) = id := by
        funext t
        simp [onRoutes, stopRoutes, IsWeb, htype]
      rw [hroutes]
      exact table_stopListener _
  | http | https =>
      have hroutes : onRoutes (stopRoutes rule) = onRoutes (removeRoutes rule) := by
        funext t
        simp [onRoutes, stopRoutes, IsWeb, htype]
      rw [hroutes]
      exact transforms_lift fun _ _ => rfl

/-- A creation changes the routes of a web rule only. -/
lemma table_onProxyCreate (rule : ProxyRule) :
    semantics.Transforms ControlState.table (onProxyCreate rule) (onRoutes (startRoutes rule)) :=
  (table_updateStatus _ _).bind fun _ =>
    Transforms.bind (g := id) (table_startProxyListener rule) fun _ => table_updateStatus _ _

/-- A deletion changes the routes of a web rule only. -/
lemma table_onProxyDelete (rule : ProxyRule) :
    semantics.Transforms ControlState.table (onProxyDelete rule) (onRoutes (stopRoutes rule)) :=
  (table_updateStatus _ _).bind fun _ =>
    Transforms.bind (g := id) (table_stopProxyListener rule) fun _ => table_updateStatus _ _

/-- The callbacks of a change. -/
lemma table_callbacks (c : Change) :
    semantics.Transforms ControlState.table c.callbacks (onRoutes c.routes) := by
  refine Transforms.bind (f := onRoutes (c.old.elim id stopRoutes))
    (g := onRoutes (c.new.elim id startRoutes)) ?_ fun _ => ?_
  · cases c.old with
    | none => exact transforms_ret _
    | some old => exact table_onProxyDelete old
  · cases c.new with
    | none => exact transforms_ret _
    | some new => exact table_onProxyCreate new

/-! ## The effect of a request -/

/-- A request that runs alone changes the rules and the routes as `change` says. -/
theorem changed_handle (req : ApiRequest) (outcomes : Stream' Bool) (s : ControlState) :
    Changed J s (change T J s outcomes req) (semantics.run (handle T J req) outcomes s).2.2 := by
  have happlies := applies_handle (T := T) (J := J) req outcomes s
  cases hchange : change T J s outcomes req with
  | none =>
      rw [hchange] at happlies
      have hrules := congrArg Prod.fst happlies
      have hroutes := congrArg (fun t => t.2.2.2.2) happlies
      exact ⟨congrArg (fun rules n => (rules.lookup n).map (ProxyRuleRow.toRule J)) hrules, hroutes⟩
  | some c =>
      rw [hchange] at happlies
      obtain ⟨k, outcomes', s', hreach, hk, hedits, hsame⟩ := happlies
      have hservices := hk (semantics.run c.callbacks outcomes' s').1
        (semantics.run c.callbacks outcomes' s').2.1 (semantics.run c.callbacks outcomes' s').2.2
      obtain ⟨hrules, hroutes⟩ := Prod.mk.inj (table_callbacks c outcomes' s')
      rw [hreach.run_eq, run_bind]
      have hrules' := (congrArg Prod.fst hservices).trans hrules
      have hroutes' := (congrArg (fun t => t.2.2.2.2) hservices).trans hroutes
      refine ⟨?_, hroutes'.trans (congrArg (fun t => c.routes t.2.2.2) hsame)⟩
      funext n
      refine Eq.trans ?_ (hedits.stored n)
      exact congrArg (fun rules : RuleTable => (rules.lookup n).map (ProxyRuleRow.toRule J)) hrules'

end

/-! ## One request after the other -/

/-- A request with the outcomes it meets. -/
structure ApiCall where
  req : ApiRequest
  outcomes : Stream' Bool

/-- The state after a request that runs to its end before the next. -/
def requestStep (T : StdText) (J : DomainsJson) (s : ControlState) (call : ApiCall) :
    Option ControlState := some (semantics.run (handle T J call.req) call.outcomes s).2.2

/-- The rule is an HTTP or HTTPS rule and lists the domain. -/
def Lists (rule : Option ProxyRule) (d : String) : Prop :=
  ∃ r, rule = some r ∧ IsWeb r ∧ d ∈ r.customDomains

/-- Every domain that a stored HTTP or HTTPS rule lists is routed to a stored rule that lists it. -/
def Routed (J : DomainsJson) (s : ControlState) : Prop :=
  ∀ name d, Lists (s.stored J name) d →
    ∃ r, s.domainRoutes d = some r ∧ s.stored J r.name = some r ∧ d ∈ r.customDomains

/-- When a version of a rule goes, each of its domains that another stored rule lists is listed by the
version that comes. -/
def KeepsShared (T : StdText) (J : DomainsJson) (s : ControlState) (call : ApiCall) : Prop :=
  ∀ c, change T J s call.outcomes call.req = some c → ∀ name d, name ≠ c.name →
    Lists (s.stored J name) d → Lists c.old d → Lists c.new d

section

variable {T : StdText} {J : DomainsJson} {s s' : ControlState}

/-- Every listed domain has an entry. -/
def Covered (J : DomainsJson) (s : ControlState) : Prop :=
  ∀ name d, Lists (s.stored J name) d → (s.domainRoutes d).isSome = true

/-- When all rules are settled, the routes are right exactly if all listed domains are covered. -/
lemma routed_iff_covered (hs : ∀ n, Settled J n s) : Routed J s ↔ Covered J s := by
  constructor
  · intro h name d hlists
    obtain ⟨r, hr, -⟩ := h name d hlists
    rw [hr]
    rfl
  · intro h name d hlists
    obtain ⟨r, hr⟩ := Option.isSome_iff_exists.mp (h name d hlists)
    obtain ⟨hstored, -, hd⟩ := rule_of_route hs hr
    exact ⟨r, hr, hstored, hd⟩

/-- What is routed after a start. -/
lemma startRoutes_isSome (rule : ProxyRule) (routes : String → Option ProxyRule) (d : String) :
    (startRoutes rule routes d).isSome = true ↔ Lists (some rule) d ∨ (routes d).isSome = true := by
  unfold startRoutes
  by_cases hweb : IsWeb rule
  · rw [if_pos hweb, insertRoutes_apply]
    by_cases hd : d ∈ rule.customDomains <;> simp [Lists, hweb, hd]
  · rw [if_neg hweb]
    simp [Lists, hweb]

/-- What is routed after a stop. -/
lemma stopRoutes_isSome (rule : ProxyRule) (routes : String → Option ProxyRule) (d : String) :
    (stopRoutes rule routes d).isSome = true ↔ ¬ Lists (some rule) d ∧ (routes d).isSome = true := by
  unfold stopRoutes
  by_cases hweb : IsWeb rule
  · rw [if_pos hweb, removeRoutes_apply]
    by_cases hd : d ∈ rule.customDomains <;> simp [Lists, hweb, hd]
  · rw [if_neg hweb]
    simp [Lists, hweb]

/-- After a change a domain has an entry if the new version lists it, or the old one does not and it
had one. -/
lemma Change.routes_isSome (c : Change) (routes : String → Option ProxyRule) (d : String) :
    (c.routes routes d).isSome = true ↔
      Lists c.new d ∨ ¬ Lists c.old d ∧ (routes d).isSome = true := by
  have hnone : ¬ Lists none d := by
    rintro ⟨r, hr, -⟩
    cases hr
  obtain ⟨name, old, new⟩ := c
  cases old with
  | none =>
      cases new with
      | none => simp [Change.routes, hnone]
      | some new => simp [Change.routes, hnone, startRoutes_isSome]
  | some old =>
      cases new with
      | none => simp [Change.routes, hnone, stopRoutes_isSome]
      | some new => simp [Change.routes, startRoutes_isSome, stopRoutes_isSome]

/-- A change covers every listed domain exactly when it keeps the shared ones. -/
lemma covered_iff (hs : Covered J s) {c : Change} (h : Changed J s (some c) s') :
    Covered J s' ↔ ∀ name d, name ≠ c.name → Lists (s.stored J name) d → Lists c.old d →
      Lists c.new d := by
  obtain ⟨hstored, hroutes⟩ := h
  constructor
  · intro hs' name d hne hlists hold
    have hcovered := hs' name d (by rw [hstored, Function.update_of_ne hne]; exact hlists)
    rw [hroutes, Change.routes_isSome] at hcovered
    rcases hcovered with hnew | ⟨hnot, -⟩
    · exact hnew
    · exact absurd hold hnot
  · intro hkeeps name d hlists
    rw [hroutes, Change.routes_isSome]
    rw [hstored] at hlists
    by_cases hne : name = c.name
    · subst hne
      rw [Function.update_self] at hlists
      exact Or.inl hlists
    · rw [Function.update_of_ne hne] at hlists
      by_cases hold : Lists c.old d
      · exact Or.inl (hkeeps name d hne hlists hold)
      · exact Or.inr ⟨hold, hs name d hlists⟩

/-- A request that runs alone covers every listed domain exactly when it keeps the shared ones. -/
theorem covered_requestStep_iff (hs : Covered J s) (call : ApiCall)
    (hstep : requestStep T J s call = some s') : Covered J s' ↔ KeepsShared T J s call := by
  cases hstep
  have hchanged := changed_handle (T := T) (J := J) call.req call.outcomes s
  unfold KeepsShared
  cases hchange : change T J s call.outcomes call.req with
  | none =>
      rw [hchange] at hchanged
      obtain ⟨hstored, hroutes⟩ := hchanged
      constructor
      · intro _ c hc
        cases hc
      · intro _ name d hlists
        rw [hroutes]
        rw [hstored] at hlists
        exact hs name d hlists
  | some c =>
      rw [hchange] at hchanged
      rw [covered_iff hs hchanged]
      refine ⟨fun h c' hc' => ?_, fun h => h c rfl⟩
      cases hc'
      exact h

/-! ## Start-up -/

/-- Starting a rule leaves what is stored. -/
lemma rules_startExisting (entry : ProxyEntry) :
    semantics.Transforms ControlState.rules (startExisting entry) id := by
  have htable : semantics.Transforms ControlState.table (startExisting entry)
      (onRoutes (startRoutes entry.rule)) :=
    Transforms.bind (g := id) (table_startProxyListener entry.rule) fun _ => table_updateStatus _ _
  intro outcomes s
  exact congrArg Prod.fst (htable outcomes s)

/-- Starting all rules leaves what is stored. -/
lemma rules_startExistingListeners (db : RuleTable) (outcomes : Stream' Bool) :
    (semantics.run (startExistingListeners J) outcomes (loaded db)).2.2.rules = db := by
  obtain ⟨outcomes', hlist⟩ := run_listProxies (J := J) outcomes (loaded db)
  rw [startExistingListeners, run_bind, hlist]
  refine run_forM semantics (I := fun _ s => s.rules = db) ?_ _ outcomes' rfl
  intro entry _ outcomes s hs
  exact (rules_startExisting entry outcomes s).trans hs

/-- The rules still to be registered, and the domains that are covered already. -/
def Registered (J : DomainsJson) (db : RuleTable) (rest : List ProxyEntry) (s : ControlState) : Prop :=
  s.rules = db ∧ ∀ row ∈ db.rows, ∀ d, Lists (some (row.toRule J)) d →
    (∃ entry ∈ rest, entry.rule = row.toRule J) ∨ (s.domainRoutes d).isSome = true

/-- Registering a rule again routes its domains. -/
lemma routes_registerExisting (entry : ProxyEntry) :
    semantics.Transforms ControlState.table (registerExisting entry)
      (onRoutes (startRoutes entry.rule)) := by
  unfold registerExisting
  cases htype : entry.rule.proxyType with
  | tcp | udp =>
      have hroutes : onRoutes (startRoutes entry.rule) = id := by
        funext t
        simp [onRoutes, startRoutes, IsWeb, htype]
      rw [hroutes]
      exact transforms_ret _
  | http | https =>
      have hroutes : onRoutes (startRoutes entry.rule) = onRoutes (insertRoutes entry.rule) := by
        funext t
        simp [onRoutes, startRoutes, IsWeb, htype]
      rw [hroutes]
      exact transforms_lift fun _ _ => rfl

/-- Start-up leaves the database as it is. -/
theorem rules_started (db : RuleTable) (outcomes : Stream' Bool) :
    (started J db outcomes).rules = db := by
  obtain ⟨outcomes', hload⟩ := run_loadFromDb (J := J) db outcomes
  rw [started, startUp, run_bind, hload, run_bind]
  have hrules := rules_startExistingListeners (J := J) db outcomes'
  generalize semantics.run (startExistingListeners J) outcomes' (loaded db) = out at hrules
  obtain ⟨outcomes₃, hlist⟩ := run_listProxies (J := J) out.2.1 out.2.2
  rw [registerExistingDomainRoutes, run_bind, hlist]
  refine run_forM semantics (I := fun _ s => s.rules = db) ?_ _ outcomes₃ hrules
  intro entry _ outcomes s hs
  exact (congrArg Prod.fst (routes_registerExisting entry outcomes s)).trans hs

/-- One more rule is registered. -/
lemma Registered.step {db : RuleTable} {entry : ProxyEntry} {rest : List ProxyEntry}
    (h : Registered J db (entry :: rest) s) (outcomes : Stream' Bool) :
    Registered J db rest (semantics.run (registerExisting entry) outcomes s).2.2 := by
  obtain ⟨hrules, hcovered⟩ := h
  obtain ⟨hrules', hroutes'⟩ := Prod.mk.inj (routes_registerExisting entry outcomes s)
  refine ⟨hrules'.trans hrules, ?_⟩
  intro row hrow d hlists
  have hsome := startRoutes_isSome entry.rule s.domainRoutes d
  rw [← show _ = startRoutes entry.rule s.domainRoutes from hroutes'] at hsome
  rcases hcovered row hrow d hlists with ⟨other, hother, hrule⟩ | hsome'
  · rcases List.mem_cons.mp hother with rfl | hother
    · exact Or.inr (hsome.mpr (Or.inl (by rw [hrule]; exact hlists)))
    · exact Or.inl ⟨other, hother, hrule⟩
  · exact Or.inr (hsome.mpr (Or.inr hsome'))

/-- Start-up covers every domain that a rule of the database lists. -/
theorem covered_startUp (db : RuleTable) (outcomes : Stream' Bool) :
    Covered J (started J db outcomes) := by
  obtain ⟨outcomes', hload⟩ := run_loadFromDb (J := J) db outcomes
  rw [started, startUp, run_bind, hload, run_bind]
  have hrules := rules_startExistingListeners (J := J) db outcomes'
  generalize (semantics.run (startExistingListeners J) outcomes' (loaded db)).2.2 = s at hrules
  generalize (semantics.run (startExistingListeners J) outcomes' (loaded db)).2.1 = outcomes''
  obtain ⟨outcomes₃, hlist⟩ := run_listProxies (J := J) outcomes'' s
  rw [registerExistingDomainRoutes, run_bind, hlist]
  have hstart : Registered J db (s.rules.rows.map fun row => entryOf s.runtime (row.toRule J)) s := by
    refine ⟨hrules, ?_⟩
    intro row hrow d _
    rw [← hrules] at hrow
    exact Or.inl ⟨_, List.mem_map_of_mem hrow, rfl⟩
  obtain ⟨hrules', hcovered⟩ := run_forM semantics
    (fun entry rest outcomes s (h : Registered J db (entry :: rest) s) => h.step outcomes) _ outcomes₃
    hstart
  rintro name d ⟨rule, hstored, hweb, hd⟩
  obtain ⟨row, hrow, hrule⟩ := Option.map_eq_some_iff.mp hstored
  have hmem := KeyedTable.mem_of_lookup hrow
  rw [hrules'] at hmem
  rcases hcovered row hmem d ⟨rule, by rw [hrule], hweb, hd⟩ with ⟨entry, hentry, -⟩ | hsome
  · cases hentry
  · exact hsome

/-- From any start-up and over any requests, each run to its end, with any outcomes: every domain of
every stored HTTP or HTTPS rule is routed to a stored rule that lists it, exactly when every change
keeps the domains that other stored rules list. -/
theorem routed_iff_keepsShared (T : StdText) (J : DomainsJson) (db : RuleTable)
    (outcomes : Stream' Bool) (calls : List ApiCall) :
    Always (requestStep T J) (Routed J) (started J db outcomes) calls ↔
      EachStep (requestStep T J) (KeepsShared T J) (started J db outcomes) calls := by
  refine always_iff_eachStep (I := fun s => (∀ n, Settled J n s) ∧ Covered J s) ?_ ?_ ?_
    ⟨settled_startUp db outcomes, covered_startUp db outcomes⟩ calls
  · rintro s ⟨hsettled, hcovered⟩
    exact (routed_iff_covered hsettled).mpr hcovered
  · rintro s call s' ⟨hsettled, hcovered⟩ hkeeps hstep
    refine ⟨?_, (covered_requestStep_iff hcovered call hstep).mpr hkeeps⟩
    cases hstep
    exact settled_handle hsettled call.req call.outcomes
  · rintro s call s' ⟨hsettled, hcovered⟩ hbad hstep hrouted
    have hsettled' : ∀ n, Settled J n s' := by
      cases hstep
      exact settled_handle hsettled call.req call.outcomes
    rw [routed_iff_covered hsettled', covered_requestStep_iff hcovered call hstep] at hrouted
    exact hbad hrouted

end

/-! ## Two rules with one domain -/

/-- A request for an HTTP rule of the domain `b.example`. -/
def createShared (name : String) : CreateProxyRequest := { createB with name }

/-- Two rules that list one domain, and the deletion of the first. -/
def sharedCalls : List ApiCall :=
  [.create (createShared "a"), .create (createShared "b"), .delete "a"].map
    fun req => { req, outcomes := fun _ => true }

/-- The deletion of one rule takes the route of the other. -/
theorem deletion_unroutes_other :
    ¬ ∀ (T : StdText) (J : DomainsJson) (db : RuleTable) (outcomes : Stream' Bool)
      (calls : List ApiCall) (s : ControlState),
      exec (requestStep T J) (started J db outcomes) calls = some s → Routed J s := by
  intro h
  have hrun : ((exec (requestStep asciiText DomainsText.domainsText)
      (started DomainsText.domainsText .empty fun _ => true) sharedCalls).map fun s =>
        (s.stored DomainsText.domainsText "b", s.domainRoutes "b.example")) =
      some (some ((createShared "b").rule .http), none) := by decide +kernel
  obtain ⟨s, hexec, hs⟩ := Option.map_eq_some_iff.mp hrun
  obtain ⟨hstored, hroute⟩ := Prod.mk.inj hs
  obtain ⟨r, hr, -⟩ := h asciiText DomainsText.domainsText .empty (fun _ => true) sharedCalls s hexec
    "b" "b.example" ⟨_, hstored, Or.inl rfl, List.mem_cons_self⟩
  cases hroute.symm.trans hr

end RustProxy.Control
