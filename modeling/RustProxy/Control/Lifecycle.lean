import RustProxy.Control.Atomicity
import RustProxy.Control.Routes

/-!
# A rule that is gone

What is left of a rule when it has been created, updated any number of times and deleted, by requests
that run one after the other.

* `Elsewhere n` is what requests for the rule `n` leave alone of the other rules.
* `versions` are the versions of rules that requests store, and `Trace` what has become of the domain
  routes while they did.
* `rule_leaves_no_trace`: rules, statuses, listeners and tasks are as they were before; only the routes
  of the domains that a version listed are gone, also where they were another rule's.
-/

namespace RustProxy.Control

open RustProxy.Core Prog Semantics Transition

variable {T : StdText} {J : DomainsJson} {n : String} {s s' s'' : ControlState}

/-! ## The other rules -/

/-- The listeners and tasks of the other rules are the same. -/
structure Elsewhere (n : String) (s s' : ControlState) : Prop where
  listeners : ∀ m ≠ n, s'.listeners m = s.listeners m
  tasks : s'.tasks.filter (fun task => task.name ≠ n) = s.tasks.filter fun task => task.name ≠ n

/-- Nothing has changed elsewhere. -/
lemma Elsewhere.refl (n : String) (s : ControlState) : Elsewhere n s s := ⟨fun _ _ => rfl, rfl⟩

/-- Two changes with none elsewhere, one after the other. -/
lemma Elsewhere.trans (h : Elsewhere n s s') (h' : Elsewhere n s' s'') : Elsewhere n s s'' :=
  ⟨fun m hm => (h'.listeners m hm).trans (h.listeners m hm), h'.tasks.trans h.tasks⟩

/-- What is kept in `services` decides. -/
lemma Elsewhere.of_services {t t' : ControlState} (h : Elsewhere n s s')
    (hs : t.services.2 = s.services.2) (hs' : t'.services.2 = s'.services.2) : Elsewhere n t t' := by
  have hlisteners := congrArg (fun x => x.2.2.1) hs
  have hlisteners' := congrArg (fun x => x.2.2.1) hs'
  have htasks := congrArg Prod.fst hs
  have htasks' := congrArg Prod.fst hs'
  refine ⟨fun m hm => ?_, ?_⟩
  · exact (congrFun hlisteners' m).trans ((h.listeners m hm).trans (congrFun hlisteners m).symm)
  · rw [show t'.tasks = s'.tasks from htasks', show t.tasks = s.tasks from htasks]
    exact h.tasks

/-- A status changes nothing elsewhere. -/
lemma elsewhere_updateStatus (status : ProxyStatus) (s : ControlState) :
    semantics.Ensures (updateStatus n status) s fun _ => Elsewhere n s :=
  ensures_call fun _ => ensures_ret ⟨fun _ _ => rfl, rfl⟩

/-- A task of the rule comes and its handle is kept. -/
lemma elsewhere_startStreamListener (proxyType : ProxyType) (port : UInt16) (clientId : String)
    (s : ControlState) : semantics.Ensures (startStreamListener proxyType n port clientId) s
      fun _ => Elsewhere n s := by
  refine ensures_call fun ok => ?_
  cases ok with
  | false => exact ensures_ret (Elsewhere.refl n s)
  | true =>
      refine ensures_call fun _ => ensures_ret ⟨fun m hm => Function.update_of_ne hm _ _, ?_⟩
      simp [semantics, perform]

/-- Starting the listener of the rule changes nothing elsewhere. -/
lemma elsewhere_startProxyListener {rule : ProxyRule} (hname : rule.name = n) (s : ControlState) :
    semantics.Ensures (startProxyListener rule) s fun _ => Elsewhere n s := by
  subst hname
  unfold startProxyListener
  cases rule.proxyType with
  | tcp | udp =>
      dsimp only
      split
      · exact ensures_ret (Elsewhere.refl _ s)
      · exact elsewhere_startStreamListener _ _ _ s
  | http | https => exact ensures_call fun _ => ensures_ret ⟨fun _ _ => rfl, rfl⟩

/-- The task of the rule goes, if `listeners` has one of that name. -/
lemma elsewhere_stopProxyListener {rule : ProxyRule} (hname : rule.name = n)
    (hown : ∀ task, s.listeners n = some task → task.name = n) :
    semantics.Ensures (stopProxyListener rule) s fun _ => Elsewhere n s := by
  subst hname
  have hstop : semantics.Ensures (stopListener rule.name) s fun _ => Elsewhere rule.name s := by
    refine ensures_call fun _ => ?_
    dsimp only [semantics, perform]
    cases htask : s.listeners rule.name with
    | none => exact ensures_ret ⟨fun m hm => Function.update_of_ne hm _ _, rfl⟩
    | some task =>
        refine ensures_call fun _ => ensures_ret ⟨fun m hm => Function.update_of_ne hm _ _, ?_⟩
        dsimp only [semantics, perform]
        rw [List.filter_filter]
        refine List.filter_congr fun other _ => ?_
        by_cases hother : other.name = rule.name
        · simp [hother]
        · have hne : other ≠ task := by
            rintro rfl
            exact hother (hown _ htask)
          simp [hother, hne]
  unfold stopProxyListener
  cases rule.proxyType with
  | tcp | udp => exact hstop
  | http | https => exact ensures_call fun _ => ensures_ret ⟨fun _ _ => rfl, rfl⟩

/-- The callback of the rule's creation changes nothing elsewhere. -/
lemma elsewhere_onProxyCreate {rule : ProxyRule} (hname : rule.name = n) (s : ControlState) :
    semantics.Ensures (onProxyCreate rule) s fun _ => Elsewhere n s := by
  rw [onProxyCreate, hname]
  refine (elsewhere_updateStatus _ s).bind fun _ s₁ h₁ => ?_
  refine (elsewhere_startProxyListener hname s₁).bind fun _ s₂ h₂ => ?_
  exact (elsewhere_updateStatus _ s₂).mono fun _ _ h₃ => (h₁.trans h₂).trans h₃

/-- The callback of the rule's deletion changes nothing elsewhere, if the task is its own. -/
lemma elsewhere_onProxyDelete {rule : ProxyRule} (hname : rule.name = n)
    (hown : ∀ task, s.listeners n = some task → task.name = n) :
    semantics.Ensures (onProxyDelete rule) s fun _ => Elsewhere n s := by
  rw [onProxyDelete, hname]
  refine ensures_call fun c => ?_
  have h₁ : Elsewhere n s (semantics.perform (.setStatus n .stopping) c s).2 :=
    ⟨fun _ _ => rfl, rfl⟩
  refine Ensures.bind (p := stopProxyListener rule)
    (elsewhere_stopProxyListener hname hown) fun _ s₂ h₂ => ?_
  exact (elsewhere_updateStatus _ s₂).mono fun _ _ h₃ => (h₁.trans h₂).trans h₃

/-- The callbacks of a change of the rule. -/
lemma elsewhere_callbacks {c : Change} (hold : ∀ rule ∈ c.old, rule.name = n)
    (hnew : ∀ rule ∈ c.new, rule.name = n) (hown : ∀ task, s.listeners n = some task → task.name = n) :
    semantics.Ensures c.callbacks s fun _ => Elsewhere n s := by
  have hstop : semantics.Ensures (c.old.elim (return ()) onProxyDelete) s fun _ => Elsewhere n s := by
    cases hc : c.old with
    | none => exact ensures_ret (Elsewhere.refl n s)
    | some old => exact elsewhere_onProxyDelete (hold old hc) hown
  refine hstop.bind fun _ s₁ h₁ => ?_
  cases hc : c.new with
  | none => exact ensures_ret h₁
  | some new => exact (elsewhere_onProxyCreate (hnew new hc) s₁).mono fun _ _ h₂ => h₁.trans h₂

/-! ## One request -/

/-- A statement leaves the rows of the other rules as they are. -/
lemma Change.Edits.erase_eq {c : Change} {rules rules' : RuleTable} (h : c.Edits J rules rules') :
    rules'.erase c.name = rules.erase c.name := by
  cases h with
  | insert hins => exact KeyedTable.erase_insert hins
  | modify hcolumns hold hname => exact KeyedTable.erase_modify _ _ _ hcolumns
  | erase hold => exact KeyedTable.erase_erase _ _

/-- The versions of a change have its name, and the old one is the stored rule. -/
lemma Change.Edits.versions {c : Change} {rules : RuleTable} (h : c.Edits J s.rules rules) :
    (∀ rule ∈ c.old, rule.name = c.name ∧ s.stored J c.name = some rule) ∧
      ∀ rule ∈ c.new, rule.name = c.name := by
  generalize hrules : s.rules = before at h
  cases h with
  | insert hins => exact ⟨nofun, by rintro _ ⟨⟩; rfl⟩
  | modify hcolumns hold hname =>
      subst hrules
      refine ⟨?_, by rintro _ ⟨⟩; exact hname⟩
      rintro _ ⟨⟩
      exact ⟨name_of_stored hold, hold⟩
  | erase hold =>
      subst hrules
      refine ⟨?_, nofun⟩
      rintro _ ⟨⟩
      exact ⟨name_of_stored hold, hold⟩

/-- The handle that `listeners` has for a name is one of its tasks. -/
lemma Settled.own (h : Settled J n s) (task : ListenerTask) (htask : s.listeners n = some task) :
    task.name = n := by
  cases hstored : s.stored J n with
  | none => cases (h.idle hstored).listener.symm.trans htask
  | some rule =>
      obtain ⟨ok, hserving, -⟩ := h.serving hstored
      have hname := name_of_stored hstored
      rw [← hname] at htask ⊢
      exact (hserving.listener task htask).2.1.1

/-- The change of a request is one of its rule. -/
lemma name_of_change {req : ApiRequest} {outcomes : Stream' Bool} {c : Change}
    (h : change T J s outcomes req = some c) : c.name = req.name := by
  cases req with
  | create payload =>
      simp only [change] at h
      split at h
      · cases h
      · split at h <;> cases h
        rfl
  | update name payload =>
      simp only [change] at h
      split at h
      · split at h
        · cases h
        · split at h <;> cases h
          rfl
      · cases h
  | delete name =>
      simp only [change] at h
      split at h
      · split at h <;> cases h
        rfl
      · cases h

/-- What a request for the rule `n` leaves alone. -/
structure Apart (n : String) (s s' : ControlState) : Prop where
  rules : s'.rules.erase n = s.rules.erase n
  runtime : ∀ m ≠ n, s'.runtime m = s.runtime m
  elsewhere : Elsewhere n s s'

/-- The step lemma for the other rules. -/
lemma apart_handle (req : ApiRequest) (outcomes : Stream' Bool) (hs : Settled J req.name s) :
    Apart req.name s (semantics.run (handle T J req) outcomes s).2.2 := by
  have hothers := (handle_allOrNothing T J req outcomes s).2.2
  have happlies := applies_handle (T := T) (J := J) req outcomes s
  cases hchange : change T J s outcomes req with
  | none =>
      rw [hchange] at happlies
      have hrules := congrArg Prod.fst happlies
      refine ⟨congrArg (fun rules : RuleTable => rules.erase req.name) hrules, hothers.runtime, ?_⟩
      exact (Elsewhere.refl req.name s).of_services rfl (congrArg Prod.snd happlies)
  | some c =>
      rw [hchange] at happlies
      obtain ⟨k, outcomes', s₁, hreach, hk, hedits, hsame⟩ := happlies
      have hname := name_of_change hchange
      obtain ⟨hold, hnew⟩ := hedits.versions
      have hown : ∀ task, s₁.listeners c.name = some task → task.name = c.name := by
        intro task htask
        have hlisteners : s₁.listeners = s.listeners := congrArg (fun x => x.2.2.1) hsame
        rw [hlisteners, hname] at htask
        rw [hname]
        exact hs.own task htask
      have hcallbacks := elsewhere_callbacks (fun rule hrule => (hold rule hrule).1) hnew hown outcomes'
      have hrules := congrArg Prod.fst (table_callbacks c outcomes' s₁)
      have hservices := hk (semantics.run c.callbacks outcomes' s₁).1
        (semantics.run c.callbacks outcomes' s₁).2.1 (semantics.run c.callbacks outcomes' s₁).2.2
      refine ⟨?_, hothers.runtime, ?_⟩
      · rw [← hname, ← hedits.erase_eq, hreach.run_eq, run_bind]
        exact congrArg (fun rules : RuleTable => rules.erase c.name)
          ((congrArg Prod.fst hservices).trans hrules)
      · rw [← hname, hreach.run_eq, run_bind]
        exact hcallbacks.of_services hsame.symm (congrArg Prod.snd hservices)

/-- Nothing has changed apart from the rule. -/
lemma Apart.refl (n : String) (s : ControlState) : Apart n s s :=
  ⟨rfl, fun _ _ => rfl, Elsewhere.refl n s⟩

/-- Two changes of the rule, one after the other. -/
lemma Apart.trans (h : Apart n s s') (h' : Apart n s' s'') : Apart n s s'' :=
  ⟨h'.rules.trans h.rules, fun m hm => (h'.runtime m hm).trans (h.runtime m hm),
    h.elsewhere.trans h'.elsewhere⟩

/-! ## The routes -/

/-- A stored rule lists its domains if it is of the web. -/
lemma lists_some {rule : ProxyRule} {d : String} :
    Lists (some rule) d ↔ IsWeb rule ∧ d ∈ rule.customDomains := by
  simp [Lists]

/-- A rule that is not stored lists nothing. -/
lemma not_lists_none (d : String) : ¬ Lists none d := by
  rintro ⟨r, hr, -⟩
  cases hr

/-- The domains that a rule lists are routed to it when it is started. -/
lemma startRoutes_apply (rule : ProxyRule) (routes : String → Option ProxyRule) (d : String) :
    startRoutes rule routes d =
      if IsWeb rule ∧ d ∈ rule.customDomains then some rule else routes d := by
  unfold startRoutes
  by_cases hweb : IsWeb rule <;> simp [hweb, insertRoutes_apply]

/-- The domains that a rule lists are routed nowhere when it is stopped. -/
lemma stopRoutes_apply (rule : ProxyRule) (routes : String → Option ProxyRule) (d : String) :
    stopRoutes rule routes d = if IsWeb rule ∧ d ∈ rule.customDomains then none else routes d := by
  unfold stopRoutes
  by_cases hweb : IsWeb rule <;> simp [hweb, removeRoutes_apply]

/-- A route after a change. -/
inductive RouteAfter (c : Change) (routes : String → Option ProxyRule) (d : String) : Prop
  | new (hnew : Lists c.new d) (h : c.routes routes d = c.new)
  | gone (hnew : ¬ Lists c.new d) (hold : Lists c.old d) (h : c.routes routes d = none)
  | same (hnew : ¬ Lists c.new d) (hold : ¬ Lists c.old d) (h : c.routes routes d = routes d)

/-- What a change makes of a route. -/
lemma routeAfter (c : Change) (routes : String → Option ProxyRule) (d : String) :
    RouteAfter c routes d := by
  have hstop : (Lists c.old d ∧ c.old.elim id stopRoutes routes d = none) ∨
      (¬ Lists c.old d ∧ c.old.elim id stopRoutes routes d = routes d) := by
    cases c.old with
    | none => exact Or.inr ⟨not_lists_none d, rfl⟩
    | some old =>
        rw [lists_some, Option.elim_some, stopRoutes_apply]
        split
        · case isTrue h => exact Or.inl ⟨h, rfl⟩
        · case isFalse h => exact Or.inr ⟨h, rfl⟩
  have hstart : (Lists c.new d ∧ c.routes routes d = c.new) ∨
      (¬ Lists c.new d ∧ c.routes routes d = c.old.elim id stopRoutes routes d) := by
    unfold Change.routes
    cases c.new with
    | none => exact Or.inr ⟨not_lists_none d, rfl⟩
    | some new =>
        rw [lists_some, Option.elim_some, startRoutes_apply]
        split
        · case isTrue h => exact Or.inl ⟨h, rfl⟩
        · case isFalse h => exact Or.inr ⟨h, rfl⟩
  rcases hstart with ⟨hnew, h⟩ | ⟨hnew, h⟩
  · exact .new hnew h
  · rcases hstop with ⟨hold, h'⟩ | ⟨hold, h'⟩
    · exact .gone hnew hold (h.trans h')
    · exact .same hnew hold (h.trans h')

/-- What has become of the state `s` by requests for the rule `n`, whose versions have listed the
domains `listed`. -/
structure Trace (J : DomainsJson) (n : String) (s : ControlState) (listed : String → Prop)
    (s' : ControlState) : Prop where
  apart : Apart n s s'
  settled : ∀ m, Settled J m s'
  current : ∀ d, Lists (s'.stored J n) d → listed d
  free : ∀ d, ¬ listed d → s'.domainRoutes d = s.domainRoutes d
  taken : ∀ d rule, listed d → s'.domainRoutes d = some rule → rule.name = n

/-- The state after a request. -/
def next (T : StdText) (J : DomainsJson) (s : ControlState) (call : ApiCall) : ControlState :=
  (semantics.run (handle T J call.req) call.outcomes s).2.2

/-- The version that a request stores. -/
def version (T : StdText) (J : DomainsJson) (s : ControlState) (call : ApiCall) : Option ProxyRule :=
  (change T J s call.outcomes call.req).bind Change.new

/-- The step lemma. -/
lemma Trace.step {listed : String → Prop} (h : Trace J n s listed s') {call : ApiCall}
    (hcall : call.req.name = n) :
    Trace J n s (fun d => listed d ∨ Lists (version T J s' call) d) (next T J s' call) := by
  have hchanged := changed_handle (T := T) (J := J) call.req call.outcomes s'
  have hapart : Apart n s' (next T J s' call) :=
    hcall ▸ apart_handle call.req call.outcomes (h.settled _)
  have hsettled : ∀ m, Settled J m (next T J s' call) :=
    settled_handle h.settled call.req call.outcomes
  have happlies := applies_handle (T := T) (J := J) call.req call.outcomes s'
  cases hc : change T J s' call.outcomes call.req with
  | none =>
      rw [hc] at hchanged
      obtain ⟨hstored, hroutes⟩ := hchanged
      have hversion : ∀ d, ¬ Lists (version T J s' call) d := by
        rw [version, hc]
        exact not_lists_none
      refine ⟨h.apart.trans hapart, hsettled, fun d hd => ?_, fun d hd => ?_, fun d rule hd hr => ?_⟩
      · rw [next, hstored] at hd
        exact Or.inl (h.current d hd)
      · rw [next, hroutes]
        exact h.free d fun hlisted => hd (Or.inl hlisted)
      · rw [next, hroutes] at hr
        exact h.taken d rule (hd.resolve_right (hversion d)) hr
  | some c =>
      rw [hc] at hchanged happlies
      obtain ⟨hstored, hroutes⟩ := hchanged
      obtain ⟨k, outcomes', s₁, -, -, hedits, -⟩ := happlies
      have hname : c.name = n := (name_of_change hc).trans hcall
      obtain ⟨hold, hnew⟩ := hedits.versions
      have hversion : version T J s' call = c.new := by
        rw [version, hc]
        rfl
      have hlisted : ∀ d, Lists c.old d → listed d := by
        rintro d ⟨rule, hrule, hd⟩
        exact h.current d ⟨rule, hname ▸ (hold rule hrule).2, hd⟩
      have hnext : ∀ d, (next T J s' call).domainRoutes d = c.routes s'.domainRoutes d :=
        fun d => congrFun hroutes d
      rw [hversion]
      refine ⟨h.apart.trans hapart, hsettled, fun d hd => ?_, fun d hd => ?_, fun d rule hd hr => ?_⟩
      · rw [next, hstored, hname, Function.update_self] at hd
        exact Or.inr hd
      · rw [hnext]
        cases routeAfter c s'.domainRoutes d with
        | new hn _ => exact absurd (Or.inr hn) hd
        | gone _ ho _ => exact absurd (Or.inl (hlisted d ho)) hd
        | same _ _ hsame => exact hsame.trans (h.free d fun hl => hd (Or.inl hl))
      · rw [hnext] at hr
        cases routeAfter c s'.domainRoutes d with
        | new _ hroute => exact (hnew rule (hroute.symm.trans hr)).trans hname
        | gone _ _ hroute => cases hroute.symm.trans hr
        | same hn _ hsame => exact h.taken d rule (hd.resolve_right hn) (hsame.symm.trans hr)

/-! ## The whole life of a rule -/

/-- The versions that requests store. -/
def versions (T : StdText) (J : DomainsJson) : ControlState → List ApiCall → List ProxyRule
  | _, [] => []
  | s, first :: rest => (version T J s first).toList ++ versions T J (next T J s first) rest

/-- The run lemma. -/
lemma Trace.run {listed : String → Prop} (h : Trace J n s listed s') {calls : List ApiCall}
    (hcalls : ∀ call ∈ calls, call.req.name = n)
    (hrun : exec (requestStep T J) s' calls = some s'') :
    Trace J n s (fun d => listed d ∨ ∃ rule ∈ versions T J s' calls, Lists (some rule) d) s'' := by
  induction calls generalizing s' listed with
  | nil =>
      cases hrun
      simpa [versions] using h
  | cons call calls ih =>
      obtain ⟨s₁, hstep, hrest⟩ := exec_cons_eq_some.mp hrun
      obtain rfl : next T J s' call = s₁ := Option.some.inj hstep
      have hmine := List.forall_mem_cons.mp hcalls
      have htrace := ih (h.step (T := T) hmine.1) hmine.2 hrest
      convert htrace using 2 with d
      rw [versions]
      cases version T J s' call with
      | none => simp [not_lists_none]
      | some rule => simp [or_assoc]

/-- A rule that is not stored has left no trace yet. -/
lemma trace_refl (hs : ∀ m, Settled J m s) (habsent : s.stored J n = none) :
    Trace J n s (fun _ => False) s where
  apart := Apart.refl n s
  settled := hs
  current d hd := by
    obtain ⟨r, hr, -⟩ := hd
    cases habsent.symm.trans hr
  free _ _ := rfl
  taken _ _ hd := hd.elim

/-- Rules without a row have nothing else either, so that what is apart from one is everything. -/
lemma Apart.eq_of_absent (h : Apart n s s') (hs : Settled J n s) (hs' : Settled J n s')
    (habsent : s.stored J n = none) (hgone : s'.stored J n = none) :
    s'.rules = s.rules ∧ s'.runtime = s.runtime ∧ s'.listeners = s.listeners ∧
      s'.tasks = s.tasks := by
  have hlookup : ∀ t : ControlState, t.stored J n = none → t.rules.lookup n = none :=
    fun t ht => Option.map_eq_none_iff.mp ht
  have htasks : ∀ t : ControlState, Idle n t → t.tasks.filter (fun task => task.name ≠ n) = t.tasks := by
    intro t hidle
    rw [List.filter_eq_self]
    intro task htask
    exact decide_eq_true (hidle.tasks task htask)
  have hidle := hs.idle habsent
  have hidle' := hs'.idle hgone
  have hruntime : ∀ t : ControlState, Settled J n t → t.stored J n = none → t.runtime n = none := by
    intro t ht hnone
    rw [Settled, hnone] at ht
    exact ht.2
  refine ⟨?_, funext fun m => ?_, funext fun m => ?_, ?_⟩
  · rw [← KeyedTable.erase_of_lookup_none (hlookup s' hgone), h.rules,
      KeyedTable.erase_of_lookup_none (hlookup s habsent)]
  · by_cases hm : m = n
    · rw [hm, hruntime s' hs' hgone, hruntime s hs habsent]
    · exact h.runtime m hm
  · by_cases hm : m = n
    · rw [hm, hidle'.listener, hidle.listener]
    · exact h.elsewhere.listeners m hm
  · rw [← htasks s' hidle', h.elsewhere.tasks, htasks s hidle]

/-- **A rule leaves no trace.**  After any requests, each run to its end, a rule that is not stored is
created, updated and deleted, by any requests and whichever of their writes, binds and notifications
fail.  When it is gone again, the table, the statuses, the listeners and the listener tasks are those
before; and a domain is routed as before, unless an HTTP or HTTPS version of the rule has listed it:
then it is routed no more. -/
theorem rule_leaves_no_trace (T : StdText) (J : DomainsJson) (db : RuleTable)
    (outcomes : Stream' Bool) (before calls : List ApiCall) (n : String) {s s' : ControlState}
    (hbefore : exec (requestStep T J) (started J db outcomes) before = some s)
    (hcalls : ∀ call ∈ calls, call.req.name = n)
    (hrun : exec (requestStep T J) s calls = some s') (habsent : s.stored J n = none)
    (hgone : s'.stored J n = none) :
    (s'.rules = s.rules ∧ s'.runtime = s.runtime ∧ s'.listeners = s.listeners ∧
      s'.tasks = s.tasks) ∧
    ∀ d, s'.domainRoutes d =
      if ∃ rule ∈ versions T J s calls, IsWeb rule ∧ d ∈ rule.customDomains then none
      else s.domainRoutes d := by
  have hs : ∀ m, Settled J m s := by
    refine exec_invariant (I := fun s => ∀ m, Settled J m s) ?_ (settled_startUp db outcomes) hbefore
    rintro s call s' hsettled ⟨⟩
    exact settled_handle hsettled call.req call.outcomes
  have htrace := (trace_refl hs habsent).run hcalls hrun
  refine ⟨htrace.apart.eq_of_absent (hs n) (htrace.settled n) habsent hgone, fun d => ?_⟩
  by_cases hd : ∃ rule ∈ versions T J s calls, IsWeb rule ∧ d ∈ rule.customDomains
  · rw [if_pos hd]
    have hlisted : False ∨ ∃ rule ∈ versions T J s calls, Lists (some rule) d := by
      obtain ⟨rule, hrule, hweb⟩ := hd
      exact Or.inr ⟨rule, hrule, lists_some.mpr hweb⟩
    rw [Option.eq_none_iff_forall_ne_some]
    intro rule hroute
    exact ((htrace.settled n).idle hgone).routes d rule hroute (htrace.taken d rule hlisted hroute)
  · rw [if_neg hd]
    refine htrace.free d ?_
    rintro (hfalse | ⟨rule, hrule, hlisted⟩)
    · exact hfalse
    · exact hd ⟨rule, hrule, lists_some.mp hlisted⟩

/-- The life of a rule that lists the domain of another one. -/
def sharedLife : List ApiCall :=
  [.create (createShared "b"), .update "b" { noFields with localPort := some 9090 },
    .delete "b"].map fun req => { req, outcomes := fun _ => true }

/-- Requests that run one after the other come to an end. -/
lemma exec_requestStep (s : ControlState) (calls : List ApiCall) :
    exec (requestStep T J) s calls = some (calls.foldl (next T J) s) := by
  induction calls generalizing s with
  | nil => rfl
  | cons first rest ih => exact ih (next T J s first)

/-- The other rule is as before, without its route. -/
theorem rule_leaves_no_trace_shared :
    let J := DomainsText.domainsText
    let s := [⟨.create (createShared "a"), fun _ => true⟩].foldl (next asciiText J)
      (started J .empty fun _ => true)
    let s' := sharedLife.foldl (next asciiText J) s
    (s'.rules = s.rules ∧ s'.runtime = s.runtime ∧ s'.listeners = s.listeners ∧
      s'.tasks = s.tasks) ∧
      (s.domainRoutes "b.example").isSome ∧ s'.domainRoutes "b.example" = none := by
  intro J s s'
  have htrace := rule_leaves_no_trace asciiText J .empty (fun _ => true)
    [⟨.create (createShared "a"), fun _ => true⟩] sharedLife "b" 
    (exec_requestStep _ _) (by decide +kernel) (exec_requestStep _ _) (by decide +kernel)
    (by decide +kernel)
  have hlisted : ∃ rule ∈ versions asciiText J s sharedLife,
      IsWeb rule ∧ "b.example" ∈ rule.customDomains := by decide +kernel
  refine ⟨htrace.1, by decide +kernel, ?_⟩
  rw [htrace.2, if_pos hlisted]

end RustProxy.Control
