import RustProxy.Control.Routes
import RustProxy.Foundation.Priority

/-!
# Ports and domains as claims

A TCP or UDP rule claims its public port, an HTTP or HTTPS rule its domains.  A port goes to the
first rule that asks for it and stays with it until that rule is stopped; a domain goes to the last
rule that registers it, and stopping any rule that lists it removes the entry (`Priority`).

* `bindsByPort` says that a `bind` fails exactly when a live listener of the server has the port.
* `Occupies` is the refinement relation between the listener manager and the table of ports, and
  `occupies_startProxyListener`, `occupies_stopProxyListener` are its step lemmas.
* `occupies_callbacks` is what a change does to the table of ports, `occupies_startUp` what a start-up
  makes of a database.
-/

namespace RustProxy.Control

open RustProxy.Core Prog Semantics Priority

/-! ## Claims -/

/-- The rule asks for a listener of the protocol on the port. -/
def Wants (rule : ProxyRule) (port : ProxyType × UInt16) : Prop :=
  rule.proxyType.isStream = true ∧ rule.remotePort ≠ 0 ∧ port = (rule.proxyType, rule.remotePort)

instance (rule : ProxyRule) (port : ProxyType × UInt16) : Decidable (Wants rule port) :=
  inferInstanceAs (Decidable (_ ∧ _ ∧ _))

/-- The rule is an HTTP or HTTPS rule and lists the domain. -/
def ListsDomain (rule : ProxyRule) (d : String) : Prop := IsWeb rule ∧ d ∈ rule.customDomains

instance (rule : ProxyRule) (d : String) : Decidable (ListsDomain rule d) :=
  inferInstanceAs (Decidable (_ ∧ _))

/-- One of the server's own listeners (tunnel, panel, shared HTTP and HTTPS) has the port. -/
def Reserved (reserved : List UInt16) (port : ProxyType × UInt16) : Prop :=
  port.1 = .tcp ∧ port.2 ∈ reserved

instance (reserved : List UInt16) (port : ProxyType × UInt16) : Decidable (Reserved reserved port) :=
  inferInstanceAs (Decidable (_ ∧ _))

/-- No live listener of the server has the port. -/
def ControlState.portFree (s : ControlState) (reserved : List UInt16)
    (port : ProxyType × UInt16) : Bool :=
  s.tasks.all (fun task => (task.proxyType, task.remotePort) ≠ port) && !Reserved reserved port

/-- A `bind` fails exactly when a live listener of the server has the port. -/
def bindsByPort (reserved : List UInt16) : {β : Type} → Op β → Bool → ControlState → Bool
  | _, .bindAndSpawn _ proxyType remotePort _, ok, s =>
      ok == s.portFree reserved (proxyType, remotePort)
  | _, _, _, _ => true

variable {J : DomainsJson} {s : ControlState} {reserved : List UInt16}
  {held : ProxyType × UInt16 → Option ProxyRule} {rule : ProxyRule}

/-- A port is free if no task has it and it is not reserved. -/
lemma portFree_eq_true_iff {port : ProxyType × UInt16} : s.portFree reserved port = true ↔
    (∀ task ∈ s.tasks, (task.proxyType, task.remotePort) ≠ port) ∧ ¬ Reserved reserved port := by
  simp [ControlState.portFree]

/-- A rule that is no TCP or UDP rule claims no port. -/
lemma not_wants_of_web {port : ProxyType × UInt16} (h : rule.proxyType.isStream = false) :
    ¬ Wants rule port := by
  rintro ⟨hstream, -⟩
  cases h.symm.trans hstream

/-- A rule without a port takes none. -/
lemma takeFree_of_not_wants {blocked : ProxyType × UInt16 → Prop} [∀ port, Decidable (blocked port)]
    (h : ∀ port, ¬ Wants rule port) : takeFree Wants blocked rule held = held := by
  funext port
  simp [takeFree, h port]

/-! ## The routes are a last-come table -/

/-- Starting a web rule takes over its domains. -/
lemma startRoutes_eq_takeOver (rule : ProxyRule) (routes : String → Option ProxyRule) :
    startRoutes rule routes = takeOver ListsDomain rule routes := by
  funext d
  unfold startRoutes takeOver
  by_cases hweb : IsWeb rule
  · rw [if_pos hweb, insertRoutes_apply]
    simp [ListsDomain, hweb]
  · rw [if_neg hweb]
    simp [ListsDomain, hweb]

/-- Stopping a web rule clears its domains. -/
lemma stopRoutes_eq_clear (rule : ProxyRule) (routes : String → Option ProxyRule) :
    stopRoutes rule routes = clear ListsDomain rule routes := by
  funext d
  unfold stopRoutes clear
  by_cases hweb : IsWeb rule
  · rw [if_pos hweb, removeRoutes_apply]
    simp [ListsDomain, hweb]
  · rw [if_neg hweb]
    simp [ListsDomain, hweb]

/-- A change of a rule replaces its claims on domains. -/
lemma Change.routes_eq_replaceOver (c : Change) (routes : String → Option ProxyRule) :
    c.routes routes = replaceOver ListsDomain c.old c.new routes := by
  unfold Change.routes replaceOver
  cases c.old <;> cases c.new <;> simp [startRoutes_eq_takeOver, stopRoutes_eq_clear]

/-! ## The listeners are a first-come table -/

/-- The listener tasks are the entries of the table of ports, and `listeners` has all of them. -/
structure Occupies (s : ControlState) (held : ProxyType × UInt16 → Option ProxyRule) : Prop where
  of_task : ∀ task ∈ s.tasks, ∃ rule, held (task.proxyType, task.remotePort) = some rule ∧
    task.Serves rule
  of_held : ∀ port rule, held port = some rule → Wants rule port ∧ ∃ task ∈ s.tasks, task.Serves rule
  listeners : ∀ n task, s.listeners n = some task ↔ task ∈ s.tasks ∧ task.name = n

/-- With no task and no listener, no port is held. -/
lemma occupies_none (htasks : s.tasks = []) (hlisteners : s.listeners = fun _ => none) :
    Occupies s fun _ => none where
  of_task := by simp [htasks]
  of_held := by simp
  listeners := by simp [htasks, hlisteners]

/-- What the relation does not speak of may change. -/
lemma Occupies.of_eq {s' : ControlState} (h : Occupies s held) (htasks : s'.tasks = s.tasks)
    (hlisteners : s'.listeners = s.listeners) : Occupies s' held where
  of_task := by
    rw [htasks]
    exact h.of_task
  of_held := by
    rw [htasks]
    exact h.of_held
  listeners := by
    rw [htasks, hlisteners]
    exact h.listeners

/-- A port has an entry when a task listens on it. -/
lemma Occupies.eq_none_iff (h : Occupies s held) (port : ProxyType × UInt16) :
    held port = none ↔ ∀ task ∈ s.tasks, (task.proxyType, task.remotePort) ≠ port := by
  constructor
  · rintro hnone task htask rfl
    obtain ⟨rule, hheld, -⟩ := h.of_task task htask
    cases hnone.symm.trans hheld
  · intro hfree
    cases hport : held port with
    | none => rfl
    | some rule =>
        obtain ⟨⟨-, -, heq⟩, task, htask, -, htype, hnumber, -⟩ := h.of_held port rule hport
        refine absurd ?_ (hfree task htask)
        rw [htype, hnumber, heq]

/-- There is one task for a name. -/
lemma Occupies.task_inj (h : Occupies s held) {task task' : ListenerTask} (htask : task ∈ s.tasks)
    (htask' : task' ∈ s.tasks) (hname : task.name = task'.name) : task = task' := by
  have hlistener := (h.listeners task'.name task).mpr ⟨htask, hname⟩
  have hlistener' := (h.listeners task'.name task').mpr ⟨htask', rfl⟩
  exact Option.some.inj (hlistener.symm.trans hlistener')

/-- A new task on a free port. -/
lemma Occupies.spawn (h : Occupies s held) {task : ListenerTask} (hserves : task.Serves rule)
    (hwants : Wants rule (rule.proxyType, rule.remotePort))
    (hname : ∀ t ∈ s.tasks, t.name ≠ rule.name)
    (hfree : s.portFree reserved (rule.proxyType, rule.remotePort) = true) {s' : ControlState}
    (htasks : s'.tasks = s.tasks ++ [task])
    (hlisteners : s'.listeners = Function.update s.listeners rule.name (some task)) :
    Occupies s' (takeFree Wants (Reserved reserved) rule held) := by
  obtain ⟨hfree, hopen⟩ := portFree_eq_true_iff.mp hfree
  obtain ⟨htaskname, htype, hnumber, -⟩ := id hserves
  have hnone := (h.eq_none_iff _).mpr hfree
  have hself : takeFree Wants (Reserved reserved) rule held (rule.proxyType, rule.remotePort) =
      some rule := by
    simp [takeFree, hnone, hwants, hopen]
  have hother : ∀ port, port ≠ (rule.proxyType, rule.remotePort) →
      takeFree Wants (Reserved reserved) rule held port = held port := by
    intro port hne
    simp [takeFree, Wants, hne]
  refine ⟨?_, ?_, ?_⟩
  · intro t ht
    rw [htasks, List.mem_append, List.mem_singleton] at ht
    rcases ht with ht | rfl
    · rw [hother _ (hfree t ht)]
      exact h.of_task t ht
    · refine ⟨rule, ?_, hserves⟩
      rw [htype, hnumber]
      exact hself
  · intro port r hr
    rw [htasks]
    by_cases hport : port = (rule.proxyType, rule.remotePort)
    · subst hport
      obtain rfl := Option.some.inj (hself.symm.trans hr)
      exact ⟨hwants, task, by simp, hserves⟩
    · rw [hother port hport] at hr
      obtain ⟨hw, t, ht, ht'⟩ := h.of_held port r hr
      exact ⟨hw, t, List.mem_append_left _ ht, ht'⟩
  · intro n t
    rw [htasks, hlisteners, List.mem_append, List.mem_singleton]
    by_cases hn : n = rule.name
    · subst hn
      rw [Function.update_self]
      constructor
      · intro ht
        cases ht
        exact ⟨Or.inr rfl, htaskname⟩
      · rintro ⟨ht | rfl, hn⟩
        · exact absurd hn (hname t ht)
        · rfl
    · rw [Function.update_of_ne hn, h.listeners]
      constructor
      · rintro ⟨ht, rfl⟩
        exact ⟨Or.inl ht, rfl⟩
      · rintro ⟨ht | rfl, rfl⟩
        · exact ⟨ht, rfl⟩
        · exact absurd htaskname hn

/-- A `bind` by the state of the ports, and what follows it. -/
lemma occupies_startStreamListener (h : Occupies s held) (hstream : rule.proxyType.isStream = true)
    (hport : rule.remotePort ≠ 0) (hname : ∀ t ∈ s.tasks, t.name ≠ rule.name) {outcomes : Stream' Bool}
    (hok : semantics.along (bindsByPort reserved)
      (startStreamListener rule.proxyType rule.name rule.remotePort rule.clientId) outcomes s = true) :
    Occupies (semantics.run (startStreamListener rule.proxyType rule.name rule.remotePort rule.clientId)
      outcomes s).2.2 (takeFree Wants (Reserved reserved) rule held) := by
  have hwants : Wants rule (rule.proxyType, rule.remotePort) := ⟨hstream, hport, rfl⟩
  rw [startStreamListener, lift_bind, along_call] at hok
  have hbind : outcomes.head = s.portFree reserved (rule.proxyType, rule.remotePort) := by
    simpa [bindsByPort] using hok.1
  rw [startStreamListener, lift_bind, run_call]
  cases hhead : outcomes.head with
  | false =>
      have htaken : ¬ (held (rule.proxyType, rule.remotePort) = none ∧
          ¬ Reserved reserved (rule.proxyType, rule.remotePort)) := by
        rw [h.eq_none_iff, ← portFree_eq_true_iff, ← hbind, hhead]
        exact Bool.false_ne_true
      have hsame : takeFree Wants (Reserved reserved) rule held = held := by
        funext port
        refine if_neg ?_
        rintro ⟨hnone, ⟨-, -, rfl⟩, hopen⟩
        exact htaken ⟨hnone, hopen⟩
      rw [hsame]
      exact h
  | true =>
      rw [hhead] at hbind
      exact h.spawn ⟨rfl, rfl, rfl, rfl⟩ hwants hname hbind.symm rfl rfl

/-- Starting a rule claims its port. -/
lemma occupies_startProxyListener (h : Occupies s held) (hname : ∀ t ∈ s.tasks, t.name ≠ rule.name)
    {outcomes : Stream' Bool}
    (hok : semantics.along (bindsByPort reserved) (startProxyListener rule) outcomes s = true) :
    Occupies (semantics.run (startProxyListener rule) outcomes s).2.2
      (takeFree Wants (Reserved reserved) rule held) := by
  have hstart := fun hstream hport hok =>
    @occupies_startStreamListener s reserved held rule h hstream hport hname outcomes hok
  unfold startProxyListener at hok ⊢
  revert hok
  cases htype : rule.proxyType with
  | tcp | udp =>
      intro hok
      dsimp only at hok ⊢
      by_cases hport : rule.remotePort = 0
      · have hnone : ∀ port, ¬ Wants rule port := fun port hwants => hwants.2.1 hport
        rw [if_pos hport, takeFree_of_not_wants hnone]
        exact h
      · rw [htype] at hstart
        rw [if_neg hport] at hok ⊢
        exact hstart rfl hport hok
  | http | https =>
      intro _
      rw [takeFree_of_not_wants fun port => not_wants_of_web (by rw [htype]; rfl)]
      exact h.of_eq rfl rfl

/-- A name that has no listener. -/
lemma Occupies.leave_eq_self (h : Occupies s held) {n : String} (hname : ∀ t ∈ s.tasks, t.name ≠ n) :
    leave ProxyRule.name n held = held := by
  funext port
  cases hport : held port with
  | none => simp [leave, hport]
  | some r =>
      obtain ⟨-, task, htask, hserves⟩ := h.of_held port r hport
      have hne : r.name ≠ n := fun hn => hname task htask (hserves.1.trans hn)
      simp [leave, hport, hne]

/-- The task of a name is taken out of `listeners` and ended. -/
lemma Occupies.stop (h : Occupies s held) {n : String} {task : ListenerTask}
    (htask : s.listeners n = some task) {s' : ControlState}
    (htasks : s'.tasks = s.tasks.filter fun t => t ≠ task)
    (hlisteners : s'.listeners = Function.update s.listeners n none) :
    Occupies s' (leave ProxyRule.name n held) := by
  obtain ⟨hmem, hname⟩ := (h.listeners n task).mp htask
  have hkept : ∀ t ∈ s.tasks, t ≠ task ↔ t.name ≠ n := by
    intro t ht
    constructor
    · rintro hne rfl
      exact hne (h.task_inj ht hmem hname.symm)
    · rintro hne rfl
      exact hne hname
  refine ⟨?_, ?_, ?_⟩
  · intro t ht
    rw [htasks, List.mem_filter, decide_eq_true_eq] at ht
    obtain ⟨rule, hheld, hserves⟩ := h.of_task t ht.1
    have hne : rule.name ≠ n := fun hn => (hkept t ht.1).mp ht.2 (hserves.1.trans hn)
    exact ⟨rule, by simp [leave, hheld, hne], hserves⟩
  · intro port r hr
    obtain ⟨hheld, hne⟩ := Option.filter_eq_some_iff.mp hr
    obtain ⟨hwants, t, ht, hserves⟩ := h.of_held port r hheld
    refine ⟨hwants, t, ?_, hserves⟩
    rw [htasks, List.mem_filter, decide_eq_true_eq]
    refine ⟨ht, (hkept t ht).mpr ?_⟩
    rw [hserves.1]
    simpa using hne
  · intro m t
    rw [htasks, hlisteners, List.mem_filter, decide_eq_true_eq]
    by_cases hm : m = n
    · subst hm
      rw [Function.update_self]
      constructor
      · intro ht
        cases ht
      · rintro ⟨⟨ht, hne⟩, hn⟩
        exact absurd hn ((hkept t ht).mp hne)
    · rw [Function.update_of_ne hm, h.listeners]
      constructor
      · rintro ⟨ht, rfl⟩
        exact ⟨⟨ht, (hkept t ht).mpr hm⟩, rfl⟩
      · rintro ⟨⟨ht, -⟩, rfl⟩
        exact ⟨ht, rfl⟩

/-- Whatever the listener of a name listened on becomes free. -/
lemma occupies_stopListener (h : Occupies s held) (n : String) (outcomes : Stream' Bool) :
    Occupies (semantics.run (stopListener n) outcomes s).2.2 (leave ProxyRule.name n held) := by
  rw [stopListener, lift_bind, run_call]
  dsimp only [semantics, perform]
  cases hlistener : s.listeners n with
  | none =>
      have hname : ∀ t ∈ s.tasks, t.name ≠ n := by
        intro t ht hn
        cases hlistener.symm.trans ((h.listeners n t).mpr ⟨ht, hn⟩)
      rw [h.leave_eq_self hname]
      refine h.of_eq rfl ?_
      exact Function.update_eq_self_iff.mpr hlistener.symm
  | some task => exact h.stop hlistener rfl rfl

/-- Stopping a rule frees its port; an HTTP or HTTPS rule has none. -/
lemma occupies_stopProxyListener (h : Occupies s held)
    (hweb : rule.proxyType.isStream = false → ∀ t ∈ s.tasks, t.name ≠ rule.name)
    (outcomes : Stream' Bool) :
    Occupies (semantics.run (stopProxyListener rule) outcomes s).2.2
      (leave ProxyRule.name rule.name held) := by
  unfold stopProxyListener
  cases htype : rule.proxyType with
  | tcp | udp => exact occupies_stopListener h rule.name outcomes
  | http | https =>
      rw [h.leave_eq_self (hweb (by rw [htype]; rfl))]
      exact h.of_eq rfl rfl

/-! ## The callbacks -/

/-- A creation takes the port of the rule, if that is free. -/
lemma occupies_onProxyCreate (h : Occupies s held) (hname : ∀ t ∈ s.tasks, t.name ≠ rule.name)
    {outcomes : Stream' Bool}
    (hok : semantics.along (bindsByPort reserved) (onProxyCreate rule) outcomes s = true) :
    Occupies (semantics.run (onProxyCreate rule) outcomes s).2.2
      (takeFree Wants (Reserved reserved) rule held) := by
  rw [onProxyCreate, along_bind, along_bind] at hok
  rw [onProxyCreate, run_bind, run_bind]
  have hstatus : Occupies (semantics.run (updateStatus rule.name .starting) outcomes s).2.2 held :=
    h.of_eq rfl rfl
  exact (occupies_startProxyListener hstatus hname hok.2.1).of_eq rfl rfl

/-- A deletion leaves the port of the rule. -/
lemma occupies_onProxyDelete (h : Occupies s held)
    (hweb : rule.proxyType.isStream = false → ∀ t ∈ s.tasks, t.name ≠ rule.name)
    (outcomes : Stream' Bool) :
    Occupies (semantics.run (onProxyDelete rule) outcomes s).2.2
      (leave ProxyRule.name rule.name held) := by
  rw [onProxyDelete, run_bind, run_bind]
  have hstatus : Occupies (semantics.run (updateStatus rule.name .stopping) outcomes s).2.2 held :=
    h.of_eq rfl rfl
  exact (occupies_stopProxyListener hstatus hweb _).of_eq rfl rfl

/-- A name that has left the table has no task. -/
lemma Occupies.name_ne (h : Occupies s held) {n : String}
    (hheld : ∀ port r, held port = some r → r.name ≠ n) : ∀ t ∈ s.tasks, t.name ≠ n := by
  intro t ht hn
  obtain ⟨r, hr, hserves⟩ := h.of_task t ht
  exact hheld _ r hr (hserves.1.symm.trans hn)

/-- The callbacks of a change replace the old version of the rule in the table of ports. -/
theorem occupies_callbacks (h : Occupies s held) {c : Change}
    (hold : ∀ old, c.old = some old → old.name = c.name)
    (hnew : ∀ new, c.new = some new → new.name = c.name)
    (htask : ∀ t ∈ s.tasks, t.name = c.name →
      ∃ old, c.old = some old ∧ old.proxyType.isStream = true)
    {outcomes : Stream' Bool}
    (hok : semantics.along (bindsByPort reserved) c.callbacks outcomes s = true) :
    Occupies (semantics.run c.callbacks outcomes s).2.2
      (replaceFree ProxyRule.name Wants (Reserved reserved) c.old c.new held) := by
  obtain ⟨name, old, new⟩ := c
  rw [Change.callbacks, along_bind] at hok
  rw [Change.callbacks, run_bind]
  have hstopped : Occupies (semantics.run (old.elim (return ()) onProxyDelete) outcomes s).2.2
      (old.elim id (fun r => leave ProxyRule.name r.name) held) ∧
      ∀ port r, old.elim id (fun r => leave ProxyRule.name r.name) held port = some r →
        r.name ≠ name := by
    cases old with
    | none =>
        refine ⟨h, fun port r hr hn => ?_⟩
        obtain ⟨-, t, ht, hserves⟩ := h.of_held port r hr
        obtain ⟨old, hold', -⟩ := htask t ht (hserves.1.trans hn)
        cases hold'
    | some old =>
        have hname : old.name = name := hold old rfl
        refine ⟨occupies_onProxyDelete h ?_ outcomes, fun port r hr => ?_⟩
        · intro hweb t ht hn
          obtain ⟨old', hold', hstream⟩ := htask t ht (hn.trans hname)
          cases hold'
          cases hweb.symm.trans hstream
        · rw [← hname]
          simpa using (Option.filter_eq_some_iff.mp hr).2
  cases new with
  | none => exact hstopped.1
  | some new =>
      refine occupies_onProxyCreate hstopped.1 (hstopped.1.name_ne ?_) hok.2
      rw [hnew new rfl]
      exact hstopped.2

end RustProxy.Control
