import RustProxy.Control.Api
import RustProxy.Foundation.Ownership

/-!
# Rules one by one

The cells of the control plane are the names of rules: the row of a name, its runtime entry, its entry
in `listeners`, its listener tasks and the routes that point at it.

* `Frame n` says that a step leaves the name `n` alone.  Other rules may take a domain over or remove
  its route, so routes that point at `n` may disappear.
* `Idle n` is a name without listener and routes, `Serving rule ok` what starting a rule leaves
  behind, and `Settled n` the two of them together with the row and the status.
* The specifications of the callbacks are stretches within one cell, with the other requests running:
  `within_onProxyDelete` and `within_onProxyCreate`.
-/

namespace RustProxy.Control

open RustProxy.Core Prog Cells

/-! ## Cells -/

/-- The step leaves the name `n` alone; routes that point at it may be removed or overwritten. -/
structure Frame (n : String) (s s' : ControlState) : Prop where
  rules : s'.rules.lookup n = s.rules.lookup n
  runtime : s'.runtime n = s.runtime n
  listeners : s'.listeners n = s.listeners n
  tasks : ∀ task, task.name = n → (task ∈ s'.tasks ↔ task ∈ s.tasks)
  routes : ∀ d rule, rule.name = n → s'.domainRoutes d = some rule → s.domainRoutes d = some rule

/-- Nothing has changed for the rule. -/
lemma Frame.refl (n : String) (s : ControlState) : Frame n s s :=
  ⟨rfl, rfl, rfl, fun _ _ => Iff.rfl, fun _ _ _ h => h⟩

/-- Two changes with none for the rule, one after the other. -/
lemma Frame.trans {n : String} {s s' s'' : ControlState} (h : Frame n s s') (h' : Frame n s' s'') :
    Frame n s s'' where
  rules := h'.rules.trans h.rules
  runtime := h'.runtime.trans h.runtime
  listeners := h'.listeners.trans h.listeners
  tasks := fun task hname => (h'.tasks task hname).trans (h.tasks task hname)
  routes := fun d rule hname hroute => h.routes d rule hname (h'.routes d rule hname hroute)

/-- The names an action may change something of. -/
def Op.Changes : {β : Type} → Op β → String → Prop
  | _, .insertRow row, n => row.name = n
  | _, .updateRow name _, n => name = n
  | _, .deleteRow name, n => name = n
  | _, .insertRuntime name _, n => name = n
  | _, .removeRuntime name, n => name = n
  | _, .loadRuntime names, n => n ∈ names
  | _, .setStatus name _, n => name = n
  | _, .bindAndSpawn name _ _ _, n => name = n
  | _, .insertListener name _, n => name = n
  | _, .removeListener name, n => name = n
  | _, .abortAndAwait handle, n => handle.name = n
  | _, .insertRoutes rule, n => rule.name = n
  | _, .removeRoutes rule, n => rule.name = n
  | _, _, _ => False

/-- The actions that a callback performs for the rule named `n`. -/
def Op.Local : {β : Type} → String → Op β → Prop
  | _, n, .insertRuntime name _ => name = n
  | _, n, .removeRuntime name => name = n
  | _, n, .setStatus name _ => name = n
  | _, n, .bindAndSpawn name _ _ _ => name = n
  | _, n, .insertListener name _ => name = n
  | _, n, .removeListener name => name = n
  | _, n, .abortAndAwait handle => handle.name = n
  | _, n, .insertRoutes rule => rule.name = n
  | _, n, .removeRoutes rule => rule.name = n
  | _, _, _ => False

/-- An action leaves the names alone that it does not change. -/
theorem frame_perform {β : Type} {n : String} (op : Op β) (h : ¬ op.Changes n) (c : Bool)
    (s : ControlState) : Frame n s (perform op c s).2 := by
  have hrefl := Frame.refl n s
  cases op with
  | selectRow name => exact hrefl
  | selectRows => exact hrefl
  | insertRow row =>
      rw [perform]
      split
      case h_1 rules hins =>
          rw [ite_eq_iff] at hins
          obtain ⟨-, hins⟩ | ⟨-, hins⟩ := hins
          · exact { hrefl with rules := (KeyedTable.lookup_insert hins n).trans (if_neg h) }
          · cases hins
      case h_2 => exact hrefl
  | updateRow name row =>
      rw [perform]
      split
      · have hlookup := KeyedTable.lookup_modify s.rules name (setColumns row) (fun _ => rfl) n
        exact { hrefl with rules := hlookup.trans (if_neg h) }
      · exact hrefl
  | deleteRow name =>
      rw [perform]
      split
      · exact { hrefl with rules := (KeyedTable.lookup_erase _ _ n).trans (if_neg h) }
      · exact hrefl
  | readRuntime => exact hrefl
  | insertRuntime name rt => exact { hrefl with runtime := Function.update_of_ne (Ne.symm h) _ _ }
  | removeRuntime name => exact { hrefl with runtime := Function.update_of_ne (Ne.symm h) _ _ }
  | loadRuntime names => exact { hrefl with runtime := (loadRuntime_apply _ _ n).trans (if_neg h) }
  | setStatus name status => exact { hrefl with runtime := Function.update_of_ne (Ne.symm h) _ _ }
  | bindAndSpawn name proxyType remotePort clientId =>
      rw [perform]
      split
      · refine { hrefl with tasks := ?_ }
        intro task hname
        have hne : task ≠ ⟨s.nextTask, name, proxyType, remotePort, clientId⟩ := by
          rintro rfl
          exact h hname
        simp [hne]
      · exact hrefl
  | insertListener name handle =>
      exact { hrefl with listeners := Function.update_of_ne (Ne.symm h) _ _ }
  | removeListener name =>
      exact { hrefl with listeners := Function.update_of_ne (Ne.symm h) _ _ }
  | abortAndAwait handle =>
      refine { hrefl with tasks := ?_ }
      intro task hname
      have hne : task ≠ handle := by
        rintro rfl
        exact h hname
      simp [perform, hne]
  | insertRoutes rule =>
      refine { hrefl with routes := ?_ }
      intro d r hname hroute
      simp only [perform, insertRoutes_apply] at hroute
      split at hroute
      · cases hroute
        exact absurd hname h
      · exact hroute
  | removeRoutes rule =>
      refine { hrefl with routes := ?_ }
      intro d r hname hroute
      simp only [perform, removeRoutes_apply] at hroute
      split at hroute
      · cases hroute
      · exact hroute
  | notify clientId msg => exact { hrefl with }

/-- A local operation changes its own rule only. -/
lemma Op.Local.eq_of_changes {β : Type} {n m : String} {op : Op β} (h : op.Local n)
    (hm : op.Changes m) : m = n := by
  cases op <;> first | exact h.elim | exact (h.symm.trans hm).symm

/-- The names of rules as cells. -/
def cells : Cells semantics String where
  Frame := Frame
  frame_refl := Frame.refl
  frame_trans := Frame.trans
  Local := Op.Local
  frame_of_local := fun c s hlocal hne =>
    frame_perform _ (fun hm => hne (hlocal.eq_of_changes hm)) c s

/-! ## Assertions about one name -/

/-- The rule stored under a name. -/
def ControlState.stored (J : DomainsJson) (s : ControlState) (n : String) : Option ProxyRule :=
  (s.rules.lookup n).map (ProxyRuleRow.toRule J)

/-- The task was started with the rule's current name, type, port and client. -/
def ListenerTask.Serves (task : ListenerTask) (rule : ProxyRule) : Prop :=
  task.name = rule.name ∧ task.proxyType = rule.proxyType ∧ task.remotePort = rule.remotePort ∧
    task.clientId = rule.clientId

/-- Nothing runs for the name, and no route points at it. -/
structure Idle (n : String) (s : ControlState) : Prop where
  listener : s.listeners n = none
  tasks : ∀ task ∈ s.tasks, task.name ≠ n
  routes : ∀ d rule, s.domainRoutes d = some rule → rule.name ≠ n

/-- What starting the rule, with the result `ok`, leaves behind. -/
structure Serving (rule : ProxyRule) (ok : Bool) (s : ControlState) : Prop where
  listener : ∀ task, s.listeners rule.name = some task →
    task ∈ s.tasks ∧ task.Serves rule ∧ rule.proxyType.isStream = true ∧ ok = true
  listens : ok = true → rule.proxyType.isStream = true → (s.listeners rule.name).isSome
  tasks : ∀ task ∈ s.tasks, task.name = rule.name → s.listeners rule.name = some task
  routes : ∀ d r, s.domainRoutes d = some r → r.name = rule.name →
    r = rule ∧ rule.proxyType.isStream = false ∧ d ∈ rule.customDomains

/-- The row of the name, and whether the runtime map knows it. -/
def Known (n : String) (row : Option ProxyRuleRow) (known : Bool) (s : ControlState) : Prop :=
  s.rules.lookup n = row ∧ (s.runtime n).isSome = known

/-- The name is in order: without a rule nothing is left of it; a rule is `Running` with its listener
or routes, or in `Error` without. -/
def Settled (J : DomainsJson) (n : String) (s : ControlState) : Prop :=
  match s.stored J n with
  | none => Idle n s ∧ s.runtime n = none
  | some rule => ∃ ok rt, s.runtime n = some rt ∧
      rt.status = (if ok then .running else .error) ∧ Serving rule ok s

/-- The status the runtime map has for a name. -/
def ControlState.status (s : ControlState) (n : String) : Option ProxyStatus :=
  (s.runtime n).map RuntimeState.status

/-- What is known of the rule when a name with a stored rule is settled. -/
lemma Settled.serving {J : DomainsJson} {n : String} {rule : ProxyRule} {s : ControlState}
    (h : Settled J n s) (hstored : s.stored J n = some rule) :
    ∃ ok, Serving rule ok s ∧ s.status n = some (if ok then .running else .error) := by
  rw [Settled, hstored] at h
  obtain ⟨ok, rt, hrt, hstatus, hserving⟩ := h
  exact ⟨ok, hserving, by rw [ControlState.status, hrt, Option.map_some, hstatus]⟩

/-- A name without a rule has nothing else. -/
lemma Settled.idle {J : DomainsJson} {n : String} {s : ControlState} (h : Settled J n s)
    (hstored : s.stored J n = none) : Idle n s := by
  rw [Settled, hstored] at h
  exact h.1

/-- An idle rule stays idle. -/
lemma Idle.of_frame {n : String} {s s' : ControlState} (h : Idle n s) (hs : Frame n s s') :
    Idle n s' where
  listener := hs.listeners.trans h.listener
  tasks := fun task ht hname => h.tasks task ((hs.tasks task hname).mp ht) hname
  routes := fun d rule hroute hname => h.routes d rule (hs.routes d rule hname hroute) hname

/-- A serving rule stays serving. -/
lemma Serving.of_frame {rule : ProxyRule} {ok : Bool} {s s' : ControlState} (h : Serving rule ok s)
    (hs : Frame rule.name s s') : Serving rule ok s' where
  listener := fun task ht => by
    rw [hs.listeners] at ht
    obtain ⟨hmem, hserves, hrest⟩ := h.listener task ht
    exact ⟨(hs.tasks task hserves.1).mpr hmem, hserves, hrest⟩
  listens := fun hok hstream => by
    rw [hs.listeners]
    exact h.listens hok hstream
  tasks := fun task ht hname => by
    rw [hs.listeners]
    exact h.tasks task ((hs.tasks task hname).mp ht) hname
  routes := fun d r hroute hname => h.routes d r (hs.routes d r hname hroute) hname

/-- A known rule stays known. -/
lemma Known.of_frame {n : String} {row : Option ProxyRuleRow} {known : Bool} {s s' : ControlState}
    (h : Known n row known s) (hs : Frame n s s') : Known n row known s' :=
  ⟨hs.rules.trans h.1, by rw [hs.runtime]; exact h.2⟩

/-- What is stored of the rule stays. -/
lemma stored_of_frame {J : DomainsJson} {n : String} {s s' : ControlState} (hs : Frame n s s') :
    s'.stored J n = s.stored J n := by
  rw [ControlState.stored, hs.rules, ControlState.stored]

/-- A rule is stored under its own name. -/
lemma name_of_stored {J : DomainsJson} {n : String} {s : ControlState} {rule : ProxyRule}
    (h : s.stored J n = some rule) : rule.name = n := by
  rw [ControlState.stored, Option.map_eq_some_iff] at h
  obtain ⟨row, hrow, rfl⟩ := h
  exact (KeyedTable.key_of_lookup hrow : row.name = n)

/-- A settled rule stays settled. -/
lemma Settled.of_frame {J : DomainsJson} {n : String} {s s' : ControlState} (h : Settled J n s)
    (hs : Frame n s s') : Settled J n s' := by
  rw [Settled, stored_of_frame hs]
  unfold Settled at h
  cases hstored : s.stored J n with
  | none =>
      rw [hstored] at h
      exact ⟨h.1.of_frame hs, hs.runtime.trans h.2⟩
  | some rule =>
      rw [hstored] at h
      obtain ⟨ok, rt, hrt, hstatus, hserving⟩ := h
      have hname := name_of_stored hstored
      refine ⟨ok, rt, hs.runtime.trans hrt, hstatus, hserving.of_frame ?_⟩
      rw [hname]
      exact hs

/-! ## Starting a rule -/

section

variable {n : String} {row : Option ProxyRuleRow} {known ok : Bool} {rule : ProxyRule}
  {s : ControlState}

/-- A rule that could not be started. -/
lemma Idle.serving_false (h : Idle rule.name s) : Serving rule false s where
  listener := fun task ht => by
    rw [h.listener] at ht
    cases ht
  listens := fun hok => by cases hok
  tasks := fun task ht hname => absurd hname (h.tasks task ht)
  routes := fun d r hroute hname => absurd hname (h.routes d r hroute)

/-- A task that has been spawned for the rule and is not registered yet. -/
structure Spawned (rule : ProxyRule) (task : ListenerTask) (s : ControlState) : Prop where
  serves : task.Serves rule
  mem : task ∈ s.tasks
  tasks : ∀ t ∈ s.tasks, t.name = rule.name → t = task
  routes : ∀ d r, s.domainRoutes d = some r → r.name ≠ rule.name

/-- A task that has been spawned stays so. -/
lemma Spawned.of_frame {task : ListenerTask} {s' : ControlState} (h : Spawned rule task s)
    (hs : Frame rule.name s s') : Spawned rule task s' where
  serves := h.serves
  mem := (hs.tasks task h.serves.1).mpr h.mem
  tasks := fun t ht hname => h.tasks t ((hs.tasks t hname).mp ht) hname
  routes := fun d r hroute hname => h.routes d r (hs.routes d r hname hroute) hname

/-- The handle of the task goes into `listeners`. -/
lemma Spawned.serving_true {task : ListenerTask} (h : Spawned rule task s)
    (hstream : rule.proxyType.isStream = true) :
    Serving rule true { s with listeners := Function.update s.listeners rule.name (some task) } where
  listener := fun t ht => by
    obtain rfl : task = t := by simpa using ht
    exact ⟨h.mem, h.serves, hstream, rfl⟩
  listens := fun _ _ => by simp
  tasks := fun t ht hname => by
    rw [h.tasks t ht hname]
    exact Function.update_self _ _ _
  routes := fun d r hroute hname => absurd hname (h.routes d r hroute)

/-- The domains of the rule are routed to it. -/
lemma Idle.serving_true (h : Idle rule.name s) (hstream : rule.proxyType.isStream = false) :
    Serving rule true { s with domainRoutes := insertRoutes rule s.domainRoutes } where
  listener := fun task ht => by
    have : none = some task := h.listener.symm.trans ht
    cases this
  listens := fun _ hs => absurd hs (by rw [hstream]; exact Bool.false_ne_true)
  tasks := fun task ht hname => absurd hname (h.tasks task ht)
  routes := fun d r hroute hname => by
    simp only [insertRoutes_apply] at hroute
    split at hroute
    case isTrue hd =>
        cases hroute
        exact ⟨rfl, hstream, hd⟩
    case isFalse => exact absurd hname (h.routes d r hroute)

/-- The result of starting a rule, with what else is known of its name. -/
def Started (rule : ProxyRule) (row : Option ProxyRuleRow) (known ok : Bool) (s : ControlState) :
    Prop := Serving rule ok s ∧ Known rule.name row known s

/-- What others do leaves a started rule started. -/
lemma stable_started (rule : ProxyRule) (row : Option ProxyRuleRow) (known ok : Bool) :
    cells.Stable rule.name (Started rule row known ok) :=
  fun _ _ h hs => ⟨h.1.of_frame hs, h.2.of_frame hs⟩

/-- A name without listener and routes, with what else is known of it. -/
def Stopped (n : String) (row : Option ProxyRuleRow) (known : Bool) (s : ControlState) : Prop :=
  Idle n s ∧ Known n row known s

/-- What others do leaves a stopped rule stopped. -/
lemma stable_stopped (n : String) (row : Option ProxyRuleRow) (known : Bool) :
    cells.Stable n (Stopped n row known) :=
  fun _ _ h hs => ⟨h.1.of_frame hs, h.2.of_frame hs⟩

/-- Binding its port starts a stream rule. -/
lemma within_startStreamListener (hstream : rule.proxyType.isStream = true)
    (h : Stopped rule.name row known s) :
    cells.Within rule.name (Started rule row known)
      (startStreamListener rule.proxyType rule.name rule.remotePort rule.clientId) s := by
  refine within_call (stable_stopped _ _ _) rfl h ?_
  intro s c h
  cases c with
  | false => exact within_ret (stable_started _ _ _ _) ⟨h.1.serving_false, h.2⟩
  | true =>
      let task : ListenerTask :=
        { id := s.nextTask, name := rule.name, proxyType := rule.proxyType,
          remotePort := rule.remotePort, clientId := rule.clientId }
      have hspawned : Spawned rule task
          { s with tasks := s.tasks ++ [task], nextTask := s.nextTask + 1 } :=
        { serves := ⟨rfl, rfl, rfl, rfl⟩
          mem := List.mem_append_right _ List.mem_cons_self
          tasks := fun t ht hname => by
            rcases List.mem_append.mp ht with ht | ht
            · exact absurd hname (h.1.tasks t ht)
            · exact List.mem_singleton.mp ht
          routes := h.1.routes }
      refine within_call (P := fun s => Spawned rule task s ∧ Known rule.name row known s)
        (fun _ _ h hs => ⟨h.1.of_frame hs, h.2.of_frame hs⟩) rfl ⟨hspawned, h.2⟩
        fun s c h => within_ret (stable_started _ _ _ _) ⟨h.1.serving_true hstream, h.2⟩

/-- Registering its domains starts a web rule. -/
lemma within_registerDomainRoute (hstream : rule.proxyType.isStream = false)
    (h : Stopped rule.name row known s) :
    cells.Within rule.name (fun _ => Started rule row known true) (registerDomainRoute rule) s := by
  exact within_lift (stable_stopped _ _ _) (fun _ => stable_started _ _ _ _) rfl h
    fun s c h => ⟨h.1.serving_true hstream, h.2⟩

/-- Starting a rule of an idle name. -/
theorem within_startProxyListener (h : Stopped rule.name row known s) :
    cells.Within rule.name (Started rule row known) (startProxyListener rule) s := by
  have hfalse : cells.Within rule.name (Started rule row known) (.ret false) s :=
    within_ret (stable_started _ _ _ _) ⟨h.1.serving_false, h.2⟩
  unfold startProxyListener
  cases htype : rule.proxyType with
  | tcp | udp =>
      have hstart := within_startStreamListener (by rw [htype]; rfl) h
      rw [htype] at hstart
      dsimp only
      split
      · exact hfalse
      · exact hstart
  | http | https =>
      refine (within_registerDomainRoute (by rw [htype]; rfl) h).bind fun _ s' h' => ?_
      exact within_ret (stable_started _ _ _ _) h'

/-! ## Stopping a rule -/

/-- A rule that listens has no routes, one that is routed no listener. -/
lemma Serving.routes_of_stream (h : Serving rule ok s) (hstream : rule.proxyType.isStream = true)
    (d : String) (r : ProxyRule) (hroute : s.domainRoutes d = some r) : r.name ≠ rule.name := by
  intro hname
  rw [(h.routes d r hroute hname).2.1] at hstream
  cases hstream

/-- A task that has been taken out of `listeners` and not ended yet. -/
structure Taken (n : String) (task : ListenerTask) (s : ControlState) : Prop where
  listener : s.listeners n = none
  tasks : ∀ t ∈ s.tasks, t.name = n → t = task
  routes : ∀ d r, s.domainRoutes d = some r → r.name ≠ n

/-- A task that has been taken from the map stays so. -/
lemma Taken.of_frame {task : ListenerTask} {s' : ControlState} (h : Taken n task s)
    (hs : Frame n s s') : Taken n task s' where
  listener := hs.listeners.trans h.listener
  tasks := fun t ht hname => h.tasks t ((hs.tasks t hname).mp ht) hname
  routes := fun d r hroute hname => h.routes d r (hs.routes d r hname hroute) hname

/-- The task has ended. -/
lemma Taken.idle {task : ListenerTask} (h : Taken n task s) :
    Idle n { s with tasks := s.tasks.filter fun t => t ≠ task } where
  listener := h.listener
  tasks := fun t ht hname => by
    rw [List.mem_filter, decide_eq_true_eq] at ht
    exact ht.2 (h.tasks t ht.1 hname)
  routes := h.routes

/-- The handle of the rule comes out of `listeners`. -/
lemma Serving.taken {task : ListenerTask} (h : Serving rule ok s)
    (htask : s.listeners rule.name = some task) :
    Taken rule.name task { s with listeners := Function.update s.listeners rule.name none } where
  listener := Function.update_self _ _ _
  tasks := fun t ht hname => Option.some.inj ((h.tasks t ht hname).symm.trans htask)
  routes := h.routes_of_stream (h.listener task htask).2.2.1

/-- There was no handle to take. -/
lemma Serving.idle_of_listener_none (h : Serving rule ok s)
    (hstream : rule.proxyType.isStream = true) (hnone : s.listeners rule.name = none) :
    Idle rule.name { s with listeners := Function.update s.listeners rule.name none } where
  listener := Function.update_self _ _ _
  tasks := fun t ht hname => by
    have := (h.tasks t ht hname).symm.trans hnone
    cases this
  routes := h.routes_of_stream hstream

/-- The routes of the rule are removed. -/
lemma Serving.idle_of_removeRoutes (h : Serving rule ok s)
    (hstream : rule.proxyType.isStream = false) :
    Idle rule.name { s with domainRoutes := removeRoutes rule s.domainRoutes } where
  listener := by
    cases hnone : s.listeners rule.name with
    | none => rfl
    | some task =>
        have htask := (h.listener task hnone).2.2.1
        rw [hstream] at htask
        cases htask
  tasks := fun t ht hname => by
    have := (h.listener t (h.tasks t ht hname)).2.2.1
    rw [hstream] at this
    cases this
  routes := fun d r hroute hname => by
    simp only [removeRoutes_apply] at hroute
    split at hroute
    case isTrue => cases hroute
    case isFalse hd => exact hd (h.routes d r hroute hname).2.2

/-- Stopping its task stops a stream rule. -/
lemma within_stopListener (hstream : rule.proxyType.isStream = true)
    (h : Started rule row known ok s) :
    cells.Within rule.name (fun _ => Stopped rule.name row known) (stopListener rule.name) s := by
  refine within_call (stable_started _ _ _ _) rfl h ?_
  intro s c h
  dsimp only [semantics, perform]
  cases htask : s.listeners rule.name with
  | none =>
      exact within_ret (stable_stopped _ _ _) ⟨h.1.idle_of_listener_none hstream htask, h.2⟩
  | some task =>
      have hname : task.name = rule.name := (h.1.listener task htask).2.1.1
      exact within_lift (P := fun s => Taken rule.name task s ∧ Known rule.name row known s)
        (fun _ _ h hs => ⟨h.1.of_frame hs, h.2.of_frame hs⟩) (fun _ => stable_stopped _ _ _) hname
        ⟨h.1.taken htask, h.2⟩ fun s c h => ⟨h.1.idle, h.2⟩

/-- Removing its domains stops a web rule. -/
lemma within_unregisterDomainRoute (hstream : rule.proxyType.isStream = false)
    (h : Started rule row known ok s) :
    cells.Within rule.name (fun _ => Stopped rule.name row known) (unregisterDomainRoute rule) s :=
  within_lift (stable_started _ _ _ _) (fun _ => stable_stopped _ _ _) rfl h
    fun _ _ h => ⟨h.1.idle_of_removeRoutes hstream, h.2⟩

/-- Stopping a rule leaves its name idle. -/
theorem within_stopProxyListener (h : Started rule row known ok s) :
    cells.Within rule.name (fun _ => Stopped rule.name row known) (stopProxyListener rule) s := by
  unfold stopProxyListener
  cases htype : rule.proxyType with
  | tcp | udp => exact within_stopListener (by rw [htype]; rfl) h
  | http | https => exact within_unregisterDomainRoute (by rw [htype]; rfl) h

/-! ## The runtime entry -/

/-- A stopped rule is entered. -/
lemma within_insertRuntime (rt : RuntimeState) (h : Stopped n row known s) :
    cells.Within n (fun _ => Stopped n row true) (lift (.insertRuntime n rt)) s :=
  within_lift (stable_stopped _ _ _) (fun _ => stable_stopped _ _ _) rfl h
    fun s _ h => ⟨{ h.1 with }, h.2.1, by simp [semantics, perform]⟩

/-- A started rule is taken out of the runtime map. -/
lemma within_removeRuntime (h : Started rule row known ok s) :
    cells.Within rule.name (fun _ => Started rule row false ok) (lift (.removeRuntime rule.name)) s :=
  within_lift (stable_started _ _ _ _) (fun _ => stable_started _ _ _ _) rfl h
    fun s _ h => ⟨{ h.1 with }, h.2.1, by simp [semantics, perform]⟩

/-! ## The callbacks -/

/-- A status neither makes nor removes an entry. -/
lemma isSome_setStatus (runtime : Runtime) (n : String) (status : ProxyStatus) :
    (Function.update runtime n ((runtime n).map fun rt => { rt with status }) n).isSome =
      (runtime n).isSome := by
  rw [Function.update_self, Option.isSome_map]

/-- A status is set on the way; whatever else is known of the name stays. -/
lemma within_updateStatus {P : ControlState → Prop} (status : ProxyStatus)
    (hP : cells.Stable n fun s => P s ∧ Known n row known s)
    (hset : ∀ s runtime, P s → P { s with runtime := runtime }) (h : P s ∧ Known n row known s) :
    cells.Within n (fun _ s => P s ∧ Known n row known s) (updateStatus n status) s := by
  refine within_lift hP (fun _ => hP) rfl h fun s c h => ⟨hset s _ h.1, h.2.1, ?_⟩
  exact (isSome_setStatus s.runtime n status).trans h.2.2

/-- The last status a start sets: the rule is in order. -/
lemma within_finalStatus {J : DomainsJson} {ruleRow : ProxyRuleRow}
    (hrow : ruleRow.toRule J = rule) (h : Started rule (some ruleRow) true ok s) :
    cells.Within rule.name (fun _ => Settled J rule.name)
      (updateStatus rule.name (if ok then .running else .error)) s := by
  refine within_lift (stable_started _ _ _ _) (fun _ _ _ h hs => h.of_frame hs) rfl h ?_
  intro s c h
  obtain ⟨hserving, hlookup, hknown⟩ := h
  obtain ⟨rt, hrt⟩ := Option.isSome_iff_exists.mp hknown
  have hstored : s.stored J rule.name = some rule := by
    rw [ControlState.stored, hlookup, Option.map_some, hrow]
  have hstored' : (semantics.perform (Op.setStatus rule.name (if ok then .running else .error))
      c s).2.stored J rule.name = some rule := hstored
  rw [Settled, hstored']
  refine ⟨ok, { rt with status := if ok then .running else .error }, ?_, rfl, { hserving with }⟩
  simp [semantics, perform, hrt]

/-- The callback of a new rule settles its name. -/
theorem within_onProxyCreate {J : DomainsJson} {ruleRow : ProxyRuleRow}
    (hrow : ruleRow.toRule J = rule) (h : Stopped rule.name (some ruleRow) true s) :
    cells.Within rule.name (fun _ => Settled J rule.name) (onProxyCreate rule) s := by
  refine (within_updateStatus .starting (stable_stopped _ _ _) (fun _ _ h => { h with }) h).bind
    fun _ s h => (within_startProxyListener h).bind ?_
  intro ok s h
  exact within_finalStatus hrow h

/-- The callback of a removed rule leaves its name idle. -/
theorem within_onProxyDelete (h : Started rule row known ok s) :
    cells.Within rule.name (fun _ => Stopped rule.name row known) (onProxyDelete rule) s := by
  refine (within_updateStatus .stopping (stable_started _ _ _ _) (fun _ _ h => { h with }) h).bind
    fun _ s h => (within_stopProxyListener h).bind ?_
  intro _ s h
  exact within_updateStatus .stopped (stable_stopped _ _ _) (fun _ _ h => { h with }) h

end

end RustProxy.Control
