import RustProxy.Core.Config
import RustProxy.Foundation.KeyedTable
import RustProxy.Foundation.Program
import RustProxy.Proto.Message
import Mathlib.Logic.Function.Basic

/-!
# The state of the control plane

What the API handlers, the start-up of `crates/server/src/main.rs` and their callbacks share, and the
actions they perform on it.

* The state is the database, the runtime map of the proxy manager, and the listener map and domain
  routes of the listener manager.  `tasks` are the listener tasks that have been spawned and not
  ended: a `JoinHandle` in `listeners` is one of them, a handle that was overwritten is not lost from
  `tasks`.
* An `Op` is what a handler does between two awaits: one SQL statement, or one critical section of a
  lock.  Its outcome says whether a statement that writes, a `bind` or a notification succeeds; a
  `SELECT` succeeds always.
-/

namespace RustProxy.Control

open RustProxy.Core RustProxy.Proto

/-- A spawned listener task with what its closure has captured. -/
structure ListenerTask where
  id : ℕ
  name : String
  proxyType : ProxyType
  remotePort : UInt16
  clientId : String
  deriving DecidableEq, Repr

/-- The table `proxy_rules`; its primary key is the name. -/
abbrev RuleTable := KeyedTable ProxyRuleRow ProxyRuleRow.name

/-- The runtime map.  Source: `proxy_manager.rs`, `ProxyManager::runtime`. -/
abbrev Runtime := String → Option RuntimeState

/-- The shared state; the fields of `ProxyManager` and `ProxyListenerManager` that rules are kept in,
and the messages handed to the clients' sessions. -/
structure ControlState where
  rules : RuleTable
  runtime : Runtime
  tasks : List ListenerTask
  nextTask : ℕ
  listeners : String → Option ListenerTask
  domainRoutes : String → Option ProxyRule
  notified : List (String × ControlMessage)

/-- A server that has opened its database. -/
def ControlState.boot (db : RuleTable) : ControlState where
  rules := db
  runtime := fun _ => none
  tasks := []
  nextTask := 0
  listeners := fun _ => none
  domainRoutes := fun _ => none
  notified := []

/-- The atomic actions, by the type of their response. -/
inductive Op : Type → Type where
  /-- `SELECT .. WHERE name = ?1` -/
  | selectRow (name : String) : Op (Option ProxyRuleRow)
  /-- `SELECT ..` -/
  | selectRows : Op (List ProxyRuleRow)
  /-- `INSERT INTO proxy_rules ..`; `false` is an error. -/
  | insertRow (row : ProxyRuleRow) : Op Bool
  /-- `UPDATE proxy_rules SET .. WHERE name = ?1`; the number of rows affected. -/
  | updateRow (name : String) (row : ProxyRuleRow) : Op (Option ℕ)
  /-- `DELETE FROM proxy_rules WHERE name = ?1` -/
  | deleteRow (name : String) : Op Bool
  /-- `self.runtime.read()` -/
  | readRuntime : Op Runtime
  | insertRuntime (name : String) (rt : RuntimeState) : Op Unit
  | removeRuntime (name : String) : Op Unit
  /-- The loop of `load_from_db` under the write guard. -/
  | loadRuntime (names : List String) : Op Unit
  /-- The critical section of `update_status`. -/
  | setStatus (name : String) (status : ProxyStatus) : Op Unit
  /-- `TcpListener::bind` or `UdpSocket::bind`, and the `tokio::spawn` that follows it. -/
  | bindAndSpawn (name : String) (proxyType : ProxyType) (remotePort : UInt16)
      (clientId : String) : Op (Option ListenerTask)
  | insertListener (name : String) (handle : ListenerTask) : Op Unit
  | removeListener (name : String) : Op (Option ListenerTask)
  /-- `handle.abort()` and `handle.await`, which returns when the task has ended. -/
  | abortAndAwait (handle : ListenerTask) : Op Unit
  /-- The loop of `register_domain_route` under the write guard. -/
  | insertRoutes (rule : ProxyRule) : Op Unit
  /-- The loop of `unregister_domain_route` under the write guard. -/
  | removeRoutes (rule : ProxyRule) : Op Unit
  | notify (clientId : String) (msg : ControlMessage) : Op Bool

/-- Source: `proxy_listener.rs`, the loop of `register_domain_route`. -/
def insertRoutes (rule : ProxyRule) (routes : String → Option ProxyRule) :
    String → Option ProxyRule :=
  rule.customDomains.foldl (fun routes domain => Function.update routes domain (some rule)) routes

/-- Source: `proxy_listener.rs`, the loop of `unregister_domain_route`. -/
def removeRoutes (rule : ProxyRule) (routes : String → Option ProxyRule) :
    String → Option ProxyRule :=
  rule.customDomains.foldl (fun routes domain => Function.update routes domain none) routes

/-- Source: `proxy_manager.rs`, the loop of `load_from_db`. -/
def loadRuntime (names : List String) (runtime : Runtime) : Runtime :=
  names.foldl (fun runtime name =>
    if (runtime name).isSome then runtime
    else Function.update runtime name (some RuntimeState.new)) runtime

/-- The columns an `UPDATE` sets: all but the name. -/
def setColumns (new old : ProxyRuleRow) : ProxyRuleRow := { new with name := old.name }

/-- What the actions do. -/
def perform : {β : Type} → Op β → Bool → ControlState → β × ControlState
  | _, .selectRow name, _, s => (s.rules.lookup name, s)
  | _, .selectRows, _, s => (s.rules.rows, s)
  | _, .insertRow row, ok, s =>
      match if ok then s.rules.insert row else none with
      | some rules => (true, { s with rules })
      | none => (false, s)
  | _, .updateRow name row, ok, s =>
      if ok then
        (some (s.rules.affected name),
          { s with rules := s.rules.modify name (setColumns row) fun _ => rfl })
      else (none, s)
  | _, .deleteRow name, ok, s =>
      if ok then (true, { s with rules := s.rules.erase name }) else (false, s)
  | _, .readRuntime, _, s => (s.runtime, s)
  | _, .insertRuntime name rt, _, s =>
      ((), { s with runtime := Function.update s.runtime name (some rt) })
  | _, .removeRuntime name, _, s =>
      ((), { s with runtime := Function.update s.runtime name none })
  | _, .loadRuntime names, _, s => ((), { s with runtime := loadRuntime names s.runtime })
  | _, .setStatus name status, _, s =>
      let entry := (s.runtime name).map fun rt => { rt with status }
      ((), { s with runtime := Function.update s.runtime name entry })
  | _, .bindAndSpawn name proxyType remotePort clientId, ok, s =>
      if ok then
        let task := { id := s.nextTask, name, proxyType, remotePort, clientId }
        (some task, { s with tasks := s.tasks ++ [task], nextTask := s.nextTask + 1 })
      else (none, s)
  | _, .insertListener name handle, _, s =>
      ((), { s with listeners := Function.update s.listeners name (some handle) })
  | _, .removeListener name, _, s =>
      (s.listeners name, { s with listeners := Function.update s.listeners name none })
  | _, .abortAndAwait handle, _, s =>
      ((), { s with tasks := s.tasks.filter fun task => task ≠ handle })
  | _, .insertRoutes rule, _, s => ((), { s with domainRoutes := insertRoutes rule s.domainRoutes })
  | _, .removeRoutes rule, _, s => ((), { s with domainRoutes := removeRoutes rule s.domainRoutes })
  | _, .notify clientId msg, ok, s => (ok, { s with notified := s.notified ++ [(clientId, msg)] })

/-- The actions over the shared state. -/
def semantics : Semantics Op Bool ControlState := ⟨perform⟩

/-- A program of the control plane. -/
abbrev Program := Prog Op

/-! ## Domain routes -/

/-- What is routed after an insertion. -/
lemma insertRoutes_apply (rule : ProxyRule) (routes : String → Option ProxyRule) (d : String) :
    insertRoutes rule routes d = if d ∈ rule.customDomains then some rule else routes d := by
  unfold insertRoutes
  induction rule.customDomains generalizing routes with
  | nil => rfl
  | cons domain domains ih =>
      rw [List.foldl_cons, ih, Function.update_apply]
      by_cases hd : d ∈ domains
      · rw [if_pos hd, if_pos (List.mem_cons_of_mem domain hd)]
      · rw [if_neg hd]
        simp [hd]

/-- What is routed after a removal. -/
lemma removeRoutes_apply (rule : ProxyRule) (routes : String → Option ProxyRule) (d : String) :
    removeRoutes rule routes d = if d ∈ rule.customDomains then none else routes d := by
  unfold removeRoutes
  induction rule.customDomains generalizing routes with
  | nil => rfl
  | cons domain domains ih =>
      rw [List.foldl_cons, ih, Function.update_apply]
      by_cases hd : d ∈ domains
      · rw [if_pos hd, if_pos (List.mem_cons_of_mem domain hd)]
      · rw [if_neg hd]
        simp [hd]

/-- Loading keeps the entries that exist and makes the missing ones. -/
lemma loadRuntime_apply (names : List String) (runtime : Runtime) (n : String) :
    loadRuntime names runtime n =
      if n ∈ names then some ((runtime n).getD .new) else runtime n := by
  unfold loadRuntime
  induction names generalizing runtime with
  | nil => rfl
  | cons name names ih =>
      rw [List.foldl_cons, ih]
      by_cases hname : n = name
      · subst hname
        cases hrt : runtime n <;> simp [hrt]
      · have : (if (runtime name).isSome then runtime
            else Function.update runtime name (some RuntimeState.new)) n = runtime n := by
          split
          · rfl
          · rw [Function.update_of_ne hname]
        rw [this]
        simp [hname]

end RustProxy.Control
