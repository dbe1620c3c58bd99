import RustProxy.Control.Sequential
import RustProxy.Core.DomainsText

/-!
# Requests at the same time

The server of `crates/web` runs every request as a task of its own; the handlers take no lock per
rule, so requests on the same rule interleave at every await.

* `serverStep` lets requests arrive and lets any of them perform its next action; a `bind` succeeds
  only on a port that no listener task holds.
* `orphan_listener` is an update that overlaps with a deletion of the same rule and starts a listener
  for a rule that is gone.
* `agreement_of_inTurn` is what holds otherwise: as long as no statement changes a row that another
  request is still applying, or that has changed since the request read it, the listeners and routes
  agree with the database whenever no request is running.
* Requests that arrive one after the other are in turn (`Alone.inTurn`).
-/

namespace RustProxy.Control

open RustProxy.Core Prog Transition

/-- A `bind` succeeds only on a port that no listener task of the protocol holds; it may fail on a
port that another program holds. -/
def admits : {β : Type} → Op β → Bool → ControlState → Bool
  | _, .bindAndSpawn _ proxyType remotePort _, true, s =>
      s.tasks.all fun task => task.proxyType ≠ proxyType ∨ task.remotePort ≠ remotePort
  | _, _, _, _ => true

/-- The shared state and the requests, running or answered. -/
abbrev Server := Pool Op ApiAnswer Ghost ControlState

/-- A request arrives, or a running one performs its next action. -/
abbrev ServerEvent := PoolEvent ApiRequest Bool

section

variable (T : StdText) (J : DomainsJson)

/-- The next state of the server. -/
def serverStep : Server → ServerEvent → Option Server :=
  Pool.step (requests J) (handle T J) admits

/-- A server that has started up and has no request yet. -/
def accepting (db : RuleTable) (outcomes : Stream' Bool) : Server :=
  { state := started J db outcomes, tasks := [] }

/-- A statement changes a row only when no other request is applying a change of that rule, and an
`UPDATE` or `DELETE` only when the row is still what the request has read. -/
def InTurn (p : Server) (e : ServerEvent) : Prop := Pool.Exclusive (requests J) p e

end

variable {T : StdText} {J : DomainsJson}

/-- A server that has started up has every name settled. -/
lemma inv_accepting (db : RuleTable) (outcomes : Stream' Bool) :
    Pool.Inv (requests J) (accepting J db outcomes) := by
  apply Pool.inv_start
  rw [requests_settled]
  exact fun n => settled_startUp db outcomes n

/-- Every listener task belongs to a stored rule, serves its current version and is the one under its
name in `listeners`; every route points at the current version of a stored rule. -/
structure Agreement (J : DomainsJson) (s : ControlState) : Prop where
  tasks : ∀ task ∈ s.tasks, s.listeners task.name = some task ∧
    ∃ rule, s.stored J task.name = some rule ∧ task.Serves rule
  routes : ∀ d rule, s.domainRoutes d = some rule → s.stored J rule.name = some rule

/-- Rules that are all settled agree with everything else. -/
lemma agreement_of_settled {s : ControlState} (hs : ∀ n, Settled J n s) : Agreement J s where
  tasks := fun task htask => by
    obtain ⟨-, -, -, -, hlistener⟩ := listener_of_task hs htask
    obtain ⟨rule, hstored, -, hserves, -⟩ := rule_of_listener hs hlistener
    exact ⟨hlistener, rule, hstored, hserves⟩
  routes := fun d rule hroute => (rule_of_route hs hroute).1

/-- In every run in which requests change rules in turn, the listeners and routes agree with the
database whenever every request has been answered. -/
theorem agreement_of_inTurn (T : StdText) (J : DomainsJson) (db : RuleTable)
    (outcomes : Stream' Bool) (events : List ServerEvent)
    (hturn : EachStep (serverStep T J) (InTurn J) (accepting J db outcomes) events) :
    Always (serverStep T J) (fun p => p.Quiescent → Agreement J p.state)
      (accepting J db outcomes) events := by
  refine always_of_eachStep (I := Pool.Inv (requests J))
    (fun p hp hq => agreement_of_settled (hp.settled_of_quiescent hq))
    (fun p e p' hp hok hstep => Pool.inv_step safe_handle hp hok hstep)
    (inv_accepting db outcomes) hturn

/-- A request that changes the public port and nothing else. -/
def movePort (port : UInt16) : UpdateProxyRequest where
  proxyType := none
  clientId := none
  localIp := none
  localPort := none
  remotePort := some port
  customDomains := none
  proxyProtocol := none

open DomainsText

instance (p : Server) (e : ServerEvent) : Decidable (InTurn J p e) :=
  inferInstanceAs (Decidable (Pool.Exclusive (requests J) p e))

/-- An update of one rule and the creation of another, action by action. -/
def pairRun : List ServerEvent :=
  [.arrive (.update "a" (movePort 8081)), .arrive (.create createB)] ++
    (List.replicate 10 [.step 0 true, .step 1 true]).flatten ++ List.replicate 4 (.step 0 true)

/-- Requests on different rules are in turn. -/
theorem agreement_of_inTurn_sample :
    (exec (serverStep asciiText domainsText) (accepting domainsText oneRule fun _ => true)
      pairRun).map (fun p => decide p.Quiescent) = some true ∧
    Always (serverStep asciiText domainsText) (fun p => p.Quiescent → Agreement domainsText p.state)
      (accepting domainsText oneRule fun _ => true) pairRun :=
  ⟨by decide +kernel, agreement_of_inTurn asciiText domainsText oneRule (fun _ => true) pairRun
    (by decide +kernel)⟩

/-! ## An update that overlaps with a deletion -/

/-- The update has stored the new port when the deletion runs to its end, and then starts its
listener. -/
def orphanRun : List ServerEvent :=
  [.arrive (.update "a" (movePort 8081)), .arrive (.delete "a"), .step 1 true, .step 1 true] ++
    List.replicate 3 (.step 0 true) ++ List.replicate 9 (.step 1 true) ++
    List.replicate 9 (.step 0 true)

/-- When both requests have been answered, the listener of the deleted rule runs. -/
theorem orphan_listener :
    ∃ p, exec (serverStep asciiText domainsText) (accepting domainsText oneRule fun _ => true)
        orphanRun = some p ∧
      p.Quiescent ∧ ∃ task ∈ p.state.tasks, p.state.stored domainsText task.name = none := by
  have hrun : ((exec (serverStep asciiText domainsText)
      (accepting domainsText oneRule fun _ => true) orphanRun).map fun p =>
        (decide p.Quiescent, p.state.tasks, p.state.stored domainsText "a")) =
      some (true, [⟨1, "a", .tcp, 8081, "c"⟩], none) := by decide +kernel
  obtain ⟨p, hexec, hp⟩ := Option.map_eq_some_iff.mp hrun
  rw [Prod.mk.injEq, Prod.mk.injEq, decide_eq_true_eq] at hp
  obtain ⟨hquiescent, htasks, hstored⟩ := hp
  exact ⟨p, hexec, hquiescent, _, by rw [htasks]; exact List.mem_cons_self, hstored⟩

/-! ## Requests one after the other -/

/-- A request arrives only when all requests before it have been answered. -/
def OneAtATime (p : Server) : ServerEvent → Prop
  | .arrive _ => p.Quiescent
  | .step _ _ => True

instance (p : Server) : ∀ e : ServerEvent, Decidable (OneAtATime p e)
  | .arrive _ => inferInstanceAs (Decidable p.Quiescent)
  | .step _ _ => .isTrue trivial

/-- At most one request is running, and what it has read is still there. -/
structure Alone (J : DomainsJson) (p : Server) : Prop where
  inv : Pool.Inv (requests J) p
  only : ∀ (i j : ℕ) (t u : PoolTask Op ApiAnswer Ghost), p.tasks[i]? = some t →
    p.tasks[j]? = some u → t.prog.result? = none → u.prog.result? = none → i = j
  fresh : ∀ t ∈ p.tasks, t.prog.result? = none → t.ghost.Fresh J p.state

variable {p p' : Server} {e : ServerEvent}

/-- When the server accepts requests, none is under way. -/
lemma alone_accepting (db : RuleTable) (outcomes : Stream' Bool) :
    Alone J (accepting J db outcomes) where
  inv := inv_accepting db outcomes
  only := fun i j t u ht => by cases ht
  fresh := fun t ht => by cases ht

/-- A request that has been answered holds no rule. -/
lemma Alone.free (h : Alone J p) {t : PoolTask Op ApiAnswer Ghost} (ht : t ∈ p.tasks)
    (hdone : t.prog.result? ≠ none) (n : String) : t.ghost.applying ≠ some n := by
  have hsafe := h.inv.safe t ht
  cases hprog : t.prog with
  | ret a =>
      rw [hprog] at hsafe
      intro hheld
      cases (hsafe : t.ghost.applying = none).symm.trans hheld
  | call op next =>
      rw [hprog] at hdone
      exact absurd rfl hdone

/-- The request that is running takes its steps alone. -/
lemma Alone.inTurn (h : Alone J p) (e : ServerEvent) : InTurn J p e := by
  cases e with
  | arrive req => trivial
  | step i c =>
      rintro ⟨g, prog⟩ htask
      cases prog with
      | ret a => trivial
      | call op next =>
          refine ⟨?_, (h.fresh _ (List.mem_of_getElem? htask) rfl).assumes op _⟩
          intro n _ t ht
          obtain ⟨j, hj, hget⟩ := List.mem_eraseIdx_iff_getElem?.mp ht
          refine h.free (List.mem_of_getElem? hget) ?_ n
          intro hrunning
          exact hj (h.only j i t _ hget htask hrunning rfl)

/-- Requests that change rules in turn leave nobody beside the one that is under way. -/
lemma Alone.step (h : Alone J p) (hone : OneAtATime p e) (hstep : serverStep T J p e = some p') :
    Alone J p' := by
  have hinv := Pool.inv_step safe_handle h.inv (h.inTurn e) hstep
  have hturn := h.inTurn e
  obtain ⟨req, rfl, rfl⟩ | ⟨i, c, g, β, op, next, rfl, htask, -, rfl⟩ := Pool.step_cases hstep
  · -- nobody else is running when the request arrives
    have hlast : ∀ (j : ℕ) (t : PoolTask Op ApiAnswer Ghost),
        (p.tasks ++ [⟨(requests J).start, handle T J req⟩])[j]? = some t → t.prog.result? = none →
          j = p.tasks.length := by
      intro j t ht hrunning
      rcases Pool.getElem?_append_cases ht with ⟨hj, -⟩ | ht
      · exact hj
      · have hdone := hone t (List.mem_of_getElem? ht)
        rw [hrunning] at hdone
        cases hdone
    refine ⟨hinv, ?_, ?_⟩
    · intro j k t u ht hu htr hur
      exact (hlast j t ht htr).trans (hlast k u hu hur).symm
    · intro t ht hrunning
      rcases List.mem_append.mp ht with ht | ht
      · have hdone := hone t ht
        rw [hrunning] at hdone
        cases hdone
      · obtain rfl := List.mem_singleton.mp ht
        exact fun _ rule hrule => by cases hrule
  · have hfresh := h.fresh _ (List.mem_of_getElem? htask) rfl
    obtain ⟨hguar, -⟩ := h.inv.safe _ (List.mem_of_getElem? htask) p.state
      (Ownership.rely_refl g p.state) c (Pool.takes_of_takesAlone h.inv htask (hturn _ htask))
    -- whoever runs after the step ran before it
    have hran : ∀ (j : ℕ) (t : PoolTask Op ApiAnswer Ghost), (p.tasks.set i
        ⟨g.track J op (semantics.perform op c p.state).1, next (semantics.perform op c p.state).1⟩)[j]? =
          some t → t.prog.result? = none → j = i := by
      intro j t ht hrunning
      rcases Pool.getElem?_set_cases ht with ⟨rfl, -⟩ | ⟨-, ht⟩
      · rfl
      · exact h.only j i t _ ht htask hrunning rfl
    refine ⟨hinv, ?_, ?_⟩
    · intro j k t u ht hu htr hur
      exact (hran j t ht htr).trans (hran k u hu hur).symm
    · intro t ht hrunning
      obtain ⟨j, hget⟩ := List.mem_iff_getElem?.mp ht
      obtain rfl := hran j t hget hrunning
      obtain ⟨-, rfl⟩ | ⟨hne, -⟩ := Pool.getElem?_set_cases hget
      · exact hfresh.step op c hguar
      · exact absurd rfl hne

end RustProxy.Control
