import RustProxy.Control.ProxyManager
import RustProxy.Foundation.Transition
import Mathlib.Algebra.BigOperators.Group.List.Basic
import Mathlib.Data.Int.Order.Basic

/-!
# The connection counters

A bridge or a UDP session reports its start and its end with `report_conn`, and the callback that
`main` sets spawns a task for each report; the tasks run in any order.  A decrement of a counter that
is 0 leaves it at 0.

* `ConnState.surplus` is the counter of a rule with the reports that are still to run, less what is
  live.  A decrement at 0 raises it, and every other step keeps it.
* `connections_eq_live_iff`: once every report has run, the counter is the number of live bridges and
  sessions exactly when no decrement ran at 0.
-/

namespace RustProxy.Control

open RustProxy.Core Transition

/-- A task spawned by the callback of `set_conn_stats_fn`; `delta` is what its loop has still to do.
-/
structure ConnReport where
  name : String
  delta : ℤ
  deriving DecidableEq, Repr

/-- The shared state, the spawned reports, and, as history, the rule of each bridge and UDP session
that is live. -/
structure ConnState where
  control : ControlState
  reports : List ConnReport
  live : List String

/-- What happens next. -/
inductive ConnLabel : Type 1 where
  /-- A bridge or a UDP session of the rule starts. -/
  | started (name : String)
  | ended (name : String)
  /-- A spawned report goes once through its loop. -/
  | report (i : ℕ)
  /-- Another action on the shared state. -/
  | control {β : Type} (op : Op β) (ok : Bool)

/-- Source: `proxy_listener.rs`, `report_conn`, with the callback that `main.rs` sets. -/
def reportConn (s : ConnState) (name : String) (delta : ℤ) : ConnState :=
  { s with reports := s.reports ++ [{ name, delta }] }

/-- Source: `main.rs`, the loop of the callback of `set_conn_stats_fn`: what is left after one
round. -/
def ConnReport.next (report : ConnReport) : ConnReport :=
  { report with delta := if 0 < report.delta then report.delta - 1 else report.delta + 1 }

/-- Source: `main.rs`, the body of the loop of the callback of `set_conn_stats_fn`. -/
def ConnReport.apply (report : ConnReport) : Runtime → Runtime :=
  if 0 < report.delta then incConnections report.name else decConnections report.name

/-- The `i`-th report goes once through its loop. -/
def runReport (s : ConnState) (i : ℕ) (report : ConnReport) : ConnState :=
  { s with
    control := { s.control with runtime := report.apply s.control.runtime }
    reports := s.reports.set i report.next }

/-- One step.  Source: `proxy_listener.rs`, the calls of `report_conn` in `handle_stream_proxy_conn`
and in the worker that `handle_udp_packet` spawns. -/
def connStep (s : ConnState) : ConnLabel → Option ConnState
  | .started name => some (reportConn { s with live := name :: s.live } name 1)
  | .ended name =>
      if name ∈ s.live then some (reportConn { s with live := s.live.erase name } name (-1)) else none
  | .report i =>
      match s.reports[i]? with
      | some report =>
          if report.delta = 0 then none else some (runReport s i report)
      | none => none
  | .control op ok => some { s with control := (perform op ok s.control).2 }

/-- The counter of a rule. -/
def ConnState.connections (s : ConnState) (n : String) : ℕ :=
  ((s.control.runtime n).map RuntimeState.connections).getD 0

/-- What the spawned reports have still to add to the counter of a rule. -/
def pending (n : String) (reports : List ConnReport) : ℤ :=
  (reports.map fun report => if report.name = n then report.delta else 0).sum

/-- The counter of a rule and what is still to be added to it, less what is live. -/
def ConnState.surplus (n : String) (s : ConnState) : ℤ :=
  s.connections n + pending n s.reports - s.live.count n

/-- The rule has a runtime state. -/
def ConnState.Known (n : String) (s : ConnState) : Prop := (s.control.runtime n).isSome

/-- Every report for the rule has run. -/
def ConnState.Reported (n : String) (s : ConnState) : Prop :=
  ∀ report ∈ s.reports, report.name = n → report.delta = 0

instance (n : String) (s : ConnState) : Decidable (s.Reported n) :=
  inferInstanceAs (Decidable (∀ report ∈ s.reports, report.name = n → report.delta = 0))

/-- The counter of a rule with a runtime state is the number of its live bridges and sessions. -/
def ConnState.Accurate (n : String) (s : ConnState) : Prop := s.connections n = s.live.count n

/-- The action neither replaces nor removes the runtime state of the rule. -/
def Op.KeepsRule (n : String) : {β : Type} → Op β → Prop
  | _, .insertRuntime name _ => name ≠ n
  | _, .removeRuntime name => name ≠ n
  | _, _ => True

/-- The rule stays stored. -/
def ConnLabel.KeepsRule (n : String) : ConnLabel → Prop
  | .control op _ => op.KeepsRule n
  | _ => True

/-- A decrement of the rule's counter runs only when it is positive. -/
def DecrementsPositive (n : String) (s : ConnState) : ConnLabel → Prop
  | .report i => ∀ report ∈ s.reports[i]?, report.name = n → report.delta < 0 → 0 < s.connections n
  | _ => True

/-! ## The surplus -/

variable {n : String} {s s' : ConnState} {label : ConnLabel}

/-- One more report that is still to be applied. -/
lemma pending_append (reports : List ConnReport) (report : ConnReport) :
    pending n (reports ++ [report]) =
      pending n reports + if report.name = n then report.delta else 0 := by
  rw [pending, List.map_append, List.sum_append]
  simp [pending]

/-- A report that is replaced by one of the same rule. -/
lemma pending_set {reports : List ConnReport} {i : ℕ} {old : ConnReport} (new : ConnReport)
    (h : reports[i]? = some old) (hname : new.name = old.name) :
    pending n (reports.set i new) =
      pending n reports + if old.name = n then new.delta - old.delta else 0 := by
  obtain ⟨hi, rfl⟩ := List.getElem?_eq_some_iff.mp h
  rw [pending, List.map_set, List.sum_set', dif_pos (by rwa [List.length_map]), List.getElem_map,
    hname]
  split
  · rw [neg_add_eq_sub]
    rfl
  · rfl

/-- A rule whose reports are all applied has none pending. -/
lemma pending_of_reported (h : s.Reported n) : pending n s.reports = 0 := by
  rw [pending]
  apply List.sum_eq_zero
  intro x hx
  obtain ⟨report, hreport, rfl⟩ := List.mem_map.mp hx
  split
  · case isTrue hname => exact h report hreport hname
  · rfl

/-- What a change of one entry does to a counter. -/
lemma onEntry_apply (name : String) (f : RuntimeState → RuntimeState) (runtime : Runtime) :
    onEntry name f runtime n = if n = name then (runtime n).map f else runtime n := by
  rw [onEntry, Function.update_apply]
  split
  · case isTrue hn => rw [hn]
  · rfl

/-- Changing an entry neither makes nor removes one. -/
lemma onEntry_isSome (name : String) (f : RuntimeState → RuntimeState) (runtime : Runtime) :
    (onEntry name f runtime n).isSome = (runtime n).isSome := by
  rw [onEntry_apply]
  split
  · exact Option.isSome_map
  · rfl

/-- The other actions keep the counters of the rules that stay. -/
lemma connections_perform {β : Type} {op : Op β} (hkeep : op.KeepsRule n) (ok : Bool)
    {control : ControlState} (hknown : (control.runtime n).isSome) :
    ((perform op ok control).2.runtime n).map RuntimeState.connections =
      (control.runtime n).map RuntimeState.connections := by
  cases op with
  | insertRuntime name rt =>
      exact congrArg _ (Function.update_of_ne (Ne.symm hkeep) _ _)
  | removeRuntime name => exact congrArg _ (Function.update_of_ne (Ne.symm hkeep) _ _)
  | loadRuntime names =>
      refine congrArg _ ((loadRuntime_apply names control.runtime n).trans ?_)
      obtain ⟨rt, hrt⟩ := Option.isSome_iff_exists.mp hknown
      rw [hrt]
      exact ite_self _
  | setStatus name status =>
      refine (congrArg _ (onEntry_apply name (fun rt => { rt with status }) control.runtime)).trans ?_
      split
      · rw [Option.map_map]
        rfl
      · rfl
  | insertRow | updateRow | deleteRow | bindAndSpawn =>
      rw [perform]
      split <;> rfl
  | _ => rfl

/-- A step that keeps the rule stored keeps its entry. -/
lemma known_step (h : s.Known n) (hkeep : label.KeepsRule n) (hstep : connStep s label = some s') :
    s'.Known n := by
  cases label with
  | started name =>
      cases hstep
      exact h
  | ended name =>
      rw [connStep] at hstep
      split at hstep <;> cases hstep
      exact h
  | report i =>
      rw [connStep] at hstep
      split at hstep
      · split at hstep <;> cases hstep
        rw [ConnState.Known, runReport, ConnReport.apply]
        split <;> exact (onEntry_isSome _ _ _).trans h
      · cases hstep
  | control op ok =>
      cases hstep
      have hsame := congrArg Option.isSome (connections_perform hkeep ok h)
      rw [Option.isSome_map, Option.isSome_map] at hsame
      exact hsame.trans h

/-- What a report adds to the surplus of its rule. -/
lemma surplus_reportConn (s : ConnState) (name : String) (delta : ℤ) :
    (reportConn s name delta).surplus n = s.surplus n + if name = n then delta else 0 := by
  rw [ConnState.surplus, ConnState.surplus, reportConn, pending_append]
  simp only [ConnState.connections]
  omega

/-- A round of a report counts up or down, not below 0. -/
lemma connections_runReport {i : ℕ} {report : ConnReport} (hknown : s.Known n) :
    (runReport s i report).connections n =
      if report.name = n then
        if 0 < report.delta then s.connections n + 1 else s.connections n - 1
      else s.connections n := by
  obtain ⟨rt, hrt⟩ := Option.isSome_iff_exists.mp hknown
  rw [ConnState.connections, ConnState.connections, runReport, ConnReport.apply]
  by_cases hname : report.name = n
  · subst hname
    rw [if_pos rfl]
    split <;> simp [incConnections, decConnections, onEntry_apply, hrt]
  · have hne : n ≠ report.name := Ne.symm hname
    rw [if_neg hname]
    split <;> simp [incConnections, decConnections, onEntry_apply, hne]

/-- One round of a report moves what it adds from the pending reports to the counter, but for a
decrement at 0. -/
lemma surplus_runReport {i : ℕ} {report : ConnReport} (hknown : s.Known n)
    (hreport : s.reports[i]? = some report) (hdelta : report.delta ≠ 0) :
    (runReport s i report).surplus n =
      s.surplus n + if report.name = n ∧ report.delta < 0 ∧ s.connections n = 0 then 1 else 0 := by
  have hpending : pending n (runReport s i report).reports =
      pending n s.reports + if report.name = n then report.next.delta - report.delta else 0 :=
    pending_set report.next hreport rfl
  rw [ConnState.surplus, ConnState.surplus, connections_runReport hknown, hpending, ConnReport.next,
    runReport]
  by_cases hname : report.name = n
  · simp only [hname, if_true, true_and]
    split <;> split <;> omega
  · simp only [hname, if_false, false_and]
    omega

/-- Only a decrement at 0 changes the surplus. -/
lemma surplus_step (hknown : s.Known n) (hkeep : label.KeepsRule n)
    (hstep : connStep s label = some s') :
    (DecrementsPositive n s label → s'.surplus n = s.surplus n) ∧
      (¬ DecrementsPositive n s label → s.surplus n < s'.surplus n) := by
  cases label with
  | started name =>
      cases hstep
      refine ⟨fun _ => ?_, fun hbad => absurd trivial hbad⟩
      rw [surplus_reportConn, ConnState.surplus, ConnState.surplus, List.count_cons]
      simp only [ConnState.connections, beq_iff_eq]
      split <;> omega
  | ended name =>
      rw [connStep] at hstep
      split at hstep <;> cases hstep
      case isTrue.refl hlive =>
        refine ⟨fun _ => ?_, fun hbad => absurd trivial hbad⟩
        rw [surplus_reportConn, ConnState.surplus, ConnState.surplus, List.count_erase]
        simp only [ConnState.connections, beq_iff_eq]
        split
        · case isTrue hname =>
          subst hname
          have hcount := List.count_pos_iff.mpr hlive
          omega
        · omega
  | report i =>
      rw [connStep] at hstep
      split at hstep
      · case h_1 report hreport =>
        split at hstep <;> cases hstep
        case isFalse.refl hdelta =>
          rw [surplus_runReport hknown hreport hdelta]
          constructor
          · intro hok
            rw [if_neg, add_zero]
            rintro ⟨hname, hneg, hzero⟩
            have hpos := hok report hreport hname hneg
            omega
          · intro hbad
            rw [DecrementsPositive] at hbad
            push Not at hbad
            obtain ⟨report', hreport', hname, hneg, hzero⟩ := hbad
            obtain rfl : report' = report := Option.some.inj (hreport'.symm.trans hreport)
            rw [if_pos ⟨hname, hneg, Nat.le_zero.mp hzero⟩]
            exact lt_add_one _
      · cases hstep
  | control op ok =>
      cases hstep
      refine ⟨fun _ => ?_, fun hbad => absurd trivial hbad⟩
      rw [ConnState.surplus, ConnState.surplus, ConnState.connections, ConnState.connections,
        connections_perform hkeep ok hknown]

/-! ## Runs -/

/-- A rule stays stored from a state on in which its counter is accurate and no report for it is under
way.  Whatever bridges and sessions start and end and in whatever order the reports run: when all of
them have run, the counter is the number of live bridges and sessions exactly when no decrement of it
ran at 0. -/
theorem connections_eq_live_iff (n : String) (s t : ConnState) (labels : List ConnLabel)
    (hknown : s.Known n) (haccurate : s.Accurate n) (hreported : s.Reported n)
    (hkeep : ∀ label ∈ labels, label.KeepsRule n) (hrun : exec connStep s labels = some t)
    (hdone : t.Reported n) :
    t.Accurate n ↔ EachStep connStep (DecrementsPositive n) s labels := by
  obtain ⟨-, hiff⟩ := exec_measure (m := ConnState.surplus n) (I := ConnState.Known n)
    (fun _ _ _ h hlabel hstep => known_step h hlabel hstep)
    (fun _ _ _ h hlabel hok hstep => (surplus_step h hlabel hstep).1 hok)
    (fun _ _ _ h hlabel hbad hstep => (surplus_step h hlabel hstep).2 hbad) hknown hkeep hrun
  rw [← hiff, ConnState.surplus, ConnState.surplus, pending_of_reported hdone,
    pending_of_reported hreported, ConnState.Accurate]
  rw [ConnState.Accurate] at haccurate
  omega

/-- One rule without connections. -/
def idleRule : ConnState where
  control := { ControlState.boot .empty with runtime := fun _ => some .new }
  reports := []
  live := []

/-- A connection starts and ends; its decrement runs after its increment. -/
def orderly : List ConnLabel := [.started "a", .report 0, .ended "a", .report 1]

/-- Its decrement runs first. -/
def overtaken : List ConnLabel := [.started "a", .ended "a", .report 1, .report 0]

/-- Connections one after the other are counted right. -/
theorem connections_eq_live_orderly :
    ∃ t, exec connStep idleRule orderly = some t ∧
      (t.Accurate "a" ↔ EachStep connStep (DecrementsPositive "a") idleRule orderly) := by
  refine ⟨_, rfl, ?_⟩
  exact connections_eq_live_iff "a" idleRule _ orderly rfl rfl (by decide)
    (by simp [orderly, ConnLabel.KeepsRule]) rfl (by decide)

/-- No connection is live and every report has run, and the counter is 1. -/
theorem counter_stays_up :
    ¬ ∀ (n : String) (s t : ConnState) (labels : List ConnLabel), s.Known n → s.Accurate n →
      s.Reported n → (∀ label ∈ labels, label.KeepsRule n) → exec connStep s labels = some t →
      t.Reported n → t.Accurate n := by
  intro h
  have haccurate := h "a" idleRule _ overtaken rfl rfl (by decide)
    (by simp [overtaken, ConnLabel.KeepsRule]) rfl (by decide)
  cases haccurate

end RustProxy.Control
