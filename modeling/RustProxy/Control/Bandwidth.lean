import Mathlib.Algebra.BigOperators.Group.List.Basic
import RustProxy.Bridge.UdpLoop
import RustProxy.Control.ProxyManager
import RustProxy.Foundation.Progress

/-!
# The traffic counters and the bandwidth display

A bridge or a UDP session reports every chunk it has passed on with `report_traffic`, and the callback
that `main` sets spawns a task for each report that adds it to the counters of the rule.  Another task
samples the counters: what has been added since the last sample, divided by the time since then, is the
bandwidth that is displayed.

* `TrafficState` has the sessions, the spawned tasks and the counters; the figures that bandwidths were
  computed from are kept as history.
* `Accounts` is the invariant of one rule: nothing is counted that was not passed on, and nothing is
  shown that was not counted.
* `bandwidth_complete_iff`: the figures leave out what was counted up to the first sample and since the
  last one, and otherwise nothing, exactly if no sample finds new traffic at the instant of the one
  before.
-/

namespace RustProxy.Control

open RustProxy.Bridge RustProxy.Bridge.Udp Transition

/-- The two ways of the traffic: from the users, and to them. -/
inductive TrafficWay where
  | inbound
  | outbound
  deriving DecidableEq, Repr

/-- One of the two numbers of a report. -/
def TrafficWay.of {α : Type*} (w : TrafficWay) (x : α × α) : α :=
  match w with
  | .inbound => x.1
  | .outbound => x.2

/-! ## The sessions -/

/-- What reports traffic: a bridge of the server, or a UDP session worker. -/
inductive Session where
  | stream (b : Locals)
  | udp (b : UdpLocals)
  deriving DecidableEq, Repr

/-- What happens to one of them. -/
inductive SessionEvent where
  | stream (event : Event)
  | udp (event : UdpEvent)
  deriving DecidableEq, Repr

/-- The calls of `report_traffic`. -/
def Session.reported : Session → List (ℕ × ℕ)
  | .stream b => b.reported
  | .udp b => b.reported

/-- Its loop goes on to the next await. -/
def Session.next : Session → SessionEvent → Option Session
  | .stream b, .stream event => (bridgeStreamToFramed b event).map .stream
  | .udp b, .udp event => (udpSessionWorker b event).map .udp
  | _, _ => none

/-- The session has just begun. -/
def Session.Fresh (x : Session) : Prop := x = .stream .start ∨ x = .udp .start

/-- What a session has passed on, as far as it has reported it. -/
def Session.passedOn (w : TrafficWay) (x : Session) : ℕ := (x.reported.map w.of).sum

/-- A fresh session has passed nothing on. -/
lemma Session.Fresh.passedOn {x : Session} (h : x.Fresh) (w : TrafficWay) : x.passedOn w = 0 := by
  rcases h with rfl | rfl <;> rfl

/-- A read reports nothing. -/
private lemma reported_onRead (b : Locals) (result : ReadResult) :
    (onRead true b result).reported = b.reported := by
  unfold onRead
  split <;> rfl

/-- A message reports nothing. -/
private lemma reported_onNext (b : Locals) (result : NextResult) :
    (Bridge.onNext true b result).reported = b.reported := by
  unfold Bridge.onNext
  split
  · split_ifs <;> rfl
  all_goals rfl

/-- A message reports nothing. -/
private lemma reported_udp_onNext (b : UdpLocals) (result : NextResult) :
    (Udp.onNext true b result).reported = b.reported := by
  unfold Udp.onNext
  split
  · split_ifs <;> rfl
  all_goals rfl

/-- Every way from one await to the next appends to the calls that have been made. -/
private lemma reported_bridge {b b' : Locals} {event : Event} (h : bridge true b event = some b') :
    b.reported <+: b'.reported := by
  unfold bridge at h
  split at h
  · cases h
    rw [reported_onRead]
  · cases h
    rw [reported_onNext]
  · cases h
    exact List.prefix_append _ _
  · cases h
    exact List.prefix_refl _
  · cases h
    exact List.prefix_refl _
  · cases h
    exact List.prefix_refl _
  · cases h
    exact List.prefix_refl _
  · unfold onWrote at h
    split_ifs at h
    · cases h
      exact List.prefix_append _ _
    · cases h
      exact List.prefix_refl _
  · cases h
    exact List.prefix_refl _
  · cases h
    exact List.prefix_refl _
  · cases h

/-- What has been reported stays reported. -/
private lemma reported_udpBridge {b b' : UdpLocals} {event : UdpEvent}
    (h : udpBridge true b event = some b') : b.reported <+: b'.reported := by
  unfold udpBridge at h
  split at h
  · cases h
    exact List.prefix_refl _
  · cases h
    exact List.prefix_refl _
  · cases h
    rw [reported_udp_onNext]
  · cases h
    exact List.prefix_refl _
  · cases h
    exact List.prefix_append _ _
  · cases h
    exact List.prefix_refl _
  · cases h
    exact List.prefix_append _ _
  · cases h
    exact List.prefix_refl _
  · cases h

/-- The calls that a session has made stay made. -/
lemma Session.reported_prefix {x y : Session} {event : SessionEvent} (h : x.next event = some y) :
    x.reported <+: y.reported := by
  cases x with
  | stream b =>
      cases event with
      | udp event => cases h
      | stream event =>
          obtain ⟨b', hb, rfl⟩ := Option.map_eq_some_iff.mp h
          exact reported_bridge hb
  | udp b =>
      cases event with
      | stream event => cases h
      | udp event =>
          obtain ⟨b', hb, rfl⟩ := Option.map_eq_some_iff.mp h
          exact reported_udpBridge hb

/-! ## The counters -/

/-- The traffic of a rule.  Source: `proxy_manager.rs`, the fields of `RuntimeState` that `add_traffic`
and `update_bandwidth` write, each of the pairs as one; an `Instant` is a number. -/
structure Meter (F : Type) where
  bytes : TrafficWay → UInt64
  lastSampleInstant : Option ℕ
  lastSampleBytes : TrafficWay → UInt64
  bandwidth : TrafficWay → F

/-- `u64::saturating_sub` -/
def saturatingSub (a b : UInt64) : UInt64 := if b ≤ a then a - b else 0

variable {F : Type} (zero : F) (ratio : UInt64 → ℕ → F)

/-- Source: `proxy_manager.rs`, `RuntimeState::new`. -/
def Meter.new : Meter F where
  bytes := fun _ => 0
  lastSampleInstant := none
  lastSampleBytes := fun _ => 0
  bandwidth := fun _ => zero

/-- Source: `proxy_manager.rs`, `ProxyManager::add_traffic`. -/
def Meter.add (m : Meter F) (bytesIn bytesOut : UInt64) : Meter F :=
  { m with bytes := fun w => m.bytes w + w.of (bytesIn, bytesOut) }

/-- The instant of the last sample and the time since then, if it is not 0. -/
def Meter.elapsed (m : Meter F) (now : ℕ) : Option ℕ :=
  m.lastSampleInstant.bind fun last => if 0 < now - last then some (now - last) else none

/-- What has been counted since the last sample: `delta_in`, `delta_out`. -/
def Meter.delta (m : Meter F) (w : TrafficWay) : UInt64 :=
  saturatingSub (m.bytes w) (m.lastSampleBytes w)

/-- Source: `proxy_manager.rs`, the loop body of `ProxyManager::update_bandwidth`; `ratio` is the
division of the two numbers as floats. -/
def Meter.sample (now : ℕ) (m : Meter F) : Meter F where
  bytes := m.bytes
  lastSampleInstant := some now
  lastSampleBytes := m.bytes
  bandwidth :=
    match m.elapsed now with
    | some elapsed => fun w => ratio (m.delta w) elapsed
    | none => m.bandwidth

/-- The history of a rule's samples: what had been counted at the first one, and the figures that
bandwidths were computed from. -/
structure Ledger where
  first : TrafficWay → ℕ
  figures : TrafficWay → List (UInt64 × ℕ)

/-- No sample has been taken. -/
def Ledger.start : Ledger := { first := fun _ => 0, figures := fun _ => [] }

/-- A sample is taken. -/
def Ledger.sample (now : ℕ) (m : Meter F) (l : Ledger) : Ledger where
  first := if m.lastSampleInstant = none then fun w => (m.bytes w).toNat else l.first
  figures :=
    match m.elapsed now with
    | some elapsed => fun w => l.figures w ++ [(m.delta w, elapsed)]
    | none => l.figures

/-- What the displayed bandwidths have been of. -/
def Ledger.shown (l : Ledger) (w : TrafficWay) : ℕ := ((l.figures w).map fun x => x.1.toNat).sum

/-! ## The system -/

/-- A task spawned by the callback of `set_traffic_stats_fn`. -/
structure TrafficReport where
  name : String
  bytesIn : UInt64
  bytesOut : UInt64
  deriving DecidableEq, Repr

/-- The counters, the sessions of the rules, and the tasks that are to count. -/
structure TrafficState (F : Type) where
  meters : String → Option (Meter F)
  sessions : List (String × Session)
  tasks : List TrafficReport
  clock : ℕ
  ledger : String → Ledger

/-- What happens next. -/
inductive TrafficLabel where
  | began (name : String) (session : Session)
  | moved (i : ℕ) (event : SessionEvent)
  | counted (i : ℕ)
  | sampled (now : ℕ)
  | inserted (name : String)
  | removed (name : String)
  deriving DecidableEq, Repr

/-- Source: `proxy_listener.rs`, `report_traffic`, with the callback that `main.rs` sets; `n as u64`. -/
def trafficReport (name : String) (call : ℕ × ℕ) : TrafficReport where
  name := name
  bytesIn := UInt64.ofNat call.1
  bytesOut := UInt64.ofNat call.2

/-- One step. -/
def trafficStep (s : TrafficState F) : TrafficLabel → Option (TrafficState F)
  | .began name session =>
      if session = .stream .start ∨ session = .udp .start then
        some { s with sessions := s.sessions ++ [(name, session)] }
      else none
  | .moved i event =>
      match s.sessions[i]? with
      | some (name, x) =>
          (x.next event).map fun y =>
            { s with
              sessions := s.sessions.set i (name, y)
              tasks := s.tasks ++ (y.reported.drop x.reported.length).map (trafficReport name) }
      | none => none
  | .counted i =>
      match s.tasks[i]? with
      | some task => some
          { s with
            meters := Function.update s.meters task.name
              ((s.meters task.name).map fun m => m.add task.bytesIn task.bytesOut)
            tasks := s.tasks.eraseIdx i }
      | none => none
  | .sampled now =>
      if s.clock ≤ now then some
        { s with
          meters := fun name => (s.meters name).map (Meter.sample ratio now)
          clock := now
          ledger := fun name => (s.meters name).elim (s.ledger name) fun m =>
            (s.ledger name).sample now m }
      else none
  | .inserted name => some { s with meters := Function.update s.meters name (some (.new zero)) }
  | .removed name => some { s with meters := Function.update s.meters name none }

/-! ## Sums over the sessions and the tasks -/

/-- What a task has to add to the counters of a rule. -/
def TrafficReport.amount (n : String) (w : TrafficWay) (task : TrafficReport) : ℕ :=
  if task.name = n then (w.of (task.bytesIn, task.bytesOut)).toNat else 0

namespace TrafficState

variable {s s' : TrafficState F} {n : String} {w : TrafficWay}

/-- What the sessions of a rule have passed on. -/
def passedOn (n : String) (w : TrafficWay) (s : TrafficState F) : ℕ :=
  (s.sessions.map fun x => if x.1 = n then x.2.passedOn w else 0).sum

/-- What has still to be added to the counters of a rule. -/
def pending (n : String) (w : TrafficWay) (s : TrafficState F) : ℕ :=
  (s.tasks.map (TrafficReport.amount n w)).sum

end TrafficState

/-- Taking one element out of a sum. -/
private lemma sum_map_eraseIdx {α : Type*} (f : α → ℕ) {l : List α} {i : ℕ} {a : α}
    (h : l[i]? = some a) : ((l.eraseIdx i).map f).sum + f a = (l.map f).sum := by
  obtain ⟨hi, rfl⟩ := List.getElem?_eq_some_iff.mp h
  have hperm := ((List.getElem_cons_eraseIdx_perm hi).map f).sum_eq
  rw [List.map_cons, List.sum_cons] at hperm
  omega

/-- The tasks for the calls of a session have to add what the calls report. -/
lemma sum_amount_calls (n : String) (w : TrafficWay) (name : String) (calls : List (ℕ × ℕ))
    (h : (calls.map w.of).sum < 2 ^ 64) :
    (((calls.map (trafficReport name))).map (TrafficReport.amount n w)).sum =
      if name = n then (calls.map w.of).sum else 0 := by
  induction calls with
  | nil => simp
  | cons call calls ih =>
      rw [List.map_cons, List.sum_cons] at h
      have hcall : (trafficReport name call).amount n w = if name = n then w.of call else 0 := by
        have hlt : w.of call < 2 ^ 64 := by omega
        unfold TrafficReport.amount
        refine if_congr Iff.rfl ?_ rfl
        cases w with
        | inbound => exact UInt64.toNat_ofNat_of_lt' hlt
        | outbound => exact UInt64.toNat_ofNat_of_lt' hlt
      rw [List.map_cons, List.map_cons, List.sum_cons, hcall, ih (by omega), List.map_cons,
        List.sum_cons]
      split <;> simp

/-! ## The accounts of a rule -/

section accounts

variable {zero ratio} {s s' : TrafficState F} {m : Meter F} {n : String} {w : TrafficWay}
  {label : TrafficLabel}

variable (n w) in
/-- The books of a rule with a meter, in one way: what is counted was passed on, what is sampled was
counted, and what is shown was sampled. -/
structure Accounts (s : TrafficState F) (m : Meter F) : Prop where
  meter : s.meters n = some m
  counted : (m.bytes w).toNat + s.pending n w = s.passedOn n w
  sampled : (m.lastSampleBytes w).toNat ≤ (m.bytes w).toNat
  shown : (s.ledger n).first w + (s.ledger n).shown w ≤ (m.lastSampleBytes w).toNat
  clock : ∀ last ∈ m.lastSampleInstant, last ≤ s.clock
  unsampled : m.lastSampleInstant = none →
    m.lastSampleBytes w = 0 ∧ (s.ledger n).first w = 0 ∧ (s.ledger n).shown w = 0

variable (n w) in
/-- What was sampled and is not shown. -/
def dropped (s : TrafficState F) (m : Meter F) : ℕ :=
  (m.lastSampleBytes w).toNat - ((s.ledger n).first w + (s.ledger n).shown w)

variable (n w) in
/-- A sample at the instant of the one before finds nothing new. -/
def SamplesApart (s : TrafficState F) : TrafficLabel → Prop
  | .sampled now => ∀ m ∈ s.meters n, m.lastSampleInstant = some now →
      m.bytes w = m.lastSampleBytes w
  | _ => True

variable (n) in
/-- The rule stays stored. -/
def TrafficLabel.KeepsRule : TrafficLabel → Prop
  | .inserted name => name ≠ n
  | .removed name => name ≠ n
  | _ => True

/-- The delta of a sample does not wrap around. -/
lemma toNat_delta (h : (m.lastSampleBytes w).toNat ≤ (m.bytes w).toNat) :
    (m.delta w).toNat = (m.bytes w).toNat - (m.lastSampleBytes w).toNat := by
  have hle : m.lastSampleBytes w ≤ m.bytes w := UInt64.le_iff_toNat_le.mpr h
  rw [Meter.delta, saturatingSub, if_pos hle, UInt64.toNat_sub_of_le _ _ hle]

/-- A session begins with nothing passed on. -/
lemma passedOn_began {name : String} {session : Session} (hfresh : session.Fresh) :
    ({ s with sessions := s.sessions ++ [(name, session)] } : TrafficState F).passedOn n w =
      s.passedOn n w := by
  simp [TrafficState.passedOn, hfresh.passedOn]

/-- A session goes on: what it has passed on is what its new calls report. -/
lemma passedOn_moved {i : ℕ} {name : String} {x y : Session} {event : SessionEvent}
    (hx : s.sessions[i]? = some (name, x)) (hy : x.next event = some y) (tasks : List TrafficReport) :
    ({ s with sessions := s.sessions.set i (name, y), tasks } : TrafficState F).passedOn n w =
      s.passedOn n w +
        if name = n then ((y.reported.drop x.reported.length).map w.of).sum else 0 := by
  obtain ⟨calls, hcalls⟩ := Session.reported_prefix hy
  have hpassed : y.passedOn w = x.passedOn w + (calls.map w.of).sum := by
    rw [Session.passedOn, ← hcalls, List.map_append, List.sum_append, Session.passedOn]
  have hset := sum_map_set (fun x => if x.1 = n then x.2.passedOn w else 0) hx (name, y)
  rw [← hcalls, List.drop_left]
  simp only [TrafficState.passedOn] at hset ⊢
  split
  · case isTrue hname =>
    simp only [hname, if_true, hpassed] at hset ⊢
    omega
  · case isFalse hname =>
    simp only [hname, if_false] at hset ⊢
    omega

/-- What has been passed on stays passed on. -/
lemma passedOn_step (hstep : trafficStep zero ratio s label = some s') :
    s.passedOn n w ≤ s'.passedOn n w := by
  cases label with
  | began name session =>
      rw [trafficStep] at hstep
      split_ifs at hstep with hfresh
      cases hstep
      exact (passedOn_began hfresh).ge
  | moved i event =>
      rw [trafficStep] at hstep
      split at hstep
      · case h_1 name x hx =>
        obtain ⟨y, hy, rfl⟩ := Option.map_eq_some_iff.mp hstep
        rw [passedOn_moved hx hy]
        exact Nat.le_add_right _ _
      · cases hstep
  | counted i =>
      rw [trafficStep] at hstep
      split at hstep <;> cases hstep
      exact Nat.le_refl _
  | sampled now =>
      rw [trafficStep] at hstep
      split_ifs at hstep
      cases hstep
      exact Nat.le_refl _
  | inserted name | removed name =>
      cases hstep
      exact Nat.le_refl _

/-- The new calls of a session are pending. -/
lemma Accounts.moved {i : ℕ} {name : String} {x y : Session} {event : SessionEvent}
    (h : Accounts n w s m) (hx : s.sessions[i]? = some (name, x)) (hy : x.next event = some y) :
    let s' : TrafficState F :=
      { s with
        sessions := s.sessions.set i (name, y)
        tasks := s.tasks ++ (y.reported.drop x.reported.length).map (trafficReport name) }
    s'.passedOn n w < 2 ^ 64 → Accounts n w s' m := by
  intro s' hbound
  refine ⟨h.meter, ?_, h.sampled, h.shown, h.clock, h.unsampled⟩
  have hpassed : s'.passedOn n w = s.passedOn n w +
      if name = n then ((y.reported.drop x.reported.length).map w.of).sum else 0 :=
    passedOn_moved hx hy _
  have hpending : s'.pending n w = s.pending n w +
      if name = n then ((y.reported.drop x.reported.length).map w.of).sum else 0 := by
    show (List.map _ (s.tasks ++ (y.reported.drop x.reported.length).map (trafficReport name))).sum = _
    rw [List.map_append, List.sum_append, TrafficState.pending]
    by_cases hname : name = n
    · rw [if_pos hname] at hpassed
      rw [sum_amount_calls n w name _ (by omega)]
    · rw [if_neg hname]
      congr 1
      apply List.sum_eq_zero
      intro k hk
      simp only [List.mem_map] at hk
      obtain ⟨task, ⟨call, -, rfl⟩, rfl⟩ := hk
      exact if_neg hname
  have hcounted := h.counted
  omega

/-- A task counts: what it adds is no longer pending. -/
lemma Accounts.added {i : ℕ} {task : TrafficReport} (h : Accounts n w s m)
    (htask : s.tasks[i]? = some task) (hbound : s.passedOn n w < 2 ^ 64) :
    let s' : TrafficState F :=
      { s with
        meters := Function.update s.meters task.name
          ((s.meters task.name).map fun m => m.add task.bytesIn task.bytesOut)
        tasks := s.tasks.eraseIdx i }
    ∃ m', Accounts n w s' m' ∧ dropped n w s' m' = dropped n w s m := by
  intro s'
  have hpending : s'.pending n w + task.amount n w = s.pending n w := sum_map_eraseIdx _ htask
  have hcounted := h.counted
  by_cases hname : task.name = n
  · subst hname
    have hamount : task.amount task.name w = (w.of (task.bytesIn, task.bytesOut)).toNat := if_pos rfl
    have hadd : ((m.add task.bytesIn task.bytesOut).bytes w).toNat =
        (m.bytes w).toNat + task.amount task.name w := by
      rw [hamount]
      exact (UInt64.toNat_add _ _).trans (Nat.mod_eq_of_lt (by omega))
    refine ⟨m.add task.bytesIn task.bytesOut, ⟨?_, ?_, ?_, h.shown, h.clock, h.unsampled⟩, rfl⟩
    · simp [s', h.meter]
    · rw [hadd]
      show _ = s.passedOn task.name w
      omega
    · rw [hadd]
      exact h.sampled.trans (Nat.le_add_right _ _)
  · have hamount : task.amount n w = 0 := if_neg hname
    refine ⟨m, ⟨?_, ?_, h.sampled, h.shown, h.clock, h.unsampled⟩, rfl⟩
    · simp [s', Function.update_of_ne (Ne.symm hname), h.meter]
    · show _ = s.passedOn n w
      omega

/-- A sample and the history: the first one is noted, a later one shows what is new. -/
lemma ledger_sample (l : Ledger) (now : ℕ) (m : Meter F) (w : TrafficWay) :
    ((l.sample now m).first w =
      if m.lastSampleInstant = none then (m.bytes w).toNat else l.first w) ∧
    (l.sample now m).shown w = l.shown w + if (m.elapsed now).isSome then (m.delta w).toNat else 0 := by
  constructor
  · rw [Ledger.sample]
    split <;> rfl
  · rw [Ledger.shown, Ledger.shown, Ledger.sample]
    cases m.elapsed now with
    | none => rfl
    | some elapsed => simp

/-- A sample: what has been counted since the last one is shown, unless no time has passed. -/
lemma Accounts.sampledAt {now : ℕ} (ratio : UInt64 → ℕ → F) (h : Accounts n w s m) (hclock : s.clock ≤ now) :
    let s' : TrafficState F :=
      { s with
        meters := fun name => (s.meters name).map (Meter.sample ratio now)
        clock := now
        ledger := fun name => (s.meters name).elim (s.ledger name) fun m =>
          (s.ledger name).sample now m }
    Accounts n w s' (m.sample ratio now) ∧
      dropped n w s' (m.sample ratio now) = dropped n w s m +
        if m.lastSampleInstant = some now then (m.bytes w).toNat - (m.lastSampleBytes w).toNat
        else 0 := by
  intro s'
  have hledger : s'.ledger n = (s.ledger n).sample now m := by
    simp [s', h.meter]
  have hmeter : s'.meters n = some (m.sample ratio now) := by
    simp [s', h.meter]
  have hsampled := h.sampled
  have hshown := h.shown
  obtain ⟨hfirst, hfigures⟩ := ledger_sample (s.ledger n) now m w
  rw [toNat_delta hsampled] at hfigures
  have hsum : (s'.ledger n).first w + (s'.ledger n).shown w + (dropped n w s m +
      if m.lastSampleInstant = some now then (m.bytes w).toNat - (m.lastSampleBytes w).toNat else 0) =
        (m.bytes w).toNat := by
    rw [hledger, hfirst, hfigures, dropped]
    cases hlast : m.lastSampleInstant with
    | none =>
        obtain ⟨hzero, hfirst0, hshown0⟩ := h.unsampled hlast
        simp [Meter.elapsed, hlast, hfirst0, hshown0, hzero]
    | some last =>
        have hle := h.clock last hlast
        have helapsed : (m.elapsed now).isSome ↔ 0 < now - last := by
          simp only [Meter.elapsed, hlast, Option.bind_some]
          split <;> simp_all
        have hnone : ¬ some last = none := nofun
        by_cases hpos : 0 < now - last
        · have hne : ¬ some last = some now := by
            rw [Option.some_inj]
            omega
          rw [if_neg hnone, if_pos (helapsed.mpr hpos), if_neg hne]
          omega
        · have heq : some last = some now := by
            rw [Option.some_inj]
            omega
          rw [if_neg hnone, if_neg (fun hsome => hpos (helapsed.mp hsome)), if_pos heq]
          omega
  have hlast' : ((m.sample ratio now).lastSampleBytes w).toNat = (m.bytes w).toNat := rfl
  refine ⟨⟨hmeter, h.counted, Nat.le_refl _, ?_, ?_, nofun⟩, ?_⟩
  · omega
  · rintro last hlast
    exact (Option.some.inj hlast).symm.le
  · rw [dropped, hlast']
    omega

/-- Only a sample at the instant of the one before can drop something. -/
lemma Accounts.step (h : Accounts n w s m) (hkeep : label.KeepsRule n)
    (hstep : trafficStep zero ratio s label = some s') (hbound : s'.passedOn n w < 2 ^ 64) :
    ∃ m', Accounts n w s' m' ∧
      ((SamplesApart n w s label ∧ dropped n w s' m' = dropped n w s m) ∨
        (¬ SamplesApart n w s label ∧ dropped n w s m < dropped n w s' m')) := by
  cases label with
  | began name session =>
      rw [trafficStep] at hstep
      split_ifs at hstep with hfresh
      cases hstep
      refine ⟨m, ⟨h.meter, ?_, h.sampled, h.shown, h.clock, h.unsampled⟩, Or.inl ⟨trivial, rfl⟩⟩
      rw [passedOn_began hfresh]
      exact h.counted
  | moved i event =>
      rw [trafficStep] at hstep
      split at hstep
      · case h_1 name x hx =>
        obtain ⟨y, hy, rfl⟩ := Option.map_eq_some_iff.mp hstep
        exact ⟨m, h.moved hx hy hbound, Or.inl ⟨trivial, rfl⟩⟩
      · cases hstep
  | counted i =>
      rw [trafficStep] at hstep
      split at hstep
      · case h_1 task htask =>
        cases hstep
        obtain ⟨m', hm', hdropped⟩ := h.added htask hbound
        exact ⟨m', hm', Or.inl ⟨trivial, hdropped⟩⟩
      · cases hstep
  | sampled now =>
      rw [trafficStep] at hstep
      split_ifs at hstep with hclock
      cases hstep
      obtain ⟨hm', hdropped⟩ := h.sampledAt ratio hclock
      refine ⟨_, hm', ?_⟩
      rw [hdropped]
      have hsampled := h.sampled
      by_cases hnow : m.lastSampleInstant = some now
      · rw [if_pos hnow]
        by_cases hsame : m.bytes w = m.lastSampleBytes w
        · refine Or.inl ⟨?_, by rw [hsame, Nat.sub_self, Nat.add_zero]⟩
          intro m' hm'
          obtain rfl := Option.some.inj (h.meter.symm.trans hm')
          exact fun _ => hsame
        · refine Or.inr ⟨fun hapart => hsame (hapart m h.meter hnow), ?_⟩
          have hne : (m.bytes w).toNat ≠ (m.lastSampleBytes w).toNat := fun heq =>
            hsame (UInt64.toNat_inj.mp heq)
          omega
      · rw [if_neg hnow]
        refine Or.inl ⟨?_, Nat.add_zero _⟩
        intro m' hm' hnow'
        obtain rfl := Option.some.inj (h.meter.symm.trans hm')
        exact absurd hnow' hnow
  | inserted name =>
      cases hstep
      refine ⟨m, ⟨?_, h.counted, h.sampled, h.shown, h.clock, h.unsampled⟩, Or.inl ⟨trivial, rfl⟩⟩
      exact (Function.update_of_ne (Ne.symm hkeep) _ _).trans h.meter
  | removed name =>
      cases hstep
      refine ⟨m, ⟨?_, h.counted, h.sampled, h.shown, h.clock, h.unsampled⟩, Or.inl ⟨trivial, rfl⟩⟩
      exact (Function.update_of_ne (Ne.symm hkeep) _ _).trans h.meter

end accounts

/-! ## The theorem -/

/-- The rule has just been stored: no session of it has begun, and it has not been sampled. -/
structure TrafficState.NewRule (zero : F) (n : String) (s : TrafficState F) : Prop where
  meter : s.meters n = some (.new zero)
  sessions : ∀ x ∈ s.sessions, x.1 ≠ n
  tasks : ∀ task ∈ s.tasks, task.name ≠ n
  ledger : s.ledger n = .start

variable {zero} in
/-- The accounts of a new rule are empty. -/
lemma TrafficState.NewRule.accounts {s : TrafficState F} {n : String} (h : s.NewRule zero n)
    (w : TrafficWay) : Accounts n w s (.new zero) ∧ dropped n w s (.new zero) = 0 := by
  have hpassed : s.passedOn n w = 0 := by
    apply List.sum_eq_zero
    intro k hk
    obtain ⟨x, hx, rfl⟩ := List.mem_map.mp hk
    exact if_neg (h.sessions x hx)
  have hpending : s.pending n w = 0 := by
    apply List.sum_eq_zero
    intro k hk
    obtain ⟨task, htask, rfl⟩ := List.mem_map.mp hk
    exact if_neg (h.tasks task htask)
  refine ⟨⟨h.meter, ?_, Nat.le_refl _, ?_, nofun, fun _ => ?_⟩, ?_⟩
  · rw [hpassed, hpending]
    rfl
  · rw [h.ledger]
    exact Nat.le_refl _
  · rw [h.ledger]
    exact ⟨rfl, rfl, rfl⟩
  · rw [dropped, h.ledger]
    rfl

/-- A rule stays stored.  Whatever bridges and UDP sessions of it begin and end, in whatever order the
spawned tasks count and whenever samples are taken, as long as fewer than 2^64 bytes pass: what is
counted and what is still to be counted is what the sessions have passed on; and of what is counted,
the displayed bandwidths leave out what was counted up to the first sample and since the last one, and
nothing else, exactly if no sample found new traffic at the very instant of the one before. -/
theorem bandwidth_complete_iff (zero : F) (ratio : UInt64 → ℕ → F) (n : String) (w : TrafficWay)
    {s t : TrafficState F} {labels : List TrafficLabel} (hnew : s.NewRule zero n)
    (hkeep : ∀ label ∈ labels, label.KeepsRule n)
    (hrun : exec (trafficStep zero ratio) s labels = some t) (hbound : t.passedOn n w < 2 ^ 64) :
    ∃ m, t.meters n = some m ∧ (m.bytes w).toNat + t.pending n w = t.passedOn n w ∧
      ((t.ledger n).first w + (t.ledger n).shown w +
            ((m.bytes w).toNat - (m.lastSampleBytes w).toNat) = (m.bytes w).toNat ↔
        EachStep (trafficStep zero ratio) (SamplesApart n w) s labels) := by
  let G (s : TrafficState F) : Prop := ∃ m, Accounts n w s m ∧ dropped n w s m = 0
  let B (s : TrafficState F) : Prop := ∃ m, Accounts n w s m ∧ 0 < dropped n w s m
  have hallowed : EachStep (trafficStep zero ratio) (fun s label => label.KeepsRule n ∧
      ∀ s', trafficStep zero ratio s label = some s' → s'.passedOn n w < 2 ^ 64) s labels := by
    refine (eachStep_of_forall_mem hkeep).and (eachStep_of_final ?_ hrun hbound).1
    exact fun s label s' hstep hbound => (passedOn_step hstep).trans_lt hbound
  have hgood : ∀ s label s', G s → (label.KeepsRule n ∧
      ∀ s', trafficStep zero ratio s label = some s' → s'.passedOn n w < 2 ^ 64) →
      trafficStep zero ratio s label = some s' →
        (SamplesApart n w s label ∧ G s') ∨ (¬ SamplesApart n w s label ∧ B s') := by
    rintro s label s' ⟨m, hm, hzero⟩ ⟨hkeep, hbound⟩ hstep
    obtain ⟨m', hm', ⟨hok, hsame⟩ | ⟨hnot, hlt⟩⟩ := hm.step hkeep hstep (hbound s' hstep)
    · exact Or.inl ⟨hok, m', hm', hsame.trans hzero⟩
    · exact Or.inr ⟨hnot, m', hm', Nat.zero_lt_of_lt hlt⟩
  have hbad : ∀ s label s', B s → (label.KeepsRule n ∧
      ∀ s', trafficStep zero ratio s label = some s' → s'.passedOn n w < 2 ^ 64) →
      trafficStep zero ratio s label = some s' → B s' := by
    rintro s label s' ⟨m, hm, hpos⟩ ⟨hkeep, hbound⟩ hstep
    obtain ⟨m', hm', ⟨-, hsame⟩ | ⟨-, hlt⟩⟩ := hm.step hkeep hstep (hbound s' hstep)
    · exact ⟨m', hm', hsame ▸ hpos⟩
    · exact ⟨m', hm', hpos.trans hlt⟩
  rcases good_or_bad hgood hbad ⟨_, hnew.accounts w⟩ hallowed hrun with
    ⟨⟨m, hm, hzero⟩, hsteps⟩ | ⟨⟨m, hm, hpos⟩, hsteps⟩
  · refine ⟨m, hm.meter, hm.counted, fun _ => hsteps, fun _ => ?_⟩
    have hsampled := hm.sampled
    have hshown := hm.shown
    unfold dropped at hzero
    omega
  · refine ⟨m, hm.meter, hm.counted, fun hall => ?_, fun h => absurd h hsteps⟩
    have hsampled := hm.sampled
    unfold dropped at hpos
    omega

/-- One rule that has just been stored. -/
def fileRule : TrafficState ℕ where
  meters := fun _ => some (.new 0)
  sessions := []
  tasks := []
  clock := 0
  ledger := fun _ => .start

/-- A connection passes three bytes on and then two; both are counted between the samples at 2 and
at 4. -/
def sampledTransfer : List TrafficLabel :=
  [.began "a" (.stream .start), .sampled 2, .moved 0 (.stream (.read (.ok [1, 2, 3]))),
    .moved 0 (.stream .sent), .moved 0 (.stream (.read (.ok [4, 5]))), .counted 0,
    .moved 0 (.stream .sent), .counted 0, .sampled 4]

/-- A transfer that is sampled while it goes on. -/
theorem bandwidth_complete_sample : ∃ t,
    exec (trafficStep 0 fun delta elapsed => delta.toNat / elapsed) fileRule sampledTransfer = some t ∧
      (t.ledger "a").figures .inbound = [(5, 2)] ∧
      EachStep (trafficStep 0 fun delta elapsed => delta.toNat / elapsed)
        (SamplesApart "a" .inbound) fileRule sampledTransfer := by
  refine ⟨_, rfl, rfl, ?_⟩
  obtain ⟨m, hm, -, hiff⟩ := @bandwidth_complete_iff ℕ 0 (fun delta elapsed => delta.toNat / elapsed)
    "a" .inbound fileRule _ sampledTransfer ⟨rfl, nofun, nofun, rfl⟩
    (by simp [sampledTransfer, TrafficLabel.KeepsRule]) rfl (by decide)
  cases hm
  exact hiff.mp (by decide)

end RustProxy.Control
