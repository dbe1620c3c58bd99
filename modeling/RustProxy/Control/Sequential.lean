import RustProxy.Control.Requests
import RustProxy.Core.DomainsText

/-!
# One request at a time

A server that starts up on a database and then serves requests one after the other, every statement
that writes and every `bind` succeeding or failing as the outcomes say.

* `settled_startUp` and `settled_handle` are the two step lemmas, `settled_after` the run lemma: every
  name is settled after the start-up and after each request.
* `control_plane_invariant` and `route_table_sound` read off what this says of the listeners, the
  statuses and the domain routes.
-/

namespace RustProxy.Control

open RustProxy.Core Prog Cells Ownership Semantics

variable {T : StdText} {J : DomainsJson}

/-! ## A request alone -/

/-- When nobody else moves, what a request has read is still there when it writes. -/
def Ghost.Fresh (J : DomainsJson) (g : Ghost) (s : ControlState) : Prop :=
  g.applying = none → ∀ rule ∈ g.seen, s.stored J rule.name = some rule

/-- A fresh ghost can assume any result. -/
lemma Ghost.Fresh.assumes {β : Type} {g : Ghost} {s : ControlState} (h : g.Fresh J s) (op : Op β)
    (r : β) : (requests J).assumes g op r s := by
  have huptodate : ∀ name, g.applying = none → g.UpToDate J name s :=
    fun name hg rule hrule hname => hname ▸ h hg rule hrule
  cases op with
  | updateRow name row =>
      cases r with
      | none => trivial
      | some affected => exact fun hg _ => huptodate name hg
  | deleteRow name =>
      cases r with
      | false => trivial
      | true => exact huptodate name
  | _ => trivial

/-- The rule a request reads is the stored one, and what it reads stays until it writes. -/
lemma Ghost.Fresh.step {β : Type} {g : Ghost} {s : ControlState} (h : g.Fresh J s) (op : Op β)
    (c : Bool)
    (hguar : (requests J).Guarantee g ((requests J).track g op (semantics.perform op c s).1) s
      (semantics.perform op c s).2) :
    ((requests J).track g op (semantics.perform op c s).1).Fresh J
      (semantics.perform op c s).2 := by
  have hsame : (requests J).track g op (semantics.perform op c s).1 = g →
      ((requests J).track g op (semantics.perform op c s).1).Fresh J
        (semantics.perform op c s).2 := by
    intro heq
    rw [heq] at hguar ⊢
    intro hg rule hrule
    have hheld : (requests J).held g ≠ some rule.name := fun hheld => by cases hg.symm.trans hheld
    rw [stored_of_frame (hguar.1 rule.name hheld hheld)]
    exact h hg rule hrule
  cases op with
  | selectRow name =>
      intro hg rule hrule
      cases hseen : g.seen with
      | some old => exact h hg rule (by simpa [requests, Ghost.track, hseen] using hrule)
      | none =>
          have hrow : (s.rules.lookup name).map (ProxyRuleRow.toRule J) = some rule := by
            simpa [requests, Ghost.track, hseen, semantics, perform] using hrule
          have hname : rule.name = name := name_of_stored hrow
          rw [hname]
          exact hrow
  | insertRow row =>
      cases hr : (semantics.perform (.insertRow row) c s).1 with
      | false => exact hr ▸ hsame (by rw [hr]; rfl)
      | true => exact fun hg => by cases hg
  | updateRow name row =>
      cases hr : (semantics.perform (.updateRow name row) c s).1 with
      | none => exact hr ▸ hsame (by rw [hr]; rfl)
      | some n =>
          by_cases hn : n = 0
          · exact hr ▸ hsame (by rw [hr]; exact if_pos hn)
          · rw [show (requests J).track g (.updateRow name row) (some n) =
              { g with applying := some name } from if_neg hn]
            exact fun hg => by cases hg
  | deleteRow name =>
      cases hr : (semantics.perform (.deleteRow name) c s).1 with
      | false => exact hr ▸ hsame (by rw [hr]; rfl)
      | true => exact fun hg => by cases hg
  | notify clientId msg => exact fun _ rule hrule => by cases hrule
  | _ => exact hsame rfl

/-- A request that runs alone leaves every name settled. -/
theorem settled_handle {s : ControlState} (hs : ∀ n, Settled J n s) (req : ApiRequest)
    (outcomes : Stream' Bool) (n : String) :
    Settled J n (semantics.run (handle T J req) outcomes s).2.2 := by
  obtain ⟨g, hg, hrest⟩ := (safe_handle (T := T) (J := J) req s).run (K := Ghost.Fresh J)
    (fun g op c s h => ⟨h.assumes op _, h.step op c⟩) (fun n _ => hs n)
    (fun _ rule hrule => by cases hrule) outcomes
  exact hrest n fun hheld => by cases hg.symm.trans hheld

/-! ## Start-up -/

/-- `list_proxies` changes nothing. -/
lemma run_listProxies (outcomes : Stream' Bool) (s : ControlState) :
    ∃ outcomes', semantics.run (listProxies J) outcomes s =
      (s.rules.rows.map fun row => entryOf s.runtime (row.toRule J), outcomes', s) :=
  ⟨outcomes.tail.tail, by simp [listProxies, queryAllRules, run_call, semantics, perform]⟩

/-- The rules that are still to be started are known and idle, the other names are settled. -/
structure Starting (J : DomainsJson) (rest : List ProxyEntry) (s : ControlState) : Prop where
  nodup : (rest.map fun entry => entry.rule.name).Nodup
  pending : ∀ entry ∈ rest, ∃ row, row.toRule J = entry.rule ∧
    Stopped entry.rule.name (some row) true s
  settled : ∀ n, n ∉ (rest.map fun entry => entry.rule.name) → Settled J n s

/-- One more rule is started. -/
lemma Starting.step {entry : ProxyEntry} {rest : List ProxyEntry} {s : ControlState}
    (h : Starting J (entry :: rest) s) (outcomes : Stream' Bool) :
    Starting J rest (semantics.run (startExisting entry) outcomes s).2.2 := by
  obtain ⟨row, hrow, hstopped⟩ := h.pending entry List.mem_cons_self
  obtain ⟨hnotin, hnodup⟩ := List.nodup_cons.mp h.nodup
  have hwithin : cells.Within entry.rule.name (fun _ => Settled J entry.rule.name)
      (startExisting entry) s :=
    (within_startProxyListener hstopped).bind fun ok s h => within_finalStatus hrow h
  obtain ⟨hsettled, hframe⟩ := hwithin.run outcomes
  refine ⟨hnodup, ?_, ?_⟩
  · intro other hother
    obtain ⟨row', hrow', hstopped'⟩ := h.pending other (List.mem_cons_of_mem _ hother)
    have hne : other.rule.name ≠ entry.rule.name := by
      intro heq
      exact hnotin (List.mem_map.mpr ⟨other, hother, heq⟩)
    exact ⟨row', hrow', stable_stopped _ _ _ _ _ hstopped' (hframe _ hne)⟩
  · intro n hn
    by_cases hne : n = entry.rule.name
    · rw [hne]
      exact hsettled
    · refine (h.settled n ?_).of_frame (hframe n hne)
      rw [List.map_cons, List.mem_cons, not_or]
      exact ⟨hne, hn⟩

/-- Every name is settled, and the rules still to be registered are stored. -/
def Registering (J : DomainsJson) (rest : List ProxyEntry) (s : ControlState) : Prop :=
  (∀ n, Settled J n s) ∧ ∀ entry ∈ rest, s.stored J entry.rule.name = some entry.rule

/-- Registering the routes of a stored rule once more. -/
lemma settled_insertRoutes {rule : ProxyRule} {s : ControlState} (hs : ∀ n, Settled J n s)
    (hstored : s.stored J rule.name = some rule) (hstream : rule.proxyType.isStream = false)
    (n : String) :
    Settled J n { s with domainRoutes := insertRoutes rule s.domainRoutes } := by
  by_cases hn : n = rule.name
  · subst hn
    have hsettled := hs rule.name
    rw [Settled, hstored] at hsettled
    obtain ⟨ok, rt, hrt, hstatus, hserving⟩ := hsettled
    have hstored' : ControlState.stored J
        { s with domainRoutes := insertRoutes rule s.domainRoutes } rule.name = some rule := hstored
    rw [Settled, hstored']
    refine ⟨ok, rt, hrt, hstatus, { hserving with routes := ?_ }⟩
    intro d r hroute hname
    simp only [insertRoutes_apply] at hroute
    split at hroute
    case isTrue hd =>
        cases hroute
        exact ⟨rfl, hstream, hd⟩
    case isFalse => exact hserving.routes d r hroute hname
  · exact (hs n).of_frame (frame_perform (.insertRoutes rule) (fun h => hn h.symm) true s)

/-- One more rule is registered. -/
lemma Registering.step {entry : ProxyEntry} {rest : List ProxyEntry} {s : ControlState}
    (h : Registering J (entry :: rest) s) (outcomes : Stream' Bool) :
    Registering J rest (semantics.run (registerExisting entry) outcomes s).2.2 := by
  obtain ⟨hsettled, hstored⟩ := h
  have hrest : ∀ entry ∈ rest, s.stored J entry.rule.name = some entry.rule :=
    fun other hother => hstored other (List.mem_cons_of_mem _ hother)
  have hentry := hstored entry List.mem_cons_self
  unfold registerExisting
  split
  case h_1 htype => exact ⟨settled_insertRoutes hsettled hentry (by rw [htype]; rfl), hrest⟩
  case h_2 htype => exact ⟨settled_insertRoutes hsettled hentry (by rw [htype]; rfl), hrest⟩
  case h_3 => exact ⟨hsettled, hrest⟩

/-- The state in which a server accepts its first request. -/
def started (J : DomainsJson) (db : RuleTable) (outcomes : Stream' Bool) : ControlState :=
  (semantics.run (startUp J) outcomes (.boot db)).2.2

/-- The state after `load_from_db`. -/
def loaded (db : RuleTable) : ControlState :=
  { ControlState.boot db with
    runtime := loadRuntime (db.rows.map ProxyRuleRow.name) fun _ => none }

/-- What loading the database leaves, whatever the outcomes are. -/
lemma run_loadFromDb (db : RuleTable) (outcomes : Stream' Bool) :
    ∃ outcomes', semantics.run (loadFromDb J) outcomes (.boot db) = ((), outcomes', loaded db) :=
  have hnames : (db.rows.map (ProxyRuleRow.toRule J)).map ProxyRule.name =
      db.rows.map ProxyRuleRow.name := List.map_map
  ⟨outcomes.tail.tail, by rw [loaded, ← hnames]; rfl⟩

/-- After loading, every stored rule is known and stopped. -/
lemma stopped_loaded (db : RuleTable) (n : String) :
    Stopped n (db.lookup n) (db.lookup n).isSome (loaded db) := by
  have hidle : Idle n (loaded db) :=
    ⟨rfl, fun task ht => (List.not_mem_nil ht).elim, fun d rule hroute => by cases hroute⟩
  refine ⟨hidle, rfl, ?_⟩
  have hmem := KeyedTable.lookup_eq_none_iff (t := db) (k := n)
  change (loadRuntime (db.rows.map ProxyRuleRow.name) (fun _ => none) n).isSome = _
  rw [loadRuntime_apply]
  cases hrow : db.lookup n with
  | none => rw [if_neg (hmem.mp hrow)]; rfl
  | some row =>
      rw [if_pos (not_not.mp fun hn => by rw [hmem.mpr hn] at hrow; cases hrow)]
      rfl

/-- After loading, all stored rules have still to be started. -/
lemma starting_loaded (db : RuleTable) :
    Starting J (db.rows.map fun row => entryOf (loaded db).runtime (row.toRule J)) (loaded db) := by
  have hnames : ((db.rows.map fun row => entryOf (loaded db).runtime (row.toRule J)).map
      fun entry => entry.rule.name) = db.rows.map ProxyRuleRow.name := by
    rw [List.map_map]
    rfl
  refine ⟨hnames ▸ db.nodup, ?_, ?_⟩
  · intro entry hentry
    obtain ⟨row, hrow, rfl⟩ := List.mem_map.mp hentry
    have hstopped := stopped_loaded db row.name
    rw [KeyedTable.lookup_key hrow] at hstopped
    exact ⟨row, rfl, hstopped⟩
  · intro n hn
    rw [hnames] at hn
    have hstopped := stopped_loaded db n
    rw [KeyedTable.lookup_eq_none_iff.mpr hn] at hstopped
    exact hstopped.settled

/-- Starting the stored rules settles every rule. -/
lemma settled_startExistingListeners (db : RuleTable) (outcomes : Stream' Bool) (n : String) :
    Settled J n (semantics.run (startExistingListeners J) outcomes (loaded db)).2.2 := by
  obtain ⟨outcomes', hlist⟩ := run_listProxies (J := J) outcomes (loaded db)
  rw [startExistingListeners, run_bind, hlist]
  exact (run_forM semantics
    (fun entry rest outcomes s (h : Starting J (entry :: rest) s) => h.step outcomes) _ outcomes'
    (starting_loaded db)).settled n List.not_mem_nil

/-- Registering the domains again keeps every rule settled. -/
lemma settled_registerExistingDomainRoutes {s : ControlState} (hs : ∀ n, Settled J n s)
    (outcomes : Stream' Bool) (n : String) :
    Settled J n (semantics.run (registerExistingDomainRoutes J) outcomes s).2.2 := by
  obtain ⟨outcomes', hlist⟩ := run_listProxies (J := J) outcomes s
  rw [registerExistingDomainRoutes, run_bind, hlist]
  refine (run_forM semantics
    (fun entry rest outcomes s (h : Registering J (entry :: rest) s) => h.step outcomes) _ outcomes'
    ⟨hs, ?_⟩).1 n
  intro entry hentry
  obtain ⟨row, hrow, rfl⟩ := List.mem_map.mp hentry
  exact congrArg (Option.map (ProxyRuleRow.toRule J)) (KeyedTable.lookup_key hrow)

/-- Start-up settles every name, whatever the database holds. -/
theorem settled_startUp (db : RuleTable) (outcomes : Stream' Bool) (n : String) :
    Settled J n (started J db outcomes) := by
  obtain ⟨outcomes', hload⟩ := run_loadFromDb (J := J) db outcomes
  rw [started, startUp, run_bind, hload, run_bind]
  have hlisteners := settled_startExistingListeners (J := J) db outcomes'
  dsimp only
  generalize semantics.run (startExistingListeners J) outcomes' (loaded db) = out at hlisteners ⊢
  exact settled_registerExistingDomainRoutes hlisteners _ n

/-! ## Runs -/

/-- A request, without its answer. -/
def serve (T : StdText) (J : DomainsJson) (req : ApiRequest) : Program PUnit := do
  let _ ← handle T J req
  return ()

/-- The state after a start-up and then the requests, each run to its end before the next. -/
def after (T : StdText) (J : DomainsJson) (db : RuleTable) (reqs : List ApiRequest)
    (outcomes : Stream' Bool) : ControlState :=
  (semantics.run (do startUp J; forM reqs (serve T J)) outcomes (.boot db)).2.2

/-- Every name is settled after every run. -/
theorem settled_after (db : RuleTable) (reqs : List ApiRequest) (outcomes : Stream' Bool)
    (n : String) : Settled J n (after T J db reqs outcomes) := by
  rw [after, run_bind]
  refine run_forM semantics (I := fun _ s => ∀ n, Settled J n s) ?_ reqs _
    (settled_startUp db outcomes) n
  intro req _ outcomes s hs n
  rw [serve, run_bind]
  exact settled_handle hs req outcomes n

/-! ## Listeners, statuses and routes -/

/-- A task runs only for a stored rule, as `listeners` has it. -/
lemma listener_of_task {s : ControlState} (hs : ∀ n, Settled J n s) {task : ListenerTask}
    (htask : task ∈ s.tasks) : ∃ rule ok, s.stored J task.name = some rule ∧ Serving rule ok s ∧
      s.listeners task.name = some task := by
  cases hstored : s.stored J task.name with
  | none => exact absurd rfl (((hs task.name).idle hstored).tasks task htask)
  | some rule =>
      obtain ⟨ok, hserving, -⟩ := (hs task.name).serving hstored
      have hname := name_of_stored hstored
      exact ⟨rule, ok, rfl, hserving, hname ▸ hserving.tasks task htask hname.symm⟩

/-- An entry of `listeners` is a task of a stored rule. -/
lemma rule_of_listener {s : ControlState} (hs : ∀ n, Settled J n s) {name : String}
    {task : ListenerTask} (hlistener : s.listeners name = some task) :
    ∃ rule, s.stored J name = some rule ∧ task ∈ s.tasks ∧ task.Serves rule ∧
      rule.proxyType.isStream = true ∧ s.status name = some .running := by
  cases hstored : s.stored J name with
  | none => cases ((hs name).idle hstored).listener.symm.trans hlistener
  | some rule =>
      obtain ⟨ok, hserving, hstatus⟩ := (hs name).serving hstored
      obtain rfl := name_of_stored hstored
      obtain ⟨hmem, hserves, hstream, rfl⟩ := hserving.listener task hlistener
      exact ⟨rule, rfl, hmem, hserves, hstream, hstatus⟩

/-- After a start-up on any database and any requests, each run to its end, whatever writes and
binds fail: `listeners` has exactly the stored TCP and UDP rules that are `Running`; each listener
serves the current version of its rule; no other listener task runs; and every stored rule is
`Running` or in `Error`. -/
theorem control_plane_invariant (T : StdText) (J : DomainsJson) (db : RuleTable)
    (reqs : List ApiRequest) (outcomes : Stream' Bool) :
    (∀ name, ((after T J db reqs outcomes).listeners name).isSome ↔
      ∃ rule, (after T J db reqs outcomes).stored J name = some rule ∧
        rule.proxyType.isStream = true ∧
        (after T J db reqs outcomes).status name = some .running) ∧
    (∀ name task, (after T J db reqs outcomes).listeners name = some task →
      ∃ rule, (after T J db reqs outcomes).stored J name = some rule ∧
        task ∈ (after T J db reqs outcomes).tasks ∧ task.Serves rule) ∧
    (∀ task ∈ (after T J db reqs outcomes).tasks,
      (after T J db reqs outcomes).listeners task.name = some task) ∧
    ∀ name rule, (after T J db reqs outcomes).stored J name = some rule →
      (after T J db reqs outcomes).status name = some .running ∨
        (after T J db reqs outcomes).status name = some .error := by
  have hs : ∀ n, Settled J n (after T J db reqs outcomes) := settled_after db reqs outcomes
  generalize after T J db reqs outcomes = s at hs
  refine ⟨fun name => ⟨?_, ?_⟩, ?_, ?_,
    ?_⟩
  · intro hsome
    obtain ⟨task, hlistener⟩ := Option.isSome_iff_exists.mp hsome
    obtain ⟨rule, hstored, -, -, hstream, hstatus⟩ := rule_of_listener hs hlistener
    exact ⟨rule, hstored, hstream, hstatus⟩
  · rintro ⟨rule, hstored, hstream, hrunning⟩
    obtain ⟨ok, hserving, hstatus⟩ := (hs name).serving hstored
    obtain rfl := name_of_stored hstored
    cases ok with
    | true => exact hserving.listens rfl hstream
    | false => cases hstatus.symm.trans hrunning
  · intro name task hlistener
    obtain ⟨rule, hstored, hmem, hserves, -⟩ := rule_of_listener hs hlistener
    exact ⟨rule, hstored, hmem, hserves⟩
  · intro task htask
    obtain ⟨-, -, -, -, hlistener⟩ := listener_of_task hs htask
    exact hlistener
  · intro name rule hstored
    obtain ⟨ok, -, hstatus⟩ := (hs name).serving hstored
    cases ok with
    | true => exact Or.inl hstatus
    | false => exact Or.inr hstatus

/-- A route points at a stored rule. -/
lemma rule_of_route {s : ControlState} (hs : ∀ n, Settled J n s) {d : String} {rule : ProxyRule}
    (hroute : s.domainRoutes d = some rule) :
    s.stored J rule.name = some rule ∧ rule.proxyType.isStream = false ∧ d ∈ rule.customDomains := by
  cases hstored : s.stored J rule.name with
  | none => exact absurd rfl (((hs rule.name).idle hstored).routes d rule hroute)
  | some current =>
      obtain ⟨ok, hserving, -⟩ := (hs rule.name).serving hstored
      obtain ⟨rfl, hstream, hd⟩ := hserving.routes d rule hroute (name_of_stored hstored).symm
      exact ⟨rfl, hstream, hd⟩

/-- After the same runs every domain is routed to the current version of a stored HTTP or HTTPS rule
that lists it. -/
theorem route_table_sound (T : StdText) (J : DomainsJson) (db : RuleTable) (reqs : List ApiRequest)
    (outcomes : Stream' Bool) (d : String) (rule : ProxyRule)
    (hroute : (after T J db reqs outcomes).domainRoutes d = some rule) :
    (after T J db reqs outcomes).stored J rule.name = some rule ∧
      (rule.proxyType = .http ∨ rule.proxyType = .https) ∧ d ∈ rule.customDomains := by
  obtain ⟨hstored, hstream, hd⟩ := rule_of_route (settled_after db reqs outcomes) hroute
  exact ⟨hstored, ProxyType.isStream_eq_false_iff.mp hstream, hd⟩

/-- A database with one TCP rule. -/
def oneRule : RuleTable where
  rows := [.ofRule DomainsText.domainsText
    { name := "a", proxyType := .tcp, clientId := "c", localIp := "127.0.0.1", localPort := 22,
      remotePort := 8080, customDomains := [], proxyProtocol := "" }]
  nodup := List.nodup_singleton _

/-- A request for an HTTP rule. -/
def createB : CreateProxyRequest where
  name := "b"
  proxyType := "http"
  clientId := "c"
  localIp := "127.0.0.1"
  localPort := 80
  remotePort := 0
  customDomains := ["b.example"]
  proxyProtocol := ""

/-- The route of a rule that has been created. -/
theorem route_table_sound_sample :
    (after asciiText DomainsText.domainsText oneRule [.create createB] fun _ => true).domainRoutes
        "b.example" = some (createB.rule .http) ∧
      (after asciiText DomainsText.domainsText oneRule [.create createB] fun _ => true).stored
        DomainsText.domainsText "b" = some (createB.rule .http) :=
  ⟨by decide +kernel, (route_table_sound asciiText DomainsText.domainsText oneRule [.create createB]
    (fun _ => true) "b.example" (createB.rule .http) (by decide +kernel)).1⟩

end RustProxy.Control
