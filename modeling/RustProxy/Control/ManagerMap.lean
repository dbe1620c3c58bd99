import RustProxy.Control.Routes

/-!
# The proxy manager as a map

`ProxyManager` keeps its rules in the database and their runtime state in memory.  Called one method
at a time, it is a map from names to rules.

* `RuleMap` is the map, with what is known of its rules at run time; `RuleMap.step` is what a call
  does to it.
* `Represents` relates the two, and `callRefines_of_represents` is the simulation of one call.
* `manager_refines_map` is about any sequence of calls on any database.
-/

namespace RustProxy.Control

open RustProxy.Core Prog Semantics Transition

/-- The methods of `ProxyManager`. -/
inductive Call where
  | loadFromDb
  | addProxy (rule : ProxyRule)
  /-- `update_proxy(name, new_rule)` with the name of the rule. -/
  | updateProxy (newRule : ProxyRule)
  | removeProxy (name : String)
  | updateStatus (name : String) (status : ProxyStatus)
  | incConnections (name : String)
  | decConnections (name : String)
  | addTraffic (name : String) (bytesIn bytesOut : UInt64)
  | getProxy (name : String)
  | listProxies
  | listProxiesByClient (clientId : String)
  deriving DecidableEq, Repr

/-! ## The map -/

/-- Rules by their names, and what is known of them at run time. -/
@[ext]
structure RuleMap where
  rule : String → Option ProxyRule
  runtime : Runtime
  named : ∀ n r, rule n = some r → r.name = n
  known : ∀ n, rule n = none → runtime n = none

/-- What a call answers, as far as the map goes. -/
inductive MapAnswer where
  | done
  | failed
  | removed (rule : ProxyRule)
  | entry (e : Option ProxyEntry)
  | entries (es : Set ProxyEntry)

namespace RuleMap

/-- A rule comes or goes, with its runtime state. -/
def put (m : RuleMap) (name : String) (entry : Option (ProxyRule × Option RuntimeState))
    (hname : ∀ e ∈ entry, e.1.name = name) : RuleMap where
  rule := Function.update m.rule name (entry.map Prod.fst)
  runtime := Function.update m.runtime name (entry.bind Prod.snd)
  named := by
    intro n r hr
    by_cases hn : n = name
    · subst hn
      rw [Function.update_self] at hr
      obtain ⟨e, he, rfl⟩ := Option.map_eq_some_iff.mp hr
      exact hname e he
    · rw [Function.update_of_ne hn] at hr
      exact m.named n r hr
  known := by
    intro n hr
    by_cases hn : n = name
    · subst hn
      rw [Function.update_self, Option.map_eq_none_iff] at hr
      rw [Function.update_self, hr]
      rfl
    · rw [Function.update_of_ne hn] at hr ⊢
      exact m.known n hr

/-- The runtime state of a rule changes, if any is known. -/
def onEntry (m : RuleMap) (name : String) (f : RuntimeState → RuntimeState) : RuleMap where
  rule := m.rule
  runtime := Control.onEntry name f m.runtime
  named := m.named
  known := by
    intro n hr
    unfold Control.onEntry
    by_cases hn : n = name
    · subst hn
      rw [Function.update_self, m.known n hr]
      rfl
    · rw [Function.update_of_ne hn]
      exact m.known n hr

/-- Every rule gets a runtime state. -/
def load (m : RuleMap) : RuleMap where
  rule := m.rule
  runtime := fun n => (m.rule n).map fun _ => (m.runtime n).getD .new
  named := m.named
  known := fun n hr => by rw [hr]; rfl

/-- The entry of a name. -/
def entry (m : RuleMap) (n : String) : Option ProxyEntry := (m.rule n).map (entryOf m.runtime)

/-- What a call does to the map, if its statement succeeds or fails. -/
def step (m : RuleMap) (ok : Bool) : Call → MapAnswer × RuleMap
  | .loadFromDb => (.done, m.load)
  | .addProxy rule =>
      if m.rule rule.name = none ∧ ok = true then
        (.done, m.put rule.name (some (rule, some .new)) (by rintro e ⟨⟩; rfl))
      else (.failed, m)
  | .updateProxy newRule =>
      if m.rule newRule.name ≠ none ∧ ok = true then
        (.done, m.put newRule.name (some (newRule, m.runtime newRule.name)) (by rintro e ⟨⟩; rfl))
      else (.failed, m)
  | .removeProxy name =>
      match m.rule name with
      | some rule => if ok then (.removed rule, m.put name none (by rintro e ⟨⟩)) else (.failed, m)
      | none => (.failed, m)
  | .updateStatus name status => (.done, m.onEntry name fun rt => { rt with status })
  | .incConnections name =>
      (.done, m.onEntry name fun rt => { rt with connections := rt.connections + 1 })
  | .decConnections name =>
      (.done, m.onEntry name fun rt => { rt with connections := rt.connections - 1 })
  | .addTraffic name bytesIn bytesOut =>
      (.done, m.onEntry name fun rt =>
        { rt with bytesIn := rt.bytesIn + bytesIn, bytesOut := rt.bytesOut + bytesOut })
  | .getProxy name => (.entry (m.entry name), m)
  | .listProxies => (.entries { e | ∃ n, m.entry n = some e }, m)
  | .listProxiesByClient clientId =>
      (.entries { e | ∃ n, m.entry n = some e ∧ e.rule.clientId = clientId }, m)

end RuleMap

/-! ## The manager -/

/-- What a call returns. -/
inductive Answer where
  | none
  | result (result : Except String Unit)
  | removed (result : Except String ProxyRule)
  | entry (e : Option ProxyEntry)
  | entries (es : List ProxyEntry)

/-- The call has returned an error. -/
def Answer.isError : Answer → Bool
  | .result (.error _) => true
  | .removed (.error _) => true
  | _ => false

/-- What an answer says as far as the map goes. -/
def Answer.toMap : Answer → MapAnswer
  | .none => .done
  | .result (.ok ()) => .done
  | .result (.error _) => .failed
  | .removed (.ok rule) => .removed rule
  | .removed (.error _) => .failed
  | .entry e => .entry e
  | .entries es => .entries { e | e ∈ es }

section

variable (J : DomainsJson)

/-- A program alone, when its statement succeeds or fails. -/
def alone {α : Type} (p : Program α) (ok : Bool) (s : ControlState) : α × ControlState :=
  ((semantics.run p (.const ok) s).1, (semantics.run p (.const ok) s).2.2)

/-- A critical section on the runtime map. -/
def onRuntime (f : Runtime → Runtime) (s : ControlState) : ControlState :=
  { s with runtime := f s.runtime }

/-- A call of a method of the manager. -/
def performCall (ok : Bool) (s : ControlState) : Call → Answer × ControlState
  | .loadFromDb => (alone (loadFromDb J) ok s).map (fun _ => .none) id
  | .addProxy rule => (alone (addProxy J rule) ok s).map .result id
  | .updateProxy newRule => (alone (updateProxy J newRule.name newRule) ok s).map .result id
  | .removeProxy name => (alone (removeProxy J name) ok s).map .removed id
  | .updateStatus name status => (alone (updateStatus name status) ok s).map (fun _ => .none) id
  | .incConnections name => (.none, onRuntime (incConnections name) s)
  | .decConnections name => (.none, onRuntime (decConnections name) s)
  | .addTraffic name bytesIn bytesOut => (.none, onRuntime (addTraffic name bytesIn bytesOut) s)
  | .getProxy name => (alone (getProxy J name) ok s).map .entry id
  | .listProxies => (alone (listProxies J) ok s).map .entries id
  | .listProxiesByClient clientId => (alone (listProxiesByClient J clientId) ok s).map .entries id

/-- The map represents the rules and the runtime state of the manager. -/
structure Represents (s : ControlState) (m : RuleMap) : Prop where
  rule : s.stored J = m.rule
  runtime : s.runtime = m.runtime

/-- A call that is answered as the map answers it, and does to the manager what it does to the map.  A
call that fails leaves the database and the runtime map; after `load_from_db` the names of the runtime
map are those stored; and a list has each rule once. -/
structure CallRefines (s : ControlState) (m : RuleMap) (call : Call) (ok : Bool) : Prop where
  answer : (performCall J ok s call).1.toMap = (m.step ok call).1
  represents : Represents J (performCall J ok s call).2 (m.step ok call).2
  failed : (performCall J ok s call).1.isError = true →
    (performCall J ok s call).2.rules = s.rules ∧ (performCall J ok s call).2.runtime = s.runtime
  loaded : call = .loadFromDb → ∀ n, ((performCall J ok s call).2.runtime n).isSome =
    ((performCall J ok s call).2.stored J n).isSome
  once : ∀ es, (performCall J ok s call).1 = .entries es → (es.map fun e => e.rule.name).Nodup

end

/-! ## Simulation -/

section

variable {J : DomainsJson} {s : ControlState} {m : RuleMap} {ok : Bool}

/-! ### The methods alone -/

/-- `add_proxy` alone and what follows it. -/
lemma run_addProxy_bind {α : Type} (rule : ProxyRule) (f : Except String Unit → Program α)
    (outcomes : Stream' Bool) (s : ControlState) :
    semantics.run (addProxy J rule >>= f) outcomes s =
      if (s.runtime rule.name).isSome then
        semantics.run (f (.error ("代理规则名称已存在: " ++ rule.name))) outcomes.tail s
      else match if outcomes.get 1 then s.rules.insert (.ofRule J rule) else none with
        | none => semantics.run (f (.error "数据库写入失败")) outcomes.tail.tail s
        | some rules =>
            semantics.run (lift (.insertRuntime rule.name .new) >>= fun _ => f (.ok ()))
              outcomes.tail.tail { s with rules } := by
  rw [addProxy_bind, run_call]
  change semantics.run (if (s.runtime rule.name).isSome then _ else _) _ s = _
  split
  · rfl
  · have hget : outcomes.get 1 = outcomes.tail.head := rfl
    rw [run_call, hget]
    cases hins : if outcomes.tail.head then s.rules.insert (ProxyRuleRow.ofRule J rule) else none with
    | none =>
        have hperform : semantics.perform (.insertRow (ProxyRuleRow.ofRule J rule))
            outcomes.tail.head s = (false, s) := by
          simp only [semantics, perform, hins]
        rw [hperform]
        rfl
    | some rules =>
        have hperform : semantics.perform (.insertRow (ProxyRuleRow.ofRule J rule))
            outcomes.tail.head s = (true, { s with rules }) := by
          simp only [semantics, perform, hins]
        rw [hperform]
        rfl

/-- What `add_proxy` does when nobody else does anything. -/
lemma alone_addProxy (rule : ProxyRule) (ok : Bool) (s : ControlState) :
    alone (addProxy J rule) ok s =
      if (s.runtime rule.name).isSome then (.error ("代理规则名称已存在: " ++ rule.name), s)
      else match if ok then s.rules.insert (.ofRule J rule) else none with
        | none => (.error "数据库写入失败", s)
        | some rules =>
            (.ok (), { s with
              rules
              runtime := Function.update s.runtime rule.name (some .new) }) := by
  have hrun := run_addProxy_bind (J := J) rule ret (.const ok) s
  rw [bind_ret] at hrun
  rw [alone, hrun]
  split
  · rfl
  · have hget : (Stream'.const ok).get 1 = ok := rfl
    rw [hget]
    cases (if ok = true then s.rules.insert (ProxyRuleRow.ofRule J rule) else none) <;> rfl

/-- What `update_proxy` does when nobody else does anything. -/
lemma alone_updateProxy (name : String) (newRule : ProxyRule) (ok : Bool) (s : ControlState) :
    alone (updateProxy J name newRule) ok s =
      if ok then
        if s.rules.lookup name = none then (.error ("代理规则不存在: " ++ name), s)
        else (.ok (), { s with
          rules := s.rules.modify name (setColumns (.ofRule J newRule)) fun _ => rfl })
      else (.error "数据库更新失败", s) := by
  cases ok with
  | false => rfl
  | true =>
      have hperform : semantics.perform (.updateRow name (.ofRule J newRule))
          (Stream'.const true).head s = (some (s.rules.affected name), { s with
            rules := s.rules.modify name (setColumns (.ofRule J newRule)) fun _ => rfl }) := rfl
      rw [alone, updateProxy, lift_bind, run_call, hperform, if_pos rfl, KeyedTable.affected]
      by_cases hrow : s.rules.lookup name = none
      · rw [if_pos hrow, hrow]
        exact congrArg (fun rules => (_, { s with rules }))
          (KeyedTable.modify_of_lookup_none hrow _ _)
      · rw [if_neg hrow, if_pos (Option.isSome_iff_ne_none.mpr hrow)]
        rfl

/-- What `get_proxy` does when nobody else does anything. -/
lemma alone_getProxy (name : String) (ok : Bool) (s : ControlState) :
    alone (getProxy J name) ok s = ((s.stored J name).map (entryOf s.runtime), s) := by
  rw [alone, getProxy, queryRule, ControlState.stored]
  simp only [lift_bind, call_bind, run_call]
  dsimp only [semantics, perform]
  cases hrow : s.rules.lookup name with
  | none => rfl
  | some row =>
    obtain rfl : row.name = name := KeyedTable.key_of_lookup hrow
    rfl

/-- What `list_proxies` does when nobody else does anything. -/
lemma alone_listProxies (ok : Bool) (s : ControlState) :
    alone (listProxies J) ok s =
      (s.rules.rows.map fun row => entryOf s.runtime (row.toRule J), s) := by
  unfold alone
  obtain ⟨outcomes', hrun⟩ := run_listProxies (J := J) (.const ok) s
  rw [hrun]

/-- What `list_proxies_by_client` does when nobody else does anything. -/
lemma alone_listProxiesByClient (clientId : String) (ok : Bool) (s : ControlState) :
    alone (listProxiesByClient J clientId) ok s =
      ((s.rules.rows.filter fun row => row.clientId = clientId).map fun row =>
        entryOf s.runtime (row.toRule J), s) := by
  simp [alone, listProxiesByClient, queryRulesByClient, run_call, semantics, perform]

/-- What `remove_proxy` does when nobody else does anything. -/
lemma alone_removeProxy (name : String) (ok : Bool) (s : ControlState) :
    alone (removeProxy J name) ok s =
      match s.stored J name with
      | none => (.error "代理规则不存在", s)
      | some rule =>
          if ok then
            (.ok rule, { s with
              rules := s.rules.erase name
              runtime := Function.update s.runtime name none })
          else (.error "数据库删除失败", s) := by
  rw [alone, removeProxy, queryRule, ControlState.stored]
  simp only [lift_bind, call_bind, run_call]
  dsimp only [semantics, perform]
  cases hrow : s.rules.lookup name with
  | none => rfl
  | some row => cases ok <;> rfl

/-- What `load_from_db` does when nobody else does anything. -/
lemma alone_loadFromDb (ok : Bool) (s : ControlState) :
    alone (loadFromDb J) ok s =
      ((), { s with runtime := loadRuntime (s.rules.rows.map ProxyRuleRow.name) s.runtime }) := by
  simp [alone, loadFromDb, queryAllRules, run_call, semantics, perform]
  rfl

/-! ### Calls -/

/-- A call that leaves the manager and the map. -/
lemma callRefines_of_same {call : Call} {answer : Answer} (h : Represents J s m)
    (hperform : performCall J ok s call = (answer, s)) (hstep : m.step ok call = (answer.toMap, m))
    (hload : call ≠ .loadFromDb)
    (honce : ∀ es, answer = .entries es → (es.map fun e => e.rule.name).Nodup) :
    CallRefines J s m call ok where
  answer := by rw [hperform, hstep]
  represents := by rw [hperform, hstep]; exact h
  failed := fun _ => by rw [hperform]; exact ⟨rfl, rfl⟩
  loaded := fun heq => absurd heq hload
  once := by rw [hperform]; exact honce

/-- A call that succeeds. -/
lemma callRefines_of_change {call : Call} {answer : Answer} {s' : ControlState} {m' : RuleMap}
    (h : Represents J s' m') (hperform : performCall J ok s call = (answer, s'))
    (hstep : m.step ok call = (answer.toMap, m')) (hload : call ≠ .loadFromDb)
    (hok : answer.isError = false) (hquery : ∀ es, answer ≠ .entries es) :
    CallRefines J s m call ok where
  answer := by rw [hperform, hstep]
  represents := by rw [hperform, hstep]; exact h
  failed := by
    rw [hperform, hok]
    rintro ⟨⟩
  loaded := fun heq => absurd heq hload
  once := by
    rw [hperform]
    exact fun es hes => absurd hes (hquery es)

/-- Loading gives every stored rule an entry. -/
lemma callRefines_loadFromDb (h : Represents J s m) : CallRefines J s m .loadFromDb ok := by
  have hperform : performCall J ok s .loadFromDb = (.none, { s with
      runtime := loadRuntime (s.rules.rows.map ProxyRuleRow.name) s.runtime }) :=
    congrArg (Prod.map (fun _ => Answer.none) id) (alone_loadFromDb (J := J) ok s)
  have hruntime : ∀ n, loadRuntime (s.rules.rows.map ProxyRuleRow.name) s.runtime n =
      (m.rule n).map fun _ => (m.runtime n).getD .new := by
    intro n
    have hstored := congrFun h.rule n
    unfold ControlState.stored at hstored
    rw [loadRuntime_apply, h.runtime, ← hstored]
    cases hrow : s.rules.lookup n with
    | none =>
        rw [hrow] at hstored
        rw [if_neg (KeyedTable.lookup_eq_none_iff.mp hrow), m.known n hstored.symm]
        rfl
    | some row =>
        have hmem : n ∈ s.rules.rows.map ProxyRuleRow.name := by
          by_contra hn
          cases (KeyedTable.lookup_eq_none_iff.mpr hn).symm.trans hrow
        rw [if_pos hmem]
        rfl
  refine ⟨?_, ?_, ?_, ?_, ?_⟩
  · rw [hperform]
    rfl
  · rw [hperform]
    exact ⟨h.rule, funext hruntime⟩
  · rw [hperform]
    rintro ⟨⟩
  · rintro - n
    rw [hperform]
    dsimp only
    rw [hruntime, ← h.rule, Option.isSome_map]
    rfl
  · rw [hperform]
    rintro es ⟨⟩

/-- An addition refines the insertion into the map. -/
lemma callRefines_addProxy (h : Represents J s m) (rule : ProxyRule) :
    CallRefines J s m (.addProxy rule) ok := by
  have hperform : performCall J ok s (.addProxy rule) = _ :=
    congrArg (Prod.map Answer.result id) (alone_addProxy rule ok s)
  have hstored : s.stored J rule.name = m.rule rule.name := congrFun h.rule rule.name
  by_cases hadds : m.rule rule.name = none ∧ ok = true
  · obtain ⟨hfree, rfl⟩ := hadds
    have hunknown : s.runtime rule.name = none := by rw [h.runtime, m.known _ hfree]
    rw [hfree, ControlState.stored, Option.map_eq_none_iff] at hstored
    obtain ⟨rules, hins⟩ : ∃ rules, s.rules.insert (.ofRule J rule) = some rules := by
      rw [← Option.ne_none_iff_exists', Ne, KeyedTable.insert_eq_none_iff, not_not]
      exact hstored
    rw [hunknown, Option.isSome_none, if_neg Bool.false_ne_true, if_pos rfl, hins] at hperform
    refine callRefines_of_change ⟨?_, ?_⟩ hperform (if_pos ⟨hfree, rfl⟩) Call.noConfusion rfl
      (fun _ => Answer.noConfusion)
    · funext n
      refine (stored_insert hins n).trans ?_
      rw [h.rule]
      rfl
    · change Function.update s.runtime rule.name _ = Function.update m.runtime rule.name _
      rw [h.runtime]
      rfl
  · have hfails : ∃ e, performCall J ok s (.addProxy rule) = (.result (.error e), s) := by
      by_cases hknown : (s.runtime rule.name).isSome = true
      · rw [if_pos hknown] at hperform
        exact ⟨_, hperform⟩
      · have hins : (if ok then s.rules.insert (.ofRule J rule) else none) = none := by
          rw [ite_eq_right_iff]
          intro hok
          rw [KeyedTable.insert_eq_none_iff]
          intro hnone
          refine hadds ⟨?_, hok⟩
          rw [← hstored]
          exact Option.map_eq_none_iff.mpr hnone
        rw [if_neg hknown, hins] at hperform
        exact ⟨_, hperform⟩
    obtain ⟨e, hperform⟩ := hfails
    refine callRefines_of_same h hperform (if_neg hadds) Call.noConfusion ?_
    exact fun _ => Answer.noConfusion

/-- An update refines the replacement in the map. -/
lemma callRefines_updateProxy (h : Represents J s m) (newRule : ProxyRule) :
    CallRefines J s m (.updateProxy newRule) ok := by
  have hperform : performCall J ok s (.updateProxy newRule) = _ :=
    congrArg (Prod.map Answer.result id) (alone_updateProxy newRule.name newRule ok s)
  have hstored : s.stored J newRule.name = m.rule newRule.name := congrFun h.rule newRule.name
  by_cases hupdates : m.rule newRule.name ≠ none ∧ ok = true
  · obtain ⟨hrule, rfl⟩ := hupdates
    obtain ⟨old, hold⟩ := Option.ne_none_iff_exists'.mp hrule
    have hlookup : s.rules.lookup newRule.name ≠ none := by
      intro hnone
      rw [ControlState.stored, hnone, hold] at hstored
      cases hstored
    rw [if_pos rfl, if_neg hlookup] at hperform
    refine callRefines_of_change ⟨?_, ?_⟩ hperform (if_pos ⟨hrule, rfl⟩) Call.noConfusion rfl
      (fun _ => Answer.noConfusion)
    · funext n
      refine (stored_modify (fun _ => rfl) (hstored.trans hold) rfl n).trans ?_
      rw [h.rule]
      rfl
    · change s.runtime = Function.update m.runtime newRule.name (m.runtime newRule.name)
      rw [Function.update_eq_self, h.runtime]
  · have hfails : ∃ e, performCall J ok s (.updateProxy newRule) = (.result (.error e), s) := by
      cases ok with
      | false => exact ⟨_, hperform⟩
      | true =>
          have hnone : s.rules.lookup newRule.name = none := by
            by_contra hrow
            refine hupdates ⟨?_, rfl⟩
            rw [← hstored, ControlState.stored, Ne, Option.map_eq_none_iff]
            exact hrow
          rw [if_pos rfl, if_pos hnone] at hperform
          exact ⟨_, hperform⟩
    obtain ⟨e, hperform⟩ := hfails
    refine callRefines_of_same h hperform (if_neg hupdates) Call.noConfusion ?_
    exact fun _ => Answer.noConfusion

/-- A removal refines the removal from the map. -/
lemma callRefines_removeProxy (h : Represents J s m) (name : String) :
    CallRefines J s m (.removeProxy name) ok := by
  have hperform : performCall J ok s (.removeProxy name) = _ :=
    congrArg (Prod.map Answer.removed id) (alone_removeProxy name ok s)
  have hstored : s.stored J name = m.rule name := congrFun h.rule name
  rw [hstored] at hperform
  cases hrule : m.rule name with
  | none =>
      rw [hrule] at hperform
      refine callRefines_of_same h hperform ?_ Call.noConfusion (fun _ => Answer.noConfusion)
      rw [RuleMap.step, hrule]
      rfl
  | some rule =>
      rw [hrule] at hperform
      cases ok with
      | false =>
          refine callRefines_of_same h hperform ?_ Call.noConfusion (fun _ => Answer.noConfusion)
          rw [RuleMap.step, hrule]
          rfl
      | true =>
          have hremoves : m.step true (.removeProxy name) =
              (.removed rule, m.put name none (by rintro e ⟨⟩)) := by
            rw [RuleMap.step, hrule]
            rfl
          refine callRefines_of_change ⟨?_, ?_⟩ hperform hremoves Call.noConfusion rfl
            (fun _ => Answer.noConfusion)
          · funext n
            refine (stored_erase name n).trans ?_
            rw [h.rule]
            rfl
          · change Function.update s.runtime name _ = Function.update m.runtime name _
            rw [h.runtime]
            rfl

/-- A critical section on one runtime entry. -/
lemma callRefines_onEntry (h : Represents J s m) {call : Call} (name : String)
    (f : RuntimeState → RuntimeState)
    (hperform : performCall J ok s call = (.none, onRuntime (onEntry name f) s))
    (hstep : m.step ok call = (.done, m.onEntry name f)) (hload : call ≠ .loadFromDb) :
    CallRefines J s m call ok := by
  have hentry : Represents J (onRuntime (onEntry name f) s) (m.onEntry name f) := by
    refine ⟨h.rule, ?_⟩
    change onEntry name f s.runtime = onEntry name f m.runtime
    rw [h.runtime]
  exact callRefines_of_change hentry hperform hstep hload rfl fun _ => Answer.noConfusion

/-- The entry of a row. -/
lemma entry_of_row (h : Represents J s m) {row : ProxyRuleRow} (hrow : row ∈ s.rules.rows) :
    m.entry row.name = some (entryOf s.runtime (row.toRule J)) := by
  rw [RuleMap.entry, ← h.rule, ← h.runtime, ControlState.stored, KeyedTable.lookup_key hrow]
  rfl

/-- An entry is that of a row. -/
lemma row_of_entry (h : Represents J s m) {n : String} {e : ProxyEntry} (he : m.entry n = some e) :
    ∃ row ∈ s.rules.rows, entryOf s.runtime (row.toRule J) = e := by
  rw [RuleMap.entry, ← h.rule, ← h.runtime, ControlState.stored, Option.map_map] at he
  obtain ⟨row, hrow, rfl⟩ := Option.map_eq_some_iff.mp he
  exact ⟨row, KeyedTable.mem_of_lookup hrow, rfl⟩

/-- The names in a list of rows. -/
lemma nodup_entries {rows : List ProxyRuleRow} (h : rows.Sublist s.rules.rows) :
    ((rows.map fun row => entryOf s.runtime (row.toRule J)).map fun e => e.rule.name).Nodup := by
  rw [List.map_map]
  exact s.rules.nodup.sublist (h.map ProxyRuleRow.name)

/-- The list is that of the map. -/
lemma callRefines_listProxies (h : Represents J s m) : CallRefines J s m .listProxies ok := by
  have hperform : performCall J ok s .listProxies = _ :=
    congrArg (Prod.map Answer.entries id) (alone_listProxies ok s)
  refine callRefines_of_same h hperform ?_ Call.noConfusion ?_
  · refine congrArg (fun es => (MapAnswer.entries es, m)) (Set.ext fun e => ?_)
    constructor
    · rintro ⟨n, he⟩
      obtain ⟨row, hrow, hentry⟩ := row_of_entry h he
      exact List.mem_map.mpr ⟨row, hrow, hentry⟩
    · intro he
      obtain ⟨row, hrow, rfl⟩ := List.mem_map.mp he
      exact ⟨row.name, entry_of_row h hrow⟩
  · rintro es ⟨⟩
    exact nodup_entries (List.Sublist.refl _)

/-- The list of a client is that of the map. -/
lemma callRefines_listProxiesByClient (h : Represents J s m) (clientId : String) :
    CallRefines J s m (.listProxiesByClient clientId) ok := by
  have hperform : performCall J ok s (.listProxiesByClient clientId) = _ :=
    congrArg (Prod.map Answer.entries id) (alone_listProxiesByClient clientId ok s)
  refine callRefines_of_same h hperform ?_ Call.noConfusion ?_
  · refine congrArg (fun es => (MapAnswer.entries es, m)) (Set.ext fun e => ?_)
    constructor
    · rintro ⟨n, he, hclient⟩
      obtain ⟨row, hrow, rfl⟩ := row_of_entry h he
      exact List.mem_map.mpr ⟨row, List.mem_filter.mpr ⟨hrow, decide_eq_true hclient⟩, rfl⟩
    · intro he
      obtain ⟨row, hrow, rfl⟩ := List.mem_map.mp he
      obtain ⟨hrow, hclient⟩ := List.mem_filter.mp hrow
      exact ⟨row.name, entry_of_row h hrow, of_decide_eq_true hclient⟩
  · rintro es ⟨⟩
    exact nodup_entries List.filter_sublist

/-- An entry is that of the map. -/
lemma callRefines_getProxy (h : Represents J s m) (name : String) :
    CallRefines J s m (.getProxy name) ok := by
  have hperform : performCall J ok s (.getProxy name) = _ :=
    congrArg (Prod.map Answer.entry id) (alone_getProxy name ok s)
  refine callRefines_of_same h hperform ?_ Call.noConfusion (fun _ => Answer.noConfusion)
  rw [h.rule, h.runtime]
  rfl

/-- Every call refines the map. -/
theorem callRefines_of_represents (h : Represents J s m) (call : Call) (ok : Bool) :
    CallRefines J s m call ok := by
  cases call with
  | loadFromDb => exact callRefines_loadFromDb h
  | addProxy rule => exact callRefines_addProxy h rule
  | updateProxy newRule => exact callRefines_updateProxy h newRule
  | removeProxy name => exact callRefines_removeProxy h name
  | updateStatus name status => exact callRefines_onEntry h name _ rfl rfl Call.noConfusion
  | incConnections name => exact callRefines_onEntry h name _ rfl rfl Call.noConfusion
  | decConnections name => exact callRefines_onEntry h name _ rfl rfl Call.noConfusion
  | addTraffic name bytesIn bytesOut => exact callRefines_onEntry h name _ rfl rfl Call.noConfusion
  | getProxy name => exact callRefines_getProxy h name
  | listProxies => exact callRefines_listProxies h
  | listProxiesByClient clientId => exact callRefines_listProxiesByClient h clientId

end

/-! ## Runs -/

/-- The map of a database, before anything is known of its rules. -/
def RuleMap.ofTable (J : DomainsJson) (db : RuleTable) : RuleMap where
  rule := fun n => (db.lookup n).map (ProxyRuleRow.toRule J)
  runtime := fun _ => none
  named := by
    intro n r hr
    obtain ⟨row, hrow, rfl⟩ := Option.map_eq_some_iff.mp hr
    exact (KeyedTable.key_of_lookup hrow : row.name = n)
  known := fun _ _ => rfl

/-- A call, and whether its statement succeeds, on the manager and on the map. -/
def bothStep (J : DomainsJson) (s : ControlState × RuleMap) (c : Call × Bool) :
    Option (ControlState × RuleMap) :=
  some ((performCall J c.2 s.1 c.1).2, (s.2.step c.2 c.1).2)

/-- On any database and over any calls of the methods, one at a time, whatever statements fail: each
call is answered by the manager as by the map, which starts with the rules of the database. -/
theorem manager_refines_map (J : DomainsJson) (db : RuleTable) (calls : List (Call × Bool)) :
    EachStep (bothStep J) (fun s c => CallRefines J s.1 s.2 c.1 c.2)
      (ControlState.boot db, RuleMap.ofTable J db) calls := by
  have hany : EachStep (bothStep J) (fun _ _ => True)
      (ControlState.boot db, RuleMap.ofTable J db) calls :=
    eachStep_of_forall_mem fun _ _ => trivial
  refine eachStep_of_eachStep (I := fun s => Represents J s.1 s.2) ?_ ?_ ⟨rfl, rfl⟩ hany
  · exact fun s c hs _ => callRefines_of_represents hs c.1 c.2
  · rintro s c s' hs - hstep
    cases hstep
    exact (callRefines_of_represents hs c.1 c.2).represents

end RustProxy.Control
