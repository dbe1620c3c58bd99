import RustProxy.Control.Sequential

/-!
# What a request changes

A request that runs alone and passes its checks makes one statement, and then runs the callbacks that
stop the old version of the rule and start the new one.

* `change` is the version that goes and the version that comes, `Change.Edits` what the statement does
  to the table and `Change.callbacks` what is run after it.
* `applies_handle` cuts the run of a request at the callbacks: nothing that rules, listeners or routes
  are kept in is touched before or after them.
-/

namespace RustProxy.Control

open RustProxy.Core Prog Semantics

/-- A version of a rule goes, a version of it comes. -/
structure Change where
  name : String
  old : Option ProxyRule
  new : Option ProxyRule
  deriving DecidableEq, Repr

/-- The change a request makes when it runs alone: it passes its checks and its statement succeeds. -/
def change (T : StdText) (J : DomainsJson) (s : ControlState) (outcomes : Stream' Bool) :
    ApiRequest → Option Change
  | .create payload =>
      match checkCreate T payload with
      | .error _ => none
      | .ok proxyType =>
          if (s.runtime payload.name).isNone ∧ s.stored J payload.name = none ∧ outcomes.get 1 then
            some { name := payload.name, old := none, new := some (payload.rule proxyType) }
          else none
  | .update name payload =>
      match checkUpdate T payload, s.stored J name with
      | .ok _, some existing =>
          match checkUpdateOf T payload existing with
          | .error _ => none
          | .ok _ =>
              if outcomes.get 2 then
                some { name, old := some existing, new := some (payload.merge name existing) }
              else none
      | _, _ => none
  | .delete name =>
      match s.stored J name with
      | some existing =>
          if outcomes.get 3 then some { name, old := some existing, new := none } else none
      | none => none

/-- The callbacks that follow the statement. -/
def Change.callbacks (c : Change) : Program Unit :=
  c.old.elim (return ()) onProxyDelete >>= fun _ => c.new.elim (return ()) onProxyCreate

/-- The statement, by what it finds in the table. -/
inductive Change.Edits (J : DomainsJson) : Change → RuleTable → RuleTable → Prop
  | insert {rule : ProxyRule} {rules rules' : RuleTable}
      (h : rules.insert (.ofRule J rule) = some rules') :
      Edits J { name := rule.name, old := none, new := some rule } rules rules'
  | modify {name : String} {old new : ProxyRule} {rules : RuleTable}
      (hcolumns : ∀ row, (setColumns (.ofRule J new) row).name = row.name)
      (hold : (rules.lookup name).map (ProxyRuleRow.toRule J) = some old) (hname : new.name = name) :
      Edits J { name, old := some old, new := some new } rules
        (rules.modify name (setColumns (.ofRule J new)) hcolumns)
  | erase {name : String} {old : ProxyRule} {rules : RuleTable}
      (hold : (rules.lookup name).map (ProxyRuleRow.toRule J) = some old) :
      Edits J { name, old := some old, new := none } rules (rules.erase name)

/-- Everything but the runtime map and the messages to the clients. -/
def ControlState.services (s : ControlState) : RuleTable × List ListenerTask × ℕ ×
    (String → Option ListenerTask) × (String → Option ProxyRule) :=
  (s.rules, s.tasks, s.nextTask, s.listeners, s.domainRoutes)

section

variable {T : StdText} {J : DomainsJson} {α β : Type} {s s' : ControlState} {c : Option Change}

/-! ## The statements -/

/-- An `INSERT` under a free name, in terms of the rules. -/
lemma stored_insert {rules : RuleTable} {rule : ProxyRule}
    (h : s.rules.insert (.ofRule J rule) = some rules) (n : String) :
    (rules.lookup n).map (ProxyRuleRow.toRule J) =
      Function.update (s.stored J) rule.name (some rule) n := by
  rw [KeyedTable.lookup_insert h, ProxyRuleRow.ofRule_name]
  by_cases hn : rule.name = n
  · subst hn
    rw [if_pos rfl, Function.update_self, Option.map_some, ProxyRuleRow.toRule_ofRule]
  · rw [if_neg hn, Function.update_of_ne (Ne.symm hn)]
    rfl

/-- An `UPDATE` of a stored rule. -/
lemma stored_modify {name : String} {old new : ProxyRule}
    (hcolumns : ∀ row, (setColumns (.ofRule J new) row).name = row.name)
    (hold : s.stored J name = some old) (hname : new.name = name) (n : String) :
    ((s.rules.modify name (setColumns (.ofRule J new)) hcolumns).lookup n).map
        (ProxyRuleRow.toRule J) = Function.update (s.stored J) name (some new) n := by
  rw [KeyedTable.lookup_modify]
  by_cases hn : name = n
  · subst hn
    obtain ⟨row, hrow, -⟩ := Option.map_eq_some_iff.mp hold
    have hkey : row.name = new.name := (KeyedTable.key_of_lookup hrow).trans hname.symm
    rw [if_pos rfl, Function.update_self, hrow, Option.map_some, Option.map_some,
      setColumns_ofRule hkey, ProxyRuleRow.toRule_ofRule]
  · rw [if_neg hn, Function.update_of_ne (Ne.symm hn)]
    rfl

/-- What is stored after a deletion. -/
lemma stored_erase (name n : String) :
    ((s.rules.erase name).lookup n).map (ProxyRuleRow.toRule J) =
      Function.update (s.stored J) name none n := by
  rw [KeyedTable.lookup_erase]
  by_cases hn : name = n
  · subst hn
    rw [if_pos rfl, Function.update_self, Option.map_none]
  · rw [if_neg hn, Function.update_of_ne (Ne.symm hn)]
    rfl

/-- The rules after the statement. -/
lemma Change.Edits.stored {c : Change} {rules : RuleTable} (h : c.Edits J s.rules rules) (n : String) :
    (rules.lookup n).map (ProxyRuleRow.toRule J) = Function.update (s.stored J) c.name c.new n := by
  generalize hrules : s.rules = before at h
  cases h with
  | insert hins => exact stored_insert (hrules ▸ hins) n
  | modify hcolumns hold hname =>
      subst hrules
      exact stored_modify hcolumns hold hname n
  | erase hold =>
      subst hrules
      exact stored_erase _ n

/-! ## The run of a request -/

/-- The run of the program makes the change: nothing without one, and otherwise its statement and its
callbacks, with no effect on rules, listeners and routes before and after them. -/
def Applies (J : DomainsJson) (p : Program α) (outcomes : Stream' Bool) (s : ControlState) :
    Option Change → Prop
  | none => (semantics.run p outcomes s).2.2.services = s.services
  | some c => ∃ (k : Unit → Program α) (outcomes' : Stream' Bool) (s' : ControlState),
      semantics.Reaches p outcomes s (c.callbacks >>= k) outcomes' s' ∧
        (∀ u, semantics.Transforms ControlState.services (k u) id) ∧
        c.Edits J s.rules s'.rules ∧ s'.services.2 = s.services.2

/-- The actions before the statement. -/
lemma Applies.call {δ : Type} {op : Op δ} {next : δ → Program α} {outcomes : Stream' Bool}
    (hop : (semantics.perform op outcomes.head s).2.services = s.services)
    (h : Applies J (next (semantics.perform op outcomes.head s).1) outcomes.tail
      (semantics.perform op outcomes.head s).2 c) : Applies J (.call op next) outcomes s c := by
  cases c with
  | none => exact Eq.trans h hop
  | some c =>
      obtain ⟨k, outcomes', s', hreach, hk, hedits, hsame⟩ := h
      have hrules : (semantics.perform op outcomes.head s).2.rules = s.rules := congrArg Prod.fst hop
      rw [hrules] at hedits
      exact ⟨k, outcomes', s', .call hreach, hk, hedits, hsame.trans (congrArg Prod.snd hop)⟩

/-- What comes after the callbacks. -/
lemma Applies.bind {p : Program α} {outcomes : Stream' Bool} (h : Applies J p outcomes s c)
    {f : α → Program β} (hf : ∀ a, semantics.Transforms ControlState.services (f a) id) :
    Applies J (p >>= f) outcomes s c := by
  cases c with
  | none =>
      change (semantics.run (p >>= f) outcomes s).2.2.services = s.services
      rw [run_bind]
      exact (hf _ _ _).trans h
  | some c =>
      obtain ⟨k, outcomes', s', hreach, hk, hedits, hsame⟩ := h
      refine ⟨fun u => k u >>= f, outcomes', s', ?_, fun u => (hk u).bind hf, hedits, hsame⟩
      rw [← bind_assoc]
      exact hreach.bind f

/-- At the callbacks, with the statement just made. -/
lemma Applies.callbacks {c : Change} {k : Unit → Program α} {outcomes outcomes' : Stream' Bool}
    {p : Program α} (hreach : semantics.Reaches p outcomes s (c.callbacks >>= k) outcomes' s')
    (hk : ∀ u, semantics.Transforms ControlState.services (k u) id)
    (hedits : c.Edits J s.rules s'.rules) (hsame : s'.services.2 = s.services.2) :
    Applies J p outcomes s (some c) :=
  ⟨k, outcomes', s', hreach, hk, hedits, hsame⟩

/-- A notification leaves the services. -/
lemma services_notify (clientId : String) (msg : Proto.ControlMessage) :
    semantics.Transforms ControlState.services (lift (.notify clientId msg)) id :=
  transforms_lift fun _ _ => rfl

/-- Looking a rule up leaves the services. -/
lemma services_getProxy (name : String) :
    semantics.Transforms ControlState.services (getProxy J name) id := by
  intro outcomes s
  rw [getProxy, queryRule, lift_bind, call_bind, run_call]
  dsimp only [semantics, perform]
  cases s.rules.lookup name <;> rfl

/-- Notifying the client and answering. -/
lemma services_answer {name clientId : String} {msg : Proto.ControlMessage}
    {f : Option ProxyEntry → Program α} (hf : ∀ entry, ∃ a, f entry = .ret a) :
    semantics.Transforms ControlState.services
      (lift (.notify clientId msg) >>= fun _ => getProxy J name >>= f) id := by
  refine Transforms.bind (f := id) (g := id) (services_notify _ _) fun _ => ?_
  refine Transforms.bind (f := id) (g := id) (services_getProxy _) fun entry => ?_
  obtain ⟨a, ha⟩ := hf entry
  rw [ha]
  exact transforms_ret a

/-- `get_proxy` alone and what follows it. -/
lemma applies_getProxy_bind (name : String) {f : Option ProxyEntry → Program α}
    {outcomes : Stream' Bool} (hnone : s.stored J name = none → Applies J (f none) outcomes.tail s c)
    (hsome : ∀ entry : ProxyEntry, s.stored J name = some entry.rule →
      Applies J (f (some entry)) outcomes.tail.tail s c) :
    Applies J (getProxy J name >>= f) outcomes s c := by
  rw [getProxy, queryRule, lift_bind, call_bind, call_bind]
  apply Applies.call rfl
  unfold ControlState.stored at hnone hsome
  dsimp only [semantics, perform]
  cases hrow : s.rules.lookup name with
  | none =>
      rw [hrow] at hnone
      exact hnone rfl
  | some row =>
      rw [hrow] at hsome
      exact Applies.call rfl (hsome _ rfl)

/-- `create_proxy` alone. -/
lemma applies_createProxy (payload : CreateProxyRequest) (outcomes : Stream' Bool) (s : ControlState) :
    Applies J (createProxy T J payload) outcomes s (change T J s outcomes (.create payload)) := by
  rw [createProxy, change]
  cases checkCreate T payload with
  | error e => rfl
  | ok proxyType =>
      dsimp only
      rw [addProxy_bind]
      apply Applies.call rfl
      change Applies J (if (s.runtime payload.name).isSome = true then _ else _) outcomes.tail s _
      cases hruntime : s.runtime payload.name with
      | some rt => rfl
      | none =>
          have hget : outcomes.get 1 = outcomes.tail.head := rfl
          rw [if_neg (by simp), hget]
          cases hins : if outcomes.tail.head then
              s.rules.insert (.ofRule J (payload.rule proxyType)) else none with
          | none =>
              have hperform : semantics.perform (.insertRow (.ofRule J (payload.rule proxyType)))
                  outcomes.tail.head s = (false, s) := by
                simp only [semantics, perform, hins]
              rw [if_neg]
              · apply Applies.call
                · rw [hperform]
                · rw [hperform]
                  rfl
              · rintro ⟨-, hstored, hok⟩
                rw [if_pos hok, KeyedTable.insert_eq_none_iff] at hins
                exact hins (Option.map_eq_none_iff.mp hstored)
          | some rules =>
              have hperform : semantics.perform (.insertRow (.ofRule J (payload.rule proxyType)))
                  outcomes.tail.head s = (true, { s with rules }) := by
                simp only [semantics, perform, hins]
              rw [ite_eq_iff] at hins
              obtain ⟨hok, hins⟩ | ⟨-, hins⟩ := hins
              · have hfree : s.stored J payload.name = none :=
                  Option.map_eq_none_iff.mpr (KeyedTable.lookup_of_insert hins)
                rw [if_pos ⟨rfl, hfree, hok⟩]
                apply Applies.callbacks
                · apply Reaches.call
                  rw [hperform]
                  exact .call (.call (.refl _ _ _))
                · refine fun _ => services_answer fun entry => ?_
                  cases entry <;> exact ⟨_, rfl⟩
                · exact .insert hins
                · rfl
              · cases hins

/-- `update_proxy` alone. -/
lemma applies_updateProxyHandler (name : String) (payload : UpdateProxyRequest)
    (outcomes : Stream' Bool) (s : ControlState) :
    Applies J (updateProxyHandler T J name payload) outcomes s
      (change T J s outcomes (.update name payload)) := by
  rw [updateProxyHandler, change]
  cases checkUpdate T payload with
  | error e => rfl
  | ok _ =>
      dsimp only
      apply applies_getProxy_bind
      · intro hstored
        rw [hstored]
        rfl
      · intro entry hstored
        rw [hstored]
        dsimp only
        cases checkUpdateOf T payload entry.rule with
        | error e => rfl
        | ok _ =>
            have hget : outcomes.get 2 = outcomes.tail.tail.head := rfl
            dsimp only
            rw [updateProxy_bind, hget]
            cases hok : outcomes.tail.tail.head with
            | false =>
                apply Applies.call <;> rw [hok] <;> rfl
            | true =>
                obtain ⟨row, hrow, -⟩ := Option.map_eq_some_iff.mp hstored
                have hperform : ∀ new : ProxyRuleRow, semantics.perform (.updateRow name new) true s =
                    (some 1,
                      { s with rules := s.rules.modify name (setColumns new) fun _ => rfl }) := by
                  simp [semantics, perform, KeyedTable.affected, hrow]
                rw [if_pos rfl]
                apply Applies.callbacks
                · apply Reaches.call
                  rw [hok, hperform]
                  change semantics.Reaches (onProxyDelete entry.rule >>= fun _ => _) _ _
                    ((onProxyDelete entry.rule >>= fun _ => onProxyCreate _) >>= _) _ _
                  rw [bind_assoc]
                  exact .refl _ _ _
                · refine fun _ => services_answer fun entry => ?_
                  cases entry <;> exact ⟨_, rfl⟩
                · exact .modify (fun _ => rfl) hstored rfl
                · rfl

/-- `delete_proxy` alone. -/
lemma applies_deleteProxy (name : String) (outcomes : Stream' Bool) (s : ControlState) :
    Applies J (deleteProxy J name) outcomes s (change T J s outcomes (.delete name)) := by
  rw [deleteProxy, change]
  apply applies_getProxy_bind
  · intro hstored
    rw [hstored]
    rfl
  · intro entry hstored
    rw [hstored]
    dsimp only
    have hget : outcomes.get 3 = outcomes.tail.tail.tail.head := rfl
    obtain ⟨row, hrow, hrule⟩ := Option.map_eq_some_iff.mp hstored
    rw [removeProxy_bind, hget]
    apply Applies.call rfl
    dsimp only [semantics, perform]
    rw [hrow]
    dsimp only
    cases hok : outcomes.tail.tail.tail.head with
    | false => apply Applies.call <;> rw [hok] <;> rfl
    | true =>
        have hperform : semantics.perform (.deleteRow name) true s =
            (true, { s with rules := s.rules.erase name }) := rfl
        let answer : Unit → Program (ApiResponse Unit) := fun _ => do
          let _ ← lift (.notify entry.rule.clientId (.serverCloseProxy { name }))
          return success ()
        rw [if_pos rfl]
        apply Applies.callbacks (k := answer)
        · apply Reaches.call
          rw [hok, hperform]
          change semantics.Reaches _ _ _ ((onProxyDelete entry.rule >>= fun _ => .ret ()) >>= answer)
            _ _
          rw [bind_assoc]
          exact .call (.call (.refl _ _ _))
        · exact fun _ =>
            Transforms.bind (f := id) (g := id) (services_notify _ _) fun _ => transforms_ret _
        · exact .erase hstored
        · rfl

/-- A request that runs alone makes the change that `change` says. -/
theorem applies_handle (req : ApiRequest) (outcomes : Stream' Bool) (s : ControlState) :
    Applies J (handle T J req) outcomes s (change T J s outcomes req) := by
  cases req with
  | create payload => exact (applies_createProxy payload outcomes s).bind fun _ => transforms_ret _
  | update name payload =>
      exact (applies_updateProxyHandler name payload outcomes s).bind fun _ => transforms_ret _
  | delete name => exact (applies_deleteProxy name outcomes s).bind fun _ => transforms_ret _

end

end RustProxy.Control
