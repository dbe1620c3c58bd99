import RustProxy.Control.Settled

/-!
# Requests and the rules they apply

While a request applies a change to a rule, from the SQL statement that changed the row to the
notification of the client, the rule's name belongs to it.

* `Ghost` is the bookkeeping of a request: the rule it read first, and the name it is applying.
* `requests` says what a request may assume when its statement takes a name: the name is settled, and
  for an `UPDATE` or `DELETE` the row is still what the request has read.
* `safe_handle` is the proof outline of the three handlers.
-/

namespace RustProxy.Control

open RustProxy.Core Prog Cells Ownership

/-- What a request has read and what it is applying. -/
structure Ghost where
  seen : Option ProxyRule
  applying : Option String
  deriving DecidableEq, Repr

variable (J : DomainsJson)

/-- How the actions of a request change its bookkeeping: the first rule it reads is remembered, a
statement that changes a row takes the rule, the notification gives it back. -/
def Ghost.track : {β : Type} → Ghost → Op β → β → Ghost
  | _, g, .selectRow _, row => { g with seen := g.seen <|> row.map (ProxyRuleRow.toRule J) }
  | _, g, .insertRow row, true => { g with applying := some row.name }
  | _, g, .updateRow name _, some affected =>
      if affected = 0 then g else { g with applying := some name }
  | _, g, .deleteRow name, true => { g with applying := some name }
  | _, _, .notify _ _, _ => { seen := none, applying := none }
  | _, g, _, _ => g

/-- The rule of this name that the request has read is still the stored one. -/
def Ghost.UpToDate (g : Ghost) (name : String) (s : ControlState) : Prop :=
  ∀ rule ∈ g.seen, rule.name = name → s.stored J name = some rule

/-- An `UPDATE` or `DELETE` that changes a row does so on what the request has read. -/
def Ghost.assumes : {β : Type} → Ghost → Op β → β → ControlState → Prop
  | _, g, .updateRow name _, some affected, s =>
      g.applying = none → affected ≠ 0 → g.UpToDate J name s
  | _, g, .deleteRow name, true, s => g.applying = none → g.UpToDate J name s
  | _, _, _, _, _ => True

instance (g : Ghost) (name : String) (s : ControlState) : Decidable (g.UpToDate J name s) :=
  inferInstanceAs (Decidable (∀ rule ∈ g.seen, rule.name = name → s.stored J name = some rule))

instance {β : Type} (g : Ghost) (op : Op β) (r : β) (s : ControlState) :
    Decidable (g.assumes J op r s) := by
  cases op with
  | updateRow name row =>
      cases r with
      | none => exact .isTrue trivial
      | some affected =>
          exact inferInstanceAs (Decidable (g.applying = none → affected ≠ 0 → g.UpToDate J name s))
  | deleteRow name =>
      cases r with
      | false => exact .isTrue trivial
      | true => exact inferInstanceAs (Decidable (g.applying = none → g.UpToDate J name s))
  | _ => exact .isTrue trivial

/-- Requests own the rules they apply. -/
def requests : Ownership cells Ghost where
  start := { seen := none, applying := none }
  held := Ghost.applying
  track := Ghost.track J
  assumes := Ghost.assumes J
  Settled := Settled J
  held_start := rfl
  settled_of_frame := fun h hs => h.of_frame hs
  held_of_local := fun {_ _ _ op} _ hlocal hg => by
    cases op <;> first | exact hlocal.elim | exact hg

/-- What the requests keep settled. -/
lemma requests_settled : (requests J).Settled = Settled J := rfl

instance {β : Type} (g : Ghost) (op : Op β) (r : β) (s : ControlState) :
    Decidable ((requests J).assumes g op r s) :=
  inferInstanceAs (Decidable (g.assumes J op r s))

/-- The outline of a request that has nothing left to apply. -/
abbrev Done {α : Type} : α → Ghost → Prop := fun _ g => g.applying = none

variable {J} {α β : Type} {Q : α → Ghost → Prop}

/-! ## Reading -/

/-- `get_proxy` of a request that holds no rule. -/
lemma safe_getProxy {name : String} {g : Ghost} {s : ControlState} (hg : g.applying = none) :
    (requests J).Safe
      (fun entry g' => g'.applying = none ∧ (g.seen = none → g'.seen = entry.map ProxyEntry.rule) ∧
        ∀ e ∈ entry, e.rule.name = name)
      (getProxy J name) g s := by
  apply safe_quiet (fun i c s => Frame.refl i s) (fun _ => rfl)
  intro s c
  dsimp only [semantics, perform]
  cases hrow : s.rules.lookup name with
  | none => exact ⟨hg, fun hseen => by simp [requests, Ghost.track, hseen], by simp⟩
  | some row =>
      apply safe_quiet (fun i c s => Frame.refl i s) (fun _ => rfl)
      intro s c
      refine ⟨hg, fun hseen => by simp [requests, Ghost.track, hseen], ?_⟩
      intro e he
      rw [Option.mem_some_iff] at he
      subst he
      exact (KeyedTable.key_of_lookup hrow : row.name = name)

/-! ## Taking a rule -/

/-- A step that takes a rule changes no other. -/
lemma guarantee_take {n : String} (op : Op β) {g g' : Ghost} (hg : g.applying = none)
    (hg' : g'.applying = some n) (hop : ∀ m, op.Changes m → m = n) (c : Bool) (s : ControlState) :
    (requests J).Guarantee g g' s (semantics.perform op c s).2 := by
  refine guarantee_of_held_none hg fun m hm => frame_perform op (fun hchanges => hm ?_) c s
  rw [hop m hchanges]
  exact hg'

/-- A statement that fails changes nothing. -/
lemma guarantee_refl {g g' : Ghost} (hg : g.applying = none) (s : ControlState) :
    (requests J).Guarantee g g' s s :=
  guarantee_of_held_none hg fun m _ => Frame.refl m s

/-- The name of the row stays, and here it is the rule's. -/
lemma setColumns_ofRule {rule : ProxyRule} {old : ProxyRuleRow} (hname : old.name = rule.name) :
    setColumns (.ofRule J rule) old = .ofRule J rule := by
  rw [setColumns, hname]
  rfl

/-- A rule with a status has an entry. -/
lemma isSome_of_status {n : String} {status : ProxyStatus} {s : ControlState}
    (h : s.status n = some status) : (s.runtime n).isSome = true := by
  obtain ⟨rt, hrt, -⟩ := Option.map_eq_some_iff.mp h
  rw [hrt]
  rfl

/-- An `INSERT` fails, or adds a row under a free name. -/
lemma insertRow_cases (row : ProxyRuleRow) (c : Bool) (s : ControlState) :
    semantics.perform (.insertRow row) c s = (false, s) ∨
      ∃ rules, s.rules.insert row = some rules ∧
        semantics.perform (.insertRow row) c s = (true, { s with rules }) := by
  dsimp only [semantics, perform]
  cases hins : if c then s.rules.insert row else none with
  | none => exact .inl rfl
  | some rules =>
      rw [ite_eq_iff] at hins
      obtain ⟨-, hins⟩ | ⟨-, hins⟩ := hins
      · exact .inr ⟨rules, hins, rfl⟩
      · cases hins

/-- An `UPDATE` fails, finds no row, or sets the columns of the row it finds. -/
lemma updateRow_cases (name : String) (row : ProxyRuleRow) (c : Bool) (s : ControlState) :
    semantics.perform (.updateRow name row) c s = (none, s) ∨
      ∃ n, (semantics.perform (.updateRow name row) c s).1 = some n ∧
        (semantics.perform (.updateRow name row) c s).2.rules.lookup name =
          (s.rules.lookup name).map (setColumns row) ∧
        (n = 0 ↔ s.rules.lookup name = none) ∧
        ∃ rules, (semantics.perform (.updateRow name row) c s).2 = { s with rules } := by
  dsimp only [semantics, perform]
  cases c with
  | false => exact .inl rfl
  | true =>
      refine .inr ⟨_, rfl, ?_, ?_, _, rfl⟩
      · exact (KeyedTable.lookup_modify _ _ (setColumns row) (fun _ => rfl) name).trans (if_pos rfl)
      · unfold KeyedTable.affected
        cases s.rules.lookup name <;> simp

/-- A `DELETE` fails, or leaves no row of the name. -/
lemma deleteRow_cases (name : String) (c : Bool) (s : ControlState) :
    semantics.perform (.deleteRow name) c s = (false, s) ∨
      semantics.perform (.deleteRow name) c s = (true, { s with rules := s.rules.erase name }) := by
  cases c with
  | false => exact .inl rfl
  | true => exact .inr rfl

/-- An `INSERT` that succeeds takes a name of which nothing is left. -/
lemma safe_insertRow {row : ProxyRuleRow} {next : Bool → Program α} {g : Ghost} {s : ControlState}
    (hg : g.applying = none) (hfail : ∀ s', (requests J).Safe Q (next false) g s')
    (htake : ∀ s', Stopped row.name (some row) false s' →
      (requests J).Safe Q (next true) { g with applying := some row.name } s') :
    (requests J).Safe Q (.call (.insertRow row) next) g s := by
  intro s' _ c htakes
  have hguar : (requests J).Guarantee g { g with applying := some row.name } s' _ :=
    guarantee_take (.insertRow row) hg rfl (fun m hm => hm.symm) c s'
  rcases insertRow_cases row c s' with h | ⟨rules, hins, h⟩
  · rw [h]
    exact ⟨guarantee_refl hg s', hfail s'⟩
  · rw [h] at htakes hguar ⊢
    have hsettled : Settled J row.name s' := htakes.settled hg rfl
    have hfree := KeyedTable.lookup_of_insert hins
    rw [Settled, ControlState.stored, hfree] at hsettled
    obtain ⟨hidle, hruntime⟩ := hsettled
    refine ⟨hguar, htake _ ⟨{ hidle with }, ?_, ?_⟩⟩
    · exact (KeyedTable.lookup_insert hins row.name).trans (if_pos rfl)
    · exact congrArg Option.isSome hruntime

/-- An `UPDATE` that changes a row takes it as the request has read it. -/
lemma safe_updateRow {name : String} {existing newRule : ProxyRule} {next : Option ℕ → Program α}
    {g : Ghost} {s : ControlState} (hg : g.applying = none) (hseen : g.seen = some existing)
    (hname : existing.name = name) (hnew : newRule.name = name)
    (hfail : ∀ s', (requests J).Safe Q (next none) g s')
    (hmissing : ∀ s', (requests J).Safe Q (next (some 0)) g s')
    (htake : ∀ n s' row ok, n ≠ 0 → row.toRule J = newRule →
      Started existing (some row) true ok s' →
      (requests J).Safe Q (next (some n)) { g with applying := some name } s') :
    (requests J).Safe Q (.call (.updateRow name (.ofRule J newRule)) next) g s := by
  intro s' _ c htakes
  have hguar : (requests J).Guarantee g { g with applying := some name } s' _ :=
    guarantee_take (.updateRow name (.ofRule J newRule)) hg rfl (fun m hm => hm.symm) c s'
  rcases updateRow_cases name (.ofRule J newRule) c s' with h | ⟨n, hn, hlookup, hzero, rules, h⟩
  · rw [h]
    exact ⟨guarantee_refl hg s', hfail s'⟩
  · rw [hn] at htakes ⊢
    by_cases hn0 : n = 0
    · subst hn0
      refine ⟨guarantee_of_held_none hg ?_, hmissing _⟩
      intro m _
      by_cases hm : name = m
      · subst hm
        rw [hzero.mp rfl] at hlookup
        rw [h] at hlookup ⊢
        exact { Frame.refl name s' with rules := hlookup.trans (hzero.mp rfl).symm }
      · exact frame_perform (.updateRow name (.ofRule J newRule)) hm c s'
    · have hg' : (requests J).track g (.updateRow name (.ofRule J newRule)) (some n) =
          { g with applying := some name } := if_neg hn0
      rw [hg'] at htakes ⊢
      have hsettled : Settled J name s' := htakes.settled hg rfl
      have hstored : s'.stored J name = some existing := htakes.2 hg hn0 existing hseen hname
      obtain ⟨ok, hserving, hstatus⟩ := hsettled.serving hstored
      rw [ControlState.stored, Option.map_eq_some_iff] at hstored
      obtain ⟨old, hold, -⟩ := hstored
      refine ⟨hguar, htake n _ (setColumns (.ofRule J newRule) old) ok hn0 ?_ ⟨?_, ?_, ?_⟩⟩
      · have hkey : old.name = name := KeyedTable.key_of_lookup hold
        rw [setColumns_ofRule (hkey.trans hnew.symm), ProxyRuleRow.toRule_ofRule]
      · rw [h]
        exact { hserving with }
      · rw [hname, hlookup, hold]
        rfl
      · rw [h, hname]
        exact isSome_of_status hstatus

/-- A `DELETE` that succeeds takes the rule as the request has read it. -/
lemma safe_deleteRow {name : String} {existing : ProxyRule} {next : Bool → Program α} {g : Ghost}
    {s : ControlState} (hg : g.applying = none) (hseen : g.seen = some existing)
    (hname : existing.name = name) (hfail : ∀ s', (requests J).Safe Q (next false) g s')
    (htake : ∀ s' ok, Started existing none true ok s' →
      (requests J).Safe Q (next true) { g with applying := some name } s') :
    (requests J).Safe Q (.call (.deleteRow name) next) g s := by
  intro s' _ c htakes
  have hguar : (requests J).Guarantee g { g with applying := some name } s' _ :=
    guarantee_take (.deleteRow name) hg rfl (fun m hm => hm.symm) c s'
  rcases deleteRow_cases name c s' with h | h
  · rw [h]
    exact ⟨guarantee_refl hg s', hfail s'⟩
  · rw [h] at htakes hguar ⊢
    have hsettled : Settled J name s' := htakes.settled hg rfl
    have hstored : s'.stored J name = some existing := htakes.2 hg existing hseen hname
    obtain ⟨ok, hserving, hstatus⟩ := hsettled.serving hstored
    refine ⟨hguar, htake _ ok ⟨{ hserving with }, ?_, ?_⟩⟩
    · exact (KeyedTable.lookup_erase _ _ _).trans (if_pos hname.symm)
    · rw [hname]
      exact isSome_of_status hstatus

/-! ## Giving back -/

/-- A name of which nothing is left. -/
lemma Stopped.settled {n : String} {s : ControlState} (h : Stopped n none false s) :
    Settled J n s := by
  obtain ⟨hidle, hlookup, hruntime⟩ := h
  rw [Settled, ControlState.stored, hlookup]
  exact ⟨hidle, by simpa using hruntime⟩

/-- The notification gives a settled rule back. -/
lemma safe_notify {n : String} {clientId : String} {msg : Proto.ControlMessage}
    {f : Bool → Program α} {g : Ghost} {s : ControlState} (hg : g.applying = some n)
    (h : Settled J n s)
    (hf : ∀ sent g' s', g'.applying = none → (requests J).Safe Q (f sent) g' s') :
    (requests J).Safe Q (lift (.notify clientId msg) >>= f) g s := by
  intro s' hrely c _
  refine ⟨⟨fun m _ _ => frame_perform _ id c s', ?_⟩, hf _ _ _ rfl⟩
  intro m hm _
  cases hg.symm.trans hm
  exact (h.of_frame (hrely n hg)).of_frame (frame_perform _ id c s')

/-- Starting a rule, and notifying its client. -/
lemma safe_create {rule : ProxyRule} {row : ProxyRuleRow} {clientId : String}
    {msg : Proto.ControlMessage} {f : Bool → Program α} {g : Ghost} {s : ControlState}
    (hg : g.applying = some rule.name) (hrow : row.toRule J = rule)
    (h : Stopped rule.name (some row) true s)
    (hf : ∀ sent g' s', g'.applying = none → (requests J).Safe Q (f sent) g' s') :
    (requests J).Safe Q
      (onProxyCreate rule >>= fun _ => lift (.notify clientId msg) >>= f) g s :=
  Safe.of_within (within_onProxyCreate hrow h) hg fun _ _ _ hg' hsettled =>
    safe_notify hg' hsettled hf

/-! ## The handlers -/

/-- `add_proxy` and what follows it, action by action. -/
lemma addProxy_bind (rule : ProxyRule) (f : Except String Unit → Program α) :
    addProxy J rule >>= f = call .readRuntime fun inner =>
      if (inner rule.name).isSome then f (.error ("代理规则名称已存在: " ++ rule.name))
      else call (.insertRow (ProxyRuleRow.ofRule J rule)) fun inserted =>
        if inserted then lift (.insertRuntime rule.name .new) >>= fun _ => f (.ok ())
        else f (.error "数据库写入失败") := by
  rw [addProxy, lift_bind, call_bind]
  congr 1
  funext inner
  split
  · rfl
  · rw [lift_bind, call_bind]
    congr 1
    funext inserted
    cases inserted <;> rfl

/-- `update_proxy` of the manager and what follows it. -/
lemma updateProxy_bind (name : String) (newRule : ProxyRule) (f : Except String Unit → Program α) :
    updateProxy J name newRule >>= f = call (.updateRow name (.ofRule J newRule)) fun result =>
      match result with
      | none => f (.error "数据库更新失败")
      | some affected =>
          if affected = 0 then f (.error ("代理规则不存在: " ++ name)) else f (.ok ()) := by
  rw [updateProxy, lift_bind, call_bind]
  congr 1
  funext result
  cases result with
  | none => rfl
  | some affected =>
      dsimp only
      split <;> rfl

/-- `remove_proxy` and what follows it. -/
lemma removeProxy_bind (name : String) (f : Except String ProxyRule → Program α) :
    removeProxy J name >>= f = call (.selectRow name) fun row =>
      match row with
      | none => f (.error "代理规则不存在")
      | some row => call (.deleteRow name) fun deleted =>
          if deleted then lift (.removeRuntime name) >>= fun _ => f (.ok (row.toRule J))
          else f (.error "数据库删除失败") := by
  rw [removeProxy, queryRule, lift_bind, call_bind, call_bind]
  congr 1
  funext row
  cases row with
  | none => rfl
  | some row =>
      refine congrArg (call (Op.deleteRow name)) (funext ?_)
      intro deleted
      cases deleted <;> rfl

/-- The tail of `create_proxy` and `update_proxy`. -/
lemma safe_answer {name : String} {text : String} {g : Ghost} {s : ControlState}
    (hg : g.applying = none) :
    (requests J).Safe Done
      (getProxy J name >>= fun entry =>
        match entry with
        | some entry => pure (success (ProxyInfo.ofEntry entry))
        | none => pure (errorResponse 500 text)) g s := by
  apply (safe_getProxy hg).bind
  intro entry g' s' hentry
  cases entry <;> exact hentry.1

variable {T : StdText}

/-- `create_proxy` inserts a row under a free name and starts the rule. -/
lemma safe_createProxy (payload : CreateProxyRequest) (s : ControlState) :
    (requests J).Safe Done (createProxy T J payload) (requests J).start s := by
  unfold createProxy
  cases checkCreate T payload with
  | error e => rfl
  | ok proxyType =>
      have hrow : (ProxyRuleRow.ofRule J (payload.rule proxyType)).toRule J =
          payload.rule proxyType := ProxyRuleRow.toRule_ofRule J _
      dsimp only
      rw [addProxy_bind]
      apply safe_quiet (fun i c s => Frame.refl i s) (fun _ => rfl)
      intro s c
      split
      · rfl
      · refine safe_insertRow rfl (fun _ => rfl) ?_
        intro s' h
        rw [if_pos rfl]
        apply Safe.of_within (within_insertRuntime _ h) rfl
        intro _ g' s' hg' h'
        apply Safe.of_within (within_updateStatus .starting (stable_stopped _ _ _)
          (fun _ _ h => { h with }) h') hg'
        intro _ g' s' hg' h'
        exact safe_create hg' hrow h' fun _ g' s' hg' => safe_answer hg'

/-- `update_proxy` takes the rule as it has read it, stops the old version and starts the new. -/
lemma safe_updateProxyHandler (name : String) (payload : UpdateProxyRequest) (s : ControlState) :
    (requests J).Safe Done (updateProxyHandler T J name payload) (requests J).start s := by
  unfold updateProxyHandler
  cases checkUpdate T payload with
  | error e => rfl
  | ok _ =>
      apply (safe_getProxy rfl).bind
      intro entry g s hentry
      obtain ⟨hg, hseen, hname⟩ := hentry
      cases entry with
      | none => exact hg
      | some entry =>
          have hexisting : entry.rule.name = name := hname entry rfl
          dsimp only
          cases checkUpdateOf T payload entry.rule with
          | error e => exact hg
          | ok _ =>
              dsimp only
              rw [updateProxy_bind]
              refine safe_updateRow hg (hseen rfl) hexisting rfl (fun _ => hg) (fun _ => hg) ?_
              intro n s row ok hn hrow h
              dsimp only
              rw [if_neg hn]
              apply Safe.of_within (within_onProxyDelete h) (congrArg some hexisting.symm)
              intro _ g' s' hg' h'
              rw [hexisting] at hg' h'
              exact safe_create hg' hrow h' fun _ g' s' hg' => safe_answer hg'

/-- `delete_proxy` takes the rule as it has read it and stops it. -/
lemma safe_deleteProxy (name : String) (s : ControlState) :
    (requests J).Safe Done (deleteProxy J name) (requests J).start s := by
  unfold deleteProxy
  apply (safe_getProxy rfl).bind
  intro entry g s hentry
  obtain ⟨hg, hseen, hname⟩ := hentry
  cases entry with
  | none => exact hg
  | some entry =>
      have hexisting : entry.rule.name = name := hname entry rfl
      dsimp only
      rw [removeProxy_bind]
      apply safe_quiet (fun i c s => Frame.refl i s) (fun _ => rfl)
      intro s c
      cases hrow : (semantics.perform (.selectRow name) c s).1 with
      | none => exact hg
      | some row =>
          dsimp only
          have hseen' :
              ((requests J).track g (.selectRow name) (some row)).seen = some entry.rule := by
            change (g.seen <|> _) = _
            rw [hseen rfl]
            rfl
          refine safe_deleteRow hg hseen' hexisting (fun _ => hg) ?_
          intro s' ok h
          rw [if_pos rfl]
          subst hexisting
          apply Safe.of_within (within_removeRuntime h) rfl
          intro _ g' s' hg' h'
          apply Safe.of_within (within_updateStatus .stopping (stable_started _ _ _ _)
            (fun _ _ h => { h with }) h') hg'
          intro _ g' s' hg' h'
          apply Safe.of_within (within_onProxyDelete h') hg'
          intro _ g' s' hg' h'
          exact safe_notify hg' h'.settled fun _ g' s' hg' => hg'

/-- Every request ends without a rule, and settles what it takes. -/
theorem safe_handle (req : ApiRequest) (s : ControlState) :
    (requests J).Safe (fun _ g => g.applying = none) (handle T J req) (requests J).start s := by
  cases req with
  | create payload => exact (safe_createProxy payload s).bind fun _ _ _ hg => hg
  | update name payload => exact (safe_updateProxyHandler name payload s).bind fun _ _ _ hg => hg
  | delete name => exact (safe_deleteProxy name s).bind fun _ _ _ hg => hg

end RustProxy.Control
