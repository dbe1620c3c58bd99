import RustProxy.Control.Concurrent
import RustProxy.Control.ManagerMap

/-!
# Adding and removing rules at the same time

`add_proxy` and `remove_proxy` change the database first and the runtime map after it, without a lock
around the two.

* `Pending` is a call between its statement and its update of the runtime map.
* `NameStep` is what a step does to the names of the two stores; `nameStep_of_step` says that every
  step of a call is one.
* `noGhosts_iff_lastAgrees` is about any number of calls and any schedule: the two stores have the
  same names wherever no call is pending exactly if the last pending call on a name always agrees with
  the database.
-/

namespace RustProxy.Control

open RustProxy.Core Prog Transition

/-- The methods that change which names exist. -/
inductive NameCall where
  | add (rule : ProxyRule)
  | remove (name : String)
  deriving DecidableEq, Repr

/-- Tasks that each run one call. -/
abbrev CallPool := Pool Op Answer Ghost ControlState

/-- A call starts, or a running one performs its next action. -/
abbrev CallEvent := PoolEvent NameCall Bool

section

variable (J : DomainsJson)

/-- The program of a call. -/
def NameCall.program : NameCall → Program Answer
  | .add rule => do return .result (← addProxy J rule)
  | .remove name => do return .removed (← removeProxy J name)

/-- The next state of the calls. -/
def callStep : CallPool → CallEvent → Option CallPool :=
  Pool.step (requests J) (NameCall.program J) admits

/-- The name whose runtime state the next action inserts or removes, and which of the two. -/
def pendingUpdate : Program Answer → Option (String × Bool)
  | .call (.insertRuntime name _) _ => some (name, true)
  | .call (.removeRuntime name) _ => some (name, false)
  | _ => none

/-- The task is a call on the name between its statement and its update of the runtime map. -/
def Pending (n : String) (t : PoolTask Op Answer Ghost) : Prop :=
  ∃ kind, pendingUpdate t.prog = some (n, kind)

/-- No call on the name is pending. -/
def Free (p : CallPool) (n : String) : Prop :=
  ∀ (k : ℕ) (t : PoolTask Op Answer Ghost), p.tasks[k]? = some t → ¬ Pending n t

/-- No call on the name but that at the place `k` is pending. -/
def FreeBut (p : CallPool) (k : ℕ) (n : String) : Prop :=
  ∀ (j : ℕ) (t : PoolTask Op Answer Ghost), j ≠ k → p.tasks[j]? = some t → ¬ Pending n t

/-- The runtime map has a name exactly when the database has. -/
def SameName (s : ControlState) (n : String) : Prop :=
  (s.runtime n).isSome = (s.stored J n).isSome

/-- Names without a pending call are in both stores or in neither.  So when all calls have returned,
the stores have the same names, and no name that the database does not have is refused. -/
structure NoGhosts (p : CallPool) : Prop where
  free : ∀ n, Free p n → SameName J p.state n
  returned : p.Quiescent → ∀ n, SameName J p.state n
  accepted : p.Quiescent → ∀ rule, p.state.stored J rule.name = none →
    (alone (addProxy J rule) true p.state).1 = .ok ()

/-- A call that updates the runtime map when no other call on the name is pending agrees with the
database: it inserts a name that is stored, or removes one that is not. -/
def LastAgrees (p : CallPool) : CallEvent → Prop
  | .arrive _ => True
  | .step k _ => ∀ t n kind, p.tasks[k]? = some t → pendingUpdate t.prog = some (n, kind) →
      FreeBut p k n → kind = (p.state.stored J n).isSome

end

variable {J : DomainsJson} {p p' : CallPool} {e : CallEvent} {n : String}

/-! ## The programs -/

/-- The rest of a call: it reads, performs its statement, updates the runtime map and returns. -/
inductive Rest : Program Answer → Prop
  | returned (a : Answer) : Rest (.ret a)
  | readRuntime {next : Runtime → Program Answer}
      (h : ∀ inner, Rest (next inner)) (hquiet : ∀ inner, pendingUpdate (next inner) = none) :
      Rest (.call .readRuntime next)
  | selectRow {name : String} {next : Option ProxyRuleRow → Program Answer}
      (h : ∀ row, Rest (next row)) (hquiet : ∀ row, pendingUpdate (next row) = none) :
      Rest (.call (.selectRow name) next)
  | insertRow {row : ProxyRuleRow} {next : Bool → Program Answer}
      (hfailed : ∃ a, next false = .ret a)
      (hdone : ∃ rt a, next true = .call (.insertRuntime row.name rt) fun _ => .ret a) :
      Rest (.call (.insertRow row) next)
  | deleteRow {name : String} {next : Bool → Program Answer} (hfailed : ∃ a, next false = .ret a)
      (hdone : ∃ a, next true = .call (.removeRuntime name) fun _ => .ret a) :
      Rest (.call (.deleteRow name) next)
  | insertRuntime (name : String) (rt : RuntimeState) (a : Answer) :
      Rest (.call (.insertRuntime name rt) fun _ => .ret a)
  | removeRuntime (name : String) (a : Answer) : Rest (.call (.removeRuntime name) fun _ => .ret a)

/-- Every call starts at rest, with no update under way. -/
lemma rest_program (call : NameCall) :
    Rest (call.program J) ∧ pendingUpdate (call.program J) = none := by
  cases call with
  | add rule =>
      rw [NameCall.program, addProxy_bind]
      refine ⟨.readRuntime (fun inner => ?_) (fun inner => ?_), rfl⟩
      · split
        · exact .returned _
        · exact .insertRow ⟨_, rfl⟩ ⟨_, _, rfl⟩
      · split <;> rfl
  | remove name =>
      rw [NameCall.program, removeProxy_bind]
      refine ⟨.selectRow (fun row => ?_) (fun row => ?_), rfl⟩
      · cases row with
        | none => exact .returned _
        | some row => exact .deleteRow ⟨_, rfl⟩ ⟨_, rfl⟩
      · cases row <;> rfl

/-- What a step of a call does to the names of the two stores, by what is pending before and after. -/
inductive NameStep (J : DomainsJson) (s s' : ControlState) :
    Option (String × Bool) → Option (String × Bool) → Prop
  | quiet (hstored : s'.stored J = s.stored J) (hruntime : s'.runtime = s.runtime) :
      NameStep J s s' none none
  | statement {n : String} {kind : Bool} (hstored : ∀ m, m ≠ n → s'.stored J m = s.stored J m)
      (hruntime : s'.runtime = s.runtime) : NameStep J s s' none (some (n, kind))
  | update {n : String} {kind : Bool} (hstored : s'.stored J = s.stored J)
      (hothers : ∀ m, m ≠ n → s'.runtime m = s.runtime m) (hself : (s'.runtime n).isSome = kind) :
      NameStep J s s' (some (n, kind)) none

/-- An action of a call. -/
lemma nameStep_of_perform {β : Type} {op : Op β} {next : β → Program Answer} (c : Bool)
    (s : ControlState) (h : Rest (.call op next)) :
    Rest (next (semantics.perform op c s).1) ∧
      NameStep J s (semantics.perform op c s).2 (pendingUpdate (.call op next))
        (pendingUpdate (next (semantics.perform op c s).1)) := by
  cases h with
  | readRuntime hnext hquiet =>
      refine ⟨hnext _, ?_⟩
      rw [hquiet]
      exact .quiet rfl rfl
  | selectRow hnext hquiet =>
      refine ⟨hnext _, ?_⟩
      rw [hquiet]
      exact .quiet rfl rfl
  | insertRow hfailed hdone =>
      obtain ⟨a, hfailed⟩ := hfailed
      obtain ⟨rt, b, hdone⟩ := hdone
      rcases insertRow_cases _ c s with h | ⟨rules, hins, h⟩
      · rw [h]
        dsimp only
        rw [hfailed]
        exact ⟨.returned a, .quiet rfl rfl⟩
      · rw [h]
        dsimp only
        rw [hdone]
        refine ⟨.insertRuntime _ rt b, .statement ?_ rfl⟩
        intro m hm
        have hothers := (KeyedTable.lookup_insert hins m).trans (if_neg (Ne.symm hm))
        exact congrArg (Option.map (ProxyRuleRow.toRule J)) hothers
  | deleteRow hfailed hdone =>
      obtain ⟨a, hfailed⟩ := hfailed
      obtain ⟨b, hdone⟩ := hdone
      rcases deleteRow_cases _ c s with h | h
      · rw [h]
        dsimp only
        rw [hfailed]
        exact ⟨.returned a, .quiet rfl rfl⟩
      · rw [h]
        dsimp only
        rw [hdone]
        refine ⟨.removeRuntime _ b, .statement ?_ rfl⟩
        intro m hm
        exact (stored_erase _ m).trans (Function.update_of_ne hm _ _)
  | insertRuntime name rt a =>
      refine ⟨.returned a, .update rfl (fun m hm => Function.update_of_ne hm _ _) ?_⟩
      exact congrArg Option.isSome (Function.update_self name _ s.runtime)
  | removeRuntime name a =>
      refine ⟨.returned a, .update rfl (fun m hm => Function.update_of_ne hm _ _) ?_⟩
      exact congrArg Option.isSome (Function.update_self name _ s.runtime)

/-! ## Steps of the calls -/

/-- Every call is on its way through its program. -/
def Rests (p : CallPool) : Prop :=
  ∀ (k : ℕ) (t : PoolTask Op Answer Ghost), p.tasks[k]? = some t → Rest t.prog

/-- What a step can be. -/
lemma nameStep_of_step (hrest : Rests p) (h : callStep J p e = some p') :
    (∃ call : NameCall, e = .arrive call ∧
      p' = { p with tasks := p.tasks ++ [⟨(requests J).start, call.program J⟩] }) ∨
    ∃ k c t t', e = .step k c ∧ p.tasks[k]? = some t ∧ p'.tasks = p.tasks.set k t' ∧ Rest t'.prog ∧
      NameStep J p.state p'.state (pendingUpdate t.prog) (pendingUpdate t'.prog) := by
  obtain ⟨call, rfl, rfl⟩ | ⟨k, c, g, β, op, next, rfl, htask, -, rfl⟩ := Pool.step_cases h
  · exact Or.inl ⟨call, rfl, rfl⟩
  · obtain ⟨hnext, hstep⟩ := nameStep_of_perform (J := J) c p.state (hrest k _ htask)
    exact Or.inr ⟨k, c, _, _, rfl, htask, rfl, hnext, hstep⟩

/-- A step of a call leaves all calls at rest points. -/
lemma rests_step (hrest : Rests p) (h : callStep J p e = some p') : Rests p' := by
  intro j u hu
  obtain ⟨call, rfl, rfl⟩ | ⟨k, c, t, t', rfl, -, htasks, hnext, -⟩ := nameStep_of_step hrest h
  · rcases Pool.getElem?_append_cases hu with ⟨-, rfl⟩ | hu
    · exact (rest_program call).1
    · exact hrest j u hu
  · rw [htasks] at hu
    rcases Pool.getElem?_set_cases hu with ⟨-, rfl⟩ | ⟨-, hu⟩
    · exact hnext
    · exact hrest j u hu

/-- Nobody updates a name if neither this task nor any other does. -/
lemma free_iff {k : ℕ} {t : PoolTask Op Answer Ghost} (ht : p.tasks[k]? = some t) :
    Free p n ↔ ¬ Pending n t ∧ FreeBut p k n := by
  refine ⟨fun h => ⟨h k t ht, fun j u _ hu => h j u hu⟩, ?_⟩
  rintro ⟨hself, hothers⟩ j u hu
  by_cases hj : j = k
  · subst hj
    rw [← Option.some.inj (ht.symm.trans hu)]
    exact hself
  · exact hothers j u hj hu

/-- Replacing one task does not concern the others. -/
lemma freeBut_of_set {k : ℕ} {t : PoolTask Op Answer Ghost} (htasks : p'.tasks = p.tasks.set k t) :
    FreeBut p' k n ↔ FreeBut p k n := by
  have hothers : ∀ j, j ≠ k → p'.tasks[j]? = p.tasks[j]? := by
    intro j hj
    rw [htasks, List.getElem?_set_ne (Ne.symm hj)]
  constructor
  · intro h j u hj hu
    exact h j u hj ((hothers j hj).trans hu)
  · intro h j u hj hu
    exact h j u hj ((hothers j hj).symm.trans hu)

/-- A task without a pending update is about no name. -/
lemma not_pending_of_none {t : PoolTask Op Answer Ghost} (h : pendingUpdate t.prog = none) :
    ¬ Pending n t := by
  rintro ⟨kind, hkind⟩
  cases h.symm.trans hkind

/-- When all calls have returned, no name is being updated. -/
lemma free_of_quiescent (hq : p.Quiescent) (n : String) : Free p n := by
  intro k t ht
  have hdone := hq t (List.mem_of_getElem? ht)
  obtain ⟨g, prog⟩ := t
  cases prog with
  | ret a => exact not_pending_of_none rfl
  | call op next => cases hdone

/-- When no other call on the name is pending, the update of the runtime map decides whether the
stores agree. -/
lemma sameName_update {s s' : ControlState} {kind : Bool}
    (h : NameStep J s s' (some (n, kind)) none) :
    SameName J s' n ↔ kind = (s.stored J n).isSome := by
  cases h with
  | update hstored hothers hself => rw [SameName, hself, hstored]

/-- A step that agrees with the database leaves no ghosts. -/
lemma sameName_step (hrest : Rests p) (hsame : ∀ n, Free p n → SameName J p.state n)
    (hok : LastAgrees J p e) (h : callStep J p e = some p') (n : String) (hfree : Free p' n) :
    SameName J p'.state n := by
  obtain ⟨call, rfl, rfl⟩ | ⟨k, c, t, t', rfl, ht, htasks, -, hstep⟩ := nameStep_of_step hrest h
  · refine hsame n fun j u hu => hfree j u ?_
    rw [List.getElem?_append_left (List.getElem?_eq_some_iff.mp hu).1]
    exact hu
  · have ht' : p'.tasks[k]? = some t' := by
      rw [htasks, List.getElem?_set_self (List.getElem?_eq_some_iff.mp ht).1]
    obtain ⟨hself, hothers⟩ := (free_iff ht').mp hfree
    rw [freeBut_of_set htasks] at hothers
    generalize hbefore : pendingUpdate t.prog = before at hstep
    generalize hafter : pendingUpdate t'.prog = after at hstep
    cases hstep with
    | quiet hstored hruntime =>
        rw [SameName, hstored, hruntime]
        exact hsame n ((free_iff ht).mpr ⟨not_pending_of_none hbefore, hothers⟩)
    | @statement m kind hstored hruntime =>
        have hn : n ≠ m := by
          rintro rfl
          exact hself ⟨kind, hafter⟩
        rw [SameName, hstored n hn, hruntime]
        exact hsame n ((free_iff ht).mpr ⟨not_pending_of_none hbefore, hothers⟩)
    | @update m kind hstored hruntime hkind =>
        by_cases hn : n = m
        · subst hn
          rw [SameName, hkind, hstored]
          exact hok t n kind ht hbefore hothers
        · rw [SameName, hstored, hruntime n hn]
          refine hsame n ((free_iff ht).mpr ⟨?_, hothers⟩)
          rintro ⟨other, hother⟩
          cases hbefore.symm.trans hother
          exact hn rfl

/-- Any other step leaves one. -/
lemma not_sameName_step (hrest : Rests p) (hbad : ¬ LastAgrees J p e)
    (h : callStep J p e = some p') : ∃ n, Free p' n ∧ ¬ SameName J p'.state n := by
  obtain ⟨call, rfl, -⟩ | ⟨k, c, t, t', rfl, ht, htasks, -, hstep⟩ := nameStep_of_step hrest h
  · exact absurd trivial hbad
  · unfold LastAgrees at hbad
    push Not at hbad
    obtain ⟨u, n, kind, hu, hpending, hothers, hkind⟩ := hbad
    obtain rfl := Option.some.inj (ht.symm.trans hu)
    have ht' : p'.tasks[k]? = some t' := by
      rw [htasks, List.getElem?_set_self (List.getElem?_eq_some_iff.mp ht).1]
    have hafter : pendingUpdate t'.prog = none := by
      rw [hpending] at hstep
      generalize pendingUpdate t'.prog = after at hstep
      cases hstep
      rfl
    rw [hpending, hafter] at hstep
    have hfree : Free p' n :=
      (free_iff ht').mpr ⟨not_pending_of_none hafter, (freeBut_of_set htasks).mpr hothers⟩
    refine ⟨n, hfree, ?_⟩
    exact fun hsame => hkind ((sameName_update hstep).mp hsame)

/-- A rule under a free name is accepted when the stores agree. -/
lemma addProxy_accepted {s : ControlState} {rule : ProxyRule} (hsame : SameName J s rule.name)
    (hfree : s.stored J rule.name = none) : (alone (addProxy J rule) true s).1 = .ok () := by
  rw [SameName, hfree, Option.isSome_none] at hsame
  rw [ControlState.stored, Option.map_eq_none_iff] at hfree
  rw [alone_addProxy, hsame, if_neg Bool.false_ne_true, if_pos rfl]
  cases hins : s.rules.insert (.ofRule J rule) with
  | none =>
      rw [KeyedTable.insert_eq_none_iff, ProxyRuleRow.ofRule_name] at hins
      exact absurd hfree hins
  | some rules => rfl

/-- There is no ghost exactly if the names that nobody is updating are in step. -/
lemma noGhosts_iff : NoGhosts J p ↔ ∀ n, Free p n → SameName J p.state n := by
  refine ⟨NoGhosts.free, fun h => ⟨h, fun hq n => h n (free_of_quiescent hq n), ?_⟩⟩
  exact fun hq rule hfree => addProxy_accepted (h _ (free_of_quiescent hq _)) hfree

/-- From any state in which the runtime map has the names of the database, with any calls and any
schedule: no ghost is left in any state exactly if each call that is the last one pending on its name
agrees with the database. -/
theorem noGhosts_iff_lastAgrees (J : DomainsJson) (s : ControlState) (events : List CallEvent)
    (hsame : ∀ n, SameName J s n) :
    Always (callStep J) (NoGhosts J) ⟨s, []⟩ events ↔
      EachStep (callStep J) (LastAgrees J) ⟨s, []⟩ events := by
  refine always_iff_eachStep
    (I := fun p => Rests p ∧ ∀ n, Free p n → SameName J p.state n) ?_ ?_ ?_ ?_ events
  · exact fun p hp => noGhosts_iff.mpr hp.2
  · exact fun p e p' hp hok hstep => ⟨rests_step hp.1 hstep, sameName_step hp.1 hp.2 hok hstep⟩
  · intro p e p' hp hbad hstep hghosts
    obtain ⟨n, hfree, hn⟩ := not_sameName_step hp.1 hbad hstep
    exact hn (hghosts.free n hfree)
  · refine ⟨?_, fun n _ => hsame n⟩
    rintro k t ⟨⟩

/-! ## A ghost -/

/-- After `load_from_db` the names agree. -/
lemma sameName_loaded (J : DomainsJson) (db : RuleTable) (n : String) : SameName J (loaded db) n := by
  obtain ⟨-, -, hknown⟩ := stopped_loaded db n
  exact hknown.trans Option.isSome_map.symm

instance (J : DomainsJson) (s : ControlState) (n : String) : Decidable (SameName J s n) :=
  inferInstanceAs (Decidable ((s.runtime n).isSome = (s.stored J n).isSome))

open DomainsText

/-- A rule is removed and another one added. -/
def removeThenAdd : List CallEvent :=
  [.arrive (.remove "a"), .step 0 true, .step 0 true, .step 0 true,
    .arrive (.add (createB.rule .http)), .step 1 true, .step 1 true, .step 1 true]

/-- A removal and an addition that overtake each other leave a ghost. -/
theorem noGhosts_removeThenAdd :
    (Always (callStep domainsText) (NoGhosts domainsText) ⟨loaded oneRule, []⟩ removeThenAdd ↔
      EachStep (callStep domainsText) (LastAgrees domainsText) ⟨loaded oneRule, []⟩ removeThenAdd) ∧
    ((exec (callStep domainsText) ⟨loaded oneRule, []⟩ removeThenAdd).map fun p =>
      (decide p.Quiescent, (p.state.runtime "a").isSome, (p.state.runtime "b").isSome)) =
        some (true, false, true) :=
  ⟨noGhosts_iff_lastAgrees domainsText (loaded oneRule) removeThenAdd
      (sameName_loaded domainsText oneRule),
    by decide +kernel⟩

/-- The rule has been stored when another call removes it, and is then entered in the runtime map. -/
def addOverRemove : List CallEvent :=
  [.arrive (.add (createB.rule .http)), .step 0 true, .step 0 true, .arrive (.remove "b"),
    .step 1 true, .step 1 true, .step 1 true, .step 0 true]

/-- Both calls have returned, and a name that the database does not have is refused. -/
theorem ghost_name :
    ∃ p, exec (callStep domainsText) ⟨loaded KeyedTable.empty, []⟩ addOverRemove = some p ∧
      p.Quiescent ∧ ¬ SameName domainsText p.state "b" ∧ p.state.stored domainsText "b" = none ∧
      (alone (addProxy domainsText (createB.rule .http)) true p.state).1 =
        .error "代理规则名称已存在: b" := by
  have hrun : ((exec (callStep domainsText) ⟨loaded KeyedTable.empty, []⟩ addOverRemove).map fun p =>
      (decide p.Quiescent, decide (SameName domainsText p.state "b"), p.state.stored domainsText "b",
        (p.state.runtime "b").isSome)) = some (true, false, none, true) := by decide +kernel
  obtain ⟨p, hexec, hp⟩ := Option.map_eq_some_iff.mp hrun
  rw [Prod.mk.injEq, Prod.mk.injEq, Prod.mk.injEq, decide_eq_true_eq, decide_eq_false_iff_not] at hp
  obtain ⟨hquiescent, hdiffer, hstored, hknown⟩ := hp
  refine ⟨p, hexec, hquiescent, hdiffer, hstored, ?_⟩
  rw [alone_addProxy]
  exact congrArg Prod.fst (if_pos hknown)

end RustProxy.Control
