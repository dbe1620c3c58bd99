import RustProxy.Control.Announcements

/-!
# Two updates of one rule

`update_proxy` reads the rule, merges the supplied fields into what it has read and writes all columns
back; between the read and the write other requests run.

* `DisjointFields` are payloads that supply no common field; their merges commute and neither undoes
  the other.
* `Stage` is how far an update is, as the rest of its program shows; `at_step` is the step lemma.
* `combined_iff_updatesCurrent` is about whole schedules of a server: of two updates that are both
  answered 200 neither is lost exactly if each `UPDATE` finds the rule as its request has read it.
-/

namespace RustProxy.Control

open RustProxy.Core Prog Transition

/-! ## Merging -/

/-- The two requests supply no common field. -/
structure DisjointFields (A B : UpdateProxyRequest) : Prop where
  proxyType : A.proxyType = none ∨ B.proxyType = none
  clientId : A.clientId = none ∨ B.clientId = none
  localIp : A.localIp = none ∨ B.localIp = none
  localPort : A.localPort = none ∨ B.localPort = none
  remotePort : A.remotePort = none ∨ B.remotePort = none
  customDomains : A.customDomains = none ∨ B.customDomains = none
  proxyProtocol : A.proxyProtocol = none ∨ B.proxyProtocol = none

/-- The rule carries the fields that the request supplies: merging them again changes nothing. -/
def UpdateProxyRequest.Carried (payload : UpdateProxyRequest) (name : String) (rule : ProxyRule) :
    Prop :=
  payload.merge name rule = rule

/-- Disjoint payloads, the other way round. -/
lemma DisjointFields.symm {A B : UpdateProxyRequest} (h : DisjointFields A B) : DisjointFields B A where
  proxyType := h.proxyType.symm
  clientId := h.clientId.symm
  localIp := h.localIp.symm
  localPort := h.localPort.symm
  remotePort := h.remotePort.symm
  customDomains := h.customDomains.symm
  proxyProtocol := h.proxyProtocol.symm

/-- The types that the two requests name. -/
lemma DisjointFields.requestedType {A B : UpdateProxyRequest} (h : DisjointFields A B) :
    A.proxyType.bind requestedType = none ∨ B.proxyType.bind requestedType = none :=
  h.proxyType.imp (fun hA => by rw [hA]; rfl) (fun hB => by rw [hB]; rfl)

/-- Two overlays of which one is empty commute. -/
lemma getD_comm {α : Type} {a b : Option α} (h : a = none ∨ b = none) (x : α) :
    a.getD (b.getD x) = b.getD (a.getD x) := by
  rcases h with rfl | rfl <;> rfl

/-- An overlay that changes nothing over another changes nothing by itself. -/
lemma getD_cancel {α : Type} {a b : Option α} (h : a = none ∨ b = none) {x : α}
    (heq : a.getD (b.getD x) = a.getD x) : b.getD x = x := by
  rcases h with rfl | rfl
  · exact heq
  · rfl

/-- The same overlay twice is the overlay once. -/
lemma getD_idem {α : Type} (a : Option α) (x : α) : a.getD (a.getD x) = a.getD x := by
  cases a <;> rfl

variable {A B P : UpdateProxyRequest} {n : String} {rule : ProxyRule}

/-- The updates have the same effect in either order. -/
lemma merge_comm (h : DisjointFields A B) (rule : ProxyRule) :
    A.merge n (B.merge n rule) = B.merge n (A.merge n rule) := by
  simp only [UpdateProxyRequest.merge, UpdateProxyRequest.effectiveType, ProxyRule.mk.injEq]
  exact ⟨trivial, getD_comm h.requestedType _, getD_comm h.clientId _, getD_comm h.localIp _,
    getD_comm h.localPort _, getD_comm h.remotePort _, getD_comm h.customDomains _,
    getD_comm h.proxyProtocol _⟩

/-- What one update changes is seen after the other. -/
lemma merge_cancel (h : DisjointFields A B) (hname : rule.name = n)
    (heq : A.merge n (B.merge n rule) = A.merge n rule) : B.merge n rule = rule := by
  obtain ⟨name, proxyType, clientId, localIp, localPort, remotePort, customDomains, proxyProtocol⟩ :=
    rule
  simp only [UpdateProxyRequest.merge, UpdateProxyRequest.effectiveType, ProxyRule.mk.injEq] at heq ⊢
  obtain ⟨-, htype, hclient, hip, hlocal, hremote, hdomains, hprotocol⟩ := heq
  exact ⟨hname.symm, getD_cancel h.requestedType htype, getD_cancel h.clientId hclient,
    getD_cancel h.localIp hip, getD_cancel h.localPort hlocal, getD_cancel h.remotePort hremote,
    getD_cancel h.customDomains hdomains, getD_cancel h.proxyProtocol hprotocol⟩

/-- A merged rule carries the supplied fields. -/
lemma carried_merge (P : UpdateProxyRequest) (n : String) (rule : ProxyRule) :
    P.Carried n (P.merge n rule) := by
  simp only [UpdateProxyRequest.Carried, UpdateProxyRequest.merge, UpdateProxyRequest.effectiveType,
    ProxyRule.mk.injEq]
  exact ⟨trivial, getD_idem _ _, getD_idem _ _, getD_idem _ _, getD_idem _ _, getD_idem _ _,
    getD_idem _ _, getD_idem _ _⟩

/-! ## How far an update is -/

/-- The code of an answer. -/
def ApiAnswer.code : ApiAnswer → UInt16
  | .proxy response => response.code
  | .unit response => response.code

/-- The request has been answered with an error. -/
def Refused (prog : Program ApiAnswer) : Prop := ∃ answer, prog = .ret answer ∧ answer.code ≠ 200

/-- A program without statements that change a row. -/
def ReadOnly {α : Type} : Program α → Prop
  | .ret _ => True
  | .call op next => (∀ J, op.stores J = none) ∧ ∀ r, ReadOnly (next r)

/-- The rest of an update that has read the rule: its checks may refuse it, or it merges the supplied
fields into what it has read. -/
inductive Holding (J : DomainsJson) (n : String) (P : UpdateProxyRequest) (rule : ProxyRule) :
    Program ApiAnswer → Prop
  | refused {prog : Program ApiAnswer} (h : Refused prog) : Holding J n P rule prog
  | reading {next : Runtime → Program ApiAnswer} (h : ∀ inner, Holding J n P rule (next inner)) :
      Holding J n P rule (.call .readRuntime next)
  | writing {next : Option ℕ → Program ApiAnswer} (hfailed : Refused (next none))
      (hmissing : Refused (next (some 0))) (h : ∀ k, k ≠ 0 → ReadOnly (next (some k))) :
      Holding J n P rule (.call (.updateRow n (.ofRule J (P.merge n rule))) next)

variable {T : StdText} {J : DomainsJson} {α β : Type}

/-- Two read-only programs, one after the other. -/
lemma ReadOnly.bind {p : Program α} {f : α → Program β} (hp : ReadOnly p) (hf : ∀ a, ReadOnly (f a)) :
    ReadOnly (p >>= f) := by
  induction p with
  | ret a => exact hf a
  | call op next ih => exact ⟨hp.1, fun r => ih r (hp.2 r)⟩

/-- Quiet programs are read-only. -/
lemma readOnly_of_quiet {p : Program α} (h : Quiet p) : ReadOnly p := by
  induction p with
  | ret a => trivial
  | call op next ih =>
      refine ⟨?_, fun r => ih r (h.2 r)⟩
      intro J
      cases op <;> first | rfl | exact h.1.elim

/-- Looking a rule up is read-only. -/
lemma readOnly_getProxy (name : String) : ReadOnly (getProxy J name) := by
  refine ⟨fun _ => rfl, ?_⟩
  intro row
  cases row with
  | none => trivial
  | some row => exact ⟨fun _ => rfl, fun _ => trivial⟩

/-- An error response refuses the request. -/
lemma refused_error {code : UInt16} (hcode : code ≠ 200) (message : String) :
    Refused (.ret (.proxy (errorResponse code message))) := ⟨_, rfl, hcode⟩

/-- The program of an update. -/
lemma update_shape (n : String) (P : UpdateProxyRequest) :
    Refused (handle T J (.update n P)) ∨
      ∃ next, handle T J (.update n P) = .call (.selectRow n) next ∧ Refused (next none) ∧
        ∀ row, Holding J n P (row.toRule J) (next (some row)) := by
  rw [handle, updateProxyHandler]
  cases checkUpdate T P with
  | error e => exact Or.inl (refused_error (by decide) e)
  | ok _ =>
      refine Or.inr ⟨_, rfl, refused_error (by decide) _, ?_⟩
      intro row
      refine .reading fun inner => ?_
      dsimp only [Prog.bind, pure_eq, ret_bind]
      cases checkUpdateOf T P (row.toRule J) with
      | error e => exact .refused (refused_error (by decide) e)
      | ok _ =>
          dsimp only
          rw [updateProxy_bind]
          refine .writing (refused_error (by decide) _) (refused_error (by decide) _) ?_
          intro k hk
          dsimp only
          rw [if_neg hk]
          refine ReadOnly.bind ?_ fun _ => trivial
          refine (readOnly_of_quiet (quiet_onProxyDelete _)).bind fun _ => ?_
          refine (readOnly_of_quiet (quiet_onProxyCreate _)).bind fun _ => ?_
          refine ⟨fun _ => rfl, fun _ => ?_⟩
          refine (readOnly_getProxy n).bind fun entry => ?_
          cases entry <;> trivial

/-- How far an update is. -/
inductive Stage where
  /-- It has not read the rule. -/
  | asked
  /-- It has read the rule and not written it. -/
  | holding (rule : ProxyRule)
  /-- It has written the rule. -/
  | written
  /-- It has been answered with an error. -/
  | refused

/-- The request at the place `k` of the server is the update, at the stage. -/
def At (T : StdText) (J : DomainsJson) (n : String) (P : UpdateProxyRequest) (k : ℕ) (p : Server) :
    Stage → Prop
  | .asked => ∀ t, p.tasks[k]? = some t → t = ⟨(requests J).start, handle T J (.update n P)⟩
  | .holding rule => ∃ t, p.tasks[k]? = some t ∧ t.ghost.seen = some rule ∧ Holding J n P rule t.prog
  | .written => ∃ t, p.tasks[k]? = some t ∧ ReadOnly t.prog
  | .refused => ∃ t, p.tasks[k]? = some t ∧ Refused t.prog

/-- The next action of the request at the place `k` is a statement that changes a row and succeeds. -/
def Writes (J : DomainsJson) (p : Server) (k : ℕ) (c : Bool) : Prop :=
  c = true ∧ (nextOf (Op.stores J) p (.step k c)).isSome = true

variable {p p' : Server} {e : ServerEvent} {k : ℕ} {stage : Stage}

/-- The other requests leave an update where it is. -/
lemma At.others (h : At T J n P k p stage) (hstep : serverStep T J p e = some p')
    (harrive : ∀ req, e = .arrive req → p.tasks.length = k → req = .update n P)
    (hother : ∀ c, e ≠ .step k c) : At T J n P k p' stage := by
  obtain ⟨req, rfl, rfl⟩ | ⟨i, c, g, β, op, next, rfl, htask, -, rfl⟩ := Pool.step_cases hstep
  · have hkeeps : ∀ t, p.tasks[k]? = some t →
        (p.tasks ++ [⟨(requests J).start, handle T J req⟩])[k]? = some t := by
      intro t ht
      rw [List.getElem?_append_left (List.getElem?_eq_some_iff.mp ht).1]
      exact ht
    cases stage with
    | asked =>
        intro t ht
        rcases Pool.getElem?_append_cases ht with ⟨hlast, rfl⟩ | ht
        · rw [harrive req rfl hlast.symm]
        · exact h t ht
    | holding rule =>
        obtain ⟨t, ht, hseen⟩ := h
        exact ⟨t, hkeeps t ht, hseen⟩
    | written | refused =>
        obtain ⟨t, ht, hprog⟩ := h
        exact ⟨t, hkeeps t ht, hprog⟩
  · have hne : i ≠ k := by
      rintro rfl
      exact hother c rfl
    have hsame : ∀ u, (p.tasks.set i u)[k]? = p.tasks[k]? := fun u => List.getElem?_set_ne hne
    cases stage with
    | asked | holding | written | refused => simpa only [At, hsame] using h

/-- A step of an update that has not been answered. -/
lemma at_step {c : Bool} {current : ProxyRule} (h : At T J n P k p stage)
    (hstep : serverStep T J p (.step k c) = some p') (hstored : p.state.stored J n = some current) :
    (¬ Writes J p k c ∧ p'.state.stored J n = some current ∧ ∃ stage', At T J n P k p' stage' ∧
      (stage' = stage ∨ (stage' = .refused ∧ stage ≠ .written) ∨
        (stage = .asked ∧ stage' = .holding current))) ∨
    ∃ rule, stage = .holding rule ∧ At T J n P k p' .written ∧
      p'.state.stored J n = some (P.merge n rule) ∧ Writes J p k c ∧
      ∃ t, p.tasks[k]? = some t ∧ t.ghost.seen = some rule := by
  obtain ⟨req, heq, -⟩ | ⟨i, c', g, β, op, next, heq, htask, -, rfl⟩ := Pool.step_cases hstep
  · cases heq
  · cases heq
    have hlt : k < p.tasks.length := (List.getElem?_eq_some_iff.mp htask).1
    have hself : ∀ u, (p.tasks.set k u)[k]? = some u := fun u => List.getElem?_set_self hlt
    have hnext : nextOf (Op.stores J) p (.step k c) = op.stores J := by rw [nextOf, htask]
    cases stage with
    | asked =>
        obtain ⟨rfl, hprog⟩ := PoolTask.mk.inj (h _ htask)
        rcases update_shape n P with ⟨answer, hret, -⟩ | ⟨next', hcall, hmissing, hholding⟩
        · cases hprog.trans hret
        · cases hprog.trans hcall
          have hreads : ¬ Writes J p k c := by
            rintro ⟨-, hwrites⟩
            rw [hnext] at hwrites
            cases hwrites
          obtain ⟨row, hrow, rfl⟩ := Option.map_eq_some_iff.mp hstored
          have hperform : semantics.perform (.selectRow n) c p.state = (some row, p.state) :=
            congrArg (fun found => (found, p.state)) hrow
          rw [hperform]
          exact Or.inl ⟨hreads, hstored, .holding (row.toRule J), ⟨_, hself _, rfl, hholding row⟩,
            Or.inr (Or.inr ⟨rfl, rfl⟩)⟩
    | holding rule =>
        obtain ⟨t, ht, hseen, hholding⟩ := h
        obtain rfl := Option.some.inj (htask.symm.trans ht)
        dsimp only at hseen hholding
        cases hholding with
        | refused hrefused =>
            obtain ⟨answer, hret, -⟩ := hrefused
            cases hret
        | reading hinner =>
            refine Or.inl ⟨?_, hstored, .holding rule, ⟨_, hself _, hseen, hinner _⟩, Or.inl rfl⟩
            rintro ⟨-, hwrites⟩
            rw [hnext] at hwrites
            cases hwrites
        | writing hfailed hmissing hwritten =>
            cases c with
            | false =>
                refine Or.inl ⟨?_, hstored, .refused, ⟨_, hself _, hfailed⟩, Or.inr (Or.inl ⟨rfl, ?_⟩)⟩
                · rintro ⟨⟨⟩, -⟩
                · exact Stage.noConfusion
            | true =>
                have haffected : p.state.rules.affected n = 1 := by
                  obtain ⟨row, hrow, -⟩ := Option.map_eq_some_iff.mp hstored
                  rw [KeyedTable.affected, hrow]
                  rfl
                refine Or.inr ⟨rule, rfl, ⟨_, hself _, ?_⟩, ?_, ⟨rfl, by rw [hnext]; rfl⟩, _, htask,
                  hseen⟩
                · exact hwritten _ (by rw [haffected]; exact one_ne_zero)
                · exact (stored_modify (fun _ => rfl) hstored rfl n).trans (Function.update_self _ _ _)
    | written =>
        obtain ⟨t, ht, hread⟩ := h
        obtain rfl := Option.some.inj (htask.symm.trans ht)
        obtain ⟨hstores, hrest⟩ := hread
        refine Or.inl ⟨?_, ?_, .written, ⟨_, hself _, hrest _⟩, Or.inl rfl⟩
        · rintro ⟨-, hwrites⟩
          rw [hnext, hstores J] at hwrites
          cases hwrites
        · by_contra hchanged
          rw [← hstored] at hchanged
          cases (hstores J).symm.trans (stores_of_perform hchanged)
    | refused =>
        obtain ⟨t, ht, answer, hret, -⟩ := h
        obtain rfl := Option.some.inj (htask.symm.trans ht)
        cases hret

/-! ## Two updates -/

/-- If the next action of the request at the place `k` is a statement that succeeds, the rule is as
the request has read it. -/
def FindsAsRead (J : DomainsJson) (n : String) (p : Server) (k : ℕ) (c : Bool) : Prop :=
  Writes J p k c → ∀ t ∈ p.tasks[k]?, p.state.stored J n = t.ghost.seen

/-- The `UPDATE` of the request at the place `i` or `j` finds the rule as its request has read it. -/
def UpdatesCurrent (J : DomainsJson) (n : String) (i j : ℕ) (p : Server) : ServerEvent → Prop
  | .arrive _ => True
  | .step k c => k = i ∨ k = j → FindsAsRead J n p k c

/-- The requests that arrive at the places `i` and `j` are the updates, and no statement of another
request touches the rule. -/
def OnlyTwoUpdates (J : DomainsJson) (n : String) (A B : UpdateProxyRequest) (i j : ℕ) (p : Server) :
    ServerEvent → Prop
  | .arrive req => (p.tasks.length = i → req = .update n A) ∧ (p.tasks.length = j → req = .update n B)
  | .step k c => k ≠ i → k ≠ j → (nextOf (Op.stores J) p (.step k c)).map Prod.fst ≠ some n

instance (J : DomainsJson) (n : String) (A B : UpdateProxyRequest) (i j : ℕ) (p : Server) :
    ∀ e : ServerEvent, Decidable (OnlyTwoUpdates J n A B i j p e)
  | .arrive req => inferInstanceAs (Decidable ((p.tasks.length = i → req = .update n A) ∧
      (p.tasks.length = j → req = .update n B)))
  | .step k c => inferInstanceAs (Decidable (k ≠ i → k ≠ j →
      (nextOf (Op.stores J) p (.step k c)).map Prod.fst ≠ some n))

/-- The request at the place `k` has been answered 200. -/
def Accepted (p : Server) (k : ℕ) : Prop :=
  ∃ g answer, p.tasks[k]? = some ⟨g, .ret answer⟩ ∧ answer.code = 200

/-- The stored rule carries the fields of both payloads: it is what the two updates give one after the
other, in either order. -/
def Combined (J : DomainsJson) (n : String) (A B : UpdateProxyRequest) (rule : ProxyRule)
    (s : ControlState) : Prop :=
  ∃ r, s.stored J n = some r ∧ A.Carried n r ∧ B.Carried n r ∧
    r = A.merge n (B.merge n rule) ∧ r = B.merge n (A.merge n rule)

/-- What an update has made of the rule. -/
def Stage.applied (P : UpdateProxyRequest) (n : String) (rule : ProxyRule) : Stage → ProxyRule
  | .written => P.merge n rule
  | _ => rule

/-- What an update holds is one of the two versions. -/
def Stage.ReadFrom (stage : Stage) (old now : ProxyRule) : Prop :=
  ∀ rule, stage = .holding rule → rule = old ∨ rule = now

/-- Neither update has been lost so far. -/
structure InOrder (T : StdText) (J : DomainsJson) (n : String) (A B : UpdateProxyRequest) (i j : ℕ)
    (rule : ProxyRule) (a b : Stage) (p : Server) : Prop where
  first : At T J n A i p a
  second : At T J n B j p b
  stored : p.state.stored J n = some (a.applied A n (b.applied B n rule))
  firstRead : a.ReadFrom rule (b.applied B n rule)
  secondRead : b.ReadFrom rule (a.applied A n rule)

/-- Both updates have written the rule, and one has overwritten the other. -/
structure Overwritten (T : StdText) (J : DomainsJson) (n : String) (A B : UpdateProxyRequest)
    (i j : ℕ) (p : Server) : Prop where
  first : At T J n A i p .written
  second : At T J n B j p .written
  lost : ∃ r, p.state.stored J n = some r ∧ ¬ (A.Carried n r ∧ B.Carried n r)

section

variable {i j : ℕ} {a b : Stage}

/-- Disjoint updates commute, as far as they have come. -/
lemma applied_comm (h : DisjointFields A B) (a b : Stage) (rule : ProxyRule) :
    a.applied A n (b.applied B n rule) = b.applied B n (a.applied A n rule) := by
  cases a <;> cases b <;> first | rfl | exact merge_comm h rule

/-- An update that has not written its row has not been applied. -/
lemma applied_of_ne (P : UpdateProxyRequest) {stage : Stage} (h : stage ≠ .written) :
    stage.applied P n rule = rule := by
  cases stage <;> first | rfl | exact absurd rfl h

/-- The two updates in order, the other way round. -/
lemma InOrder.symm (hdisjoint : DisjointFields A B) (h : InOrder T J n A B i j rule a b p) :
    InOrder T J n B A j i rule b a p where
  first := h.second
  second := h.first
  stored := by rw [h.stored, applied_comm hdisjoint]
  firstRead := h.secondRead
  secondRead := h.firstRead

/-- The two updates in conflict, the other way round. -/
lemma Overwritten.symm (h : Overwritten T J n A B i j p) : Overwritten T J n B A j i p where
  first := h.second
  second := h.first
  lost := by
    obtain ⟨r, hr, hlost⟩ := h.lost
    exact ⟨r, hr, fun hcarried => hlost hcarried.symm⟩

/-- A step of the first of two updates. -/
lemma InOrder.own (hdisjoint : DisjointFields A B) (hij : i ≠ j) (hname : rule.name = n)
    (h : InOrder T J n A B i j rule a b p) {c : Bool}
    (hstep : serverStep T J p (.step i c) = some p') :
    (FindsAsRead J n p i c ∧ ∃ a', InOrder T J n A B i j rule a' b p') ∨
      (¬ FindsAsRead J n p i c ∧ Overwritten T J n A B i j p') := by
  have hsecond : At T J n B j p' b := by
    refine h.second.others hstep (fun _ heq => by cases heq) ?_
    rintro c' heq
    cases heq
    exact hij rfl
  rcases at_step h.first hstep h.stored with
    ⟨hreads, hstored, a', hfirst, ha'⟩ | ⟨r, rfl, hfirst, hstored, hwrites, t, ht, hseen⟩
  · refine Or.inl ⟨fun hwrites => absurd hwrites hreads, a', ?_⟩
    rcases ha' with rfl | ⟨rfl, hne⟩ | ⟨rfl, rfl⟩
    · exact ⟨hfirst, hsecond, hstored, h.firstRead, h.secondRead⟩
    · refine ⟨hfirst, hsecond, ?_, fun _ => Stage.noConfusion, ?_⟩
      · rw [hstored, applied_of_ne A hne]
        rfl
      · have hread := h.secondRead
        rw [applied_of_ne A hne] at hread
        exact hread
    · refine ⟨hfirst, hsecond, hstored, ?_, h.secondRead⟩
      rintro r ⟨⟩
      exact Or.inr rfl
  · -- the version before the write is that of the second update
    have hnow : p.state.stored J n = some (b.applied B n rule) := h.stored
    have hread := h.firstRead r rfl
    have hfinds : FindsAsRead J n p i c ↔ r = b.applied B n rule := by
      constructor
      · intro hfinds
        have heq := hfinds hwrites t ht
        rw [hnow, hseen] at heq
        exact (Option.some.inj heq).symm
      · rintro rfl _ u hu
        obtain rfl := Option.some.inj (ht.symm.trans hu)
        exact hnow.trans hseen.symm
    rw [hfinds]
    by_cases heq : r = b.applied B n rule
    · refine Or.inl ⟨heq, .written, hfirst, hsecond, ?_, fun _ => Stage.noConfusion, ?_⟩
      · rw [hstored, heq]
        rfl
      · intro r' hr'
        exact Or.inl ((h.secondRead r' hr').elim id id)
    · -- it has been overwritten with a merge into the original
      obtain rfl : r = rule := hread.resolve_right heq
      have hb : b = .written := by
        by_contra hne
        exact heq (applied_of_ne B hne).symm
      subst hb
      refine Or.inr ⟨heq, hfirst, hsecond, _, hstored, ?_⟩
      rintro ⟨-, hcarried⟩
      rw [UpdateProxyRequest.Carried, ← merge_comm hdisjoint] at hcarried
      exact heq (merge_cancel hdisjoint hname hcarried).symm

/-- A statement of another request leaves the rule. -/
lemma stored_of_onlyTwoUpdates (honly : OnlyTwoUpdates J n A B i j p e)
    (hstep : serverStep T J p e = some p') (hi : ∀ c, e ≠ .step i c) (hj : ∀ c, e ≠ .step j c) :
    p'.state.stored J n = p.state.stored J n := by
  by_contra hne
  obtain ⟨hstores, -⟩ := stores_of_step hstep hne
  cases e with
  | arrive req => cases hstores
  | step k c =>
      refine honly ?_ ?_ (by rw [hstores]; rfl)
      · rintro rfl
        exact hi c rfl
      · rintro rfl
        exact hj c rfl

/-- A step of a server with two updates of a rule: neither is lost exactly if it finds the rule as
it was read. -/
lemma inOrder_step (hdisjoint : DisjointFields A B) (hij : i ≠ j) (hname : rule.name = n)
    (h : InOrder T J n A B i j rule a b p) (honly : OnlyTwoUpdates J n A B i j p e)
    (hstep : serverStep T J p e = some p') :
    (UpdatesCurrent J n i j p e ∧ ∃ a b, InOrder T J n A B i j rule a b p') ∨
      (¬ UpdatesCurrent J n i j p e ∧ Overwritten T J n A B i j p') := by
  by_cases hi : ∃ c, e = .step i c
  · obtain ⟨c, rfl⟩ := hi
    rw [UpdatesCurrent, imp_iff_right (Or.inl rfl)]
    rcases h.own hdisjoint hij hname hstep with ⟨hfinds, a', h'⟩ | hlost
    · exact Or.inl ⟨hfinds, a', b, h'⟩
    · exact Or.inr hlost
  by_cases hj : ∃ c, e = .step j c
  · obtain ⟨c, rfl⟩ := hj
    rw [UpdatesCurrent, imp_iff_right (Or.inr rfl)]
    rcases (h.symm hdisjoint).own hdisjoint.symm hij.symm hname hstep with
      ⟨hfinds, b', h'⟩ | ⟨hbad, h'⟩
    · exact Or.inl ⟨hfinds, a, b', h'.symm hdisjoint.symm⟩
    · exact Or.inr ⟨hbad, h'.symm⟩
  · rw [not_exists] at hi hj
    have hcurrent : UpdatesCurrent J n i j p e := by
      cases e with
      | arrive req => trivial
      | step k c =>
          rintro (rfl | rfl)
          · exact absurd rfl (hi c)
          · exact absurd rfl (hj c)
    have hfirst := h.first.others hstep
      (fun req heq hlength => by subst heq; exact honly.1 hlength) hi
    have hsecond := h.second.others hstep
      (fun req heq hlength => by subst heq; exact honly.2 hlength) hj
    have hstored := (stored_of_onlyTwoUpdates honly hstep hi hj).trans h.stored
    exact Or.inl ⟨hcurrent, a, b, hfirst, hsecond, hstored, h.firstRead, h.secondRead⟩

/-- An update that has written the rule leaves it. -/
lemma At.written_step (h : At T J n P k p .written) (hstep : serverStep T J p e = some p')
    {current : ProxyRule} (hstored : p.state.stored J n = some current) :
    At T J n P k p' .written ∧ ((∃ c, e = .step k c) → p'.state.stored J n = some current) := by
  by_cases hk : ∃ c, e = .step k c
  · obtain ⟨c, rfl⟩ := hk
    rcases at_step h hstep hstored with ⟨-, hstored', stage', hat, hstage⟩ | ⟨_, heq, -⟩
    · rcases hstage with rfl | ⟨-, hne⟩ | ⟨heq, -⟩
      · exact ⟨hat, fun _ => hstored'⟩
      · exact absurd rfl hne
      · cases heq
    · cases heq
  · refine ⟨h.others hstep ?_ fun c heq => hk ⟨c, heq⟩, fun hc => absurd hc hk⟩
    intro req _ hlength
    obtain ⟨t, ht, -⟩ := h
    have hlt := (List.getElem?_eq_some_iff.mp ht).1
    omega

/-- What has been overwritten stays so. -/
lemma Overwritten.step (h : Overwritten T J n A B i j p) (honly : OnlyTwoUpdates J n A B i j p e)
    (hstep : serverStep T J p e = some p') : Overwritten T J n A B i j p' := by
  obtain ⟨r, hr, hlost⟩ := h.lost
  obtain ⟨hfirst, hfirstKeeps⟩ := h.first.written_step hstep hr
  obtain ⟨hsecond, hsecondKeeps⟩ := h.second.written_step hstep hr
  refine ⟨hfirst, hsecond, r, ?_, hlost⟩
  by_cases hi : ∃ c, e = .step i c
  · exact hfirstKeeps hi
  by_cases hj : ∃ c, e = .step j c
  · exact hsecondKeeps hj
  · rw [not_exists] at hi hj
    rw [stored_of_onlyTwoUpdates honly hstep hi hj]
    exact hr

/-- An update that has been answered 200 has written the rule. -/
lemma At.written_of_answer {stage : Stage} {g : Ghost} {answer : ApiAnswer}
    (h : At T J n P k p stage) (htask : p.tasks[k]? = some ⟨g, .ret answer⟩)
    (hcode : answer.code = 200) : stage = .written := by
  have hrefused : ∀ prog, Refused prog → prog ≠ .ret answer := by
    rintro prog ⟨other, rfl, hother⟩ heq
    cases heq
    exact hother hcode
  cases stage with
  | asked =>
      obtain ⟨-, hprog⟩ := PoolTask.mk.inj (h _ htask)
      rcases update_shape n P with hshape | ⟨next, hshape, -⟩
      · exact absurd hprog.symm (hrefused _ hshape)
      · cases hprog.trans hshape
  | holding rule =>
      obtain ⟨t, ht, -, hholding⟩ := h
      obtain rfl := Option.some.inj (htask.symm.trans ht)
      cases hholding with
      | refused hshape => exact absurd rfl (hrefused _ hshape)
  | written => rfl
  | refused =>
      obtain ⟨t, ht, hshape⟩ := h
      obtain rfl := Option.some.inj (htask.symm.trans ht)
      exact absurd rfl (hrefused _ hshape)

end

/-- On any server with a stored rule, two updates of it arrive whose payloads supply no common
field, and no other request touches the rule.  Whatever the schedule: when both have been answered
200, the rule carries the fields of both, exactly if each `UPDATE` found the rule as its request had
read it. -/
theorem combined_iff_updatesCurrent (T : StdText) (J : DomainsJson) (n : String)
    (A B : UpdateProxyRequest) (i j : ℕ) (rule : ProxyRule) (p p' : Server)
    (events : List ServerEvent) (hdisjoint : DisjointFields A B) (hij : i ≠ j)
    (hi : p.tasks.length ≤ i) (hj : p.tasks.length ≤ j) (hstored : p.state.stored J n = some rule)
    (honly : EachStep (serverStep T J) (OnlyTwoUpdates J n A B i j) p events)
    (hrun : exec (serverStep T J) p events = some p')
    (hA : Accepted p' i) (hB : Accepted p' j) :
    Combined J n A B rule p'.state ↔ EachStep (serverStep T J) (UpdatesCurrent J n i j) p events := by
  have hname : rule.name = n := name_of_stored hstored
  -- neither request has arrived
  have hstart : InOrder T J n A B i j rule .asked .asked p := by
    refine ⟨?_, ?_, hstored, fun _ => Stage.noConfusion, fun _ => Stage.noConfusion⟩
    · intro t ht
      rw [List.getElem?_eq_none hi] at ht
      cases ht
    · intro t ht
      rw [List.getElem?_eq_none hj] at ht
      cases ht
  have hends : ((∃ a b, InOrder T J n A B i j rule a b p') ∧
        EachStep (serverStep T J) (UpdatesCurrent J n i j) p events) ∨
      (Overwritten T J n A B i j p' ∧
        ¬ EachStep (serverStep T J) (UpdatesCurrent J n i j) p events) := by
    refine good_or_bad (G := fun p => ∃ a b, InOrder T J n A B i j rule a b p)
      (L := OnlyTwoUpdates J n A B i j) ?_ (fun _ _ _ h honly hstep => h.step honly hstep)
      ⟨.asked, .asked, hstart⟩ honly hrun
    rintro p e p' ⟨a, b, h⟩ honly hstep
    exact inOrder_step hdisjoint hij hname h honly hstep
  rcases hends with ⟨⟨a, b, h⟩, hsteps⟩ | ⟨⟨-, -, r, hr, hlost⟩, hnot⟩
  · obtain ⟨gA, answerA, htaskA, hcodeA⟩ := hA
    obtain ⟨gB, answerB, htaskB, hcodeB⟩ := hB
    obtain rfl := h.first.written_of_answer htaskA hcodeA
    obtain rfl := h.second.written_of_answer htaskB hcodeB
    refine iff_of_true ⟨_, h.stored, carried_merge A n _, ?_, rfl, merge_comm hdisjoint rule⟩ hsteps
    change B.Carried n (A.merge n (B.merge n rule))
    rw [merge_comm hdisjoint]
    exact carried_merge B n _
  · refine iff_of_false ?_ hnot
    rintro ⟨r', hr', hcarriedA, hcarriedB, -⟩
    obtain rfl := Option.some.inj (hr.symm.trans hr')
    exact hlost ⟨hcarriedA, hcarriedB⟩

/-! ## A lost update -/

/-- The code of the answer at the place `k`. -/
def answerCode (p : Server) (k : ℕ) : Option UInt16 :=
  p.tasks[k]?.bind fun t => t.prog.result?.map ApiAnswer.code

/-- An update that was answered with success was accepted. -/
lemma accepted_of_answerCode {p : Server} {k : ℕ} (h : answerCode p k = some 200) : Accepted p k := by
  obtain ⟨⟨g, prog⟩, ht, hanswered⟩ := Option.bind_eq_some_iff.mp h
  obtain ⟨answer, hanswer, hcode⟩ := Option.map_eq_some_iff.mp hanswered
  cases prog with
  | ret a =>
      cases hanswer
      exact ⟨g, _, ht, hcode⟩
  | call op next => cases hanswer

/-- A request that changes the client and nothing else. -/
def changeClient (clientId : String) : UpdateProxyRequest :=
  { noFields with clientId := some clientId }

/-- An update of the port and one of the client. -/
def twoUpdates : List ServerEvent :=
  [.arrive (.update "a" (movePort 8081)), .arrive (.update "a" (changeClient "d"))]

/-- One update runs after the other. -/
def oneAfterOther : List ServerEvent :=
  twoUpdates ++ List.replicate 14 (.step 0 true) ++ List.replicate 14 (.step 1 true)

/-- Both requests read the rule before either writes it. -/
def bothReadFirst : List ServerEvent :=
  twoUpdates ++ List.replicate 2 (.step 1 true) ++ List.replicate 14 (.step 0 true) ++
    List.replicate 12 (.step 1 true)

open DomainsText

/-- A new port and a new client. -/
lemma disjoint_sample : DisjointFields (movePort 8081) (changeClient "d") where
  proxyType := Or.inl rfl
  clientId := Or.inl rfl
  localIp := Or.inl rfl
  localPort := Or.inl rfl
  remotePort := Or.inr rfl
  customDomains := Or.inl rfl
  proxyProtocol := Or.inl rfl

/-- The rule of the sample database. -/
def sampleRule : ProxyRule where
  name := "a"
  proxyType := .tcp
  clientId := "c"
  localIp := "127.0.0.1"
  localPort := 22
  remotePort := 8080
  customDomains := []
  proxyProtocol := ""

/-- Two updates one after the other combine. -/
theorem combined_oneAfterOther :
    ∃ p', exec (serverStep asciiText domainsText) (accepting domainsText oneRule fun _ => true)
        oneAfterOther = some p' ∧
      (Combined domainsText "a" (movePort 8081) (changeClient "d") sampleRule p'.state ↔
        EachStep (serverStep asciiText domainsText) (UpdatesCurrent domainsText "a" 0 1)
          (accepting domainsText oneRule fun _ => true) oneAfterOther) := by
  have hrun : ((exec (serverStep asciiText domainsText) (accepting domainsText oneRule fun _ => true)
      oneAfterOther).map fun p => (answerCode p 0, answerCode p 1)) = some (some 200, some 200) := by
    decide +kernel
  obtain ⟨p', hexec, hcodes⟩ := Option.map_eq_some_iff.mp hrun
  obtain ⟨hA, hB⟩ := Prod.mk.inj hcodes
  exact ⟨p', hexec, combined_iff_updatesCurrent asciiText domainsText "a" _ _ 0 1 sampleRule _ p'
    oneAfterOther disjoint_sample zero_ne_one (by decide +kernel) (by decide +kernel)
    (by decide +kernel) (by decide +kernel) hexec (accepted_of_answerCode hA)
    (accepted_of_answerCode hB)⟩

/-- Both updates are answered 200, and the new port is gone. -/
theorem update_lost :
    ¬ ∀ (T : StdText) (J : DomainsJson) (n : String) (A B : UpdateProxyRequest) (i j : ℕ)
      (rule : ProxyRule) (p p' : Server) (events : List ServerEvent), DisjointFields A B → i ≠ j →
      p.tasks.length ≤ i → p.tasks.length ≤ j → p.state.stored J n = some rule →
      EachStep (serverStep T J) (OnlyTwoUpdates J n A B i j) p events →
      exec (serverStep T J) p events = some p' → Accepted p' i → Accepted p' j →
        Combined J n A B rule p'.state := by
  intro h
  have hrun : ((exec (serverStep asciiText domainsText) (accepting domainsText oneRule fun _ => true)
      bothReadFirst).map fun p =>
        (answerCode p 0, answerCode p 1, (p.state.stored domainsText "a").map ProxyRule.remotePort)) =
      some (some 200, some 200, some 8080) := by
    decide +kernel
  obtain ⟨p', hexec, hp'⟩ := Option.map_eq_some_iff.mp hrun
  rw [Prod.mk.injEq, Prod.mk.injEq] at hp'
  obtain ⟨hA, hB, hport⟩ := hp'
  obtain ⟨r, hstored, hcarried, -⟩ := h asciiText domainsText "a" _ _ 0 1 sampleRule _ p' bothReadFirst
    disjoint_sample zero_ne_one (by decide +kernel) (by decide +kernel) (by decide +kernel)
    (by decide +kernel) hexec (accepted_of_answerCode hA) (accepted_of_answerCode hB)
  rw [hstored, Option.map_some, Option.some_inj, ← hcarried] at hport
  have hsame : (8081 : UInt16) = 8080 := hport
  exact absurd hsame (by decide)

end RustProxy.Control
