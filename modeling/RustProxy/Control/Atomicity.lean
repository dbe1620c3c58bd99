import RustProxy.Control.PartialUpdates
import RustProxy.Control.Validity
import RustProxy.Foundation.Postcondition

/-!
# All or nothing

What a request does that runs alone, from any state and whichever of its SQL writes fail.

* Each method of the manager has a postcondition: it fails and the state is as it was, or it does the
  whole of its work.  After that a handler can no longer answer 400 or 404.
* `Others` is what no request touches, the rows and runtime entries of the other rules, and `Aside` what
  the callbacks leave alone besides.
* `Replaced` says field by field what an update makes of a rule.
-/

namespace RustProxy.Control

open RustProxy.Core Prog Semantics

/-- The name of the rule that a request is about. -/
def ApiRequest.name : ApiRequest → String
  | .create payload => payload.name
  | .update name _ => name
  | .delete name => name

/-- The new rule is the old one with the supplied fields replaced. -/
structure Replaced (payload : UpdateProxyRequest) (old new : ProxyRule) : Prop where
  name : new.name = old.name
  proxyType : new.proxyType.asStr = payload.proxyType.getD old.proxyType.asStr
  clientId : new.clientId = payload.clientId.getD old.clientId
  localIp : new.localIp = payload.localIp.getD old.localIp
  localPort : new.localPort = payload.localPort.getD old.localPort
  remotePort : new.remotePort = payload.remotePort.getD old.remotePort
  customDomains : new.customDomains = payload.customDomains.getD old.customDomains
  proxyProtocol : new.proxyProtocol = payload.proxyProtocol.getD old.proxyProtocol

/-- The rows and runtime entries of all names but `n` are the same. -/
structure Others (n : String) (s s' : ControlState) : Prop where
  rules : ∀ m ≠ n, s'.rules.lookup m = s.rules.lookup m
  runtime : ∀ m ≠ n, s'.runtime m = s.runtime m

/-- All rows and the runtime entries of all names but `n` are the same. -/
structure Aside (n : String) (s s' : ControlState) : Prop where
  rules : s'.rules = s.rules
  runtime : ∀ m ≠ n, s'.runtime m = s.runtime m

variable {T : StdText} {J : DomainsJson} {α : Type} {n : String} {s s' s'' : ControlState}

/-- Nothing has changed for the other rules. -/
lemma Others.refl (n : String) (s : ControlState) : Others n s s := ⟨fun _ _ => rfl, fun _ _ => rfl⟩

/-- A change aside keeps the others. -/
lemma Others.aside (h : Others n s s') (h' : Aside n s' s'') : Others n s s'' where
  rules := fun m hm => by rw [h'.rules, h.rules m hm]
  runtime := fun m hm => (h'.runtime m hm).trans (h.runtime m hm)

/-- Nothing has changed. -/
lemma Aside.refl (n : String) (s : ControlState) : Aside n s s := ⟨rfl, fun _ _ => rfl⟩

/-- Two changes aside, one after the other. -/
lemma Aside.trans (h : Aside n s s') (h' : Aside n s' s'') : Aside n s s'' :=
  ⟨h'.rules.trans h.rules, fun m hm => (h'.runtime m hm).trans (h.runtime m hm)⟩

/-! ## The callbacks -/

/-- The actions of the callbacks and the answer: no row is written, and no runtime entry of another
name. -/
def Op.Aside (n : String) : {β : Type} → Op β → Prop
  | _, .insertRow _ => False
  | _, .updateRow _ _ => False
  | _, .deleteRow _ => False
  | _, .loadRuntime _ => False
  | _, .insertRuntime name _ => name = n
  | _, .removeRuntime name => name = n
  | _, .setStatus name _ => name = n
  | _, _ => True

/-- An operation aside changes the state aside. -/
lemma aside_perform {β : Type} (op : Op β) (c : Bool) (s : ControlState) (h : op.Aside n) :
    Aside n s (semantics.perform op c s).2 := by
  have hrefl := Aside.refl n s
  cases op with
  | insertRow | updateRow | deleteRow | loadRuntime => exact h.elim
  | insertRuntime name | removeRuntime name | setStatus name =>
      cases h
      exact { hrefl with runtime := fun m hm => Function.update_of_ne hm _ _ }
  | bindAndSpawn =>
      dsimp only [semantics, perform]
      split <;> exact { hrefl with }
  | _ => exact { hrefl with }

/-- A program of such actions. -/
lemma ensures_aside {p : Program α} (hp : p.All (Op.Aside n)) (s : ControlState) :
    semantics.Ensures p s fun _ => Aside n s :=
  ensures_of_all (Aside.refl n) Aside.trans aside_perform hp s

/-- A status is set aside. -/
lemma all_updateStatus (name : String) (status : ProxyStatus) :
    (updateStatus name status).All (Op.Aside name) := all_lift rfl

/-- A notification changes no rule. -/
lemma all_notify (n clientId : String) (msg : Proto.ControlMessage) :
    (lift (.notify clientId msg) : Program Bool).All (Op.Aside n) := ⟨trivial, fun _ => trivial⟩

/-- A listener is started aside. -/
lemma all_startProxyListener (rule : ProxyRule) : (startProxyListener rule).All (Op.Aside n) := by
  have hstream : ∀ proxyType, (startStreamListener proxyType rule.name rule.remotePort
      rule.clientId).All (Op.Aside n) := by
    intro proxyType
    refine ⟨trivial, fun handle => ?_⟩
    rcases handle with - | handle
    · trivial
    · exact ⟨trivial, fun _ => trivial⟩
  unfold startProxyListener
  cases rule.proxyType with
  | tcp | udp =>
      dsimp only
      split
      · trivial
      · exact hstream _
  | http | https => exact ⟨trivial, fun _ => trivial⟩

/-- A listener is stopped aside. -/
lemma all_stopProxyListener (rule : ProxyRule) : (stopProxyListener rule).All (Op.Aside n) := by
  have hstop : (stopListener rule.name).All (Op.Aside n) := by
    refine ⟨trivial, fun handle => ?_⟩
    rcases handle with - | handle
    · trivial
    · exact ⟨trivial, fun _ => trivial⟩
  unfold stopProxyListener
  cases rule.proxyType with
  | tcp | udp => exact hstop
  | http | https => exact ⟨trivial, fun _ => trivial⟩

/-- The callback of a creation works aside. -/
lemma all_onProxyCreate {rule : ProxyRule} (hname : rule.name = n) :
    (onProxyCreate rule).All (Op.Aside n) :=
  hname ▸ (all_updateStatus _ _).bind fun _ =>
    (all_startProxyListener rule).bind fun _ => all_updateStatus _ _

/-- The callback of a deletion works aside. -/
lemma all_onProxyDelete {rule : ProxyRule} (hname : rule.name = n) :
    (onProxyDelete rule).All (Op.Aside n) :=
  hname ▸ (all_updateStatus _ _).bind fun _ =>
    (all_stopProxyListener rule).bind fun _ => all_updateStatus _ _

/-! ## The manager -/

/-- `get_proxy` reads the rule and changes nothing. -/
lemma ensures_getProxy (name : String) (s : ControlState) :
    semantics.Ensures (getProxy J name) s fun entry s' =>
      s' = s ∧ entry.map ProxyEntry.rule = s.stored J name := by
  rw [getProxy, queryRule, lift_bind, call_bind]
  refine ensures_call fun c => ?_
  unfold ControlState.stored
  dsimp only [semantics, perform]
  rcases s.rules.lookup name with - | row
  · exact ensures_ret ⟨rfl, rfl⟩
  · exact ensures_call fun c => ensures_ret ⟨rfl, rfl⟩

/-- `add_proxy` fails and changes nothing, or keeps the other rules. -/
lemma ensures_addProxy (rule : ProxyRule) (s : ControlState) :
    semantics.Ensures (addProxy J rule) s fun result s' =>
      match result with
      | .error _ => s' = s
      | .ok () => Others rule.name s s' := by
  rw [← bind_ret (addProxy J rule), addProxy_bind]
  refine ensures_call fun c => ?_
  dsimp only [semantics, perform]
  split
  · exact ensures_ret rfl
  · refine ensures_call fun ok => ?_
    dsimp only [semantics, perform]
    rcases hins : (if ok = true then s.rules.insert (.ofRule J rule) else none) with - | rules
    · exact ensures_ret rfl
    · rw [ite_eq_iff] at hins
      rcases hins with ⟨-, hins⟩ | ⟨-, hins⟩
      · refine ensures_call fun c => ensures_ret ⟨fun m hm => ?_, fun m hm => ?_⟩
        · exact (KeyedTable.lookup_insert hins m).trans (if_neg (Ne.symm hm))
        · exact Function.update_of_ne hm _ _
      · cases hins

/-- `update_proxy` of the manager fails and changes nothing, or writes the new rule over the old. -/
lemma ensures_updateProxy {old new : ProxyRule} (hold : s.stored J n = some old)
    (hname : new.name = n) :
    semantics.Ensures (updateProxy J n new) s fun result s' =>
      match result with
      | .error _ => s' = s
      | .ok () => Others n s s' ∧ s'.stored J n = some new := by
  obtain ⟨row, hrow, -⟩ := Option.map_eq_some_iff.mp hold
  have haffected : s.rules.affected n = 1 := by
    rw [KeyedTable.affected, hrow]
    rfl
  rw [← bind_ret (updateProxy J n new), updateProxy_bind]
  refine ensures_call fun ok => ?_
  dsimp only [semantics, perform]
  rcases ok with - | -
  · exact ensures_ret rfl
  · simp only [if_true, haffected, one_ne_zero, if_false]
    refine ensures_ret ⟨⟨fun m hm => ?_, fun m _ => rfl⟩, ?_⟩
    · have hlookup := KeyedTable.lookup_modify s.rules n (setColumns (.ofRule J new)) (fun _ => rfl) m
      exact hlookup.trans (if_neg (Ne.symm hm))
    · have hstored := stored_modify (fun _ => rfl) hold hname n
      rwa [Function.update_self] at hstored

/-- `remove_proxy` fails and changes nothing, or keeps the other rules. -/
lemma ensures_removeProxy (name : String) (s : ControlState) :
    semantics.Ensures (removeProxy J name) s fun result s' =>
      match result with
      | .error _ => s' = s
      | .ok _ => Others name s s' := by
  rw [← bind_ret (removeProxy J name), removeProxy_bind]
  refine ensures_call fun c => ?_
  dsimp only [semantics, perform]
  rcases s.rules.lookup name with - | row
  · exact ensures_ret rfl
  · refine ensures_call fun ok => ?_
    dsimp only [semantics, perform]
    rcases ok with - | -
    · exact ensures_ret rfl
    · refine ensures_call fun c => ensures_ret ⟨fun m hm => ?_, fun m hm => ?_⟩
      · exact (KeyedTable.lookup_erase _ _ m).trans (if_neg (Ne.symm hm))
      · exact Function.update_of_ne hm _ _

/-! ## The merge -/

/-- A requested type is stored under the name it was requested by. -/
lemma asStr_of_requestedType {t : String} {proxyType : ProxyType}
    (h : requestedType t = some proxyType) : proxyType.asStr = t := by
  unfold requestedType at h
  split_ifs at h <;> cases h <;> simp [ProxyType.asStr, *]

/-- A request that has passed its checks names a type, if it supplies one. -/
lemma requestedType_of_checkUpdate {payload : UpdateProxyRequest} (h : checkUpdate T payload = .ok ())
    {t : String} (ht : payload.proxyType = some t) : ∃ proxyType, requestedType t = some proxyType := by
  rw [checkUpdate, ht] at h
  obtain ⟨_, htype, -⟩ := bind_eq_ok.mp h
  obtain ⟨proxyType, hvalid, -⟩ := bind_eq_ok.mp htype
  exact ⟨proxyType, validateType_eq_ok.mp hvalid⟩

/-- The merged rule replaces exactly what the payload has. -/
lemma replaced_merge {payload : UpdateProxyRequest} (hcheck : checkUpdate T payload = .ok ())
    {old : ProxyRule} (hname : old.name = n) : Replaced payload old (payload.merge n old) where
  name := hname.symm
  proxyType := by
    rcases ht : payload.proxyType with - | t
    · simp [UpdateProxyRequest.merge, UpdateProxyRequest.effectiveType, ht]
    · obtain ⟨proxyType, hrequested⟩ := requestedType_of_checkUpdate hcheck ht
      simp [UpdateProxyRequest.merge, UpdateProxyRequest.effectiveType, ht, hrequested,
        asStr_of_requestedType hrequested]
  clientId := rfl
  localIp := rfl
  localPort := rfl
  remotePort := rfl
  customDomains := rfl
  proxyProtocol := rfl

/-! ## The handlers -/

/-- What every handler ensures: an answer of 400 or 404 leaves the state as it was, and no answer
changes another rule. -/
structure AllOrNothing (n : String) (s : ControlState) (code : UInt16) (s' : ControlState) : Prop where
  refused : code = 400 ∨ code = 404 → s' = s
  others : Others n s s'

/-- A request that changes nothing is all or nothing. -/
lemma AllOrNothing.unchanged (n : String) (s : ControlState) (code : UInt16) :
    AllOrNothing n s code s := ⟨fun _ => rfl, Others.refl n s⟩

/-- An answer after the work has been done. -/
lemma Others.allOrNothing {code : UInt16} (h : Others n s s') (h400 : code ≠ 400) (h404 : code ≠ 404) :
    AllOrNothing n s code s' :=
  ⟨fun hcode => (hcode.elim h400 h404).elim, h⟩

/-- The client is notified and the rule read again; 200 is answered if it is still there. -/
lemma ensures_answer (name clientId text : String) (msg : Proto.ControlMessage) (s : ControlState) :
    semantics.Ensures
      (lift (.notify clientId msg) >>= fun _ => getProxy J name >>= fun entry =>
        match entry with
        | some entry => pure (success (ProxyInfo.ofEntry entry))
        | none => pure (errorResponse 500 text)) s
      fun response s' => (response.code = 200 ∨ response.code = 500) ∧ Aside name s s' := by
  rw [lift_bind]
  refine ensures_call fun c => ?_
  refine (ensures_getProxy name _).bind ?_
  rintro entry s' ⟨rfl, -⟩
  have haside : Aside name s _ := aside_perform (.notify clientId msg) c s trivial
  rcases entry with - | entry
  · exact ensures_ret ⟨Or.inr rfl, haside⟩
  · exact ensures_ret ⟨Or.inl rfl, haside⟩

/-- 200 and 500 are answered after the work. -/
lemma Others.answered {code : UInt16} (h : Others n s s') (hcode : code = 200 ∨ code = 500) :
    AllOrNothing n s code s' := by
  rcases hcode with rfl | rfl
  · exact h.allOrNothing (by decide) (by decide)
  · exact h.allOrNothing (by decide) (by decide)

/-- A creation is all or nothing. -/
lemma ensures_createProxy (payload : CreateProxyRequest) (s : ControlState) :
    semantics.Ensures (createProxy T J payload) s fun response s' =>
      AllOrNothing payload.name s response.code s' := by
  unfold createProxy
  rcases checkCreate T payload with e | proxyType
  · exact ensures_ret (.unchanged _ _ _)
  · refine (ensures_addProxy (payload.rule proxyType) s).bind fun result s' hadd => ?_
    rcases result with e | ⟨⟩
    · obtain rfl : s' = s := hadd
      exact ensures_ret (.unchanged _ _ _)
    · refine (ensures_aside (all_updateStatus _ _) s').bind fun _ s₁ hstatus => ?_
      refine (ensures_aside (all_onProxyCreate rfl) s₁).bind fun _ s₂ hcreate => ?_
      refine (ensures_answer _ _ _ _ s₂).mono fun response s₃ hanswer => ?_
      have hothers : Others payload.name s s' := hadd
      exact (((hothers.aside hstatus).aside hcreate).aside hanswer.2).answered hanswer.1

/-- `update_proxy` besides: what 200 says of the rule. -/
lemma ensures_updateProxyHandler (name : String) (payload : UpdateProxyRequest) (s : ControlState) :
    semantics.Ensures (updateProxyHandler T J name payload) s fun response s' =>
      AllOrNothing name s response.code s' ∧ (response.code = 200 →
        ∃ old new, s.stored J name = some old ∧ s'.stored J name = some new ∧
          Replaced payload old new) := by
  have hrefused : ∀ (code : UInt16) (text : String), code ≠ 200 →
      semantics.Ensures (pure (errorResponse code text) : Program (ApiResponse ProxyInfo)) s
        fun response s' => AllOrNothing name s response.code s' ∧ (response.code = 200 →
          ∃ old new, s.stored J name = some old ∧ s'.stored J name = some new ∧
            Replaced payload old new) :=
    fun code text hcode => ensures_ret ⟨.unchanged _ _ _, fun h => absurd h hcode⟩
  unfold updateProxyHandler
  rcases hcheck : checkUpdate T payload with e | ⟨⟩
  · exact hrefused 400 _ (by decide)
  · refine (ensures_getProxy name s).bind ?_
    rintro entry s' ⟨rfl, hstored⟩
    rcases entry with - | entry
    · exact hrefused 404 _ (by decide)
    · dsimp only
      rcases checkUpdateOf T payload entry.rule with e | -
      · exact hrefused 400 _ (by decide)
      · have hold : s'.stored J name = some entry.rule := hstored.symm
        have hname : entry.rule.name = name := name_of_stored hold
        refine (ensures_updateProxy hold rfl).bind fun result s₁ hupdate => ?_
        rcases result with e | ⟨⟩
        · obtain rfl : s₁ = s' := hupdate
          exact hrefused 400 _ (by decide)
        · obtain ⟨hothers, hnew⟩ := hupdate
          refine (ensures_aside (all_onProxyDelete hname) s₁).bind fun _ s₂ hdelete => ?_
          refine (ensures_aside (all_onProxyCreate rfl) s₂).bind fun _ s₃ hcreate => ?_
          refine (ensures_answer _ _ _ _ s₃).mono fun response s₄ hanswer => ?_
          have haside := (hdelete.trans hcreate).trans hanswer.2
          refine ⟨(hothers.aside haside).answered hanswer.1, fun _ => ?_⟩
          refine ⟨entry.rule, _, hold, ?_, replaced_merge hcheck hname⟩
          rw [ControlState.stored, haside.rules]
          exact hnew

/-- A deletion is all or nothing. -/
lemma ensures_deleteProxy (name : String) (s : ControlState) :
    semantics.Ensures (deleteProxy J name) s fun response s' =>
      AllOrNothing name s response.code s' := by
  unfold deleteProxy
  refine (ensures_getProxy name s).bind ?_
  rintro entry s' ⟨rfl, hstored⟩
  rcases entry with - | entry
  · exact ensures_ret (.unchanged _ _ _)
  · have hname : entry.rule.name = name := name_of_stored hstored.symm
    refine (ensures_removeProxy name s').bind fun result s₁ hremove => ?_
    rcases result with e | rule
    · obtain rfl : s₁ = s' := hremove
      exact ensures_ret (.unchanged _ _ _)
    · refine (ensures_aside (all_updateStatus _ _) s₁).bind fun _ s₂ hstatus => ?_
      refine (ensures_aside (all_onProxyDelete hname) s₂).bind fun _ s₃ hdelete => ?_
      refine (ensures_aside (all_notify name _ _) s₃).bind fun _ s₄ hnotify => ?_
      have hothers : Others name s' s₁ := hremove
      exact ensures_ret ((((hothers.aside hstatus).aside hdelete).aside hnotify).answered (Or.inl rfl))

/-- A request that is answered 400 or 404 has changed nothing; an update that is answered 200 has
replaced the supplied fields of its rule; and no request changes another rule. -/
theorem handle_allOrNothing (T : StdText) (J : DomainsJson) (req : ApiRequest)
    (outcomes : Stream' Bool) (s : ControlState) :
    ((semantics.run (handle T J req) outcomes s).1.code = 400 ∨
        (semantics.run (handle T J req) outcomes s).1.code = 404 →
      (semantics.run (handle T J req) outcomes s).2.2 = s) ∧
    (∀ name payload, req = .update name payload →
      (semantics.run (handle T J req) outcomes s).1.code = 200 →
        ∃ old new, s.stored J name = some old ∧
          (semantics.run (handle T J req) outcomes s).2.2.stored J name = some new ∧
            Replaced payload old new) ∧
    Others req.name s (semantics.run (handle T J req) outcomes s).2.2 := by
  have hensures : semantics.Ensures (handle T J req) s fun answer s' =>
      AllOrNothing req.name s answer.code s' ∧ ∀ name payload, req = .update name payload →
        answer.code = 200 → ∃ old new, s.stored J name = some old ∧ s'.stored J name = some new ∧
          Replaced payload old new := by
    cases req with
    | create payload =>
        refine Ensures.map _ ((ensures_createProxy payload s).mono fun response s' h => ⟨h, ?_⟩)
        rintro _ _ ⟨⟩
    | update name payload =>
        refine Ensures.map _ ((ensures_updateProxyHandler name payload s).mono fun response s' h => ?_)
        refine ⟨h.1, ?_⟩
        rintro _ _ ⟨⟩
        exact h.2
    | delete name =>
        refine Ensures.map _ ((ensures_deleteProxy name s).mono fun response s' h => ⟨h, ?_⟩)
        rintro _ _ ⟨⟩
  obtain ⟨hall, hupdate⟩ := hensures outcomes
  exact ⟨hall.refused, hupdate, hall.others⟩

end RustProxy.Control
