import RustProxy.Control.Concurrent
import RustProxy.Control.Routes

/-!
# What a request announces

A request that has changed the row of a rule notifies the client of exactly that change before it
changes or announces anything else.

* `Draft` is the bookkeeping of a request, `Ghost` with the change that is being applied.
* `Announces` is a proof outline that looks at the program alone, whatever the responses of its
  actions; `announces_handle` says that the handlers follow it.
* `ServerMove` is what an action of a pool of such requests does to the stored rules: nothing, one
  change of a rule that nobody else holds, or the notification of a change that was made.
-/

namespace RustProxy.Control

open RustProxy.Core RustProxy.Proto Prog

/-- What a request has read first, and the change it is applying. -/
structure Draft where
  seen : Option ProxyRule
  pending : Option Change
  deriving DecidableEq, Repr

/-- The bookkeeping of the pool. -/
def Draft.ghost (d : Draft) : Ghost := { seen := d.seen, applying := d.pending.map Change.name }

/-- A request that has just arrived. -/
def Draft.start : Draft := { seen := none, pending := none }

/-- What a change is announced by. -/
def Change.Announces (ch : Change) (c : String) (msg : ControlMessage) : Prop :=
  match ch.new with
  | some rule => rule.name = ch.name ∧ c = rule.clientId ∧ msg = assignMessage rule
  | none => (∃ old, ch.old = some old ∧ c = old.clientId) ∧ msg = .serverCloseProxy { name := ch.name }

/-- The change that is applied is one of the rule that was read. -/
def Draft.Coherent (d : Draft) : Prop := ∀ ch ∈ d.pending, ch.old = d.seen

/-- A response that an action can have. -/
def Op.Possible : {β : Type} → Op β → β → Prop
  | _, .selectRow name, row => ∀ r ∈ row, r.name = name
  | _, _, _ => True

/-- A request reads and changes a row only when nothing is left to announce; it inserts one before
it has read any, and changes one that it has read; it announces what it has changed. -/
def Draft.Allows : {β : Type} → Draft → Op β → Prop
  | _, d, .selectRow _ => d.pending = none
  | _, d, .insertRow _ => d.pending = none ∧ d.seen = none
  | _, d, .updateRow name row => d.pending = none ∧ row.name = name ∧ ∃ rule ∈ d.seen, rule.name = name
  | _, d, .deleteRow name => d.pending = none ∧ ∃ rule ∈ d.seen, rule.name = name
  | _, d, .notify c msg => ∃ ch ∈ d.pending, ch.Announces c msg
  | _, _, _ => True

/-- The action neither reads nor changes a row, nor notifies a client. -/
def Op.Quiet : {β : Type} → Op β → Prop
  | _, .selectRow _ => False
  | _, .insertRow _ => False
  | _, .updateRow _ _ => False
  | _, .deleteRow _ => False
  | _, .notify _ _ => False
  | _, _ => True

/-- A program of such actions. -/
def Quiet {α : Type} : Program α → Prop
  | .ret _ => True
  | .call op next => op.Quiet ∧ ∀ r, Quiet (next r)

variable (J : DomainsJson)

/-- How the actions of a request change its bookkeeping. -/
def Draft.track : {β : Type} → Draft → Op β → β → Draft
  | _, d, .selectRow _, row => { d with seen := d.seen <|> row.map (ProxyRuleRow.toRule J) }
  | _, d, .insertRow row, true =>
      { d with pending := some { name := row.name, old := none, new := some (row.toRule J) } }
  | _, d, .updateRow name row, some affected =>
      if affected = 0 then d
      else { d with pending := some { name, old := d.seen, new := some (row.toRule J) } }
  | _, d, .deleteRow name, true => { d with pending := some { name, old := d.seen, new := none } }
  | _, _, .notify _ _, _ => .start
  | _, d, _, _ => d

/-- The outline of a request: every action is allowed, and in the end everything is announced. -/
def Announces {α : Type} : Program α → Draft → Prop
  | .ret _, d => d.pending = none
  | .call op next, d => d.Allows op ∧ ∀ r, op.Possible r → Announces (next r) (d.track J op r)

variable {J} {α β : Type} {d : Draft}

/-- An update that changed no row promises nothing. -/
lemma track_updateRow (d : Draft) (name : String) (row : ProxyRuleRow) (affected : ℕ) :
    d.track J (.updateRow name row) (some affected) =
      if affected = 0 then d
      else { d with pending := some { name, old := d.seen, new := some (row.toRule J) } } := rfl

/-- The ghost of a draft sees every operation. -/
lemma ghost_track (d : Draft) (op : Op β) (r : β) :
    (d.track J op r).ghost = d.ghost.track J op r := by
  cases op with
  | insertRow row => cases r <;> rfl
  | updateRow name row =>
      cases r with
      | none => rfl
      | some affected =>
          rw [track_updateRow]
          show _ = if affected = 0 then d.ghost else _
          split <;> rfl
  | deleteRow name => cases r <;> rfl
  | _ => rfl

/-- A coherent draft that allows an operation is coherent after it. -/
lemma coherent_track {op : Op β} (h : d.Coherent) (hallows : d.Allows op) (r : β) :
    (d.track J op r).Coherent := by
  cases op with
  | selectRow name =>
      intro ch hch
      cases (hallows : d.pending = none).symm.trans hch
  | insertRow row =>
      cases r with
      | false => exact h
      | true =>
          rintro ch ⟨⟩
          exact hallows.2.symm
  | updateRow name row =>
      cases r with
      | none => exact h
      | some affected =>
          rw [track_updateRow]
          split
          · exact h
          · rintro ch ⟨⟩
            rfl
  | deleteRow name =>
      cases r with
      | false => exact h
      | true =>
          rintro ch ⟨⟩
          rfl
  | notify =>
      intro ch hch
      cases hch
  | _ => exact h

/-! ## Quiet programs -/

/-- A quiet operation is allowed by every draft. -/
lemma allows_of_quiet {op : Op β} (h : op.Quiet) (d : Draft) : d.Allows op := by
  cases op <;> first | exact h.elim | trivial

/-- A quiet operation leaves the draft. -/
lemma track_of_quiet {op : Op β} (h : op.Quiet) (d : Draft) (r : β) : d.track J op r = d := by
  cases op <;> first | exact h.elim | rfl

/-- Two quiet programs, one after the other. -/
lemma Quiet.bind {p : Program α} {f : α → Program β} (hp : Quiet p) (hf : ∀ a, Quiet (f a)) :
    Quiet (p >>= f) := by
  induction p with
  | ret a => exact hf a
  | call op next ih => exact ⟨hp.1, fun r => ih r (hp.2 r)⟩

/-- A quiet stretch announces and changes nothing. -/
lemma announces_quiet {p : Program α} {f : α → Program β} (hp : Quiet p)
    (hf : ∀ a, Announces J (f a) d) : Announces J (p >>= f) d := by
  induction p with
  | ret a => exact hf a
  | call op next ih =>
      refine ⟨allows_of_quiet hp.1 d, fun r _ => ?_⟩
      rw [track_of_quiet hp.1]
      exact ih r (hp.2 r)

/-- A status is quiet. -/
lemma quiet_updateStatus (name : String) (status : ProxyStatus) : Quiet (updateStatus name status) :=
  ⟨trivial, fun _ => trivial⟩

/-- Binding a port is quiet. -/
lemma quiet_startStreamListener (proxyType : ProxyType) (name : String) (port : UInt16)
    (clientId : String) : Quiet (startStreamListener proxyType name port clientId) := by
  refine ⟨trivial, fun handle => ?_⟩
  cases handle with
  | none => trivial
  | some handle => exact ⟨trivial, fun _ => trivial⟩

/-- Starting the listener of a rule is quiet. -/
lemma quiet_startProxyListener (rule : ProxyRule) : Quiet (startProxyListener rule) := by
  unfold startProxyListener
  cases rule.proxyType with
  | tcp | udp =>
      dsimp only
      split
      · trivial
      · exact quiet_startStreamListener _ _ _ _
  | http | https => exact ⟨trivial, fun _ => trivial⟩

/-- Stopping a task is quiet. -/
lemma quiet_stopListener (name : String) : Quiet (stopListener name) := by
  refine ⟨trivial, fun handle => ?_⟩
  cases handle with
  | none => trivial
  | some handle => exact ⟨trivial, fun _ => trivial⟩

/-- Stopping the listener of a rule is quiet. -/
lemma quiet_stopProxyListener (rule : ProxyRule) : Quiet (stopProxyListener rule) := by
  unfold stopProxyListener
  cases rule.proxyType with
  | tcp | udp => exact quiet_stopListener _
  | http | https => exact ⟨trivial, fun _ => trivial⟩

/-- The callback of a creation is quiet. -/
lemma quiet_onProxyCreate (rule : ProxyRule) : Quiet (onProxyCreate rule) :=
  (quiet_updateStatus _ _).bind fun _ =>
    (quiet_startProxyListener rule).bind fun _ => quiet_updateStatus _ _

/-- The callback of a deletion is quiet. -/
lemma quiet_onProxyDelete (rule : ProxyRule) : Quiet (onProxyDelete rule) :=
  (quiet_updateStatus _ _).bind fun _ =>
    (quiet_stopProxyListener rule).bind fun _ => quiet_updateStatus _ _

/-! ## The handlers -/

/-- `get_proxy` of a request. -/
lemma announces_getProxy {name : String} {f : Option ProxyEntry → Program α} (hd : d.pending = none)
    (hnone : Announces J (f none) d)
    (hsome : ∀ entry, entry.rule.name = name →
      Announces J (f (some entry)) { d with seen := d.seen <|> some entry.rule }) :
    Announces J (getProxy J name >>= f) d := by
  refine ⟨hd, fun row hrow => ?_⟩
  cases row with
  | none =>
      have hsame : d.track J (.selectRow name) none = d := by
        show ({ d with seen := d.seen <|> none } : Draft) = d
        cases d with
        | mk seen pending => cases seen <;> rfl
      rw [hsame]
      exact hnone
  | some row =>
      refine ⟨trivial, fun inner _ => ?_⟩
      exact hsome { rule := row.toRule J, status := _, connections := _ } (hrow row rfl)

/-- The tail of `create_proxy` and `update_proxy`. -/
lemma announces_answer {name text : String} (hd : d.pending = none) :
    Announces J
      (getProxy J name >>= fun entry =>
        match entry with
        | some entry => pure (success (ProxyInfo.ofEntry entry))
        | none => pure (errorResponse 500 text)) d :=
  announces_getProxy hd hd fun _ _ => hd

/-- Starting a rule and announcing it. -/
lemma announces_create {rule : ProxyRule} {ch : Change} {f : Bool → Program α}
    (hd : d.pending = some ch) (hnew : ch.new = some rule) (hname : rule.name = ch.name)
    (hf : ∀ sent, Announces J (f sent) .start) :
    Announces J (onProxyCreate rule >>= fun _ =>
      lift (.notify rule.clientId (assignMessage rule)) >>= f) d := by
  refine announces_quiet (quiet_onProxyCreate rule) fun _ => ⟨⟨ch, hd, ?_⟩, fun sent _ => hf sent⟩
  rw [Change.Announces, hnew]
  exact ⟨hname, rfl, rfl⟩

variable {T : StdText}

/-- A creation announces what it has stored. -/
lemma announces_createProxy (payload : CreateProxyRequest) :
    Announces J (createProxy T J payload) .start := by
  unfold createProxy
  cases checkCreate T payload with
  | error e => rfl
  | ok proxyType =>
      dsimp only
      rw [addProxy_bind]
      refine ⟨trivial, fun inner _ => ?_⟩
      show Announces J (if (inner (payload.rule proxyType).name).isSome then _ else _) .start
      split
      · rfl
      · refine ⟨⟨rfl, rfl⟩, fun inserted _ => ?_⟩
        cases inserted with
        | false => rfl
        | true =>
            refine announces_quiet (p := lift (.insertRuntime _ .new)) ⟨trivial, fun _ => trivial⟩ ?_
            intro _
            refine announces_quiet (quiet_updateStatus _ _) fun _ => ?_
            exact announces_create rfl (congrArg some (ProxyRuleRow.toRule_ofRule J _)) rfl
              fun _ => announces_answer rfl

/-- An update announces what it has stored. -/
lemma announces_updateProxyHandler (name : String) (payload : UpdateProxyRequest) :
    Announces J (updateProxyHandler T J name payload) .start := by
  unfold updateProxyHandler
  cases checkUpdate T payload with
  | error e => rfl
  | ok _ =>
      refine announces_getProxy rfl rfl fun entry hname => ?_
      dsimp only
      cases checkUpdateOf T payload entry.rule with
      | error e => rfl
      | ok _ =>
          dsimp only
          rw [updateProxy_bind]
          refine ⟨⟨rfl, rfl, entry.rule, rfl, hname⟩, fun result _ => ?_⟩
          cases result with
          | none => rfl
          | some affected =>
              dsimp only
              rw [track_updateRow]
              split
              · rfl
              · refine announces_quiet (quiet_onProxyDelete _) fun _ => ?_
                exact announces_create rfl (congrArg some (ProxyRuleRow.toRule_ofRule J _)) rfl
                  fun _ => announces_answer rfl

/-- A deletion announces what it has removed. -/
lemma announces_deleteProxy (name : String) : Announces J (deleteProxy J name) .start := by
  unfold deleteProxy
  refine announces_getProxy rfl rfl fun entry hname => ?_
  dsimp only
  rw [removeProxy_bind]
  refine ⟨rfl, fun row _ => ?_⟩
  cases row with
  | none => rfl
  | some row =>
      refine ⟨⟨rfl, entry.rule, rfl, hname⟩, fun deleted _ => ?_⟩
      cases deleted with
      | false => rfl
      | true =>
          refine announces_quiet (p := lift (.removeRuntime name)) ⟨trivial, fun _ => trivial⟩
            fun _ => ?_
          refine announces_quiet (quiet_updateStatus _ _) fun _ => ?_
          refine announces_quiet (quiet_onProxyDelete _) fun _ => ?_
          refine ⟨⟨_, rfl, ?_⟩, fun _ _ => rfl⟩
          exact ⟨⟨entry.rule, rfl, rfl⟩, rfl⟩

/-- What is done with the result announces nothing more. -/
lemma Announces.bind_ret {p : Program α} {f : α → β} (h : Announces J p d) :
    Announces J (p >>= fun a => .ret (f a)) d := by
  induction p generalizing d with
  | ret a => exact h
  | call op next ih => exact ⟨h.1, fun r hr => ih r (h.2 r hr)⟩

/-- Every request announces what it changes. -/
theorem announces_handle (req : ApiRequest) : Announces J (handle T J req) .start := by
  cases req with
  | create payload => exact (announces_createProxy payload).bind_ret
  | update name payload => exact (announces_updateProxyHandler name payload).bind_ret
  | delete name => exact (announces_deleteProxy name).bind_ret

/-! ## What an action changes -/

/-- The notification that an action of a request sends. -/
def notification : {β : Type} → Op β → Option (String × ControlMessage)
  | _, .notify c msg => some (c, msg)
  | _, _ => none

/-- What `f` says of the next action of a request. -/
def nextOf {ω : Type} (f : {β : Type} → Op β → Option ω) (p : Server) : ServerEvent → Option ω
  | .arrive _ => none
  | .step i _ =>
      match p.tasks[i]? with
      | some ⟨_, .call op _⟩ => f op
      | _ => none

/-- The notification that the next action of a request sends. -/
def nextNotification (p : Server) (e : ServerEvent) : Option (String × ControlMessage) :=
  nextOf notification p e

/-- The outcome of the next action. -/
def reports (e : ServerEvent) (ok : Bool) : Bool :=
  match e with
  | .arrive _ => false
  | .step _ outcome => outcome = ok

/-- The name belongs to a request that has changed its row and not announced it yet. -/
def Held (p : Server) (n : String) : Prop := ∃ t ∈ p.tasks, t.ghost.applying = some n

instance (p : Server) (n : String) : Decidable (Held p n) :=
  inferInstanceAs (Decidable (∃ t ∈ p.tasks, t.ghost.applying = some n))

/-- What an action does to the stored rules, to the bookkeeping of its request, and to the client. -/
inductive Effect (J : DomainsJson) (s s' : ControlState) (d d' : Draft) :
    Option (String × ControlMessage) → Prop
  | quiet (hstored : s'.stored J = s.stored J) (hpending : d'.pending = d.pending) :
      Effect J s s' d d' none
  | write (ch : Change) (hnone : d.pending = none) (hpending : d'.pending = some ch)
      (hreal : ch.old ≠ none ∨ ch.new ≠ none) (hold : s.stored J ch.name = ch.old)
      (hstored : s'.stored J = Function.update (s.stored J) ch.name ch.new) : Effect J s s' d d' none
  | notify (ch : Change) (c : String) (msg : ControlMessage) (hpending : d.pending = some ch)
      (hnone : d'.pending = none) (hannounces : ch.Announces c msg)
      (hstored : s'.stored J = s.stored J) : Effect J s s' d d' (some (c, msg))

/-- Every operation answers with a possible result. -/
lemma possible_perform (op : Op β) (c : Bool) (s : ControlState) :
    op.Possible (semantics.perform op c s).1 := by
  cases op with
  | selectRow name => exact fun row hrow => KeyedTable.key_of_lookup hrow
  | _ => trivial

/-- What an insertion does to the drafts. -/
lemma effect_insertRow {row : ProxyRuleRow} {c : Bool} {s : ControlState} (hd : d.pending = none) :
    Effect J s (semantics.perform (.insertRow row) c s).2 d
      (d.track J (.insertRow row) (semantics.perform (.insertRow row) c s).1) none := by
  rcases insertRow_cases row c s with h | ⟨rules, hins, h⟩
  · rw [h]
    exact .quiet rfl rfl
  · rw [h]
    refine .write { name := row.name, old := none, new := some (row.toRule J) } hd rfl
      (.inr (Option.some_ne_none _)) ?_ ?_
    · exact Option.map_eq_none_iff.mpr (KeyedTable.lookup_of_insert hins)
    · funext n
      rw [ControlState.stored, KeyedTable.lookup_insert hins]
      by_cases hn : row.name = n
      · subst hn
        rw [if_pos rfl, Function.update_self]
        rfl
      · rw [if_neg hn, Function.update_of_ne (Ne.symm hn)]
        rfl

/-- What an update of a row does to the drafts. -/
lemma effect_updateRow {name : String} {row : ProxyRuleRow} {c : Bool} {s : ControlState}
    (hallows : d.Allows (.updateRow name row))
    (hassumes : d.ghost.assumes J (.updateRow name row)
      (semantics.perform (.updateRow name row) c s).1 s) :
    Effect J s (semantics.perform (.updateRow name row) c s).2 d
      (d.track J (.updateRow name row) (semantics.perform (.updateRow name row) c s).1) none := by
  obtain ⟨hd, hrow, rule, hseen, hname⟩ := hallows
  have hothers : ∀ n, name ≠ n →
      (semantics.perform (.updateRow name row) c s).2.stored J n = s.stored J n :=
    fun n hn => stored_of_frame (frame_perform (.updateRow name row) hn c s)
  rcases updateRow_cases name row c s with h | ⟨affected, haffected, hlookup, hzero, -⟩
  · rw [h]
    exact .quiet rfl rfl
  · rw [haffected] at hassumes ⊢
    rw [track_updateRow]
    by_cases hn : affected = 0
    · rw [if_pos hn]
      refine .quiet ?_ rfl
      funext n
      by_cases hname' : name = n
      · subst hname'
        rw [ControlState.stored, hlookup, ControlState.stored, hzero.mp hn]
        rfl
      · exact hothers n hname'
    · rw [if_neg hn]
      have hstored : s.stored J name = some rule :=
        hassumes (congrArg (Option.map Change.name) hd) hn rule hseen hname
      refine .write { name, old := d.seen, new := some (row.toRule J) } hd rfl
        (.inr (Option.some_ne_none _)) ?_ ?_
      · exact hstored.trans hseen.symm
      · funext n
        by_cases hname' : name = n
        · subst hname'
          obtain ⟨old, hold, -⟩ := Option.map_eq_some_iff.mp hstored
          have hcolumns : setColumns row old = row := by
            rw [setColumns, KeyedTable.key_of_lookup hold, ← hrow]
          rw [Function.update_self, ControlState.stored, hlookup, hold, Option.map_some, hcolumns]
          rfl
        · rw [Function.update_of_ne (Ne.symm hname')]
          exact hothers n hname'

/-- What a deletion of a row does to the drafts. -/
lemma effect_deleteRow {name : String} {c : Bool} {s : ControlState}
    (hallows : d.Allows (.deleteRow name))
    (hassumes : d.ghost.assumes J (.deleteRow name) (semantics.perform (.deleteRow name) c s).1 s) :
    Effect J s (semantics.perform (.deleteRow name) c s).2 d
      (d.track J (.deleteRow name) (semantics.perform (.deleteRow name) c s).1) none := by
  obtain ⟨hd, rule, hseen, hname⟩ := hallows
  rcases deleteRow_cases name c s with h | h
  · rw [h]
    exact .quiet rfl rfl
  · rw [h] at hassumes ⊢
    have hstored : s.stored J name = some rule :=
      hassumes (congrArg (Option.map Change.name) hd) rule hseen hname
    have hold : d.seen ≠ none := by
      rw [Option.mem_def.mp hseen]
      exact Option.some_ne_none _
    refine .write { name, old := d.seen, new := none } hd rfl (.inl hold)
      (hstored.trans hseen.symm) ?_
    funext n
    exact stored_erase name n

/-- What an action of a request on its outline can do. -/
lemma effect_perform {op : Op β} {c : Bool} {s : ControlState} (hallows : d.Allows op)
    (hassumes : d.ghost.assumes J op (semantics.perform op c s).1 s) :
    Effect J s (semantics.perform op c s).2 d (d.track J op (semantics.perform op c s).1)
      (notification op) := by
  cases op with
  | insertRow row => exact effect_insertRow hallows.1
  | updateRow name row => exact effect_updateRow hallows hassumes
  | deleteRow name => exact effect_deleteRow hallows hassumes
  | notify client msg =>
      obtain ⟨ch, hch, hannounces⟩ := hallows
      exact .notify ch client msg hch rfl hannounces rfl
  | bindAndSpawn =>
      refine .quiet ?_ rfl
      cases c <;> rfl
  | selectRow | selectRows | readRuntime | insertRuntime | removeRuntime | loadRuntime | setStatus
  | insertListener | removeListener | abortAndAwait | insertRoutes | removeRoutes =>
      exact .quiet rfl rfl

/-! ## The requests of a pool -/

/-- Every request of the pool is on its outline; `pending n` is the change of the rule `n` that has
been made and not announced yet. -/
structure Drafted (J : DomainsJson) (pending : String → Option Change) (p : Server) : Prop where
  inv : Pool.Inv (requests J) p
  outline : ∀ (i : ℕ) (t : PoolTask Op ApiAnswer Ghost), p.tasks[i]? = some t →
    ∃ d : Draft, t.ghost = d.ghost ∧ Announces J t.prog d ∧ d.Coherent ∧
      ∀ ch ∈ d.pending, pending ch.name = some ch
  held : ∀ n, (pending n).isSome ↔ Held p n
  stored : ∀ n ch, pending n = some ch → ch.name = n ∧ p.state.stored J n = ch.new

/-- What a step of the pool does to the stored rules and the pending changes. -/
inductive ServerMove (J : DomainsJson) (p p' : Server) (pending : String → Option Change) :
    Option (String × ControlMessage) → (String → Option Change) → Prop
  | quiet (hstored : p'.state.stored J = p.state.stored J) : ServerMove J p p' pending none pending
  | write (ch : Change) (hfree : pending ch.name = none) (hreal : ch.old ≠ none ∨ ch.new ≠ none)
      (hold : p.state.stored J ch.name = ch.old)
      (hstored : p'.state.stored J = Function.update (p.state.stored J) ch.name ch.new) :
      ServerMove J p p' pending none (Function.update pending ch.name (some ch))
  | notify (ch : Change) (c : String) (msg : ControlMessage) (hpending : pending ch.name = some ch)
      (hannounces : ch.Announces c msg) (hstored : p'.state.stored J = p.state.stored J) :
      ServerMove J p p' pending (some (c, msg)) (Function.update pending ch.name none)

variable {p p' : Server} {pending : String → Option Change} {e : ServerEvent}

/-- When the server accepts requests, nothing is under way. -/
lemma drafted_accepting (db : RuleTable) (outcomes : Stream' Bool) :
    Drafted J (fun _ => none) (accepting J db outcomes) where
  inv := inv_accepting db outcomes
  outline := fun i t ht => by
    rw [accepting, List.getElem?_nil] at ht
    cases ht
  held := fun n => by simp [Held, accepting]
  stored := fun n ch hch => by cases hch

/-- A request arrives. -/
lemma Drafted.arrive (h : Drafted J pending p) (req : ApiRequest)
    (hinv : Pool.Inv (requests J)
      { p with tasks := p.tasks ++ [⟨(requests J).start, handle T J req⟩] }) :
    Drafted J pending { p with tasks := p.tasks ++ [⟨(requests J).start, handle T J req⟩] } where
  inv := hinv
  outline := fun i t ht => by
    rcases Pool.getElem?_append_cases ht with ⟨-, rfl⟩ | ht
    · have hnothing : ∀ ch ∈ Draft.start.pending, False := fun ch hch => by cases hch
      exact ⟨.start, rfl, announces_handle req, fun ch hch => (hnothing ch hch).elim,
        fun ch hch => (hnothing ch hch).elim⟩
    · exact h.outline i t ht
  held := fun n => by
    rw [h.held n]
    simp [Held, requests]
  stored := h.stored

/-- A name that one request holds is held by no other. -/
lemma Drafted.free_of_takesAlone (h : Drafted J pending p) {i : ℕ} {c : Bool} {g : Ghost} {op : Op β}
    {next : β → Program ApiAnswer} {n : String} (htask : p.tasks[i]? = some ⟨g, .call op next⟩)
    (halone : Pool.TakesAlone (requests J) p i c ⟨g, .call op next⟩) (hg : g.applying = none)
    (htakes : (g.track J op (semantics.perform op c p.state).1).applying = some n) :
    pending n = none := by
  rw [← Option.not_isSome_iff_eq_none, h.held n]
  rintro ⟨t, ht, hheld⟩
  rcases Pool.eq_or_getElem? htask ht with rfl | ⟨j, hj, hget⟩
  · cases hg.symm.trans hheld
  · exact halone.1 n htakes t (Pool.mem_eraseIdx hj hget) hheld

/-- Which names are held after one request has taken its step. -/
lemma held_set {i : ℕ} {t u : PoolTask Op ApiAnswer Ghost} {s : ControlState} {n : String}
    (htask : p.tasks[i]? = some t) :
    Held ⟨s, p.tasks.set i u⟩ n ↔
      u.ghost.applying = some n ∨
        ∃ (j : ℕ) (v : PoolTask Op ApiAnswer Ghost), j ≠ i ∧ p.tasks[j]? = some v ∧
          v.ghost.applying = some n := by
  have hi : i < p.tasks.length := (List.getElem?_eq_some_iff.mp htask).1
  constructor
  · rintro ⟨v, hv, hheld⟩
    obtain ⟨j, hj⟩ := List.mem_iff_getElem?.mp hv
    rcases Pool.getElem?_set_cases hj with ⟨rfl, rfl⟩ | ⟨hji, hj⟩
    · exact Or.inl hheld
    · exact Or.inr ⟨j, v, hji, hj, hheld⟩
  · rintro (hheld | ⟨j, v, hji, hj, hheld⟩)
    · exact ⟨u, List.mem_set hi _, hheld⟩
    · refine ⟨v, List.mem_of_getElem? (i := j) ?_, hheld⟩
      rw [List.getElem?_set_ne (Ne.symm hji)]
      exact hj

/-- Which names are held, by one request and by the others. -/
lemma held_iff {i : ℕ} {t : PoolTask Op ApiAnswer Ghost} {n : String}
    (htask : p.tasks[i]? = some t) :
    Held p n ↔ t.ghost.applying = some n ∨
      ∃ (j : ℕ) (v : PoolTask Op ApiAnswer Ghost), j ≠ i ∧ p.tasks[j]? = some v ∧
        v.ghost.applying = some n := by
  have hset := held_set (u := t) (s := p.state) (n := n) htask
  obtain ⟨hi, hget⟩ := List.getElem?_eq_some_iff.mp htask
  rw [← hget, List.set_getElem_self] at hset
  rw [← hget]
  exact hset

/-- A request has performed an action that begins or ends the change of the rule `name`. -/
lemma Drafted.update (h : Drafted J pending p) {i : ℕ} {g : Ghost} {prog prog' : Program ApiAnswer}
    {s : ControlState} {d' : Draft} {name : String} (htask : p.tasks[i]? = some ⟨g, prog⟩)
    (hinv : Pool.Inv (requests J) ⟨s, p.tasks.set i ⟨d'.ghost, prog'⟩⟩)
    (hout : Announces J prog' d') (hcoherent : d'.Coherent)
    (hg : ∀ n, g.applying = some n → n = name)
    (hpending : ∀ ch ∈ d'.pending, ch.name = name ∧ s.stored J name = ch.new)
    (hothers : ∀ j v, j ≠ i → p.tasks[j]? = some v → v.ghost.applying ≠ some name)
    (hstored : ∀ n, n ≠ name → s.stored J n = p.state.stored J n) :
    Drafted J (Function.update pending name d'.pending)
      ⟨s, p.tasks.set i ⟨d'.ghost, prog'⟩⟩ where
  inv := hinv
  outline := fun j t ht => by
    rcases Pool.getElem?_set_cases ht with ⟨rfl, rfl⟩ | ⟨hj, ht⟩
    · refine ⟨d', rfl, hout, hcoherent, ?_⟩
      intro ch hch
      rw [(hpending ch hch).1, Function.update_self]
      exact hch
    · obtain ⟨e, he, hannounces, hseen, hheld⟩ := h.outline j t ht
      refine ⟨e, he, hannounces, hseen, ?_⟩
      intro ch hch
      have hne : ch.name ≠ name := by
        rintro rfl
        refine hothers j t hj ht ?_
        rw [he, Draft.ghost, Option.mem_def.mp hch]
        rfl
      rw [Function.update_of_ne hne]
      exact hheld ch hch
  held := fun n => by
    rw [held_set htask]
    by_cases hn : n = name
    · subst hn
      rw [Function.update_self]
      constructor
      · intro hsome
        obtain ⟨ch, hch⟩ := Option.isSome_iff_exists.mp hsome
        refine Or.inl ?_
        rw [Draft.ghost, hch, ← (hpending ch hch).1]
        rfl
      · rintro (hheld | ⟨j, v, hj, hv, hheld⟩)
        · obtain ⟨ch, hch, -⟩ := Option.map_eq_some_iff.mp hheld
          rw [hch]
          rfl
        · exact absurd hheld (hothers j v hj hv)
    · rw [Function.update_of_ne hn, h.held n, held_iff htask]
      have hold : g.applying ≠ some n := fun hheld => hn (hg n hheld)
      have hnew : d'.ghost.applying ≠ some n := by
        intro hheld
        obtain ⟨ch, hch, hname⟩ := Option.map_eq_some_iff.mp hheld
        exact hn (hname.symm.trans (hpending ch hch).1)
      simp only [hold, hnew, false_or]
  stored := fun n ch hch => by
    by_cases hn : n = name
    · subst hn
      rw [Function.update_self] at hch
      exact hpending ch hch
    · rw [Function.update_of_ne hn] at hch
      rw [hstored n hn]
      exact h.stored n ch hch

/-- A request has performed an action that changes no row and announces nothing. -/
lemma Drafted.quiet (h : Drafted J pending p) {i : ℕ} {d d' : Draft} {prog prog' : Program ApiAnswer}
    {s : ControlState} (htask : p.tasks[i]? = some ⟨d.ghost, prog⟩)
    (hinv : Pool.Inv (requests J) ⟨s, p.tasks.set i ⟨d'.ghost, prog'⟩⟩)
    (hout : Announces J prog' d') (hcoherent : d'.Coherent) (hpending : d'.pending = d.pending)
    (hheld : ∀ ch ∈ d.pending, pending ch.name = some ch)
    (hstored : s.stored J = p.state.stored J) :
    Drafted J pending ⟨s, p.tasks.set i ⟨d'.ghost, prog'⟩⟩ where
  inv := hinv
  outline := fun j t ht => by
    rcases Pool.getElem?_set_cases ht with ⟨rfl, rfl⟩ | ⟨hj, ht⟩
    · refine ⟨d', rfl, hout, hcoherent, ?_⟩
      rw [hpending]
      exact hheld
    · exact h.outline j t ht
  held := fun n => by
    have happlying : d'.ghost.applying = d.ghost.applying := congrArg (Option.map Change.name) hpending
    rw [h.held n, held_iff htask, held_set htask]
    show _ ↔ d'.ghost.applying = some n ∨ _
    rw [happlying]
  stored := by
    show ∀ n ch, pending n = some ch → ch.name = n ∧ s.stored J n = ch.new
    rw [hstored]
    exact h.stored

/-- A request performs its next action. -/
lemma drafted_perform (h : Drafted J pending p) {i : ℕ} {c : Bool} {g : Ghost} {op : Op β}
    {next : β → Program ApiAnswer} (htask : p.tasks[i]? = some ⟨g, .call op next⟩)
    (halone : Pool.TakesAlone (requests J) p i c ⟨g, .call op next⟩)
    (hp' : p' = ⟨(semantics.perform op c p.state).2, p.tasks.set i
      ⟨g.track J op (semantics.perform op c p.state).1, next (semantics.perform op c p.state).1⟩⟩)
    (hinv : Pool.Inv (requests J) p') :
    ∃ pending', ServerMove J p p' pending (notification op) pending' ∧ Drafted J pending' p' := by
  obtain ⟨d, hg, ⟨hallows, hnext⟩, hseen, hpending⟩ := h.outline i _ htask
  obtain rfl : g = d.ghost := hg
  have hout := hnext _ (possible_perform op c p.state)
  have hcoherent := coherent_track hseen hallows (semantics.perform op c p.state).1 (J := J)
  have heffect := effect_perform hallows halone.2
  rw [← ghost_track] at hp'
  have htakes := ghost_track (J := J) d op (semantics.perform op c p.state).1
  subst hp'
  generalize d.track J op (semantics.perform op c p.state).1 = d' at *
  generalize notification op = sent at heffect ⊢
  cases heffect with
  | quiet hstored hsame =>
      exact ⟨pending, .quiet hstored, h.quiet htask hinv hout hcoherent hsame hpending hstored⟩
  | write ch hnone hsome hreal hold hstored =>
      have hfree : pending ch.name = none := by
        refine h.free_of_takesAlone htask halone (congrArg (Option.map Change.name) hnone) ?_
        rw [← htakes, Draft.ghost, hsome]
        rfl
      refine ⟨_, .write ch hfree hreal hold hstored, ?_⟩
      rw [← hsome]
      refine h.update htask hinv hout hcoherent ?_ ?_ ?_ ?_
      · intro n hn
        rw [Draft.ghost, hnone] at hn
        cases hn
      · intro ch' hch'
        obtain rfl : ch = ch' := Option.some.inj (hsome.symm.trans hch')
        exact ⟨rfl, (congrFun hstored ch.name).trans (Function.update_self ..)⟩
      · intro j v _ hv hheld
        have hsome := (h.held ch.name).mpr ⟨v, List.mem_of_getElem? hv, hheld⟩
        rw [hfree] at hsome
        cases hsome
      · intro n hn
        exact (congrFun hstored n).trans (Function.update_of_ne hn ..)
  | notify ch c' msg hsome hnone hannounces hstored =>
      refine ⟨_, .notify ch c' msg (hpending ch hsome) hannounces hstored, ?_⟩
      rw [← hnone]
      have happlying : d.ghost.applying = some ch.name := by
        rw [Draft.ghost, hsome]
        rfl
      refine h.update htask hinv hout hcoherent ?_ ?_ ?_ ?_
      · intro n hn
        exact Option.some.inj (hn.symm.trans happlying)
      · intro ch' hch'
        cases hnone.symm.trans hch'
      · intro j v hj hv hheld
        exact hj (h.inv.distinct j i v _ ch.name hv htask hheld happlying)
      · intro n _
        exact congrFun hstored n

/-- As long as requests change rules in turn, every step of the server makes one of the moves. -/
theorem drafted_step (h : Drafted J pending p) (hturn : InTurn J p e)
    (hstep : serverStep T J p e = some p') :
    ∃ pending', ServerMove J p p' pending (nextNotification p e) pending' ∧ Drafted J pending' p' := by
  have hinv := Pool.inv_step safe_handle h.inv hturn hstep
  obtain ⟨req, rfl, rfl⟩ | ⟨i, c, g, β, op, next, rfl, htask, -, rfl⟩ := Pool.step_cases hstep
  · exact ⟨pending, .quiet rfl, h.arrive req hinv⟩
  · have hsent : nextNotification p (.step i c) = notification op := by
      rw [nextNotification, nextOf, htask]
    rw [hsent]
    exact drafted_perform h htask (hturn _ htask) rfl hinv

/-- The request that is applying a change has read the version before it. -/
lemma Drafted.seen_of_pending (h : Drafted J pending p) {n : String} {ch : Change}
    (hch : pending n = some ch) : ∃ t ∈ p.tasks, t.ghost.applying = some n ∧ t.ghost.seen = ch.old := by
  obtain ⟨t, ht, hheld⟩ := (h.held n).mp (Option.isSome_iff_exists.mpr ⟨ch, hch⟩)
  obtain ⟨i, hi⟩ := List.mem_iff_getElem?.mp ht
  obtain ⟨d, hd, -, hcoherent, hpending⟩ := h.outline i t hi
  refine ⟨t, ht, hheld, ?_⟩
  rw [hd] at hheld ⊢
  obtain ⟨ch', hch', hname⟩ := Option.map_eq_some_iff.mp hheld
  have hsame := hpending ch' hch'
  rw [hname, hch] at hsame
  rw [Option.some.inj hsame]
  exact (hcoherent ch' hch').symm

/-! ## What a statement stores -/

/-- The rule whose row an action changes, and its new version. -/
def Op.stores (J : DomainsJson) : {β : Type} → Op β → Option (String × Option ProxyRule)
  | _, .insertRow row => some (row.name, some (row.toRule J))
  | _, .updateRow name row => some (name, some { row.toRule J with name })
  | _, .deleteRow name => some (name, none)
  | _, _ => none

/-- A statement that fails changes no row. -/
lemma stored_of_fails (op : Op β) (s : ControlState) :
    (semantics.perform op false s).2.stored J = s.stored J := by
  cases op <;> rfl

/-- An action that changes a rule stores what its statement says. -/
lemma stores_of_perform {op : Op β} {c : Bool} {s : ControlState} {n : String}
    (hne : (semantics.perform op c s).2.stored J n ≠ s.stored J n) :
    op.stores J = some (n, (semantics.perform op c s).2.stored J n) := by
  have hchanges : op.Changes n := by
    by_contra hn
    exact hne (stored_of_frame (frame_perform op hn c s))
  cases op with
  | insertRow row =>
      obtain rfl : row.name = n := hchanges
      rcases insertRow_cases row c s with h | ⟨rules, hins, h⟩
      · rw [h] at hne
        exact absurd rfl hne
      · rw [h, ControlState.stored, KeyedTable.lookup_insert hins, if_pos rfl]
        rfl
  | updateRow name row =>
      obtain rfl : name = n := hchanges
      rcases updateRow_cases name row c s with h | ⟨-, -, hlookup, -, -⟩
      · rw [h] at hne
        exact absurd rfl hne
      · rw [ControlState.stored, hlookup] at hne ⊢
        cases hold : s.rules.lookup name with
        | none =>
            rw [ControlState.stored, hold] at hne
            exact absurd rfl hne
        | some old =>
            rw [← KeyedTable.key_of_lookup hold]
            rfl
  | deleteRow name =>
      obtain rfl : name = n := hchanges
      rcases deleteRow_cases name c s with h | h
      · rw [h] at hne
        exact absurd rfl hne
      · rw [h]
        have hgone := stored_erase (J := J) (s := s) name name
        rw [Function.update_self] at hgone
        exact congrArg (fun rule => some (name, rule)) hgone.symm
  | bindAndSpawn => cases c <;> exact absurd rfl hne
  | _ => exact absurd rfl hne

/-- The rules change only by a statement that succeeds, to what it says. -/
lemma stores_of_step (hstep : serverStep T J p e = some p') {n : String}
    (hne : p'.state.stored J n ≠ p.state.stored J n) :
    nextOf (Op.stores J) p e = some (n, p'.state.stored J n) ∧ reports e true = true := by
  obtain ⟨req, rfl, rfl⟩ | ⟨i, c, g, β, op, next, rfl, htask, -, rfl⟩ := Pool.step_cases hstep
  · exact absurd rfl hne
  · refine ⟨?_, ?_⟩
    · rw [nextOf, htask]
      exact stores_of_perform hne
    · cases c with
      | true => rfl
      | false => exact absurd (congrFun (stored_of_fails op p.state) n) hne

/-! ## The last action of a deletion -/

/-- The program notifies nobody. -/
def Silent {α : Type} : Program α → Prop
  | .ret _ => True
  | .call op next => notification op = none ∧ ∀ r, Silent (next r)

/-- When the program has notified a client it returns `a`. -/
def EndsWith {α : Type} (a : α) : Program α → Prop
  | .ret _ => True
  | .call op next => (notification op ≠ none → ∀ r, next r = .ret a) ∧ ∀ r, EndsWith a (next r)

/-- A quiet program is silent. -/
lemma silent_of_quiet {p : Program α} (h : Quiet p) : Silent p := by
  induction p with
  | ret a => trivial
  | call op next ih =>
      refine ⟨?_, fun r => ih r (h.2 r)⟩
      cases op <;> first | exact h.1.elim | rfl

/-- A stretch without a notification leaves the last action to what follows. -/
lemma endsWith_bind {a : β} {p : Program α} {f : α → Program β} (hp : Silent p)
    (hf : ∀ x, EndsWith a (f x)) : EndsWith a (p >>= f) := by
  induction p with
  | ret x => exact hf x
  | call op next ih => exact ⟨fun hnotify => absurd hp.1 hnotify, fun r => ih r (hp.2 r)⟩

/-- A program keeps its end when the result is mapped. -/
lemma EndsWith.bind_ret {a : α} {p : Program α} (f : α → β) (h : EndsWith a p) :
    EndsWith (f a) (p >>= fun x => .ret (f x)) := by
  induction p with
  | ret x => trivial
  | call op next ih =>
      refine ⟨fun hnotify r => ?_, fun r => ih r (h.2 r)⟩
      show next r >>= _ = _
      rw [h.1 hnotify r]
      rfl

/-- Looking a rule up is silent. -/
lemma silent_getProxy (name : String) : Silent (getProxy J name) := by
  refine ⟨rfl, fun row => ?_⟩
  cases row with
  | none => trivial
  | some row => exact ⟨rfl, fun _ => trivial⟩

/-- A deletion that has notified the client is answered with success. -/
lemma endsWith_deleteProxy (name : String) : EndsWith (success ()) (deleteProxy J name) := by
  unfold deleteProxy
  refine endsWith_bind (silent_getProxy name) fun entry => ?_
  cases entry with
  | none => trivial
  | some entry =>
      dsimp only
      rw [removeProxy_bind]
      refine ⟨fun hnotify => absurd rfl hnotify, fun row => ?_⟩
      cases row with
      | none => trivial
      | some row =>
          refine ⟨fun hnotify => absurd rfl hnotify, fun deleted => ?_⟩
          cases deleted with
          | false => trivial
          | true =>
              refine endsWith_bind (p := lift (.removeRuntime name)) ⟨rfl, fun _ => trivial⟩
                fun _ => ?_
              refine endsWith_bind (silent_of_quiet (quiet_updateStatus _ _)) fun _ => ?_
              refine endsWith_bind (silent_of_quiet (quiet_onProxyDelete _)) fun _ => ?_
              exact ⟨fun _ _ => rfl, fun _ => trivial⟩

/-- A deletion that was answered with success has ended with the notification. -/
lemma endsWith_handle_delete (name : String) :
    EndsWith (.unit (success ())) (handle T J (.delete name)) :=
  (endsWith_deleteProxy name).bind_ret ApiAnswer.unit

end RustProxy.Control
