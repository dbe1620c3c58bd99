import RustProxy.Server.ClientSession

/-!
# The list of clients that are online

After `register` and after `unregister` a handler reads the keys of the session map and then hands
them to `set_connected_clients`.  Between the two other handlers may register, unregister and
publish.

* `HandlerPc.Unpublished` is a handler that has changed the map and not published since.
* `OnlineAgrees` is the property at stake: when no handler is unpublished, the list that the panel
  shows has exactly the keys of the map.
* `online_iff_publishesCurrent` is about whole schedules: the property holds throughout exactly when
  the last handler to publish has read the keys as they are.
-/

namespace RustProxy.Server

open Transition SessionState

variable {client : ConnId → ClientId} {s s' : SessionState}

/-- The handler has changed the map, or is about to, in `register`; and has not published since. -/
def HandlerPc.Unpublished : HandlerPc → Prop
  | .replacing _ => True
  | .listing => True
  | .publishing _ => True
  | .relisting => True
  | .republishing _ => True
  | _ => False

/-- When no handler is unpublished, the published list has exactly the keys of the map. -/
def OnlineAgrees (s : SessionState) : Prop :=
  (∀ k, ¬ (s.handler k).Unpublished) → ∀ c, s.connectedClients c = (s.sessions c).isSome

/-- The list that a handler is about to publish. -/
def HandlerPc.list? : HandlerPc → Option (ClientId → Bool)
  | .publishing clients => some clients
  | .republishing clients => some clients
  | _ => none

/-- The handler that publishes in this step. -/
def Label.publisher : Label → Option ConnId
  | .published k => some k
  | .republished k => some k
  | _ => none

/-- A handler that publishes while no other is unpublished publishes the keys as they are. -/
def PublishesCurrent (s : SessionState) (label : Label) : Prop :=
  ∀ k ∈ label.publisher, (∀ j, j ≠ k → ¬ (s.handler j).Unpublished) →
    ∀ clients ∈ (s.handler k).list?, clients = s.clientIds

/-! ## What a step does to the list -/

/-- A step publishes the list of an unpublished handler; or it leaves the published list alone, and
after a change of the map some handler is unpublished. -/
inductive ListEffect (s s' : SessionState) : Label → Prop
  | publish {label : Label} (k : ConnId) (clients : ClientId → Bool) (pc : HandlerPc)
      (hlabel : label.publisher = some k) (hlist : (s.handler k).list? = some clients)
      (hpc : ¬ pc.Unpublished) (hhandler : s'.handler = Function.update s.handler k pc)
      (hsessions : s'.sessions = s.sessions) (hclients : s'.connectedClients = clients) :
      ListEffect s s' label
  | change {label : Label} (k : ConnId) (hlabel : label.publisher = none)
      (hk : (s'.handler k).Unpublished) : ListEffect s s' label
  | keep {label : Label} (hlabel : label.publisher = none)
      (hpcs : ∀ k, (s.handler k).Unpublished → (s'.handler k).Unpublished)
      (hsessions : s'.sessions = s.sessions) (hclients : s'.connectedClients = s.connectedClients) :
      ListEffect s s' label

/-- A handler that goes on without having been unpublished. -/
lemma unpublished_update {k : ConnId} (pc : HandlerPc) (hk : ¬ (s.handler k).Unpublished) (j : ConnId)
    (hj : (s.handler j).Unpublished) : (Function.update s.handler k pc j).Unpublished := by
  have hne : j ≠ k := by
    rintro rfl
    exact hk hj
  rwa [Function.update_of_ne hne]

/-- A handler that has still to publish. -/
lemma unpublished_self {k : ConnId} {handler : ConnId → HandlerPc} {pc : HandlerPc}
    (h : pc.Unpublished) : (Function.update handler k pc k).Unpublished := by
  rwa [Function.update_self]

/-- What a step does to the list. -/
theorem listEffect_of_step {label : Label} (h : Step client s label s') : ListEffect s s' label := by
  cases h with
  | authenticated k hpc =>
      exact .keep rfl (unpublished_update _ (by rw [hpc]; exact id)) rfl rfl
  | registerTake k => exact .change k rfl (unpublished_self trivial)
  | registerNew k => exact .change k rfl (unpublished_self trivial)
  | replacedClosed k => exact .change k rfl (unpublished_self trivial)
  | replacedSent k => exact .change k rfl (unpublished_self trivial)
  | listed k => exact .change k rfl (unpublished_self trivial)
  | unregister k => exact .change k rfl (unpublished_self trivial)
  | relisted k => exact .change k rfl (unpublished_self trivial)
  | published k clients hpc =>
      exact .publish k clients .pushing rfl (by rw [hpc]; rfl) id rfl rfl rfl
  | republished k clients hpc =>
      exact .publish k clients .finished rfl (by rw [hpc]; rfl) id rfl rfl rfl
  | pushed k hpc => exact .keep rfl (unpublished_update _ (by rw [hpc]; exact id)) rfl rfl
  | recv k msg hpc => exact .keep rfl (unpublished_update _ (by rw [hpc]; exact id)) rfl rfl
  | forwarded k msg hpc => exact .keep rfl (unpublished_update _ (by rw [hpc]; exact id)) rfl rfl
  | leave k hpc =>
      refine .keep rfl (unpublished_update _ ?_) rfl rfl
      rcases hpc with hpc | ⟨msg, hpc⟩ <;> rw [hpc] <;> exact id
  | sendTo => exact .keep rfl (fun _ => id) rfl rfl
  | lookupSome => exact .keep rfl (fun _ => id) rfl rfl
  | lookupNone => exact .keep rfl (fun _ => id) rfl rfl
  | sentClosed => exact .keep rfl (fun _ => id) rfl rfl
  | sentQueued => exact .keep rfl (fun _ => id) rfl rfl

/-! ## Schedules -/

/-- The others are published before the step exactly if all are published after it. -/
lemma published_update {k : ConnId} {pc : HandlerPc} (hpc : ¬ pc.Unpublished)
    (hhandler : s'.handler = Function.update s.handler k pc) :
    (∀ j, ¬ (s'.handler j).Unpublished) ↔ ∀ j, j ≠ k → ¬ (s.handler j).Unpublished := by
  rw [hhandler]
  constructor
  · intro h j hj
    have hall := h j
    rwa [Function.update_of_ne hj] at hall
  · intro h j
    by_cases hj : j = k
    · subst hj
      rwa [Function.update_self]
    · rw [Function.update_of_ne hj]
      exact h j hj

/-- Publishing the current list keeps the panel right. -/
lemma onlineAgrees_step {label : Label} (hs : OnlineAgrees s) (hok : PublishesCurrent s label)
    (h : Step client s label s') : OnlineAgrees s' := by
  intro hquiet c
  cases listEffect_of_step h with
  | publish k clients pc hlabel hlist hpc hhandler hsessions hclients =>
      have hothers := (published_update hpc hhandler).mp hquiet
      rw [hclients, hsessions, hok k hlabel hothers clients hlist]
      rfl
  | change k _ hk => exact absurd hk (hquiet k)
  | keep _ hpcs hsessions hclients =>
      rw [hsessions, hclients]
      exact hs (fun k hk => hquiet k (hpcs k hk)) c

/-- A list that is out of date when it is published last stays. -/
lemma not_onlineAgrees_step {label : Label} (hbad : ¬ PublishesCurrent s label)
    (h : Step client s label s') : ¬ OnlineAgrees s' := by
  unfold PublishesCurrent at hbad
  push Not at hbad
  obtain ⟨k, hk, hothers, clients, hlist, hstale⟩ := hbad
  intro hagrees
  cases listEffect_of_step h with
  | publish k' clients' pc hlabel hlist' hpc hhandler hsessions hclients =>
      obtain rfl : k = k' := Option.some.inj (hk.symm.trans hlabel)
      obtain rfl : clients' = clients := Option.some.inj (hlist'.symm.trans hlist)
      apply hstale
      funext c
      rw [← hclients, hagrees ((published_update hpc hhandler).mpr hothers) c, hsessions]
      rfl
  | change _ hlabel _ => cases hlabel.symm.trans hk
  | keep hlabel _ _ _ => cases hlabel.symm.trans hk

/-- Over any number of connections and any schedule: the published list has the keys of the map
whenever no handler is unpublished, exactly when the last handler to publish never publishes a list
that is out of date. -/
theorem online_iff_publishesCurrent (client : ConnId → ClientId) (labels : List Label) :
    Always (sessionStep client) OnlineAgrees .start labels ↔
      EachStep (sessionStep client) PublishesCurrent .start labels := by
  refine always_iff_eachStep (I := OnlineAgrees) (fun _ hs => hs) ?_ ?_ ?_ labels
  · exact fun s label s' hs hok hstep => onlineAgrees_step hs hok (step_of_sessionStep hstep)
  · exact fun s label s' _ hbad hstep => not_onlineAgrees_step hbad (step_of_sessionStep hstep)
  · exact fun _ _ => rfl

/-- Connection 0 reads the keys when it is alone; connection 1 registers and publishes first. -/
def latePublication : List Label :=
  [.authenticated 0, .register 0, .listed 0, .authenticated 1, .register 1, .listed 1, .published 1,
    .published 0]

/-- The clients of the two connections. -/
def twoClients (k : ConnId) : ClientId := if k = 0 then "a" else "b"

/-- Both clients are online, both handlers have published, and the list has only one of them. -/
theorem online_list_is_stale :
    ¬ ∀ (client : ConnId → ClientId) (labels : List Label) (s : SessionState),
      exec (sessionStep client) .start labels = some s → OnlineAgrees s := by
  intro h
  obtain ⟨s, hs⟩ : ∃ s, exec (sessionStep twoClients) .start latePublication = some s := ⟨_, rfl⟩
  have hagrees := h twoClients latePublication s hs
  cases hs
  have hquiet := hagrees ?_ "b"
  · cases hquiet
  · intro k
    rcases k with _ | _ | k <;> exact id

end RustProxy.Server
