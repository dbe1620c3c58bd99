import RustProxy.Server.ClientSession

/-!
# Replacement of sessions

Connections of one client replace each other in the session map, and every handler cleans up by
client id when it ends.

* `MapEffect` lists what a step can do to the map: nothing, take the old session out, insert the
  session of the connection that registers, or remove the entry of an ending connection's client.
* `Kept` is the property at stake: the connection that registered last keeps its entry while its
  handler is in its loop.
* `kept_iff_cleansUpOwn` is about whole schedules: the property holds throughout exactly when no
  `unregister` removes the entry of a connection that is still in its loop.
-/

namespace RustProxy.Server

open Transition SessionState RustProxy.Proto

variable {client : ConnId → ClientId} {s s' : SessionState}

/-- The handler has registered and has not left its message loop. -/
def HandlerPc.InLoop : HandlerPc → Prop
  | .listing => True
  | .publishing _ => True
  | .pushing => True
  | .running => True
  | .forwarding _ => True
  | _ => False

/-- What a step does to the session map. -/
inductive MapEffect (client : ConnId → ClientId) (s s' : SessionState) : Label → Prop
  | none {label : Label} (hsessions : s'.sessions = s.sessions)
      (hlast : s'.lastRegistered = s.lastRegistered)
      (hloop : ∀ n, (s'.handler n).InLoop → (s.handler n).InLoop) : MapEffect client s s' label
  | take {label : Label} (k : ConnId)
      (hsessions : s'.sessions = Function.update s.sessions (client k) Option.none)
      (hlast : s'.lastRegistered = Function.update s.lastRegistered (client k) Option.none)
      (hloop : ∀ n, (s'.handler n).InLoop → (s.handler n).InLoop) : MapEffect client s s' label
  | insert {label : Label} (k : ConnId)
      (hsessions : s'.sessions = Function.update s.sessions (client k) (some k))
      (hlast : s'.lastRegistered = Function.update s.lastRegistered (client k) (some k))
      (hloop : ∀ n, (s'.handler n).InLoop → (s.handler n).InLoop ∨ n = k) :
      MapEffect client s s' label
  | remove (k : ConnId)
      (hsessions : s'.sessions = Function.update s.sessions (client k) Option.none)
      (hlast : s'.lastRegistered = s.lastRegistered)
      (hloop : ∀ n, (s'.handler n).InLoop ↔ (s.handler n).InLoop) :
      MapEffect client s s' (.unregister k)

/-- A handler that goes on without entering the loop. -/
lemma inLoop_of_update {k : ConnId} {pc : HandlerPc} (h : pc.InLoop → (s.handler k).InLoop)
    (n : ConnId) (hn : (Function.update s.handler k pc n).InLoop) : (s.handler n).InLoop := by
  by_cases hnk : n = k
  · subst hnk
    rw [Function.update_self] at hn
    exact h hn
  · rwa [Function.update_of_ne hnk] at hn

/-- Only the handler that moves can enter the loop. -/
lemma inLoop_or_eq_of_update {k : ConnId} {pc : HandlerPc} (n : ConnId)
    (hn : (Function.update s.handler k pc n).InLoop) : (s.handler n).InLoop ∨ n = k := by
  by_cases hnk : n = k
  · exact Or.inr hnk
  · rw [Function.update_of_ne hnk] at hn
    exact Or.inl hn

/-- A handler outside the loop before and after its move. -/
lemma inLoop_update_iff {k : ConnId} {pc : HandlerPc} (hpc : ¬ pc.InLoop)
    (hk : ¬ (s.handler k).InLoop) (n : ConnId) :
    (Function.update s.handler k pc n).InLoop ↔ (s.handler n).InLoop := by
  by_cases hnk : n = k
  · subst hnk
    rw [Function.update_self]
    exact iff_of_false hpc hk
  · rw [Function.update_of_ne hnk]

/-- What a step does to the map. -/
theorem mapEffect_of_step {label : Label} (h : Step client s label s') :
    MapEffect client s s' label := by
  cases h with
  | authenticated k hpc => exact .none rfl rfl (inLoop_of_update (fun hn => absurd hn id))
  | registerTake k old hpc => exact .take k rfl rfl (inLoop_of_update (fun hn => absurd hn id))
  | registerNew k => exact .insert k rfl rfl inLoop_or_eq_of_update
  | replacedClosed k => exact .insert k rfl rfl inLoop_or_eq_of_update
  | replacedSent k => exact .insert k rfl rfl inLoop_or_eq_of_update
  | listed k hpc => exact .none rfl rfl (inLoop_of_update (fun _ => by rw [hpc]; trivial))
  | published k clients hpc =>
      exact .none rfl rfl (inLoop_of_update (fun _ => by rw [hpc]; trivial))
  | pushed k hpc => exact .none rfl rfl (inLoop_of_update (fun _ => by rw [hpc]; trivial))
  | recv k msg hpc => exact .none rfl rfl (inLoop_of_update (fun _ => by rw [hpc]; trivial))
  | forwarded k msg hpc => exact .none rfl rfl (inLoop_of_update (fun _ => by rw [hpc]; trivial))
  | leave k => exact .none rfl rfl (inLoop_of_update (fun hn => absurd hn id))
  | unregister k hpc =>
      exact .remove k rfl rfl (inLoop_update_iff (s := s) id (by rw [hpc]; exact id))
  | relisted k => exact .none rfl rfl (inLoop_of_update (fun hn => absurd hn id))
  | republished k => exact .none rfl rfl (inLoop_of_update (fun hn => absurd hn id))
  | sendTo => exact .none rfl rfl (fun _ => id)
  | lookupSome => exact .none rfl rfl (fun _ => id)
  | lookupNone => exact .none rfl rfl (fun _ => id)
  | sentClosed => exact .none rfl rfl (fun _ => id)
  | sentQueued => exact .none rfl rfl (fun _ => id)

/-! ## The property -/

/-- The connection that registered last for a client keeps its entry in the map, and with it the
sender of its channel, while its handler is in its loop. -/
def Kept (s : SessionState) : Prop :=
  ∀ c n, s.lastRegistered c = some n → (s.handler n).InLoop → s.sessions c = some n

/-- An `unregister` does not remove the entry of a connection that is still in its loop. -/
def CleansUpOwn (client : ConnId → ClientId) (s : SessionState) (label : Label) : Prop :=
  ∀ k n, label = .unregister k → s.sessions (client k) = some n → ¬ (s.handler n).InLoop

/-- The entries of the map are those of the last registrations. -/
structure Registry (client : ConnId → ClientId) (s : SessionState) : Prop where
  kept : Kept s
  own : ∀ c n, s.lastRegistered c = some n → client n = c
  newest : ∀ c n, s.sessions c = some n → s.lastRegistered c = some n

/-- At the start nobody is registered. -/
lemma registry_start : Registry client .start where
  kept := fun _ _ hlast => by cases hlast
  own := fun _ _ hlast => by cases hlast
  newest := fun _ _ hsession => by cases hsession

/-- The entries of one client change, and agree afterwards. -/
lemma Registry.of_update (h : Registry client s) (c : ClientId)
    (hsessions : ∀ d, d ≠ c → s'.sessions d = s.sessions d)
    (hlast : ∀ d, d ≠ c → s'.lastRegistered d = s.lastRegistered d)
    (hloop : ∀ d n, d ≠ c → s.lastRegistered d = some n → (s'.handler n).InLoop →
      (s.handler n).InLoop)
    (hkept : ∀ n, s'.lastRegistered c = some n → (s'.handler n).InLoop → s'.sessions c = some n)
    (hown : ∀ n, s'.lastRegistered c = some n → client n = c)
    (hnewest : ∀ n, s'.sessions c = some n → s'.lastRegistered c = some n) :
    Registry client s' := by
  refine ⟨?_, ?_, ?_⟩
  · intro d n hn hin
    by_cases hd : d = c
    · subst hd
      exact hkept n hn hin
    · rw [hlast d hd] at hn
      rw [hsessions d hd]
      exact h.kept d n hn (hloop d n hd hn hin)
  · intro d n hn
    by_cases hd : d = c
    · subst hd
      exact hown n hn
    · rw [hlast d hd] at hn
      exact h.own d n hn
  · intro d n hn
    by_cases hd : d = c
    · subst hd
      exact hnewest n hn
    · rw [hsessions d hd] at hn
      rw [hlast d hd]
      exact h.newest d n hn

/-- A step that cleans up no other connection keeps the registry in order. -/
lemma registry_step (h : Registry client s) {label : Label} (hok : CleansUpOwn client s label)
    (hstep : sessionStep client s label = some s') : Registry client s' := by
  cases mapEffect_of_step (step_of_sessionStep hstep) with
  | none hsessions hlast hloop =>
      refine ⟨?_, ?_, ?_⟩
      · intro c n hn hin
        rw [hsessions]
        exact h.kept c n (by rwa [hlast] at hn) (hloop n hin)
      · rw [hlast]
        exact h.own
      · rw [hsessions, hlast]
        exact h.newest
  | take k hsessions hlast hloop =>
      refine h.of_update (client k) (?_) (?_) (fun d n _ _ => hloop n)
        ?_ ?_ ?_
      · intro d hd
        rw [hsessions, Function.update_of_ne hd]
      · intro d hd
        rw [hlast, Function.update_of_ne hd]
      · simp [hlast]
      · simp [hlast]
      · simp [hsessions]
  | insert k hsessions hlast hloop =>
      refine h.of_update (client k) (?_) (?_) (?_)
        (?_) (?_) (?_)
      · intro d hd
        rw [hsessions, Function.update_of_ne hd]
      · intro d hd
        rw [hlast, Function.update_of_ne hd]
      · intro d n hd hn hin
        rcases hloop n hin with hin | rfl
        · exact hin
        · exact absurd (h.own d n hn).symm hd
      · intro n hn _
        rw [hlast, Function.update_self] at hn
        rw [hsessions, Function.update_self]
        exact hn
      · intro n hn
        rw [hlast, Function.update_self] at hn
        rw [Option.some.inj hn]
      · intro n hn
        rw [hsessions, Function.update_self] at hn
        rw [hlast, Function.update_self]
        exact hn
  | remove k hsessions hlast hloop =>
      refine h.of_update (client k) (fun d hd => ?_) (fun d _ => by rw [hlast])
        (fun d n _ _ => (hloop n).mp) (fun n hn hin => ?_) (fun n hn => ?_) ?_
      · rw [hsessions, Function.update_of_ne hd]
      · rw [hlast] at hn
        have hin' := (hloop n).mp hin
        exact absurd hin' (hok k n rfl (h.kept _ n hn hin'))
      · exact h.own _ n (by rwa [hlast] at hn)
      · simp [hsessions]

/-- Removing the entry of a connection that is still in its loop breaks the property. -/
lemma not_kept_step (h : Registry client s) {label : Label} (hbad : ¬ CleansUpOwn client s label)
    (hstep : sessionStep client s label = some s') : ¬ Kept s' := by
  unfold CleansUpOwn at hbad
  push Not at hbad
  obtain ⟨k, n, rfl, hentry, hin⟩ := hbad
  intro hkept
  cases step_of_sessionStep hstep with
  | unregister _ hpc hlock =>
      have hne : n ≠ k := by
        rintro rfl
        rw [hpc] at hin
        exact hin
      have hin' : ((unregister client s k).handler n).InLoop := by
        have hn : (unregister client s k).handler n = s.handler n := Function.update_of_ne hne _ _
        rwa [hn]
      have hgone := hkept (client k) n (h.newest _ _ hentry) hin'
      have hnone : (unregister client s k).sessions (client k) = none := Function.update_self _ _ _
      rw [hnone] at hgone
      cases hgone

/-- In a schedule of any number of connections, the connection that registered last keeps its entry
while it is in its loop exactly when no step cleans up the entry of another connection that is in its
loop. -/
theorem kept_iff_cleansUpOwn (client : ConnId → ClientId) (labels : List Label) :
    Always (sessionStep client) Kept .start labels ↔
      EachStep (sessionStep client) (CleansUpOwn client) .start labels :=
  always_iff_eachStep (fun _ hs => hs.kept) (fun _ _ _ hs hok hstep => registry_step hs hok hstep)
    (fun _ _ _ hs hbad hstep => not_kept_step hs hbad hstep) registry_start labels

/-- Connection 1 replaces connection 0, whose handler then ends. -/
def reconnect : List Label :=
  [.authenticated 0, .register 0, .listed 0, .published 0, .pushed 0, .authenticated 1, .register 1,
    .replaced 1, .listed 1, .published 1, .pushed 1, .leave 0, .unregister 0]

/-- The cleanup of a replaced connection removes the session that has replaced it. -/
theorem reconnect_loses_session :
    ¬ ∀ (client : ConnId → ClientId) (labels : List Label) (s : SessionState),
      exec (sessionStep client) .start labels = some s → Kept s := by
  intro h
  obtain ⟨s, hs⟩ : ∃ s, exec (sessionStep fun _ => "c") .start reconnect = some s := ⟨_, rfl⟩
  have hkept := h (fun _ => "c") reconnect s hs
  cases hs
  exact absurd (hkept "c" 1 rfl trivial) (by decide)

end RustProxy.Server
