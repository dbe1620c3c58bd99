import RustProxy.Server.ClientSession

/-!
# Deadlock of the session manager

`send_to` and `register` keep their guard of the session map while they wait for room in a session's
channel, and the handler that would make room asks for the same lock when it leaves its loop.

* `NoDeadlock` is the property at stake: the handler of a channel on which a task is blocked does not
  wait for the map lock.
* `Sends` is the invariant: whoever is parked on a channel holds the lock, and only channels of
  registered connections have parked tasks.  There is one preservation lemma for each elementary
  update of the state.
* `noDeadlock_iff_avoidsStall` is about whole schedules: the property holds throughout exactly when
  no handler leaves its loop while a task is blocked on its channel, and no task starts a send on a
  full channel whose handler waits for the lock.
-/

namespace RustProxy.Server

open Transition SessionState RustProxy.Proto

variable {client : ConnId → ClientId} {s s' : SessionState}

/-- The task waits for room in the channel of connection `k`. -/
def BlockedOn (s : SessionState) (t : Task) (k : ConnId) : Prop :=
  (s.channel k).Blocked channelCapacity t

/-- Whenever a task is blocked on a session channel, the handler of that channel does not wait for
the map lock. -/
def NoDeadlock (s : SessionState) : Prop := ∀ t k, BlockedOn s t k → ¬ s.lock.Waits (.handler k)

/-- The next send on the channel has to wait. -/
def Full (s : SessionState) (k : ConnId) : Prop :=
  (s.channel k).closed = false ∧ (s.channel k).room channelCapacity ≤ (s.channel k).parked.length

/-- The session a task starts to send on in the step. -/
def StartsSend (client : ConnId → ClientId) (s : SessionState) (k : ConnId) : Label → Prop
  | .register j => s.sessions (client j) = some k
  | .lookup i => ∃ clientId msg, s.sender i = .waiting clientId msg ∧ s.sessions clientId = some k
  | _ => False

/-- No handler leaves its loop while a task is blocked on its channel, and no task starts a send on a
full channel whose handler waits for the map lock. -/
structure AvoidsStall (client : ConnId → ClientId) (s : SessionState) (label : Label) : Prop where
  leave : ∀ k t, label = .leave k → ¬ BlockedOn s t k
  send : ∀ k, StartsSend client s k label → Full s k → ¬ s.lock.Waits (.handler k)

/-! ## The invariant -/

/-- The handler has registered its session. -/
def HandlerPc.Registered : HandlerPc → Prop
  | .new => False
  | .registering => False
  | .replacing _ => False
  | _ => True

/-- The task is at its send on the channel of connection `k`. -/
def SendingOn (s : SessionState) (k : ConnId) : Task → Prop
  | .handler j => s.handler j = .replacing k
  | .sender i => ∃ msg, s.sender i = .sending k msg

/-- What holds of the sends that are pending, besides the absence of a deadlock. -/
structure Sends (s : SessionState) : Prop where
  holds : ∀ k t, t ∈ (s.channel k).parked → s.lock.Holds t
  sending : ∀ k t, t ∈ (s.channel k).parked → SendingOn s k t
  nodup : ∀ k, (s.channel k).parked.Nodup
  registered : ∀ k t, t ∈ (s.channel k).parked → (s.handler k).Registered
  entry : ∀ c k, s.sessions c = some k → (s.handler k).Registered
  free : NoDeadlock s

/-- At the start nobody sends. -/
lemma sends_start : Sends .start where
  holds := fun _ _ hmem => by cases hmem
  sending := fun _ _ hmem => by cases hmem
  nodup := fun _ => List.nodup_nil
  registered := fun _ _ hmem => by cases hmem
  entry := fun _ _ hentry => by cases hentry
  free := fun t k hblocked => by cases hblocked.mem_parked

/-- The task has no pending send. -/
def Unparked (s : SessionState) (t : Task) : Prop := ∀ k, t ∉ (s.channel k).parked

/-- A handler that replaces nobody is not parked. -/
lemma Sends.unparked_handler (h : Sends s) {k : ConnId} (hpc : ∀ old, s.handler k ≠ .replacing old) :
    Unparked s (.handler k) := fun j hmem => hpc j (h.sending j _ hmem)

/-- A sender that is not sending is not parked. -/
lemma Sends.unparked_sender (h : Sends s) {i : ℕ} (hpc : ∀ k msg, s.sender i ≠ .sending k msg) :
    Unparked s (.sender i) := by
  intro j hmem
  obtain ⟨msg, hsending⟩ := h.sending j _ hmem
  exact hpc j msg hsending

/-- Nobody waits for a connection that has not registered. -/
lemma Sends.not_blockedOn_of_not_registered (h : Sends s) {k : ConnId}
    (hpc : ¬ (s.handler k).Registered) (t : Task) : ¬ BlockedOn s t k :=
  fun hblocked => hpc (h.registered k t hblocked.mem_parked)

/-- A handler goes on. -/
lemma Sends.setHandler (h : Sends s) {k : ConnId} (pc : HandlerPc)
    (hparked : Unparked s (.handler k)) (hreg : (s.handler k).Registered → pc.Registered) :
    Sends (s.setHandler k pc) := by
  have hmono : ∀ j, (s.handler j).Registered → ((s.setHandler k pc).handler j).Registered := by
    intro j hj
    by_cases hjk : j = k
    · subst hjk
      simpa [SessionState.setHandler] using hreg hj
    · simpa [SessionState.setHandler, Function.update_of_ne hjk] using hj
  refine { holds := h.holds, sending := ?_, nodup := h.nodup,
           registered := fun j t hmem => hmono j (h.registered j t hmem),
           entry := fun c j hentry => hmono j (h.entry c j hentry), free := h.free }
  intro j t hmem
  have hsending := h.sending j t hmem
  cases t with
  | handler n =>
      have hnk : n ≠ k := by
        rintro rfl
        exact hparked j hmem
      have hn : (s.setHandler k pc).handler n = s.handler n := Function.update_of_ne hnk _ _
      exact hn.trans hsending
  | sender i => exact hsending

/-- A sender goes on. -/
lemma Sends.setSender (h : Sends s) {i : ℕ} (pc : SenderPc) (hparked : Unparked s (.sender i)) :
    Sends (s.setSender i pc) := by
  refine { holds := h.holds, sending := ?_, nodup := h.nodup, registered := h.registered,
           entry := h.entry, free := h.free }
  intro j t hmem
  have hsending := h.sending j t hmem
  cases t with
  | handler n => exact hsending
  | sender n =>
      have hni : n ≠ i := by
        rintro rfl
        exact hparked j hmem
      obtain ⟨msg, hmsg⟩ := hsending
      have hn : (s.setSender i pc).sender n = s.sender n := Function.update_of_ne hni _ _
      exact ⟨msg, hn.trans hmsg⟩

/-- The lock is asked for by a task whose own channel blocks nobody. -/
lemma Sends.requestLock (h : Sends s) {t : Task} {access : Access}
    (hfree : ∀ k, t = .handler k → ∀ u, ¬ BlockedOn s u k) : Sends (s.requestLock t access) where
  holds := fun k u hmem => RwLock.holds_request t access (h.holds k u hmem)
  sending := h.sending
  nodup := h.nodup
  registered := h.registered
  entry := h.entry
  free := by
    intro u k hblocked hwaits
    rcases RwLock.waits_request hwaits with hwaits | heq
    · exact h.free u k hblocked hwaits
    · exact hfree k heq.symm u hblocked

/-- The lock is given back by a task that is not parked. -/
lemma Sends.releaseLock (h : Sends s) {t : Task} (hparked : Unparked s t) :
    Sends (s.releaseLock t) where
  holds := by
    intro k u hmem
    have hne : u ≠ t := by
      rintro rfl
      exact hparked k hmem
    exact RwLock.holds_release hne (h.holds k u hmem)
  sending := h.sending
  nodup := h.nodup
  registered := h.registered
  entry := h.entry
  free := fun u k hblocked hwaits => h.free u k hblocked (RwLock.waits_release hwaits)

/-- A session is entered or removed. -/
lemma Sends.setSession (h : Sends s) {c : ClientId} {v : Option ConnId}
    (hreg : ∀ k, v = some k → (s.handler k).Registered) {last : ClientId → Option ConnId} :
    Sends { s with sessions := Function.update s.sessions c v, lastRegistered := last } where
  holds := h.holds
  sending := h.sending
  nodup := h.nodup
  registered := h.registered
  entry := by
    intro c' k hentry
    by_cases hc : c' = c
    · subst hc
      exact hreg k (by simpa using hentry)
    · exact h.entry c' k (by simpa [Function.update_of_ne hc] using hentry)
  free := h.free

/-- A task that holds the lock starts to send. -/
lemma Sends.park (h : Sends s) {t : Task} {k : ConnId} (hlock : s.lock.Holds t)
    (hsending : SendingOn s k t) (hnew : t ∉ (s.channel k).parked)
    (hreg : (s.handler k).Registered) (hroom : Full s k → ¬ s.lock.Waits (.handler k)) :
    Sends (s.onChannel k (·.park t)) := by
  have hparked : ∀ j u, u ∈ ((s.onChannel k (·.park t)).channel j).parked →
      u ∈ (s.channel j).parked ∨ u = t ∧ j = k := by
    intro j u hmem
    by_cases hj : j = k
    · subst hj
      simpa [Channel.park] using hmem
    · exact Or.inl (by simpa [hj] using hmem)
  refine { holds := ?_, sending := ?_, nodup := ?_,
           registered := ?_, entry := h.entry, free := ?_ }
  · intro j u hmem
    rcases hparked j u hmem with hmem | ⟨rfl, rfl⟩
    · exact h.holds j u hmem
    · exact hlock
  · intro j u hmem
    rcases hparked j u hmem with hmem | ⟨rfl, rfl⟩
    · exact h.sending j u hmem
    · exact hsending
  · intro j
    by_cases hj : j = k
    · subst hj
      have hnodup := h.nodup j
      simp [Channel.park, List.nodup_append, hnodup]
      rintro a ha rfl
      exact hnew ha
    · simpa [hj] using h.nodup j
  · intro j u hmem
    rcases hparked j u hmem with hmem | ⟨rfl, rfl⟩
    · exact h.registered j u hmem
    · exact hreg
  · intro u j hblocked
    by_cases hj : j = k
    · subst hj
      have hblocked' : ((s.channel j).park t).Blocked channelCapacity u := by
        simpa [BlockedOn] using hblocked
      rcases Channel.blocked_park hblocked' with hold | ⟨-, hfull⟩
      · exact h.free u j hold
      · exact hroom hfull
    · refine h.free u j ?_
      simpa [BlockedOn, hj] using hblocked

/-- The channel of a connection changes without new pending sends. -/
lemma Sends.shrink (h : Sends s) {k : ConnId} {f : Channel Task Message → Channel Task Message}
    (hsub : (f (s.channel k)).parked.Sublist (s.channel k).parked)
    (hblocked : ∀ u, (f (s.channel k)).Blocked channelCapacity u → BlockedOn s u k) :
    Sends (s.onChannel k f) := by
  have hsubs : ∀ j, ((s.onChannel k f).channel j).parked.Sublist (s.channel j).parked := by
    intro j
    by_cases hj : j = k
    · subst hj
      simpa using hsub
    · simp [hj]
  refine { holds := fun j u hmem => h.holds j u ((hsubs j).subset hmem),
           sending := fun j u hmem => h.sending j u ((hsubs j).subset hmem),
           nodup := fun j => (h.nodup j).sublist (hsubs j),
           registered := fun j u hmem => h.registered j u ((hsubs j).subset hmem),
           entry := h.entry, free := ?_ }
  intro u j hb
  by_cases hj : j = k
  · subst hj
    exact h.free u j (hblocked u (by simpa [BlockedOn] using hb))
  · refine h.free u j ?_
    simpa [BlockedOn, hj] using hb

/-- A task whose send is over has no pending send. -/
lemma Sends.unparked_of_erase (h : Sends s) {k : ConnId} {t : Task} (hsending : SendingOn s k t)
    {f : Channel Task Message → Channel Task Message}
    (herase : (f (s.channel k)).parked = (s.channel k).parked.erase t) :
    Unparked (s.onChannel k f) t := by
  intro j hmem
  by_cases hj : j = k
  · subst hj
    rw [onChannel_channel_self, herase] at hmem
    exact (h.nodup j).not_mem_erase hmem
  · have hother := h.sending j t (by simpa [hj] using hmem)
    cases t with
    | handler n =>
        have heq : HandlerPc.replacing j = HandlerPc.replacing k := hother.symm.trans hsending
        exact hj (by simpa using heq)
    | sender i =>
        obtain ⟨msg, hmsg⟩ := hsending
        obtain ⟨msg', hmsg'⟩ := hother
        have heq : SenderPc.sending j msg' = SenderPc.sending k msg := hmsg'.symm.trans hmsg
        exact hj (by simpa using (SenderPc.sending.inj heq).1)

/-- A send to a closed channel fails. -/
lemma Sends.abandon (h : Sends s) {k : ConnId} {t : Task} (hclosed : (s.channel k).closed = true) :
    Sends (s.onChannel k (·.abandon t)) :=
  h.shrink List.erase_sublist fun _ hb => absurd hb (Channel.not_blocked_of_closed hclosed)

/-- A send with a permit succeeds. -/
lemma Sends.complete (h : Sends s) {k : ConnId} {t : Task} {msg : Message}
    (hpermit : (s.channel k).Permitted channelCapacity t) :
    Sends (s.onChannel k (·.complete t msg)) :=
  h.shrink List.erase_sublist fun _ hb => Channel.blocked_complete hpermit hb

/-! ## Steps -/

/-- The end of a registration, once the old session is out of the way. -/
lemma Sends.finishRegister (h : Sends s) {k : ConnId} (hparked : Unparked s (.handler k))
    (hnew : ∀ t, t ∉ (s.channel k).parked) : Sends (finishRegister client s k) := by
  have hlisting : Sends (s.setHandler k .listing) := h.setHandler .listing hparked fun _ => trivial
  have hinsert : Sends ((s.insertSession (client k) k).setHandler k .listing) := by
    apply hlisting.setSession (c := client k) (v := some k)
    intro j hj
    cases hj
    simp [SessionState.setHandler, HandlerPc.Registered]
  have hrelease := hinsert.releaseLock hparked
  exact hrelease.requestLock fun j hj t hblocked => by
    cases hj
    exact hnew t hblocked.mem_parked

/-- Nobody waits for a connection whose handler is still at its registration. -/
lemma Sends.not_mem_onChannel (h : Sends s) {k old : ConnId}
    (hpc : ¬ (s.handler k).Registered) {f : Channel Task Message → Channel Task Message}
    (hsub : (f (s.channel old)).parked.Sublist (s.channel old).parked) (u : Task) :
    u ∉ ((s.onChannel old f).channel k).parked := by
  intro hmem
  refine hpc (h.registered k u ?_)
  by_cases hk : k = old
  · subst hk
    exact hsub.subset (by simpa using hmem)
  · simpa [hk] using hmem

/-- Beside a handler that holds the write lock and does not send, nobody sends. -/
lemma Sends.not_mem_of_writer (h : Sends s) {k : ConnId}
    (hlock : s.lock.writer = some (.handler k)) (hpc : ∀ old, s.handler k ≠ .replacing old)
    (j : ConnId) (t : Task) : t ∉ (s.channel j).parked := by
  intro hmem
  obtain rfl := RwLock.eq_of_holds_of_writer hlock (h.holds j t hmem)
  exact hpc j (h.sending j _ hmem)

/-- A step that avoids a stall keeps the invariant. -/
theorem sends_step (h : Sends s) {label : Label} (hok : AvoidsStall client s label)
    (hstep : sessionStep client s label = some s') : Sends s' := by
  cases step_of_sessionStep hstep with
  | authenticated k hpc =>
      have hset : Sends (s.setHandler k .registering) :=
        h.setHandler _ (h.unparked_handler (by simp [hpc])) (by simp [hpc, HandlerPc.Registered])
      apply hset.requestLock
      intro j hj t
      cases hj
      exact h.not_blockedOn_of_not_registered (by simp [hpc, HandlerPc.Registered]) t
  | registerTake k old hpc hlock hold =>
      have hne : old ≠ k := by
        rintro rfl
        have hreg := h.entry _ _ hold
        simp [hpc, HandlerPc.Registered] at hreg
      have hparked : Unparked s (.handler k) := h.unparked_handler (by simp [hpc])
      have htake : Sends (s.takeSession (client k)) :=
        h.setSession fun j hj => by cases hj
      have hset : Sends ((s.takeSession (client k)).setHandler k (.replacing old)) :=
        htake.setHandler _ hparked fun hreg => by
          simp [takeSession, hpc, HandlerPc.Registered] at hreg
      refine hset.park (Or.inr hlock) ?_ (hparked old) ?_ (hok.send old hold)
      · simp [SendingOn, SessionState.setHandler]
      · simpa [SessionState.setHandler, takeSession, Function.update_of_ne hne] using h.entry _ _ hold
  | registerNew k hpc hlock hnone =>
      refine h.finishRegister (h.unparked_handler (by simp [hpc])) fun t hmem => ?_
      have hreg := h.registered k t hmem
      simp [hpc, HandlerPc.Registered] at hreg
  | replacedClosed k old hpc hclosed =>
      exact (h.abandon hclosed).finishRegister (h.unparked_of_erase (t := .handler k) hpc rfl)
        (h.not_mem_onChannel (by simp [hpc, HandlerPc.Registered]) List.erase_sublist)
  | replacedSent k old hpc hpermit =>
      exact (h.complete hpermit).finishRegister (h.unparked_of_erase (t := .handler k) hpc rfl)
        (h.not_mem_onChannel (by simp [hpc, HandlerPc.Registered]) List.erase_sublist)
  | listed k hpc hlock =>
      have hparked : Unparked s (.handler k) := h.unparked_handler (by simp [hpc])
      exact (h.setHandler (.publishing s.clientIds) hparked fun _ => trivial).releaseLock hparked
  | relisted k hpc hlock =>
      have hparked : Unparked s (.handler k) := h.unparked_handler (by simp [hpc])
      exact (h.setHandler (.republishing s.clientIds) hparked fun _ => trivial).releaseLock hparked
  | published k clients hpc =>
      have hset : Sends (s.setHandler k .pushing) :=
        h.setHandler _ (h.unparked_handler (by simp [hpc])) fun _ => trivial
      exact { hset with }
  | pushed k hpc | forwarded k msg hpc =>
      exact h.setHandler _ (h.unparked_handler (by simp [hpc])) fun _ => trivial
  | recv k msg hpc hhead =>
      have hset : Sends (s.setHandler k (.forwarding msg)) :=
        h.setHandler _ (h.unparked_handler (by simp [hpc])) fun _ => trivial
      exact hset.shrink (List.Sublist.refl _) fun u hb => Channel.blocked_recv hb
  | leave k hpc =>
      have hparked : Unparked s (.handler k) := by
        apply h.unparked_handler
        intro old
        rcases hpc with hpc | ⟨msg, hpc⟩ <;> simp [hpc]
      have hset : Sends (s.setHandler k .unregistering) :=
        h.setHandler _ hparked fun _ => trivial
      apply hset.requestLock
      intro j hj t
      cases hj
      exact hok.leave k t rfl
  | unregister k hpc hlock =>
      have hnone := h.not_mem_of_writer hlock (by simp [hpc])
      have hparked : Unparked s (.handler k) := fun j => hnone j _
      have hremove : Sends (s.removeSession (client k)) := h.setSession fun j hj => by cases hj
      have hset : Sends ((s.removeSession (client k)).setHandler k .relisting) :=
        hremove.setHandler _ hparked fun _ => trivial
      apply (hset.releaseLock hparked).requestLock
      intro j _ t hblocked
      exact hnone j t hblocked.mem_parked
  | republished k clients hpc =>
      have hset : Sends (s.setHandler k .finished) :=
        h.setHandler _ (h.unparked_handler (by simp [hpc])) fun _ => trivial
      have hclose : Sends ((s.setHandler k .finished).onChannel k (·.close)) :=
        hset.shrink (List.Sublist.refl _) fun u hb => absurd hb Channel.not_blocked_close
      exact { hclose with }
  | sendTo i clientId msg hpc =>
      have hset : Sends (s.setSender i (.waiting clientId msg)) :=
        h.setSender _ (h.unparked_sender (by simp [hpc]))
      exact hset.requestLock fun j hj => by cases hj
  | lookupSome i clientId msg k hpc hlock hsession =>
      have hparked : Unparked s (.sender i) := h.unparked_sender (by simp [hpc])
      have hset : Sends (s.setSender i (.sending k msg)) := h.setSender _ hparked
      refine hset.park (Or.inl hlock) ⟨msg, Function.update_self _ _ _⟩ (hparked k)
        (h.entry _ _ hsession) (hok.send k ⟨clientId, msg, hpc, hsession⟩)
  | lookupNone i clientId msg hpc hlock hsession =>
      have hparked : Unparked s (.sender i) := h.unparked_sender (by simp [hpc])
      exact (h.setSender _ hparked).releaseLock hparked
  | sentClosed i k msg hpc hclosed =>
      have hparked := h.unparked_of_erase (t := .sender i) ⟨msg, hpc⟩
        (f := (·.abandon (.sender i))) rfl
      exact ((h.abandon hclosed).setSender _ hparked).releaseLock hparked
  | sentQueued i k msg hpc hpermit =>
      have hparked := h.unparked_of_erase (t := .sender i) ⟨msg, hpc⟩
        (f := (·.complete (.sender i) msg)) rfl
      exact ((h.complete hpermit).setSender _ hparked).releaseLock hparked

/-- A task that starts a send on a full channel is blocked. -/
lemma blockedOn_park {t : Task} {k : ConnId} (hfull : Full s k) :
    BlockedOn (s.onChannel k (·.park t)) t k := by
  have hblocked := Channel.blocked_park_self (t := t) hfull.1 hfull.2
  simpa [BlockedOn] using hblocked

/-- A step that does not avoid a stall ends in a deadlock. -/
theorem not_noDeadlock_step (h : Sends s) {label : Label} (hbad : ¬ AvoidsStall client s label)
    (hstep : sessionStep client s label = some s') : ¬ NoDeadlock s' := by
  have hcases : (∃ k t, label = .leave k ∧ BlockedOn s t k) ∨
      ∃ k, StartsSend client s k label ∧ Full s k ∧ s.lock.Waits (.handler k) := by
    by_contra hnone
    push Not at hnone
    exact hbad ⟨fun k t hlabel => hnone.1 k t hlabel, hnone.2⟩
  rcases hcases with ⟨k, t, rfl, hblocked⟩ | ⟨k, hstart, hfull, hwaits⟩
  · intro hfree
    cases step_of_sessionStep hstep with
    | leave _ hpc =>
        have hholds := h.holds k t hblocked.mem_parked
        exact hfree t k hblocked (RwLock.waits_of_request_write hholds)
  · intro hfree
    cases step_of_sessionStep hstep with
    | registerTake j old hpc hlock hold =>
        obtain rfl : old = k := Option.some.inj (hold.symm.trans hstart)
        exact hfree (.handler j) old (blockedOn_park hfull) hwaits
    | registerNew j hpc hlock hnone =>
        rw [StartsSend, hnone] at hstart
        cases hstart
    | lookupSome i clientId msg old hpc hlock hsession =>
        obtain ⟨clientId', msg', hpc', hsession'⟩ := hstart
        cases hpc.symm.trans hpc'
        obtain rfl : old = k := Option.some.inj (hsession.symm.trans hsession')
        exact hfree (.sender i) old (blockedOn_park hfull) hwaits
    | lookupNone i clientId msg hpc hlock hsession =>
        obtain ⟨clientId', msg', hpc', hsession'⟩ := hstart
        cases hpc.symm.trans hpc'
        rw [hsession] at hsession'
        cases hsession'
    | _ => exact hstart

/-- A schedule of any number of handlers, registrations and senders never deadlocks the session
manager exactly when no handler leaves its loop while a task is blocked on its channel, and no task
starts a send on a full channel whose handler waits for the map lock. -/
theorem noDeadlock_iff_avoidsStall (client : ConnId → ClientId) (labels : List Label) :
    Always (sessionStep client) NoDeadlock .start labels ↔
      EachStep (sessionStep client) (AvoidsStall client) .start labels :=
  always_iff_eachStep (fun _ hs => hs.free) (fun _ _ _ hs hok hstep => sends_step hs hok hstep)
    (fun _ _ _ hs hbad hstep => not_noDeadlock_step hs hbad hstep) sends_start labels

/-! ## A half-open client -/

/-- The message that is sent over and over. -/
def ping : Message := .control .ping

/-- One `send_to`, from its call to its return. -/
def delivery (i : ℕ) : List Label := [.sendTo i "c" ping, .lookup i, .sent i]

/-- Connection 0 registers, enters its loop and is stuck sending a message to its peer. -/
def stalled : List Label :=
  [.authenticated 0, .register 0, .listed 0, .published 0, .pushed 0] ++ delivery 0 ++ [.recv 0]

/-- Connection 0 is stuck with `m` messages in its channel. -/
structure Backlog (s : SessionState) (m : ℕ) : Prop where
  session : s.sessions "c" = some 0
  lock : s.lock = .free
  handler : s.handler 0 = .forwarding ping
  length : (s.channel 0).queue.length = m
  parked : (s.channel 0).parked = []
  opened : (s.channel 0).closed = false
  idle : ∀ i, m < i → s.sender i = .idle

/-- The stalled session has a backlog. -/
lemma backlog_stalled :
    ∃ s, exec (sessionStep fun _ => "c") .start stalled = some s ∧ Backlog s 0 := by
  refine ⟨_, rfl, ?_⟩
  refine { session := rfl, lock := rfl, handler := rfl, length := rfl, parked := rfl,
           opened := rfl, idle := ?_ }
  intro i hi
  have hne : i ≠ 0 := Nat.ne_of_gt hi
  have hidle : ∀ waiting sending done : SenderPc, Function.update (Function.update
      (Function.update (fun _ => SenderPc.idle) 0 waiting) 0 sending) 0 done i = .idle := by
    intro waiting sending done
    simp [Function.update_of_ne hne]
  exact hidle _ _ _

/-- The state after sender `i` has found the session of connection 0 and started its send. -/
def lookedUp (s : SessionState) (i : ℕ) : SessionState :=
  (((s.setSender i (.waiting "c" ping)).requestLock (.sender i) .read).setSender i
    (.sending 0 ping)).onChannel 0 (·.park (.sender i))

/-- One more sender is parked in the full channel. -/
lemma lookedUp_channel (s : SessionState) (i : ℕ) :
    (lookedUp s i).channel 0 = (s.channel 0).park (.sender i) := onChannel_channel_self _ _ _

/-- It stays in its send. -/
lemma lookedUp_sender (s : SessionState) (i : ℕ) : (lookedUp s i).sender i = .sending 0 ping :=
  Function.update_self _ _ _

/-- And it keeps its guard. -/
lemma Backlog.lookedUp_lock {m i : ℕ} (h : Backlog s m) :
    (lookedUp s i).lock = RwLock.free.request (.sender i) .read := by
  show s.lock.request _ _ = _
  rw [h.lock]

/-- A new sender gets as far as its send. -/
lemma Backlog.exec_lookup {m : ℕ} (h : Backlog s m) :
    exec (sessionStep fun _ => "c") s [.sendTo (m + 1) "c" ping, .lookup (m + 1)]
      = some (lookedUp s (m + 1)) := by
  let s₁ := (s.setSender (m + 1) (.waiting "c" ping)).requestLock (.sender (m + 1)) .read
  have hpc : s₁.sender (m + 1) = .waiting "c" ping := Function.update_self _ _ _
  have hsession : s₁.sessions "c" = some 0 := h.session
  have hmem : Task.sender (m + 1) ∈ s₁.lock.readers := by
    show _ ∈ (s.lock.request _ _).readers
    rw [h.lock]
    exact RwLock.mem_readers_free_request _
  have hstep₁ : sessionStep (fun _ => "c") s (.sendTo (m + 1) "c" ping) = some s₁ := by
    simp only [sessionStep, h.idle (m + 1) (Nat.lt_succ_self m)]
    rfl
  have hstep₂ : sessionStep (fun _ => "c") s₁ (.lookup (m + 1)) = some (lookedUp s (m + 1)) := by
    simp only [sessionStep, hpc, if_pos hmem, sendTo, hsession]
    rfl
  simp [hstep₁, hstep₂]

/-- A sender whose message has room in an open channel ends its send. -/
lemma sent_of_permitted {i : ℕ} {k : ConnId} {msg : Message} (hpc : s.sender i = .sending k msg)
    (hopen : (s.channel k).closed = false)
    (hpermit : (s.channel k).Permitted channelCapacity (.sender i)) :
    sessionStep client s (.sent i)
      = some (finishSend (s.onChannel k (·.complete (.sender i) msg)) i true) := by
  simp only [sessionStep, hpc, sent]
  rw [if_neg (by simp [hopen]), if_pos hpermit]

/-- As long as there is room, another message can be put into the channel. -/
lemma Backlog.succ {m : ℕ} (h : Backlog s m) (hroom : m < channelCapacity) :
    ∃ s', exec (sessionStep fun _ => "c") s (delivery (m + 1)) = some s' ∧ Backlog s' (m + 1) := by
  let s₂ := lookedUp s (m + 1)
  let s₃ := finishSend (s₂.onChannel 0 (·.complete (.sender (m + 1)) ping)) (m + 1) true
  have hparked : (s₂.channel 0).parked = [.sender (m + 1)] := by
    rw [lookedUp_channel]
    simp [Channel.park, h.parked]
  have hopen : (s₂.channel 0).closed = false := by
    rw [lookedUp_channel]
    exact h.opened
  have hroom₂ : (s₂.channel 0).room channelCapacity = channelCapacity - m := by
    rw [lookedUp_channel, Channel.room, Channel.park, h.length]
  have hpermit : (s₂.channel 0).Permitted channelCapacity (.sender (m + 1)) := by
    rw [Channel.Permitted, hparked, hroom₂, List.take_of_length_le]
    · simp
    · simp only [List.length_singleton]
      omega
  have hstep : sessionStep (fun _ => "c") s₂ (.sent (m + 1)) = some s₃ :=
    sent_of_permitted (lookedUp_sender s (m + 1)) hopen hpermit
  refine ⟨s₃, ?_, ?_⟩
  · rw [show delivery (m + 1) = [.sendTo (m + 1) "c" ping, .lookup (m + 1)] ++ [.sent (m + 1)] from
      rfl, exec_append, h.exec_lookup]
    simp [s₂, hstep]
  · have hchannel : s₃.channel 0 = (s₂.channel 0).complete (.sender (m + 1)) ping := by
      simp [s₃, finishSend, SessionState.setSender, releaseLock]
    refine { session := h.session, lock := ?_, handler := h.handler, length := ?_, parked := ?_,
             opened := ?_, idle := ?_ }
    · show s₂.lock.release _ = _
      rw [h.lookedUp_lock, RwLock.release_free_request]
    · rw [hchannel, lookedUp_channel]
      simp [Channel.complete, Channel.park, h.length]
    · rw [hchannel, Channel.complete, hparked]
      simp
    · rw [hchannel, lookedUp_channel]
      exact h.opened
    · intro i hi
      have hne : i ≠ m + 1 := Nat.ne_of_gt hi
      have hi' : s.sender i = .idle := h.idle i (by omega)
      simp [s₃, s₂, lookedUp, finishSend, SessionState.setSender, requestLock, releaseLock,
        onChannel, hne, hi']

/-- The channel fills up. -/
lemma exists_backlog (m : ℕ) (hm : m ≤ channelCapacity) :
    ∃ labels s, exec (sessionStep fun _ => "c") .start labels = some s ∧ Backlog s m := by
  induction m with
  | zero =>
      obtain ⟨s, hrun, hbacklog⟩ := backlog_stalled
      exact ⟨stalled, s, hrun, hbacklog⟩
  | succ m ih =>
      obtain ⟨labels, s, hrun, hbacklog⟩ := ih (by omega)
      obtain ⟨s', hrun', hbacklog'⟩ := hbacklog.succ hm
      refine ⟨labels ++ delivery (m + 1), s', ?_, hbacklog'⟩
      rw [exec_append, hrun]
      exact hrun'

/-- Once 256 messages have piled up for a client whose handler is stuck, a sender is blocked with the
map lock in its hands; when the handler leaves its loop, it waits for that lock. -/
theorem backlog_deadlocks :
    ¬ ∀ (client : ConnId → ClientId) (labels : List Label) (s : SessionState),
      exec (sessionStep client) .start labels = some s → NoDeadlock s := by
  intro h
  obtain ⟨labels, s, hrun, hbacklog⟩ := exists_backlog channelCapacity le_rfl
  let s₂ := lookedUp s (channelCapacity + 1)
  have hblocked : BlockedOn s₂ (.sender (channelCapacity + 1)) 0 := by
    refine blockedOn_park ⟨hbacklog.opened, ?_⟩
    show (s.channel 0).room channelCapacity ≤ _
    rw [Channel.room, hbacklog.length, Nat.sub_self]
    exact Nat.zero_le _
  have hholds : s₂.lock.Holds (.sender (channelCapacity + 1)) := by
    rw [hbacklog.lookedUp_lock]
    exact Or.inl (RwLock.mem_readers_free_request _)
  have hleave : sessionStep (fun _ => "c") s₂ (.leave 0) = some (leave s₂ 0) := by
    have hpc : s₂.handler 0 = .forwarding ping := hbacklog.handler
    simp only [sessionStep, hpc]
  have hfree := h (fun _ => "c")
    (labels ++ ([.sendTo (channelCapacity + 1) "c" ping, .lookup (channelCapacity + 1)] ++
      [.leave 0])) (leave s₂ 0) (by
        rw [exec_append, hrun, Option.bind_some, exec_append, hbacklog.exec_lookup]
        simp [s₂, hleave])
  exact hfree _ 0 hblocked (RwLock.waits_of_request_write hholds)

end RustProxy.Server
