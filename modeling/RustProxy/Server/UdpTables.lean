import RustProxy.Server.UdpSessions

/-!
# What the tables of a UDP listener say

* `Backed`: an entry of `sessions` belongs to a task or worker that has still to remove it, and so
  does an entry of `session_senders`.  Every move keeps this, whatever the schedule.
* `Single`: at most one task or worker has a session of a source, and who is about to remove the
  source removes its own entry.  This needs that a lookup fails only when nobody is busy with the
  source; `udp_sessions_unique` is about runs.
-/

namespace RustProxy.Server.Udp

open Transition

/-! ## Entries are backed -/

/-- The source and id of a task or worker that has drawn the id and has not ended. -/
def Part.owner : Part → Option (Source × ConnId)
  | .fresh src k => some (src, k)
  | .mapped _ src k => some (src, k)
  | .served _ src k => some (src, k)
  | .dropping src k => some (src, k)
  | _ => none

/-- The entry of `sessions` that a task or worker has made and has still to remove. -/
def Part.entry : Part → Option (Source × ConnId)
  | .mapped _ src k => some (src, k)
  | .served _ src k => some (src, k)
  | _ => none

/-- The id under which a worker, or the task that will spawn it, is entered in `session_senders`. -/
def Part.sender? : Part → Option (Source × ConnId)
  | .served _ src k => some (src, k)
  | .dropping src k => some (src, k)
  | _ => none

/-- A task that has drawn the id for the source is still in `handle_udp_packet`, or its worker has not
finished its cleanup. -/
def UdpState.Open (s : UdpState) (i : ℕ) (src : Source) (k : ConnId) : Prop :=
  (s.part i).owner = some (src, k)

/-- Every entry is that of a task or worker that will remove it. -/
structure Backed (t : Tables) (part : ℕ → Part) : Prop where
  session : ∀ src k, t.sessions src = some k → ∃ i, (part i).entry = some (src, k)
  sender : ∀ n k ch, t.senders (n, k) = some ch →
    ∃ src, src.listener = n ∧ (part ch).sender? = some (src, k)

/-- An entry has an owner. -/
lemma Part.owner_of_entry {p : Part} {src : Source} {k : ConnId} (h : p.entry = some (src, k)) :
    p.owner = some (src, k) := by
  cases p <;> first | exact h | cases h

/-- A sender has an owner. -/
lemma Part.owner_of_sender {p : Part} {src : Source} {k : ConnId}
    (h : p.sender? = some (src, k)) : p.owner = some (src, k) := by
  cases p <;> first | exact h | cases h

variable {Missing : Source → Prop} {k₀ : ConnId} {i : ℕ} {t t' : Tables} {part part' : ℕ → Part}
  {s s' : UdpState}

/-- An entry that was there is still backed, if number `i` did not stop backing it. -/
lemma Backed.of_entries (h : Backed t part) (hothers : ∀ j, j ≠ i → part' j = part j)
    (hsession : ∀ src k, t'.sessions src = some k → (part' i).entry = some (src, k) ∨
      t.sessions src = some k ∧ ((part i).entry = some (src, k) → (part' i).entry = some (src, k)))
    (hsender : ∀ n k ch, t'.senders (n, k) = some ch →
      (ch = i ∧ ∃ src, src.listener = n ∧ (part' i).sender? = some (src, k)) ∨
      t.senders (n, k) = some ch ∧ ∀ src, src.listener = n → (part i).sender? = some (src, k) →
        (part' i).sender? = some (src, k)) : Backed t' part' where
  session := by
    intro src k hentry
    rcases hsession src k hentry with hnew | ⟨hold, hkeeps⟩
    · exact ⟨i, hnew⟩
    · obtain ⟨j, hj⟩ := h.session src k hold
      by_cases hji : j = i
      · subst hji
        exact ⟨j, hkeeps hj⟩
      · exact ⟨j, by rw [hothers j hji]; exact hj⟩
  sender := by
    intro n k ch hentry
    rcases hsender n k ch hentry with ⟨rfl, hnew⟩ | ⟨hold, hkeeps⟩
    · exact hnew
    · obtain ⟨src, hn, hsrc⟩ := h.sender n k ch hold
      by_cases hch : ch = i
      · subst hch
        exact ⟨src, hn, hkeeps src hn hsrc⟩
      · exact ⟨src, hn, by rw [hothers ch hch]; exact hsrc⟩

/-- Removing an entry leaves the others. -/
lemma of_update_none {α β : Type} [DecidableEq α] {f : α → Option β} {a b : α} {v : β}
    (h : Function.update f a none b = some v) : b ≠ a ∧ f b = some v := by
  by_cases hb : b = a
  · subst hb
    rw [Function.update_self] at h
    cases h
  · rw [Function.update_of_ne hb] at h
    exact ⟨hb, h⟩

/-- A new entry is the one made, or was there before. -/
lemma of_update_some {α β : Type} [DecidableEq α] {f : α → Option β} {a b : α} {u v : β}
    (h : Function.update f a (some u) b = some v) : (b = a ∧ v = u) ∨ f b = some v := by
  by_cases hb : b = a
  · subst hb
    rw [Function.update_self] at h
    exact Or.inl ⟨rfl, (Option.some.inj h).symm⟩
  · rw [Function.update_of_ne hb] at h
    exact Or.inr h

/-- Every move keeps the entries backed. -/
theorem Backed.move (h : Backed t part) (hothers : ∀ j, j ≠ i → part' j = part j)
    (hmove : Move Missing k₀ i t (part i) t' (part' i)) : Backed t' part' := by
  refine h.of_entries hothers ?_ ?_
  · intro src k hentry
    generalize part i = p at hmove
    generalize part' i = p' at hmove
    cases hmove with
    | sweep =>
        obtain ⟨-, hold⟩ := of_update_none hentry
        exact Or.inr ⟨hold, id⟩
    | enter =>
        rcases of_update_some hentry with ⟨rfl, rfl⟩ | hold
        · exact Or.inl rfl
        · exact Or.inr ⟨hold, nofun⟩
    | unmap =>
        obtain ⟨hne, hold⟩ := of_update_none hentry
        refine Or.inr ⟨hold, ?_⟩
        rintro ⟨⟩
        exact absurd rfl hne
    | unserve =>
        obtain ⟨hne, hold⟩ := of_update_none hentry
        refine Or.inr ⟨hold, ?_⟩
        rintro ⟨⟩
        exact absurd rfl hne
    | stay | find | miss | take | forget | sent | sweepSender | fail | serve | stop | drop =>
        exact Or.inr ⟨hentry, id⟩
  · intro n k ch hentry
    generalize part i = p at hmove
    generalize part' i = p' at hmove
    cases hmove with
    | sweepSender =>
        obtain ⟨-, hold⟩ := of_update_none hentry
        exact Or.inr ⟨hold, fun _ _ => nofun⟩
    | serve =>
        rcases of_update_some hentry with ⟨⟨⟩, rfl⟩ | hold
        · exact Or.inl ⟨rfl, _, rfl, rfl⟩
        · exact Or.inr ⟨hold, fun _ _ => nofun⟩
    | drop =>
        obtain ⟨hne, hold⟩ := of_update_none hentry
        refine Or.inr ⟨hold, ?_⟩
        rintro src rfl ⟨⟩
        exact absurd rfl hne
    | stay | find | miss | take | forget | sent | sweep | enter | fail | unmap | stop | unserve =>
        exact Or.inr ⟨hentry, fun _ _ => id⟩

/-- At the start the tables are empty. -/
lemma backed_start (k : ConnId) : Backed (UdpState.start k).tables (UdpState.start k).part where
  session := fun _ _ => nofun
  sender := fun _ _ _ => nofun

/-- Every step keeps the entries backed. -/
lemma backed_step {label : UdpLabel} (h : Backed s.tables s.part) (hstep : udpStep s label = some s') :
    Backed s'.tables s'.part := by
  obtain ⟨i, hothers, hmove⟩ := moves_of_step hstep
  exact h.move hothers hmove

/-! ## One session for a source -/

/-- The source and id of a session that is being established or live. -/
def Part.active : Part → Option (Source × ConnId)
  | .fresh src k => some (src, k)
  | .mapped true src k => some (src, k)
  | .served true src k => some (src, k)
  | _ => none

/-- The id a task or worker works with. -/
def Part.user : Part → Option (Source × ConnId)
  | .found src k => some (src, k)
  | .sender src k => some (src, k)
  | p => p.owner

/-- The task or worker has or had a session of the source, or is sending to one. -/
def Part.busy : Part → Option Source
  | .sender src _ => some src
  | p => p.owner.map Prod.fst

/-- At most one session of a source is being established or live. -/
def Unique (s : UdpState) : Prop :=
  ∀ i j src k k', (s.part i).active = some (src, k) → (s.part j).active = some (src, k') → i = j

/-- The session whose source the step removes from `sessions`. -/
def UdpState.removes (s : UdpState) : UdpLabel → Option (Source × ConnId)
  | .task i _ =>
      if s.ready i then
        match s.task i with
        | .stale src k => some (src, k)
        | .unsent src k => some (src, k)
        | .expiredHolding src k => some (src, k)
        | .cleaning src k => some (src, k)
        | _ => none
      else none
  | _ => none

/-- A session that ends or fails removes only its own entry. -/
def RemovesOwn (s : UdpState) (label : UdpLabel) : Prop :=
  ∀ src k k', s.removes label = some (src, k) → s.sessions src = some k' → k' = k

/-- A source is looked up in vain only when no session of it is being established or live. -/
def MissesInactive (s : UdpState) (label : UdpLabel) : Prop :=
  ∀ src, Misses s label src → ∀ j k, (s.part j).active ≠ some (src, k)

/-- A source is looked up in vain only when no task has or sends to a session of it and no worker of
it has still to clean up; and the next id is not in use. -/
def MissesAlone (s : UdpState) (label : UdpLabel) : Prop :=
  ∀ src, Misses s label src → (∀ j, (s.part j).busy ≠ some src) ∧
    ∀ j src', (s.part j).user ≠ some (src', s.connIdCounter)

/-- One task or worker has a session of a source, tasks send to that session only, and ids belong to
one source. -/
structure Single (part : ℕ → Part) : Prop where
  one : ∀ i j src k k', (part i).owner = some (src, k) → (part j).owner = some (src, k') → i = j
  sends : ∀ i j src k k', part i = .sender src k → (part j).owner = some (src, k') → k' = k
  ids : ∀ i j src src' k, (part i).user = some (src, k) → (part j).user = some (src', k) → src = src'

/-- An owner is a user. -/
lemma Part.user_of_owner {p : Part} {src : Source} {k : ConnId} (h : p.owner = some (src, k)) :
    p.user = some (src, k) := by
  cases p <;> first | exact h | cases h

/-- An owner is busy. -/
lemma Part.busy_of_owner {p : Part} {src : Source} {k : ConnId} (h : p.owner = some (src, k)) :
    p.busy = some src := by
  cases p <;> first | exact congrArg (Option.map Prod.fst) h | cases h

/-- Who is active is an owner. -/
lemma Part.owner_of_active {p : Part} {src : Source} {k : ConnId} (h : p.active = some (src, k)) :
    p.owner = some (src, k) := by
  rcases p with _ | _ | _ | _ | up | up | _ <;> try cases up
  all_goals first | exact h | cases h

/-- A single session to a source is the only active one. -/
lemma Single.unique (h : Single s.part) : Unique s := by
  intro i j src k k' hi hj
  exact h.one i j src k k' (Part.owner_of_active hi) (Part.owner_of_active hj)

/-- A part that is played on with the same or fewer claims. -/
lemma Single.of_le (h : Single part) (hothers : ∀ j, j ≠ i → part' j = part j)
    (howner : ∀ src k, (part' i).owner = some (src, k) → (part i).owner = some (src, k))
    (hsender : ∀ src k, part' i = .sender src k → part i = .sender src k)
    (huser : ∀ src k, (part' i).user = some (src, k) → (part i).user = some (src, k)) :
    Single part' := by
  have howner' : ∀ j src k, (part' j).owner = some (src, k) → (part j).owner = some (src, k) := by
    intro j src k hj
    by_cases hji : j = i
    · subst hji
      exact howner src k hj
    · rwa [hothers j hji] at hj
  have hsender' : ∀ j src k, part' j = .sender src k → part j = .sender src k := by
    intro j src k hj
    by_cases hji : j = i
    · subst hji
      exact hsender src k hj
    · rwa [hothers j hji] at hj
  have huser' : ∀ j src k, (part' j).user = some (src, k) → (part j).user = some (src, k) := by
    intro j src k hj
    by_cases hji : j = i
    · subst hji
      exact huser src k hj
    · rwa [hothers j hji] at hj
  refine ⟨?_, ?_, ?_⟩
  · intro j j' src k k' hj hj'
    exact h.one j j' src k k' (howner' j src k hj) (howner' j' src k' hj')
  · intro j j' src k k' hj hj'
    exact h.sends j j' src k k' (hsender' j src k hj) (howner' j' src k' hj')
  · intro j j' src src' k hj hj'
    exact h.ids j j' src src' k (huser' j src k hj) (huser' j' src' k hj')

/-- A part whose claims are new, and agree with those of the others. -/
lemma Single.of_claim (h : Single part) (hothers : ∀ j, j ≠ i → part' j = part j)
    (howner : ∀ src k, (part' i).owner = some (src, k) → ∀ j, (part j).busy ≠ some src)
    (hsender : ∀ src k, part' i = .sender src k → ∀ j k', (part j).owner = some (src, k') → k' = k)
    (huser : ∀ src k, (part' i).user = some (src, k) →
      ∀ j src', j ≠ i → (part j).user = some (src', k) → src = src') : Single part' := by
  refine ⟨?_, ?_, ?_⟩
  · intro j j' src k k' hj hj'
    by_cases hji : j = i <;> by_cases hji' : j' = i
    · rw [hji, hji']
    · subst hji
      rw [hothers j' hji'] at hj'
      exact absurd (Part.busy_of_owner hj') (howner src k hj j')
    · subst hji'
      rw [hothers j hji] at hj
      exact absurd (Part.busy_of_owner hj) (howner src k' hj' j)
    · rw [hothers j hji] at hj
      rw [hothers j' hji'] at hj'
      exact h.one j j' src k k' hj hj'
  · intro j j' src k k' hj hj'
    by_cases hji : j = i <;> by_cases hji' : j' = i
    · subst hji hji'
      rw [hj] at hj'
      cases hj'
    · subst hji
      rw [hothers j' hji'] at hj'
      exact hsender src k hj j' k' hj'
    · subst hji'
      rw [hothers j hji] at hj
      exact absurd (by rw [hj]; rfl) (howner src k' hj' j)
    · rw [hothers j hji] at hj
      rw [hothers j' hji'] at hj'
      exact h.sends j j' src k k' hj hj'
  · intro j j' src src' k hj hj'
    by_cases hji : j = i <;> by_cases hji' : j' = i
    · subst hji hji'
      rw [hj] at hj'
      cases hj'
      rfl
    · subst hji
      rw [hothers j' hji'] at hj'
      exact huser src k hj j' src' hji' hj'
    · subst hji'
      rw [hothers j hji] at hj
      exact (huser src' k hj' j src hji hj).symm
    · rw [hothers j hji] at hj
      rw [hothers j' hji'] at hj'
      exact h.ids j j' src src' k hj hj'

/-- A move keeps the sessions single, if a lookup fails only when nobody is busy with the source. -/
theorem Single.move (h : Single part) (hbacked : Backed t part)
    (hothers : ∀ j, j ≠ i → part' j = part j)
    (hmissing : ∀ src, Missing src → (∀ j, (part j).busy ≠ some src) ∧
      ∀ j src', (part j).user ≠ some (src', k₀))
    (hmove : Move Missing k₀ i t (part i) t' (part' i)) : Single part' := by
  generalize hp : part i = p at hmove
  generalize hp' : part' i = p' at hmove
  cases hmove with
  | find hsession =>
      rename_i src k
      obtain ⟨j, hj⟩ := hbacked.session src k hsession
      have huser := Part.user_of_owner (Part.owner_of_entry hj)
      refine h.of_claim hothers (by rw [hp']; exact fun _ _ => nofun)
        (by rw [hp']; exact fun _ _ => nofun) ?_
      rw [hp']
      rintro _ _ ⟨⟩ j' src' - hj'
      exact h.ids j j' src src' k huser hj'
  | miss _ hsrc =>
      obtain ⟨hidle, hfresh⟩ := hmissing _ hsrc
      refine h.of_claim hothers ?_ (by rw [hp']; exact fun _ _ => nofun) ?_
      · rw [hp']
        rintro _ _ ⟨⟩
        exact hidle
      · rw [hp']
        rintro _ _ ⟨⟩ j src' - hj
        exact absurd hj (hfresh j src')
  | take hsender =>
      rename_i src k ch
      obtain ⟨src', -, hch⟩ := hbacked.sender _ k ch hsender
      have howner := Part.owner_of_sender hch
      have huser : (part i).user = some (src, k) := by
        rw [hp]
        rfl
      obtain rfl : src = src' := h.ids i ch src src' k huser (Part.user_of_owner howner)
      refine h.of_claim hothers (by rw [hp']; exact fun _ _ => nofun) ?_ ?_
      · rw [hp']
        rintro _ _ ⟨⟩ j k' hj
        obtain rfl : ch = j := h.one ch j src k k' howner hj
        cases howner.symm.trans hj
        rfl
      · rw [hp']
        rintro _ _ ⟨⟩ j src' - hj
        exact h.ids i j src src' k huser hj
  | stay | forget | sent | sweep | sweepSender | enter | fail | unmap | serve | stop | unserve | drop =>
      refine h.of_le hothers ?_ ?_ ?_ <;> rw [hp, hp'] <;>
        first | exact fun _ _ => id | exact fun _ _ => nofun

/-- At the start there is no session. -/
lemma single_start (k : ConnId) : Single (UdpState.start k).part where
  one := fun _ _ _ _ _ => nofun
  sends := fun _ _ _ _ _ => nofun
  ids := fun _ _ _ _ _ => nofun

/-- A lookup that fails only when nobody is busy keeps sessions single. -/
lemma single_step {label : UdpLabel} (hbacked : Backed s.tables s.part) (h : Single s.part)
    (hok : MissesAlone s label) (hstep : udpStep s label = some s') : Single s'.part := by
  obtain ⟨i, hothers, hmove⟩ := moves_of_step hstep
  exact h.move hbacked hothers hok hmove

/-- Where sessions are single, a session removes its own entry. -/
lemma Single.removesOwn (h : Single s.part) (hbacked : Backed s.tables s.part) (label : UdpLabel) :
    RemovesOwn s label := by
  intro src k k' hremoves hentry
  obtain ⟨j, hj⟩ := hbacked.session src k' hentry
  have howner := Part.owner_of_entry hj
  cases label with
  | task i ok =>
      have hown : (s.part i).owner = some (src, k) → k' = k := by
        intro hi
        obtain rfl : i = j := h.one i j src k k' hi howner
        cases hi.symm.trans howner
        rfl
      rw [UdpState.removes] at hremoves
      split at hremoves
      · split at hremoves <;> cases hremoves
        · case h_1.refl hpc => exact h.sends i j src k k' (congrArg PacketPc.part hpc) howner
        all_goals
          rename_i hpc
          exact hown (congrArg (fun pc : PacketPc => pc.part.owner) hpc)
      · cases hremoves
  | datagram | otherConnId | otherAsks | otherReleases => cases hremoves

/-- Only a lookup in vain starts to establish a session. -/
lemma Move.active {p p' : Part} {src : Source} {k : ConnId} (h : Move Missing k₀ i t p t' p')
    (hactive : p'.active = some (src, k)) : p.active = some (src, k) ∨ Missing src := by
  cases h with
  | miss _ hmissing =>
      cases hactive
      exact Or.inr hmissing
  | stay | enter | serve => exact Or.inl hactive
  | find | take | forget | sent | sweep | sweepSender | fail | unmap | stop | unserve | drop =>
      cases hactive

/-- A lookup that fails only when nobody is active keeps sessions unique. -/
lemma unique_step {label : UdpLabel} (h : Unique s) (hok : MissesInactive s label)
    (hstep : udpStep s label = some s') : Unique s' := by
  obtain ⟨m, hothers, hmove⟩ := moves_of_step hstep
  -- A session established by now was there before, or its source is looked up in vain by this step.
  have hold : ∀ j src k, (s'.part j).active = some (src, k) →
      (s.part j).active = some (src, k) ∨ j = m ∧ Misses s label src := by
    intro j src k hj
    by_cases hjm : j = m
    · subst hjm
      exact (hmove.active hj).imp_right fun hmissing => ⟨rfl, hmissing⟩
    · rw [hothers j hjm] at hj
      exact Or.inl hj
  intro j j' src k k' hj hj'
  rcases hold j src k hj with hj | ⟨rfl, hmisses⟩
  · rcases hold j' src k' hj' with hj' | ⟨-, hmisses⟩
    · exact h j j' src k k' hj hj'
    · exact absurd hj (hok src hmisses j k)
  · rcases hold j' src k' hj' with hj' | ⟨rfl, -⟩
    · exact absurd hj' (hok src hmisses j' k')
    · rfl

/-- A lookup in vain beside a session of the source starts a second one. -/
lemma not_unique_step {label : UdpLabel} (hbad : ¬ MissesInactive s label)
    (hstep : udpStep s label = some s') : ¬ Unique s' := by
  rw [MissesInactive] at hbad
  push Not at hbad
  obtain ⟨src, ⟨i, ok, data, rfl, hready, hpc, hnone⟩, j, k, hj⟩ := hbad
  have hne : j ≠ i := by
    rintro rfl
    rw [UdpState.part, hpc] at hj
    cases hj
  have hnew := inserting_of_looking hready hpc hnone hstep
  have hold : s'.task j = s.task j := (course_of_taskStep hstep).1 j hne
  intro hunique
  refine hne (hunique j i src k s.connIdCounter ?_ ?_)
  · rw [UdpState.part, hold]
    exact hj
  · rw [UdpState.part, hnew]
    rfl

/-- Over any datagrams and any interleaving of tasks and workers: at most one session of a source is
established at a time exactly when no lookup fails beside one; and if a lookup fails only when nobody
is busy with the source, a session that ends or fails also removes its own entry only. -/
theorem udp_sessions_unique (k : ConnId) (labels : List UdpLabel) :
    (Always udpStep Unique (.start k) labels ↔ EachStep udpStep MissesInactive (.start k) labels) ∧
    (EachStep udpStep MissesAlone (.start k) labels →
      Always udpStep Unique (.start k) labels ∧ EachStep udpStep RemovesOwn (.start k) labels) := by
  have hkeep : ∀ s label s', Backed s.tables s.part ∧ Single s.part → MissesAlone s label →
      udpStep s label = some s' → Backed s'.tables s'.part ∧ Single s'.part := by
    rintro s label s' ⟨hbacked, hsingle⟩ hok hstep
    exact ⟨backed_step hbacked hstep, single_step hbacked hsingle hok hstep⟩
  have hstart := And.intro (backed_start k) (single_start k)
  refine ⟨?_, ?_⟩
  · refine always_iff_eachStep (I := Unique) (fun _ hs => hs) ?_ ?_ ?_ labels
    · exact fun s label s' hs hok hstep => unique_step hs hok hstep
    · exact fun s label s' _ hbad hstep => not_unique_step hbad hstep
    · exact (single_start k).unique
  · intro halone
    refine ⟨?_, ?_⟩
    · exact always_of_eachStep (fun s hs => hs.2.unique) hkeep hstart halone
    · exact eachStep_of_eachStep (fun s label hs _ => hs.2.removesOwn hs.1 label) hkeep hstart halone

/-- The user of the two datagrams. -/
def peer : Source := ⟨0, "192.0.2.1:53"⟩

/-- Two datagrams of one source are both looked up before either task has entered its session. -/
def bothLookedUp : List UdpLabel :=
  [.datagram 0 peer [1], .datagram 1 peer [2], .task 0 true, .task 1 true, .task 0 true, .task 1 true]

/-- Both enter their session, the client cannot be told of the first, and its task has the guard to
remove the source. -/
def firstFails : List UdpLabel :=
  bothLookedUp ++ [.task 0 true, .task 0 true, .task 1 true, .task 1 true, .task 0 false, .task 0 true]

/-- Two sessions of one source are active, and then one removes the entry of the other. -/
theorem two_sessions_for_one_source :
    (¬ ∀ (k : ConnId) (labels : List UdpLabel) (s : UdpState),
      exec udpStep (.start k) labels = some s → Unique s) ∧
    ¬ ∀ (k : ConnId) (labels : List UdpLabel) (s s' : UdpState) (label : UdpLabel),
      exec udpStep (.start k) labels = some s → udpStep s label = some s' → RemovesOwn s label := by
  constructor
  · intro h
    obtain ⟨s, hs⟩ : ∃ s, exec udpStep (.start 0) bothLookedUp = some s := ⟨_, rfl⟩
    have hunique := h 0 bothLookedUp s hs
    cases hs
    exact absurd (hunique 0 1 peer 0 1 rfl rfl) (by decide)
  · intro h
    obtain ⟨s, hs⟩ : ∃ s, exec udpStep (.start 0) firstFails = some s := ⟨_, rfl⟩
    have hremoves := h 0 firstFails s
    cases hs
    exact absurd (hremoves _ (.task 0 true) rfl rfl peer 0 1 rfl rfl) (by decide)

end RustProxy.Server.Udp
