import Mathlib.Data.List.Basic
import Mathlib.Logic.Function.Basic

/-!
# Keys that are claimed in an order

Claimants come one after the other; each has a name and keys it claims.  A table gives a key to at
most one of them.

* First come: `takeFree` gives a claimant those of its keys that nobody has and that are not
  `blocked`, and `leave` takes back what a name has.  `firstCome` is the table of a list of claimants.
* Last come: `takeOver` gives a claimant all its keys, and `clear` takes them from whoever has them.
  `lastCome` is the table of a list.
* When one claimant of the list is replaced in its place, `firstCome_replace_iff` and
  `lastCome_replace_iff` say whether the table that is changed on the spot is the table of the new
  list.
-/

namespace Priority

variable {ρ ν κ : Type*} (name : ρ → ν) (claims : ρ → κ → Prop) [DecidableEq ν]
  [∀ r k, Decidable (claims r k)] (blocked : κ → Prop) [∀ k, Decidable (blocked k)]

/-- The claimant gets those of its keys that are free. -/
def takeFree (r : ρ) (held : κ → Option ρ) (k : κ) : Option ρ :=
  if held k = none ∧ claims r k ∧ ¬ blocked k then some r else held k

/-- What the name has becomes free. -/
def leave (n : ν) (held : κ → Option ρ) (k : κ) : Option ρ := (held k).filter fun r => name r ≠ n

/-- The claimant gets all its keys. -/
def takeOver (r : ρ) (held : κ → Option ρ) (k : κ) : Option ρ := if claims r k then some r else held k

/-- The keys of the claimant become free, whoever has them. -/
def clear (r : ρ) (held : κ → Option ρ) (k : κ) : Option ρ := if claims r k then none else held k

/-- The table of a list of claimants, first come. -/
def firstCome (xs : List ρ) : κ → Option ρ :=
  xs.foldl (fun held r => takeFree claims (fun _ => False) r held) fun _ => none

/-- The table of a list of claimants, last come. -/
def lastCome (xs : List ρ) : κ → Option ρ :=
  xs.foldl (fun held r => takeOver claims r held) fun _ => none

/-- The key is claimed by the claimant, if there is one. -/
def Claimed (o : Option ρ) (k : κ) : Prop := ∃ r, o = some r ∧ claims r k

instance Claimed.decidable : ∀ (o : Option ρ) (k : κ), Decidable (Claimed claims o k)
  | none, _ => .isFalse fun ⟨_, hr, _⟩ => Option.noConfusion rfl (heq_of_eq hr)
  | some r, k => decidable_of_iff (claims r k) (by simp [Claimed])

/-- One claimant leaves a first-come table, another one comes. -/
def replaceFree (old new : Option ρ) (held : κ → Option ρ) : κ → Option ρ :=
  new.elim id (takeFree claims blocked) (old.elim id (fun r => leave name (name r)) held)

/-- One claimant leaves a last-come table, another one comes. -/
def replaceOver (old new : Option ρ) (held : κ → Option ρ) : κ → Option ρ :=
  new.elim id (takeOver claims) (old.elim id (clear claims) held)

section

variable {name claims blocked} {pre post xs ys : List ρ} {old new : Option ρ} {k : κ}

/-- The first claimant has the key. -/
lemma firstCome_apply (xs : List ρ) (k : κ) :
    firstCome claims xs k = xs.find? fun r => claims r k := by
  have hfold : ∀ held : κ → Option ρ,
      xs.foldl (fun held r => takeFree claims (fun _ => False) r held) held k =
        (held k).or (xs.find? fun r => claims r k) := by
    induction xs with
    | nil => simp
    | cons r xs ih =>
        intro held
        rw [List.foldl_cons, ih]
        unfold takeFree
        cases hk : held k with
        | some x => simp
        | none => by_cases hr : claims r k <;> simp [hr]
  simp [firstCome, hfold]

/-- The last claimant has the key. -/
lemma lastCome_apply (xs : List ρ) (k : κ) :
    lastCome claims xs k = xs.reverse.find? fun r => claims r k := by
  have hfold : ∀ held : κ → Option ρ,
      xs.foldl (fun held r => takeOver claims r held) held k =
        (xs.reverse.find? fun r => claims r k).or (held k) := by
    induction xs with
    | nil => simp
    | cons r xs ih =>
        intro held
        rw [List.foldl_cons, ih, List.reverse_cons, List.find?_append, Option.or_assoc]
        unfold takeOver
        by_cases hr : claims r k <;> simp [hr]
  simp [lastCome, hfold]

/-- The claimants of the second list come after those of the first. -/
lemma firstCome_append (xs ys : List ρ) (k : κ) :
    firstCome claims (xs ++ ys) k = (firstCome claims xs k).or (firstCome claims ys k) := by
  simp [firstCome_apply, List.find?_append]

/-- Later claimants come before earlier ones. -/
lemma lastCome_append (xs ys : List ρ) (k : κ) :
    lastCome claims (xs ++ ys) k = (lastCome claims ys k).or (lastCome claims xs k) := by
  simp [lastCome_apply, List.find?_append]

/-- One more claimant. -/
lemma firstCome_concat (xs : List ρ) (r : ρ) :
    firstCome claims (xs ++ [r]) = takeFree claims (fun _ => False) r (firstCome claims xs) := by
  rw [firstCome, List.foldl_append]
  rfl

/-- One more claimant takes over. -/
lemma lastCome_concat (xs : List ρ) (r : ρ) :
    lastCome claims (xs ++ [r]) = takeOver claims r (lastCome claims xs) := by
  rw [lastCome, List.foldl_append]
  rfl

/-- Nobody has a key that nobody claims. -/
lemma firstCome_eq_none_iff : firstCome claims xs k = none ↔ ∀ r ∈ xs, ¬ claims r k := by
  simp [firstCome_apply]

/-- Nobody has a key that nobody claims. -/
lemma lastCome_eq_none_iff : lastCome claims xs k = none ↔ ∀ r ∈ xs, ¬ claims r k := by
  simp [lastCome_apply]

/-- Who has a key first claims it. -/
lemma of_firstCome {r : ρ} (h : firstCome claims xs k = some r) : r ∈ xs ∧ claims r k := by
  rw [firstCome_apply] at h
  exact ⟨List.mem_of_find?_eq_some h, by simpa using List.find?_some h⟩

/-- Who has a key last claims it. -/
lemma of_lastCome {r : ρ} (h : lastCome claims xs k = some r) : r ∈ xs ∧ claims r k := by
  rw [lastCome_apply] at h
  exact ⟨by simpa using List.mem_of_find?_eq_some h, by simpa using List.find?_some h⟩

/-- The table of one claimant or of none. -/
lemma firstCome_toList (o : Option ρ) (k : κ) :
    firstCome claims o.toList k = if Claimed claims o k then o else none := by
  cases o with
  | none => simp [firstCome]
  | some r => by_cases hr : claims r k <;> simp [firstCome_apply, Claimed, hr]

/-- A single claimant. -/
lemma lastCome_toList (o : Option ρ) (k : κ) :
    lastCome claims o.toList k = if Claimed claims o k then o else none := by
  cases o with
  | none => simp [lastCome]
  | some r => by_cases hr : claims r k <;> simp [lastCome_apply, Claimed, hr]

/-! ## A claimant is replaced -/

/-- A key that somebody else has stays as it is. -/
lemma replaceFree_of_ne {held : κ → Option ρ} {x : ρ} (hk : held k = some x)
    (hold : ∀ r, old = some r → name x ≠ name r) :
    replaceFree name claims blocked old new held k = some x := by
  have hleft : (old.elim id (fun r => leave name (name r)) held) k = some x := by
    cases old with
    | none => exact hk
    | some r => simp [leave, hk, hold r rfl]
  unfold replaceFree
  cases new with
  | none => exact hleft
  | some r => simp [takeFree, hleft]

/-- A key that is free, or that the old claimant has, goes to the new one. -/
lemma replaceFree_of_free {held : κ → Option ρ}
    (hk : held k = none ∨ ∃ r, old = some r ∧ held k = some r) :
    replaceFree name claims blocked old new held k =
      if Claimed claims new k ∧ ¬ blocked k then new else none := by
  have hleft : (old.elim id (fun r => leave name (name r)) held) k = none := by
    rcases hk with hk | ⟨r, rfl, hk⟩
    · cases old <;> simp [leave, hk]
    · simp [leave, hk]
  unfold replaceFree
  cases new with
  | none => simp [hleft]
  | some r => simp [takeFree, hleft, Claimed]

/-- Claimants that are not the old or the new one. -/
def Others (name : ρ → ν) (old new : Option ρ) (xs : List ρ) : Prop :=
  ∀ r, old = some r ∨ new = some r → ∀ x ∈ xs, name x ≠ name r

omit [DecidableEq ν] in
/-- The others are not the new one. -/
lemma Others.ne (h : Others name old new xs) {x : ρ} (hx : x ∈ xs) : some x ≠ new := by
  intro heq
  exact h x (Or.inr heq.symm) x hx rfl

/-- A changed table has the new claimant and what was there before, without the old one. -/
lemma of_replaceFree {held : κ → Option ρ} {x : ρ}
    (h : replaceFree name claims blocked old new held k = some x) :
    new = some x ∨ held k = some x ∧ ∀ r, old = some r → name x ≠ name r := by
  have hleft : ∀ y, (old.elim id (fun r => leave name (name r)) held) k = some y →
      held k = some y ∧ ∀ r, old = some r → name y ≠ name r := by
    intro y hy
    cases old with
    | none => exact ⟨hy, fun r hr => by cases hr⟩
    | some r =>
        obtain ⟨hk, hne⟩ := Option.filter_eq_some_iff.mp hy
        refine ⟨hk, fun r' hr' => ?_⟩
        cases hr'
        simpa using hne
  unfold replaceFree at h
  cases new with
  | none => exact Or.inr (hleft x h)
  | some r =>
      change takeFree claims blocked r _ k = some x at h
      unfold takeFree at h
      split at h
      · exact Or.inl h
      · exact Or.inr (hleft x h)

/-- A first-come table that is changed on the spot is that of the new list exactly when no later
claimant waits for a key that the two versions do not both claim, and the new one claims no blocked
key. -/
theorem firstCome_replace_iff (hothers : Others name old new (pre ++ post))
    (hfree : ∀ x ∈ pre ++ old.toList ++ post, ∀ k, claims x k → ¬ blocked k) :
    replaceFree name claims blocked old new (firstCome claims (pre ++ old.toList ++ post)) =
        firstCome claims (pre ++ new.toList ++ post) ↔
      ∀ k, ((∀ x ∈ pre, ¬ claims x k) → (∃ x ∈ post, claims x k) →
        (Claimed claims old k ↔ Claimed claims new k)) ∧ (Claimed claims new k → ¬ blocked k) := by
  rw [funext_iff]
  apply forall_congr'
  intro k
  have htable (o : Option ρ) : firstCome claims (pre ++ o.toList ++ post) k =
      ((firstCome claims pre k).or (if Claimed claims o k then o else none)).or
        (firstCome claims post k) := by
    rw [firstCome_append, firstCome_append, firstCome_toList]
  have hunblocked : ∀ x ∈ pre ++ old.toList ++ post, claims x k → ¬ blocked k :=
    fun x hx => hfree x hx k
  cases hpre : firstCome claims pre k with
  | some x =>
      obtain ⟨hx, hclaims⟩ := of_firstCome hpre
      have hheld : firstCome claims (pre ++ old.toList ++ post) k = some x := by
        rw [htable, hpre]
        rfl
      rw [replaceFree_of_ne hheld fun r hr => hothers r (Or.inl hr) x (List.mem_append_left _ hx),
        htable, hpre]
      refine iff_of_true rfl ⟨fun hnone => absurd hclaims (hnone x hx), fun _ => ?_⟩
      exact hunblocked x (by simp [hx]) hclaims
  | none =>
      have hnone := firstCome_eq_none_iff.mp hpre
      rw [forall_prop_of_true hnone]
      by_cases hold : Claimed claims old k
      · obtain ⟨r, rfl, hr⟩ := hold
        have hclaimed : Claimed claims (some r) k := ⟨r, rfl, hr⟩
        have hheld : firstCome claims (pre ++ (some r).toList ++ post) k = some r := by
          rw [htable, hpre, if_pos hclaimed]
          rfl
        have hfreed : ¬ blocked k := hunblocked r (by simp) hr
        rw [replaceFree_of_free (Or.inr ⟨r, rfl, hheld⟩), htable, hpre]
        by_cases hnew : Claimed claims new k
        · obtain ⟨r', rfl, -⟩ := id hnew
          simp [hnew, hfreed, hclaimed]
        · simp [hnew, hclaimed, eq_comm (a := none), firstCome_eq_none_iff]
      · cases hpost : firstCome claims post k with
        | some y =>
            obtain ⟨hy, hclaims⟩ := of_firstCome hpost
            have hheld : firstCome claims (pre ++ old.toList ++ post) k = some y := by
              rw [htable, hpre, if_neg hold, hpost]
              rfl
            have hne : some y ≠ new := hothers.ne (List.mem_append_right _ hy)
            have hfreed : ¬ blocked k := hunblocked y (by simp [hy]) hclaims
            have hkeys : ∀ r, old = some r → name y ≠ name r :=
              fun r hr => hothers r (Or.inl hr) y (List.mem_append_right _ hy)
            rw [replaceFree_of_ne hheld hkeys, htable, hpre, hpost]
            by_cases hnew : Claimed claims new k
            · obtain ⟨r, rfl, -⟩ := id hnew
              have hex : ∃ x ∈ post, claims x k := ⟨y, hy, hclaims⟩
              simp [hnew, hold, hex, hne]
            · simp [hnew, hold, hfreed]
        | none =>
            have hheld : firstCome claims (pre ++ old.toList ++ post) k = none := by
              rw [htable, hpre, if_neg hold, hpost]
              rfl
            have hnopost : ¬ ∃ x ∈ post, claims x k := by
              rintro ⟨x, hx, hclaims⟩
              exact firstCome_eq_none_iff.mp hpost x hx hclaims
            rw [replaceFree_of_free (Or.inl hheld), htable, hpre, hpost]
            by_cases hnew : Claimed claims new k
            · obtain ⟨r, rfl, -⟩ := id hnew
              by_cases hblocked : blocked k <;> simp [hnew, hblocked, hnopost]
            · simp [hnew, hnopost]

/-- A key that the old claimant does not claim stays as it is until the new one takes it over. -/
lemma replaceOver_apply (held : κ → Option ρ) (k : κ) :
    replaceOver claims old new held k =
      if Claimed claims new k then new else if Claimed claims old k then none else held k := by
  unfold replaceOver
  cases old <;> cases new <;> simp [takeOver, clear, Claimed]

omit [DecidableEq ν] in
/-- A last-come table that is changed on the spot is that of the new list exactly when neither version
claims a key of a later claimant, and no key that only the old one claims is one of an earlier
claimant. -/
theorem lastCome_replace_iff (hothers : Others name old new (pre ++ post)) :
    replaceOver claims old new (lastCome claims (pre ++ old.toList ++ post)) =
        lastCome claims (pre ++ new.toList ++ post) ↔
      ∀ k, ((∃ x ∈ post, claims x k) → ¬ Claimed claims old k ∧ ¬ Claimed claims new k) ∧
        (Claimed claims old k → ¬ Claimed claims new k → ∀ x ∈ pre, ¬ claims x k) := by
  rw [funext_iff]
  apply forall_congr'
  intro k
  have htable (o : Option ρ) : lastCome claims (pre ++ o.toList ++ post) k =
      (lastCome claims post k).or ((if Claimed claims o k then o else none).or
        (lastCome claims pre k)) := by
    rw [lastCome_append, lastCome_append, lastCome_toList]
  rw [replaceOver_apply, htable, htable]
  cases hpost : lastCome claims post k with
  | some y =>
      obtain ⟨hy, hclaims⟩ := of_lastCome hpost
      have hex : ∃ x ∈ post, claims x k := ⟨y, hy, hclaims⟩
      have hne : new ≠ some y := (hothers.ne (List.mem_append_right _ hy)).symm
      by_cases hnew : Claimed claims new k
      · simp [hnew, hne, hex]
      · by_cases hold : Claimed claims old k <;> simp [hnew, hold, hex]
  | none =>
      have hnopost : ¬ ∃ x ∈ post, claims x k := by
        rintro ⟨x, hx, hclaims⟩
        exact lastCome_eq_none_iff.mp hpost x hx hclaims
      by_cases hnew : Claimed claims new k
      · obtain ⟨r, rfl, -⟩ := id hnew
        simp [hnew, hnopost]
      · by_cases hold : Claimed claims old k
        · simp [hnew, hold, hnopost, eq_comm (a := none), lastCome_eq_none_iff]
        · simp [hnew, hold, hnopost]

end

end Priority
