import Mathlib.Algebra.Order.BigOperators.Group.List
import Mathlib.Algebra.Order.Ring.Nat
import RustProxy.Foundation.Ownership
import RustProxy.Foundation.Progress
import RustProxy.Web.Lockout

/-!
# Guesses at the same time

Logins of one user that interleave at their critical sections.

* `InWindow` are the events of a run in one lockout window in which no login succeeds.
* `Window` says how the record of the user follows the logins that have failed, as long as no more
  than five have been let in; `window_step` is the step lemma.
* `wrongPasswords_le_iff` is about any number of logins and any schedule: at most five wrong passwords
  are verified exactly if no login is let in while the failures on record and the logins in flight are
  five.
-/

namespace RustProxy.Web

open RustProxy.Control Prog Transition

/-- Tasks that each run one login; the ghost state of a task is the number of wrong passwords that
have been verified for it. -/
abbrev LoginPool := Pool LoginOp (ApiResponse LoginResponse) ℕ LoginAttempts

/-- A login arrives, or one performs its next critical section at a time. -/
abbrev LoginEvent := PoolEvent LoginCall ℕ

/-- A login of the pool. -/
abbrev LoginTask := PoolTask LoginOp (ApiResponse LoginResponse) ℕ

section

variable (L : LoginLibs) (web : WebSection)

/-- Whether `verify_password` is called for the request and says no. -/
def wrongPassword (req : LoginRequest) : Bool :=
  req.username = web.user && !verifyPassword L req.password web.password

/-- The wrong passwords verified, with an action more. -/
def countWrong : {β : Type} → ℕ → LoginOp β → β → ℕ
  | _, n, .verify req, _ => n + (wrongPassword L web req).toNat
  | _, n, _, _ => n

/-- No login owns a part of the login attempts. -/
def noCells : Cells (loginSemantics L web) Empty where
  Frame := fun _ _ _ => True
  frame_refl := fun _ _ => trivial
  frame_trans := fun _ _ => trivial
  Local := fun _ _ => False
  frame_of_local := fun _ _ _ _ => trivial

/-- The bookkeeping of the wrong passwords. -/
def guesses : Ownership (noCells L web) ℕ where
  start := 0
  held := fun _ => none
  track := countWrong L web
  assumes := fun _ _ _ _ => True
  Settled := fun _ _ => True
  held_start := rfl
  settled_of_frame := fun _ _ => trivial
  held_of_local := fun _ h => h.elim

/-- The next state of the logins. -/
def loginStep : LoginPool → LoginEvent → Option LoginPool :=
  Pool.step (guesses L web) (login L web) fun _ _ _ => true

/-- No login of the user succeeds, and all of them run in one lockout window. -/
def InWindow (u : String) (start : ℕ) : LoginEvent → Prop
  | .arrive c => c.req.username = u ∧ userOk L web c.req = false
  | .step _ now => start ≤ now ∧ now ≤ start + lockout

end

/-- The wrong passwords that have been verified. -/
def wrongPasswords (p : LoginPool) : ℕ := (p.tasks.map PoolTask.ghost).sum

/-- One for a login between its check and its record. -/
def inFlight (t : LoginTask) : ℕ :=
  match t.prog with
  | .call (.verify _) _ => 1
  | .call (.recordLoginAttempt _ _) _ => 1
  | _ => 0

/-- One for a login that has failed. -/
def hasFailed (t : LoginTask) : ℕ :=
  match t.prog with
  | .ret answer => if answer.code = 401 then 1 else 0
  | _ => 0

/-- The logins between their check and their record. -/
def flying (p : LoginPool) : ℕ := (p.tasks.map inFlight).sum

/-- The logins that have failed. -/
def failed (p : LoginPool) : ℕ := (p.tasks.map hasFailed).sum

/-- The failures that a check at the time `now` finds on record. -/
def failuresAt (now : ℕ) : Option LoginAttempt → ℕ
  | some attempt => if attempt.Full ∧ attempt.Expired now then 0 else attempt.count.toNat
  | none => 0

/-- The next critical section of the login is its check. -/
def AtCheck (t : LoginTask) : Prop :=
  match t.prog with
  | .call (.checkLoginRateLimit _) _ => True
  | _ => False

/-- A check that finds fewer than five failures of the user on record finds fewer than five failures
and logins in flight. -/
def LeavesRoom (u : String) (p : LoginPool) : LoginEvent → Prop
  | .arrive _ => True
  | .step k now => ∀ t, p.tasks[k]? = some t → AtCheck t →
      failuresAt now (p.state u) < maxLoginAttempts.toNat →
        failuresAt now (p.state u) + flying p < maxLoginAttempts.toNat

/-! ## The record of a window -/

/-- How the record follows the failures `failed` of a window, with `flying` logins in flight. -/
inductive Tally (start : ℕ) : Option LoginAttempt → ℕ → ℕ → Prop
  | none {flying : ℕ} : Tally start none 0 flying
  | expired {attempt : LoginAttempt} (hfull : attempt.Full) (hexpired : attempt.Expired start) :
      Tally start (some attempt) 0 0
  | counting {attempt : LoginAttempt} {flying : ℕ} (hstart : start ≤ attempt.windowStart) :
      Tally start (some attempt) attempt.count.toNat flying

/-- A record that has expired stays so. -/
lemma LoginAttempt.Expired.mono {attempt : LoginAttempt} {t t' : ℕ} (h : attempt.Expired t)
    (ht : t ≤ t') : attempt.Expired t' :=
  Nat.lt_of_lt_of_le h (Nat.div_le_div_right (Nat.sub_le_sub_right ht _))

/-- In the window a record that was begun in it does not expire. -/
lemma not_expired {attempt : LoginAttempt} {start now : ℕ} (hstart : start ≤ attempt.windowStart)
    (hnow : now ≤ start + lockout) : ¬ attempt.Expired now := by
  have helapsed : now - attempt.windowStart ≤ loginLockoutSecs * second := by
    rw [← lockout]
    omega
  exact not_lt.mpr (Nat.div_le_of_le_mul (by rwa [mul_comm] at helapsed))

/-- Inside the window, the failures on record are those of the tally. -/
lemma Tally.failuresAt_eq {start now failed flying : ℕ} {attempt : Option LoginAttempt}
    (h : Tally start attempt failed flying) (hstart : start ≤ now) (hnow : now ≤ start + lockout) :
    failuresAt now attempt = failed := by
  cases h with
  | none => rfl
  | expired hfull hexpired => exact if_pos ⟨hfull, hexpired.mono hstart⟩
  | counting hbegun => exact if_neg fun h => not_expired hbegun hnow h.2

/-- A login is let in. -/
lemma Tally.pass {start now failed flying : ℕ} {u : String} {attempts attempts' : LoginAttempts}
    (h : Tally start (attempts u) failed flying) (hadmits : Admits u now attempts attempts')
    (hstart : start ≤ now) (hnow : now ≤ start + lockout) :
    Tally start (attempts' u) failed (flying + 1) := by
  cases hadmits with
  | few hfew =>
      generalize hattempt : attempts u = attempt at h hfew ⊢
      cases h with
      | none => exact .none
      | expired hfull _ => exact absurd hfull (hfew _ rfl)
      | counting hbegun => exact .counting hbegun
  | @expired attempt hattempt hfull hexpired =>
      rw [hattempt] at h
      rw [Function.update_self]
      cases h with
      | expired => exact .counting hstart
      | counting hbegun => exact absurd hexpired (not_expired hbegun hnow)

/-- A login in flight fails. -/
lemma Tally.fail {start now failed flying : ℕ} {u : String} {attempts : LoginAttempts}
    (h : Tally start (attempts u) failed (flying + 1)) (hfew : failed ≤ maxLoginAttempts.toNat)
    (hstart : start ≤ now) :
    Tally start (recordLoginAttempt u false now attempts u) (failed + 1) flying := by
  rw [record_failed]
  generalize attempts u = attempt at h
  cases h with
  | none => exact .counting hstart
  | @counting attempt _ hbegun =>
      rw [← toNat_succ hfew]
      exact @Tally.counting start { attempt with count := attempt.count + 1 } flying hbegun

/-! ## Steps of the logins -/

section

variable {L : LoginLibs} {web : WebSection} {u : String} {start : ℕ} {p p' : LoginPool}
  {e : LoginEvent} {t t' : LoginTask}

/-- Who is let in has failures left. -/
lemma failuresAt_lt_of_admits {now : ℕ} {attempts attempts' : LoginAttempts}
    (h : Admits u now attempts attempts') :
    failuresAt now (attempts u) < maxLoginAttempts.toNat := by
  cases h with
  | few hfew =>
      refine lt_of_le_of_lt ?_ (failuresOnRecord_lt hfew)
      cases attempts u with
      | none => exact le_refl _
      | some attempt =>
          rw [failuresAt]
          split
          · exact Nat.zero_le _
          · exact le_refl _
  | expired hattempt hfull hexpired =>
      rw [hattempt, failuresAt, if_pos ⟨hfull, hexpired⟩]
      decide

/-- A full record that has not expired leaves none. -/
lemma not_failuresAt_lt {now : ℕ} {attempt : LoginAttempt} (hfull : attempt.Full)
    (hlocked : ¬ attempt.Expired now) :
    ¬ failuresAt now (some attempt) < maxLoginAttempts.toNat := by
  rw [failuresAt, if_neg fun h => hlocked h.2]
  exact not_lt.mpr (full_iff.mp hfull)

variable (L web) in
/-- The course of a login of the user that does not succeed, with the wrong passwords verified. -/
inductive Guessing (u : String) : LoginTask → Prop
  | asked {req : LoginRequest} {next : Bool → Prog LoginOp (ApiResponse LoginResponse)}
      {rest : Bool → Prog LoginOp (ApiResponse LoginResponse)} {answer : ApiResponse LoginResponse}
      (hcode : answer.code = 429) (hrefused : next false = .ret answer)
      (hadmitted : next true = .call (.verify req) rest)
      (hrest : Guessing u ⟨0, .call (.verify req) rest⟩) :
      Guessing u ⟨0, .call (.checkLoginRateLimit u) next⟩
  | verifying {req : LoginRequest} {next : Bool → Prog LoginOp (ApiResponse LoginResponse)}
      {answer : ApiResponse LoginResponse} (huser : req.username = u)
      (hwrong : userOk L web req = false) (hcode : answer.code = 401)
      (hnext : next false = .call (.recordLoginAttempt u false) fun _ => .ret answer) :
      Guessing u ⟨0, .call (.verify req) next⟩
  | recording {answer : ApiResponse LoginResponse} (hcode : answer.code = 401) :
      Guessing u ⟨(decide (u = web.user)).toNat,
        .call (.recordLoginAttempt u false) fun _ => .ret answer⟩
  | failed {answer : ApiResponse LoginResponse} (hcode : answer.code = 401) :
      Guessing u ⟨(decide (u = web.user)).toNat, .ret answer⟩
  | refused {answer : ApiResponse LoginResponse} (hcode : answer.code = 429) :
      Guessing u ⟨0, .ret answer⟩

/-- A wrong password is verified for the user of the panel only. -/
lemma wrongPassword_eq {req : LoginRequest} (huser : req.username = u)
    (hwrong : userOk L web req = false) : wrongPassword L web req = decide (u = web.user) := by
  subst huser
  rw [userOk] at hwrong
  rw [wrongPassword]
  by_cases hu : req.username = web.user
  · rw [decide_eq_true hu, Bool.true_and] at hwrong ⊢
    rw [hwrong]
    rfl
  · rw [decide_eq_false hu, Bool.false_and]

/-- What a step does to the numbers of failures and of logins in flight. -/
inductive Counts (u : String) (p p' : LoginPool) : LoginEvent → Prop
  | quiet {e : LoginEvent} (hroom : LeavesRoom u p e) (hstate : p'.state = p.state)
      (hfailed : failed p' = failed p) (hflying : flying p' = flying p) : Counts u p p' e
  | admitted {k now : ℕ} (hadmits : Admits u now p.state p'.state)
      (hroom : LeavesRoom u p (.step k now) ↔
        failuresAt now (p.state u) + flying p < maxLoginAttempts.toNat)
      (hfailed : failed p' = failed p) (hflying : flying p' = flying p + 1) :
      Counts u p p' (.step k now)
  | failed {k now : ℕ} (hroom : LeavesRoom u p (.step k now))
      (hstate : p'.state = recordLoginAttempt u false now p.state)
      (hfailed : failed p' = failed p + 1) (hflying : flying p' + 1 = flying p) :
      Counts u p p' (.step k now)

/-- A login with a wrong password is a guess. -/
lemma guessing_login {c : LoginCall} (huser : c.req.username = u)
    (hwrong : userOk L web c.req = false) : Guessing L web u ⟨0, login L web c⟩ := by
  rw [login_eq, huser]
  exact .asked rfl rfl rfl (.verifying huser hwrong rfl rfl)

/-- A step of a login that is not a check leaves room. -/
lemma leavesRoom_of_not_atCheck {k now : ℕ} (htask : p.tasks[k]? = some t) (h : ¬ AtCheck t) :
    LeavesRoom u p (.step k now) := by
  intro t' ht' hcheck
  obtain rfl := Option.some.inj (htask.symm.trans ht')
  exact absurd hcheck h

/-- A login has failed if it was answered with 401. -/
lemma hasFailed_of_code {n : ℕ} {answer : ApiResponse LoginResponse} {code : UInt16}
    (hcode : answer.code = code) : hasFailed ⟨n, .ret answer⟩ = if code = 401 then 1 else 0 := by
  rw [← hcode]
  rfl

/-- The step of one login. -/
lemma guessing_step {β : Type} {op : LoginOp β} {next : β → Prog LoginOp (ApiResponse LoginResponse)}
    {n k now : ℕ} (h : Guessing L web u ⟨n, .call op next⟩)
    (htask : p.tasks[k]? = some ⟨n, .call op next⟩) {out : β × LoginAttempts}
    (hout : (loginSemantics L web).perform op now p.state = out) :
    Guessing L web u ⟨countWrong L web n op out.1, next out.1⟩ ∧
      Counts u p ⟨out.2, p.tasks.set k ⟨countWrong L web n op out.1, next out.1⟩⟩ (.step k now) := by
  have hfailed := sum_map_set hasFailed htask ⟨countWrong L web n op out.1, next out.1⟩
  have hflying := sum_map_set inFlight htask ⟨countWrong L web n op out.1, next out.1⟩
  cases h with
  | asked hcode hrefused hadmitted hrest =>
      have hout' : checkLoginRateLimit u now p.state = out := hout
      rcases check_cases u now p.state with
        ⟨hcheck, attempt, hattempt, hfull, hlocked⟩ | ⟨attempts', hcheck, hadmits⟩
      · obtain rfl := hcheck.symm.trans hout'
        dsimp only at hfailed hflying ⊢
        rw [hrefused] at hfailed hflying ⊢
        refine ⟨.refused hcode, .quiet ?_ rfl ?_ ?_⟩
        · intro _ _ _ hlt
          rw [hattempt] at hlt
          exact absurd hlt (not_failuresAt_lt hfull hlocked)
        · rw [hasFailed_of_code hcode] at hfailed
          exact hfailed
        · exact hflying
      · obtain rfl := hcheck.symm.trans hout'
        dsimp only at hfailed hflying ⊢
        rw [hadmitted] at hfailed hflying ⊢
        refine ⟨hrest, .admitted hadmits ?_ ?_ ?_⟩
        · exact ⟨fun h => h _ htask trivial (failuresAt_lt_of_admits hadmits), fun h _ _ _ _ => h⟩
        · exact hfailed
        · exact hflying
  | verifying huser hwrong hcode hnext =>
      have hout' : (userOk L web _, p.state) = out := hout
      rw [hwrong] at hout'
      subst hout'
      dsimp only at hfailed hflying ⊢
      rw [hnext] at hfailed hflying ⊢
      refine ⟨?_, .quiet (leavesRoom_of_not_atCheck htask id) rfl hfailed ?_⟩
      · rw [countWrong, wrongPassword_eq huser hwrong, Nat.zero_add]
        exact .recording hcode
      · exact Nat.add_right_cancel hflying
  | recording hcode =>
      obtain rfl : ((), recordLoginAttempt u false now p.state) = out := hout
      rw [hasFailed_of_code hcode] at hfailed
      exact ⟨.failed hcode, .failed (leavesRoom_of_not_atCheck htask id) rfl hfailed hflying⟩

/-- A step of the pool. -/
lemma counts_of_step (htasks : ∀ t ∈ p.tasks, Guessing L web u t)
    (hwindow : InWindow L web u start e) (h : loginStep L web p e = some p') :
    (∀ t ∈ p'.tasks, Guessing L web u t) ∧ Counts u p p' e := by
  obtain ⟨req, rfl, rfl⟩ | ⟨k, now, n, β, op, next, rfl, htask, -, rfl⟩ := Pool.step_cases h
  · refine ⟨?_, .quiet trivial rfl ?_ ?_⟩
    · intro t ht
      rcases List.mem_append.mp ht with ht | ht
      · exact htasks t ht
      · rw [List.mem_singleton.mp ht]
        exact guessing_login hwindow.1 hwindow.2
    · rw [failed, List.map_append, List.sum_append]
      rfl
    · rw [flying, List.map_append, List.sum_append]
      rfl
  · obtain ⟨hlogin, hcounts⟩ := guessing_step (htasks _ (List.mem_of_getElem? htask)) htask rfl
    refine ⟨?_, hcounts⟩
    intro t ht
    rcases List.mem_or_eq_of_mem_set ht with ht | rfl
    · exact htasks t ht
    · exact hlogin

variable (L web) in
/-- At most five logins have been let in, and the record follows those that have failed. -/
structure Window (u : String) (start : ℕ) (p : LoginPool) : Prop where
  tasks : ∀ t ∈ p.tasks, Guessing L web u t
  few : failed p + flying p ≤ maxLoginAttempts.toNat
  tally : Tally start (p.state u) (failed p) (flying p)

variable (L web) in
/-- More than five logins have been let in. -/
structure Overrun (u : String) (p : LoginPool) : Prop where
  tasks : ∀ t ∈ p.tasks, Guessing L web u t
  many : maxLoginAttempts.toNat < failed p + flying p

/-- Inside the window, a step leaves room or overruns. -/
lemma window_step (h : Window L web u start p) (hwindow : InWindow L web u start e)
    (hstep : loginStep L web p e = some p') :
    (LeavesRoom u p e ∧ Window L web u start p') ∨ (¬ LeavesRoom u p e ∧ Overrun L web u p') := by
  obtain ⟨htasks, hcounts⟩ := counts_of_step h.tasks hwindow hstep
  cases hcounts with
  | quiet hroom hstate hfailed hflying =>
      refine Or.inl ⟨hroom, htasks, ?_, ?_⟩
      · rw [hfailed, hflying]
        exact h.few
      · rw [hstate, hfailed, hflying]
        exact h.tally
  | admitted hadmits hroom hfailed hflying =>
      obtain ⟨hstart, hend⟩ := hwindow
      rw [hroom, h.tally.failuresAt_eq hstart hend]
      by_cases hlt : failed p + flying p < maxLoginAttempts.toNat
      · refine Or.inl ⟨hlt, htasks, ?_, ?_⟩
        · rw [hfailed, hflying]
          exact hlt
        · rw [hfailed, hflying]
          exact h.tally.pass hadmits hstart hend
      · refine Or.inr ⟨hlt, htasks, ?_⟩
        rw [hfailed, hflying]
        exact Nat.lt_succ_of_le (not_lt.mp hlt)
  | failed hroom hstate hfailed hflying =>
      have hfew := h.few
      have htally := h.tally
      rw [← hflying] at hfew htally
      refine Or.inl ⟨hroom, htasks, ?_, ?_⟩
      · omega
      · rw [hstate, hfailed]
        exact htally.fail (by omega) hwindow.1

/-- An overrun stays one. -/
lemma overrun_step (h : Overrun L web u p) (hwindow : InWindow L web u start e)
    (hstep : loginStep L web p e = some p') : Overrun L web u p' := by
  obtain ⟨htasks, hcounts⟩ := counts_of_step h.tasks hwindow hstep
  have hmany := h.many
  refine ⟨htasks, ?_⟩
  cases hcounts with
  | quiet _ _ hfailed hflying => omega
  | admitted _ _ hfailed hflying => omega
  | failed _ _ hfailed hflying => omega

/-! ## Wrong passwords -/

/-- A wrong password was checked for a login that has failed or is under way. -/
lemma ghost_le (h : Guessing L web u t) : t.ghost ≤ hasFailed t + inFlight t := by
  cases h with
  | asked => exact Nat.zero_le _
  | verifying => exact Nat.zero_le _
  | recording hcode => exact Bool.toNat_le _
  | failed hcode =>
      rw [hasFailed_of_code hcode]
      exact Bool.toNat_le _
  | refused => exact Nat.zero_le _

/-- Every login that has been answered and was let in has had its password verified. -/
lemma ghost_of_answered (h : Guessing L web web.user t) (hdone : t.prog.result?.isSome) :
    t.ghost = hasFailed t + inFlight t := by
  cases h with
  | asked => cases hdone
  | verifying => cases hdone
  | recording => cases hdone
  | failed hcode =>
      rw [hasFailed_of_code hcode, decide_eq_true rfl]
      rfl
  | refused hcode =>
      rw [hasFailed_of_code hcode]
      rfl

/-- For another name than that of the panel's user no password is verified. -/
lemma ghost_of_other (hu : u ≠ web.user) (h : Guessing L web u t) : t.ghost = 0 := by
  cases h with
  | asked => rfl
  | verifying => rfl
  | recording => exact congrArg Bool.toNat (decide_eq_false hu)
  | failed => exact congrArg Bool.toNat (decide_eq_false hu)
  | refused => rfl

/-- There are no more wrong passwords than failures and logins under way. -/
lemma wrongPasswords_le (h : ∀ t ∈ p.tasks, Guessing L web u t) :
    wrongPasswords p ≤ failed p + flying p := by
  rw [wrongPasswords, failed, flying, ← List.sum_map_add]
  exact List.sum_le_sum fun t ht => ghost_le (h t ht)

/-- When all logins are answered, wrong passwords are failures and logins under way. -/
lemma wrongPasswords_of_quiescent (h : ∀ t ∈ p.tasks, Guessing L web web.user t)
    (hq : p.Quiescent) : wrongPasswords p = failed p + flying p := by
  rw [wrongPasswords, failed, flying, ← List.sum_map_add]
  exact congrArg List.sum (List.map_congr_left fun t ht => ghost_of_answered (h t ht) (hq t ht))

/-- For other names no password is checked. -/
lemma wrongPasswords_of_other (hu : u ≠ web.user) (h : ∀ t ∈ p.tasks, Guessing L web u t) :
    wrongPasswords p = 0 := by
  rw [wrongPasswords, List.map_congr_left fun t ht => ghost_of_other hu (h t ht)]
  simp

end

/-- Any number of logins of one user, on any schedule, in one lockout window that begins with no
failure on record, or with a lockout that has passed, none of them successful.  If the user is not
that of the panel, or no login is let in while the failures on record and the logins in flight are
five, then at most five wrong passwords are verified; and when all logins have been answered, only
then. -/
theorem wrongPasswords_le_iff (L : LoginLibs) (web : WebSection) (u : String) (start : ℕ)
    (attempts : LoginAttempts) (events : List LoginEvent) (p : LoginPool)
    (hopen : ∀ attempt, attempts u = some attempt → attempt.Full ∧ attempt.Expired start)
    (hwindow : ∀ e ∈ events, InWindow L web u start e)
    (hrun : exec (loginStep L web) ⟨attempts, []⟩ events = some p) :
    ((u = web.user → EachStep (loginStep L web) (LeavesRoom u) ⟨attempts, []⟩ events) →
        wrongPasswords p ≤ maxLoginAttempts.toNat) ∧
      (p.Quiescent → wrongPasswords p ≤ maxLoginAttempts.toNat →
        u = web.user → EachStep (loginStep L web) (LeavesRoom u) ⟨attempts, []⟩ events) := by
  have hstart : Window L web u start ⟨attempts, []⟩ := by
    refine ⟨fun t ht => (List.not_mem_nil ht).elim, Nat.zero_le _, ?_⟩
    change Tally start (attempts u) 0 0
    generalize attempts u = attempt at hopen
    cases attempt with
    | none => exact .none
    | some attempt => exact .expired (hopen attempt rfl).1 (hopen attempt rfl).2
  have hends : (Window L web u start p ∧
        EachStep (loginStep L web) (LeavesRoom u) ⟨attempts, []⟩ events) ∨
      (Overrun L web u p ∧ ¬ EachStep (loginStep L web) (LeavesRoom u) ⟨attempts, []⟩ events) := by
    exact good_or_bad (L := fun _ e => InWindow L web u start e)
      (fun _ _ _ h hwindow hstep => window_step h hwindow hstep)
      (fun _ _ _ h hwindow hstep => overrun_step h hwindow hstep) hstart
      (eachStep_of_forall_mem hwindow) hrun
  rcases hends with ⟨h, hsteps⟩ | ⟨h, hnot⟩
  · exact ⟨fun _ => (wrongPasswords_le h.tasks).trans h.few, fun _ _ _ => hsteps⟩
  · constructor
    · intro hcondition
      rw [wrongPasswords_of_other (fun hu => hnot (hcondition hu)) h.tasks]
      exact Nat.zero_le _
    · rintro hq hle rfl
      have hmany := h.many
      rw [wrongPasswords_of_quiescent h.tasks hq] at hle
      exact absurd hmany (not_lt.mpr hle)

/-! ## Six guesses -/

instance (L : LoginLibs) (web : WebSection) (u : String) (start : ℕ) :
    ∀ e : LoginEvent, Decidable (InWindow L web u start e)
  | .arrive c => inferInstanceAs (Decidable (c.req.username = u ∧ userOk L web c.req = false))
  | .step _ now => inferInstanceAs (Decidable (start ≤ now ∧ now ≤ start + lockout))

/-- A login with a wrong password. -/
def guess : LoginCall where
  req := { username := "admin", password := "guess" }
  sinceEpoch := .ok 0

/-- Two logins, one after the other. -/
def inSequence : List LoginEvent :=
  [.arrive guess, .arrive guess] ++ List.replicate 3 (.step 0 0) ++ List.replicate 3 (.step 1 second)

/-- Logins one after the other check no more passwords than allowed. -/
theorem wrongPasswords_inSequence :
    ∃ p, exec (loginStep sampleLibs samplePanel) ⟨fun _ => none, []⟩ inSequence = some p ∧
      ((("admin" = samplePanel.user → EachStep (loginStep sampleLibs samplePanel)
            (LeavesRoom "admin") ⟨fun _ => none, []⟩ inSequence) →
          wrongPasswords p ≤ maxLoginAttempts.toNat) ∧
        (p.Quiescent → wrongPasswords p ≤ maxLoginAttempts.toNat →
          "admin" = samplePanel.user → EachStep (loginStep sampleLibs samplePanel)
            (LeavesRoom "admin") ⟨fun _ => none, []⟩ inSequence)) := by
  have hrun : ((exec (loginStep sampleLibs samplePanel) ⟨fun _ => none, []⟩ inSequence).map
      wrongPasswords) = some 2 := by decide +kernel
  obtain ⟨p, hexec, -⟩ := Option.map_eq_some_iff.mp hrun
  exact ⟨p, hexec, wrongPasswords_le_iff sampleLibs samplePanel "admin" 0 (fun _ => none) inSequence
    p (fun attempt h => by cases h) (by decide +kernel) hexec⟩

/-- Six logins that are all let in before the first of them has failed. -/
def sixAtOnce : List LoginEvent :=
  List.replicate 6 (.arrive guess) ++
    (List.replicate 3 ((List.range 6).map fun k => PoolEvent.step k 0)).flatten

/-- All six have a wrong password verified. -/
theorem six_wrong_passwords :
    ¬ ∀ (L : LoginLibs) (web : WebSection) (u : String) (start : ℕ) (attempts : LoginAttempts)
      (events : List LoginEvent) (p : LoginPool),
      (∀ attempt, attempts u = some attempt → attempt.Full ∧ attempt.Expired start) →
      (∀ e ∈ events, InWindow L web u start e) →
      exec (loginStep L web) ⟨attempts, []⟩ events = some p →
        wrongPasswords p ≤ maxLoginAttempts.toNat := by
  intro h
  have hrun : ((exec (loginStep sampleLibs samplePanel) ⟨fun _ => none, []⟩ sixAtOnce).map
      wrongPasswords) = some 6 := by decide +kernel
  obtain ⟨p, hexec, hp⟩ := Option.map_eq_some_iff.mp hrun
  have hle := h sampleLibs samplePanel "admin" 0 (fun _ => none) sixAtOnce p
    (fun attempt h => by cases h) (by decide +kernel) hexec
  rw [hp] at hle
  exact absurd hle (by decide)

end RustProxy.Web
