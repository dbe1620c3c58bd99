import RustProxy.Foundation.Isolation
import RustProxy.Web.Login

/-!
# The logins of the users

Logins of any users, interleaved at their critical sections.

* `login_onCell`: of the login attempts, a login reads and writes what is on record for its user.
* `logins_independent` puts the runs together from the runs of each user: what a user is answered, and
  what is on record for him in the end, has nothing to do with what the others try.
-/

namespace RustProxy.Web

open RustProxy.Control Prog Transition

/-- The login attempts and the logins that run, those of each user by number. -/
abbrev UserPool := CellPool String (Option LoginAttempt) LoginOp (ApiResponse LoginResponse)

/-- A login arrives, or one of a user performs its next critical section at a time. -/
abbrev UserEvent := CellEvent String ℕ LoginCall

/-- The user that a login is for. -/
def LoginCall.username (c : LoginCall) : String := c.req.username

/-- Whether something is done for the user. -/
def ofUser (u : String) (e : UserEvent) : Bool := e.key LoginCall.username = u

/-- Before any login, with what is on record. -/
def UserPool.start (attempts : LoginAttempts) : UserPool := ⟨attempts, fun _ _ => none⟩

variable (L : LoginLibs) (web : WebSection)

/-- One step of the logins. -/
def usersStep : UserPool → UserEvent → Option UserPool :=
  CellPool.step (loginSemantics L web) LoginCall.username (login L web)

/-! ## A login keeps to its user -/

/-- The check looks at its own user only. -/
lemma check_onCell (username : String) :
    (loginSemantics L web).OnCell username (.checkLoginRateLimit username) where
  response now attempts attempts' h := by
    change (checkLoginRateLimit _ _ _).1 = (checkLoginRateLimit _ _ _).1
    unfold checkLoginRateLimit
    rw [← h]
    cases attempts username with
    | none => rfl
    | some attempt =>
        dsimp only
        split_ifs <;> rfl
  cell now attempts attempts' h := by
    change (checkLoginRateLimit _ _ _).2 username = (checkLoginRateLimit _ _ _).2 username
    unfold checkLoginRateLimit
    cases hattempt : attempts username with
    | none =>
        rw [← h, hattempt]
        exact hattempt.trans (hattempt.symm.trans h)
    | some attempt =>
        rw [← h, hattempt]
        dsimp only
        split_ifs with hexpired hfull
        · simp
        · exact h
        · exact h
  others now attempts other hother := by
    change (checkLoginRateLimit username now attempts).2 other = attempts other
    rcases check_cases username now attempts with ⟨hcheck, -⟩ | ⟨attempts', hcheck, hadmits⟩
    · rw [hcheck]
    · rw [hcheck]
      exact hadmits.of_ne hother

/-- The password is no record. -/
lemma verify_onCell (username : String) (req : LoginRequest) :
    (loginSemantics L web).OnCell username (.verify req) where
  response _ _ _ _ := rfl
  cell _ _ _ h := h
  others _ _ _ _ := rfl

/-- The record is that of its own user. -/
lemma record_onCell (username : String) (success : Bool) :
    (loginSemantics L web).OnCell username (.recordLoginAttempt username success) where
  response _ _ _ _ := rfl
  cell now attempts attempts' h := by
    change recordLoginAttempt _ _ _ _ username = recordLoginAttempt _ _ _ _ username
    cases success with
    | false => rw [record_failed, record_failed, h]
    | true => simp [recordLoginAttempt]
  others _ _ _ hother := record_of_ne hother

/-- Every critical section of a login is about its user. -/
lemma login_onCell (c : LoginCall) :
    (login L web c).OnCell (loginSemantics L web) c.username := by
  rw [login_eq]
  refine .call (check_onCell L web _) fun admitted => ?_
  cases admitted with
  | false => exact .ret _
  | true =>
      refine .call (verify_onCell L web _ _) fun ok => ?_
      cases ok with
      | false => exact .call (record_onCell L web _ _) fun _ => .ret _
      | true => exact .call (record_onCell L web _ _) fun _ => .ret _

/-! ## All users -/

/-- At the start no login is under way. -/
lemma separate_start (attempts : LoginAttempts) :
    (UserPool.start attempts).Separate (loginSemantics L web) := by
  intro k i prog hprog
  cases hprog

/-- What is seen of the start beside others. -/
lemma restrict_start (attempts others : LoginAttempts) (u : String) :
    (UserPool.start attempts).restrict others u =
      UserPool.start (Function.update others u (attempts u)) := by
  simp [CellPool.restrict, UserPool.start]

/-- **Logins are independent.**  Something is a run of the logins, with these records and answers in
the end, exactly if for each user what is done for him is a run, alone and with whatever on record for
the others, with his record and his answers. -/
theorem logins_independent (attempts : LoginAttempts) (es : List UserEvent) (p : UserPool) :
    exec (usersStep L web) (UserPool.start attempts) es = some p ↔ ∀ u others,
      exec (usersStep L web) (UserPool.start (Function.update others u (attempts u)))
        (es.filter (ofUser u)) = some (p.restrict others u) := by
  simp only [← restrict_start]
  exact CellPool.exec_iff_restrict (login_onCell L web) (separate_start L web attempts)

end RustProxy.Web
