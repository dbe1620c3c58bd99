import RustProxy.Control.Api
import RustProxy.Foundation.Timed
import RustProxy.Web.App

/-!
# The login and its rate limit

`login` of `crates/web/src/api.rs`, `generate_jwt` of `crates/web/src/auth.rs` and the login attempts
of `crates/web/src/state.rs`.

* bcrypt and jsonwebtoken's `encode` are outside the repository; they are the parameter `LoginLibs`.
  What the wall clock says when a login makes its token comes with the login (`LoginCall`).
* An `Instant` is a number of nanoseconds.
* The check, the verification and the recording of a login are three critical sections; between them
  other logins run.  The configuration is never written.
-/

namespace RustProxy.Web

open RustProxy.Control Prog

/-- Source: `config.rs`, `WebSection`, without what only the start of the panel reads. -/
structure WebSection where
  user : String
  password : String
  jwtSecret : String
  tokenExpireHours : UInt64
  deriving DecidableEq, Repr

/-- Source: `api.rs`, `LoginRequest`. -/
structure LoginRequest where
  username : String
  password : String
  deriving DecidableEq, Repr

/-- Source: `api.rs`, `LoginResponse`. -/
structure LoginResponse where
  token : String
  expiresIn : UInt64
  deriving DecidableEq, Repr

/-- A request and what `SystemTime::now().duration_since(UNIX_EPOCH)` says when its token is made. -/
structure LoginCall where
  req : LoginRequest
  sinceEpoch : Except String UInt64
  deriving DecidableEq, Repr

/-- What a login uses of bcrypt and jsonwebtoken. -/
structure LoginLibs where
  bcryptVerify : String → String → Except String Bool
  encode : JwtClaims → String → Except String String

/-! ## The rate limit -/

/-- Source: `state.rs`, `MAX_LOGIN_ATTEMPTS`. -/
def maxLoginAttempts : UInt32 := 5

/-- Source: `state.rs`, `LOGIN_LOCKOUT_SECS`. -/
def loginLockoutSecs : ℕ := 300

/-- Source: `Duration::as_secs`. -/
def asSecs (elapsed : ℕ) : ℕ := elapsed / second

/-- Source: `state.rs`, `LoginAttempt`. -/
structure LoginAttempt where
  count : UInt32
  windowStart : ℕ
  deriving DecidableEq, Repr

/-- Source: `state.rs`, `login_attempts`. -/
abbrev LoginAttempts := String → Option LoginAttempt

/-- The largest number of failures is on record. -/
def LoginAttempt.Full (attempt : LoginAttempt) : Prop := maxLoginAttempts ≤ attempt.count

/-- More seconds than a lockout has are over since the first failure. -/
def LoginAttempt.Expired (attempt : LoginAttempt) (now : ℕ) : Prop :=
  loginLockoutSecs < asSecs (now - attempt.windowStart)

instance (attempt : LoginAttempt) : Decidable attempt.Full :=
  inferInstanceAs (Decidable (maxLoginAttempts ≤ attempt.count))

instance (attempt : LoginAttempt) (now : ℕ) : Decidable (attempt.Expired now) :=
  inferInstanceAs (Decidable (loginLockoutSecs < asSecs (now - attempt.windowStart)))

/-- Source: `state.rs`, `check_login_rate_limit`. -/
def checkLoginRateLimit (username : String) (now : ℕ) (attempts : LoginAttempts) :
    Bool × LoginAttempts :=
  match attempts username with
  | some attempt =>
      if attempt.Full ∧ attempt.Expired now then
        (true, Function.update attempts username (some { count := 0, windowStart := now }))
      else if attempt.Full then (false, attempts)
      else (true, attempts)
  | none => (true, attempts)

/-- Source: `state.rs`, `record_login_attempt`. -/
def recordLoginAttempt (username : String) (success : Bool) (now : ℕ) (attempts : LoginAttempts) :
    LoginAttempts :=
  if success then Function.update attempts username none
  else
    let attempt := (attempts username).getD { count := 0, windowStart := now }
    Function.update attempts username (some { attempt with count := attempt.count + 1 })

/-! ## Verification -/

/-- Source: `api.rs`, `constant_time_eq`. -/
def constantTimeEq (a b : List UInt8) : Bool :=
  if a.length ≠ b.length then false
  else (a.zip b).foldl (fun result xy => result ||| (xy.1 ^^^ xy.2)) 0 = 0

section

variable (L : LoginLibs) (web : WebSection)

/-- Source: `api.rs`, `verify_password`. -/
def verifyPassword (provided stored : String) : Bool :=
  if startsWith stored "$2b$" || startsWith stored "$2a$" then
    (L.bcryptVerify provided stored).toOption.getD false
  else constantTimeEq provided.toUTF8.data.toList stored.toUTF8.data.toList

/-- Source: `api.rs`, `user_ok` in `login`. -/
def userOk (req : LoginRequest) : Bool :=
  req.username = web.user && verifyPassword L req.password web.password

/-- Source: `auth.rs`, `generate_jwt`. -/
def generateJwt (sinceEpoch : Except String UInt64) (username secret : String)
    (expireHours : UInt64) : Except String String :=
  match sinceEpoch with
  | .error e => .error ("时间获取失败: " ++ e)
  | .ok now =>
      let claims : JwtClaims :=
        { sub := username, iat := now.toNat, exp := (now + expireHours * 3600).toNat }
      match L.encode claims secret with
      | .error e => .error ("Token 生成失败: " ++ e)
      | .ok token => .ok token

/-! ## The handler -/

/-- The critical sections of a login. -/
inductive LoginOp : Type → Type where
  | checkLoginRateLimit (username : String) : LoginOp Bool
  /-- `user_ok`, under the read guard of the configuration. -/
  | verify (req : LoginRequest) : LoginOp Bool
  | recordLoginAttempt (username : String) (success : Bool) : LoginOp Unit

/-- What they do to the login attempts, at the time `now`. -/
def performLogin : {β : Type} → LoginOp β → ℕ → LoginAttempts → β × LoginAttempts
  | _, .checkLoginRateLimit username, now, attempts => checkLoginRateLimit username now attempts
  | _, .verify req, _, attempts => (userOk L web req, attempts)
  | _, .recordLoginAttempt username success, now, attempts =>
      ((), recordLoginAttempt username success now attempts)

/-- The critical sections over the login attempts. -/
def loginSemantics : Semantics LoginOp ℕ LoginAttempts := ⟨performLogin L web⟩

/-- The response to a user that has been verified. -/
def loginResponse (c : LoginCall) : ApiResponse LoginResponse :=
  match generateJwt L c.sinceEpoch c.req.username web.jwtSecret web.tokenExpireHours with
  | .ok token => success { token, expiresIn := web.tokenExpireHours * 3600 }
  | .error e => errorResponse 500 e

/-- Source: `api.rs`, `login`. -/
def login (c : LoginCall) : Prog LoginOp (ApiResponse LoginResponse) := do
  if !(← lift (.checkLoginRateLimit c.req.username)) then
    return errorResponse 429 "登录尝试过于频繁，请稍后再试"
  if !(← lift (.verify c.req)) then
    lift (.recordLoginAttempt c.req.username false)
    return errorResponse 401 "用户名或密码错误"
  lift (.recordLoginAttempt c.req.username true)
  return loginResponse L web c

end

/-! ## What the functions do -/

/-- The steps of a login. -/
lemma login_eq (L : LoginLibs) (web : WebSection) (c : LoginCall) :
    login L web c = call (.checkLoginRateLimit c.req.username) fun admitted =>
      match admitted with
      | false => ret (errorResponse 429 "登录尝试过于频繁，请稍后再试")
      | true => call (.verify c.req) fun ok =>
          match ok with
          | false => call (.recordLoginAttempt c.req.username false) fun _ =>
              ret (errorResponse 401 "用户名或密码错误")
          | true => call (.recordLoginAttempt c.req.username true) fun _ =>
              ret (loginResponse L web c) := by
  rw [login, lift_bind]
  congr 1
  funext admitted
  cases admitted with
  | false => rfl
  | true =>
      change call _ _ = call _ _
      congr 1
      funext ok
      cases ok <;> rfl

/-- A user that has been verified gets a token or an internal error. -/
lemma loginResponse_code (L : LoginLibs) (web : WebSection) (c : LoginCall) :
    (loginResponse L web c).code = 200 ∨ (loginResponse L web c).code = 500 := by
  unfold loginResponse
  cases generateJwt L c.sinceEpoch c.req.username web.jwtSecret web.tokenExpireHours with
  | ok token => exact Or.inl rfl
  | error e => exact Or.inr rfl

/-- A check passes with fewer than five failures on record, or as the first one after a lockout, which
begins a new record. -/
inductive Admits (username : String) (now : ℕ) (attempts : LoginAttempts) : LoginAttempts → Prop
  | few (h : ∀ attempt, attempts username = some attempt → ¬ attempt.Full) :
      Admits username now attempts attempts
  | expired {attempt : LoginAttempt} (h : attempts username = some attempt) (hfull : attempt.Full)
      (hexpired : attempt.Expired now) : Admits username now attempts
        (Function.update attempts username (some { count := 0, windowStart := now }))

/-- What a check can do. -/
lemma check_cases (username : String) (now : ℕ) (attempts : LoginAttempts) :
    (checkLoginRateLimit username now attempts = (false, attempts) ∧
      ∃ attempt, attempts username = some attempt ∧ attempt.Full ∧ ¬ attempt.Expired now) ∨
    ∃ attempts', checkLoginRateLimit username now attempts = (true, attempts') ∧
      Admits username now attempts attempts' := by
  unfold checkLoginRateLimit
  cases hattempt : attempts username with
  | none =>
      refine Or.inr ⟨attempts, rfl, .few ?_⟩
      intro attempt h
      cases hattempt.symm.trans h
  | some attempt =>
      dsimp only
      by_cases hfull : attempt.Full
      · by_cases hexpired : attempt.Expired now
        · rw [if_pos ⟨hfull, hexpired⟩]
          exact Or.inr ⟨_, rfl, .expired hattempt hfull hexpired⟩
        · rw [if_neg fun h => hexpired h.2, if_pos hfull]
          exact Or.inl ⟨rfl, attempt, rfl, hfull, hexpired⟩
      · rw [if_neg fun h => hfull h.1, if_neg hfull]
        refine Or.inr ⟨attempts, rfl, .few ?_⟩
        intro other h
        cases hattempt.symm.trans h
        exact hfull

/-- The number of failures on record. -/
def failuresOnRecord (attempt : Option LoginAttempt) : ℕ := attempt.elim 0 fun a => a.count.toNat

/-- A record is full when the limit is reached. -/
lemma full_iff {attempt : LoginAttempt} :
    attempt.Full ↔ maxLoginAttempts.toNat ≤ failuresOnRecord (some attempt) := UInt32.le_iff_toNat_le

/-- A record that is not full has failures left. -/
lemma failuresOnRecord_lt {attempt : Option LoginAttempt}
    (h : ∀ a, attempt = some a → ¬ a.Full) : failuresOnRecord attempt < maxLoginAttempts.toNat := by
  cases attempt with
  | none => exact Nat.zero_lt_succ _
  | some a => exact not_le.mp fun hle => h a rfl (full_iff.mpr hle)

/-- A failure counts one more. -/
lemma record_failed (username : String) (now : ℕ) (attempts : LoginAttempts) :
    recordLoginAttempt username false now attempts username =
      some { (attempts username).getD { count := 0, windowStart := now } with
        count := ((attempts username).getD { count := 0, windowStart := now }).count + 1 } := by
  rw [recordLoginAttempt, if_neg Bool.false_ne_true, Function.update_self]

/-- The count does not overflow. -/
lemma toNat_succ {count : UInt32} (h : count.toNat ≤ maxLoginAttempts.toNat) :
    (count + 1).toNat = count.toNat + 1 := by
  rw [UInt32.toNat_add]
  exact Nat.mod_eq_of_lt (Nat.lt_of_le_of_lt (Nat.add_le_add_right h 1) (by decide))

/-- A failure is one more on record. -/
lemma failuresOnRecord_failed {username : String} {now : ℕ} {attempts : LoginAttempts}
    (hfew : failuresOnRecord (attempts username) ≤ maxLoginAttempts.toNat) :
    failuresOnRecord (recordLoginAttempt username false now attempts username) =
      failuresOnRecord (attempts username) + 1 := by
  rw [record_failed]
  cases hattempt : attempts username with
  | none => rfl
  | some attempt =>
      rw [hattempt] at hfew
      exact toNat_succ hfew

/-- The records of other users stay. -/
lemma record_of_ne {username other : String} {success : Bool} {now : ℕ} {attempts : LoginAttempts}
    (h : other ≠ username) :
    recordLoginAttempt username success now attempts other = attempts other := by
  cases success <;> exact Function.update_of_ne h _ _

/-- A check leaves the records of other users. -/
lemma Admits.of_ne {username other : String} {now : ℕ} {attempts attempts' : LoginAttempts}
    (h : Admits username now attempts attempts') (hother : other ≠ username) :
    attempts' other = attempts other := by
  cases h with
  | few => rfl
  | expired => exact Function.update_of_ne hother _ _

end RustProxy.Web
