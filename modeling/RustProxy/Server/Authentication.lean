import RustProxy.Proto.Message

/-!
# Authentication of main connections

The checks at the start of `handle_client_with_auth` (`crates/server/src/client_session.rs`) and the
response each of them leads to.

`char::is_alphanumeric` follows the tables of Unicode; it is the parameter `isAlphanumeric` here, and
nothing below depends on which characters it accepts.
-/

namespace RustProxy.Server

open RustProxy.Proto

/-- Source: `str::as_bytes`. -/
def asBytes (s : String) : Bytes := s.toByteArray.data.toList

/-- Different texts have different bytes. -/
lemma asBytes_injective : Function.Injective asBytes := fun _ _ h =>
  String.toByteArray_inj.mp (ByteArray.ext (Array.toList_inj.mp h))

/-- Source: `client_session.rs`, `validate_client_id`. -/
def validateClientId (isAlphanumeric : Char → Bool) (id : String) : Bool :=
  if (asBytes id).length = 0 ∨ 64 < (asBytes id).length then false
  else id.toList.all fun c => isAlphanumeric c || c = '-' || c = '_' || c = '.'

/-- The bits in which two byte strings differ, collected into one byte. -/
def differingBits (result : UInt8) (pairs : List (UInt8 × UInt8)) : UInt8 :=
  pairs.foldl (fun result p => result ||| (p.1 ^^^ p.2)) result

/-- Source: `client_session.rs`, `constant_time_token_eq`. -/
def constantTimeTokenEq (a b : String) : Bool :=
  if (asBytes a).length ≠ (asBytes b).length then false
  else differingBits 0 ((asBytes a).zip (asBytes b)) = 0

/-- No bit differs exactly if no pair does. -/
lemma differingBits_eq_zero (result : UInt8) (pairs : List (UInt8 × UInt8)) :
    differingBits result pairs = 0 ↔ result = 0 ∧ ∀ p ∈ pairs, p.1 = p.2 := by
  induction pairs generalizing result with
  | nil => simp [differingBits]
  | cons p ps ih =>
      have hstep : differingBits result (p :: ps) = differingBits (result ||| (p.1 ^^^ p.2)) ps := rfl
      rw [hstep, ih, UInt8.or_eq_zero_iff, UInt8.xor_eq_zero_iff, List.forall_mem_cons, and_assoc]

/-- Lists of one length that agree in pairs are equal. -/
lemma eq_of_zip_eq {α : Type*} {xs ys : List α} (hlen : xs.length = ys.length)
    (h : ∀ p ∈ xs.zip ys, p.1 = p.2) : xs = ys := by
  induction xs generalizing ys with
  | nil => exact (List.length_eq_zero_iff.mp hlen.symm).symm
  | cons x xs ih =>
      cases ys with
      | nil => cases hlen
      | cons y ys =>
          rw [List.zip_cons_cons, List.forall_mem_cons] at h
          have hxy : x = y := h.1
          rw [hxy, ih (Nat.succ.inj hlen) h.2]

/-- The comparison in constant time is equality. -/
theorem constantTimeTokenEq_iff (a b : String) : constantTimeTokenEq a b = true ↔ a = b := by
  constructor
  · intro h
    unfold constantTimeTokenEq at h
    split at h
    case isTrue => cases h
    case isFalse hlen =>
      rw [decide_eq_true_iff, differingBits_eq_zero] at h
      exact asBytes_injective (eq_of_zip_eq (not_not.mp hlen) h.2)
  · rintro rfl
    rw [constantTimeTokenEq, if_neg (not_not.mpr rfl), decide_eq_true_iff, differingBits_eq_zero]
    refine ⟨rfl, ?_⟩
    intro p hp
    obtain ⟨i, hi, rfl⟩ := List.mem_iff_getElem.mp hp
    rw [List.getElem_zip]

/-- The configuration the checks read: `config.server.token`, and the version of the server. -/
structure AuthConfig where
  token : String
  version : String
  isAlphanumeric : Char → Bool

/-- The response to an authentication request.  Source: `client_session.rs`,
`handle_client_with_auth`, steps 1 to 3. -/
def authenticate (config : AuthConfig) (req : AuthRequest) : AuthResponse :=
  if validateClientId config.isAlphanumeric req.clientId = false then
    { success := false, message := "客户端 ID 格式无效", serverVersion := "" }
  else if constantTimeTokenEq req.token config.token = false then
    { success := false, message := "Token 验证失败", serverVersion := "" }
  else { success := true, message := "认证成功", serverVersion := config.version }

/-- A request is accepted exactly with a well-formed client id and the token of the server. -/
theorem authenticate_success (config : AuthConfig) (req : AuthRequest) :
    (authenticate config req).success = true ↔
      validateClientId config.isAlphanumeric req.clientId = true ∧ req.token = config.token := by
  rw [← constantTimeTokenEq_iff]
  unfold authenticate
  split
  · simp [*]
  · split <;> simp_all

end RustProxy.Server
