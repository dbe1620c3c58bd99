import Mathlib.Data.List.Basic
import Mathlib.Algebra.Order.Ring.Nat
import Mathlib.Tactic.Ring

/-!
# Big-endian byte strings of a fixed width

`toBE w n` is the `w`-byte big-endian form of `n` (the high bytes that do not fit are lost, as in a
truncating integer cast) and `ofBE` reads a byte string back.  `ofBE_toBE` is the round trip.
-/

namespace BigEndian

/-- The `w`-byte big-endian form of `n`. -/
def toBE : ℕ → ℕ → List UInt8
  | 0, _ => []
  | w + 1, n => UInt8.ofNat (n / 256 ^ w) :: toBE w n

/-- The number a big-endian byte string stands for. -/
def ofBE (bs : List UInt8) : ℕ := bs.foldl (fun acc b => acc * 256 + b.toNat) 0

/-- As many bytes as asked for. -/
@[simp] lemma length_toBE (w n : ℕ) : (toBE w n).length = w := by
  induction w with
  | zero => rfl
  | succ w ih => simp [toBE, ih]

/-- Reading the bytes of a number behind an accumulator. -/
lemma foldl_toBE (w n acc : ℕ) :
    (toBE w n).foldl (fun acc b => acc * 256 + b.toNat) acc = acc * 256 ^ w + n % 256 ^ w := by
  induction w generalizing acc with
  | zero => simp [toBE, Nat.mod_one]
  | succ w ih =>
      have hbyte : (UInt8.ofNat (n / 256 ^ w)).toNat = n / 256 ^ w % 256 := by simp
      rw [toBE, List.foldl_cons, ih, hbyte, Nat.mod_pow_succ]
      ring

/-- Reading back the big-endian form of `n` gives `n` modulo the width. -/
theorem ofBE_toBE (w n : ℕ) : ofBE (toBE w n) = n % 256 ^ w := by
  rw [ofBE, foldl_toBE]
  simp

/-- A number that fits is read back. -/
lemma ofBE_toBE_of_lt {w n : ℕ} (h : n < 256 ^ w) : ofBE (toBE w n) = n := by
  rw [ofBE_toBE, Nat.mod_eq_of_lt h]

end BigEndian
