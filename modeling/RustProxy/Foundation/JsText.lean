import Mathlib.Data.List.TakeWhile
import RustProxy.Foundation.InetAddr

/-!
# Texts as JavaScript takes them apart

`String.prototype.trim`, `parseInt` and the splitting of a text at a separator, on lists of characters.
`List.splitOn` is `split` at one character, and `List.intercalate` is `join`.

* `parseInt_toDigits`: a number that is written in decimal is read back.
* `splitAtLast_append`: what stands before and behind the last separator.
* `items_join`: a list that is joined with `", "` is read back from its text.
-/

namespace JsText

open InetAddr

/-- White space and line terminators. -/
def isWhite (c : Char) : Bool :=
  c.toNat ∈ [0x9, 0xA, 0xB, 0xC, 0xD, 0x20, 0xA0, 0x1680, 0x2028, 0x2029, 0x202F, 0x205F, 0x3000,
    0xFEFF] || (0x2000 ≤ c.toNat && c.toNat ≤ 0x200A)

/-- `trim` -/
def trim (s : List Char) : List Char := ((s.dropWhile isWhite).reverse.dropWhile isWhite).reverse

/-- The digits of the radix at the front of a text. -/
def digits (radix : ℕ) (s : List Char) : List Char := s.takeWhile fun c => (digit? radix c).isSome

/-- The number that is written in these digits. -/
def value (radix : ℕ) (ds : List Char) : ℕ :=
  ds.foldl (fun n c => n * radix + (digit? radix c).getD 0) 0

/-- `parseInt` of a text without its sign; `none` is `NaN`. -/
def parseNat (s : List Char) : Option ℕ :=
  let read (radix : ℕ) (s : List Char) : Option ℕ :=
    if digits radix s = [] then none else some (value radix (digits radix s))
  match s with
  | '0' :: 'x' :: s => read 16 s
  | '0' :: 'X' :: s => read 16 s
  | s => read 10 s

/-- `parseInt`; `none` is `NaN`. -/
def parseInt (s : List Char) : Option ℤ :=
  match s.dropWhile isWhite with
  | '-' :: s => (parseNat s).map fun n => -(n : ℤ)
  | '+' :: s => (parseNat s).map fun n => (n : ℤ)
  | s => (parseNat s).map fun n => (n : ℤ)

/-- What stands before and behind the last `c`: `lastIndexOf` and `substring`. -/
def splitAtLast (c : Char) (s : List Char) : List Char × List Char :=
  ((s.reverse.dropWhile (· ≠ c)).tail.reverse, (s.reverse.takeWhile (· ≠ c)).reverse)

/-- The items of a comma list, trimmed, without the empty ones. -/
def items (s : List Char) : List (List Char) :=
  (((trim s).splitOn ',').map trim).filter (· ≠ [])

variable {s : List Char} {c : Char}

/-! ## Trimming -/

/-- Nothing white is dropped. -/
lemma dropWhile_isWhite (h : ∀ c ∈ s.head?, isWhite c = false) : s.dropWhile isWhite = s := by
  cases s with
  | nil => rfl
  | cons c s => rw [List.dropWhile_cons_of_neg (by simp [h c rfl])]

/-- A text whose ends are not white. -/
lemma trim_of_ends (hhead : ∀ c ∈ s.head?, isWhite c = false)
    (hlast : ∀ c ∈ s.getLast?, isWhite c = false) : trim s = s := by
  rw [trim, dropWhile_isWhite hhead, dropWhile_isWhite (by rwa [List.head?_reverse]),
    List.reverse_reverse]

/-- Without white characters nothing is trimmed. -/
lemma trim_of_all (h : ∀ c ∈ s, isWhite c = false) : trim s = s :=
  trim_of_ends (fun c hc => h c (List.mem_of_mem_head? hc))
    fun c hc => h c (List.mem_of_mem_getLast? hc)

/-- White characters in front are trimmed. -/
lemma trim_cons (hc : isWhite c = true) : trim (c :: s) = trim s := by
  rw [trim, List.dropWhile_cons_of_pos hc, trim]

/-! ## Numbers -/

/-- A number is written in digits. -/
lemma isDigit_of_mem_toDigits {n : ℕ} (h : c ∈ Nat.toDigits 10 n) : c.isDigit :=
  Nat.isDigit_of_mem_toDigits (by decide) (by decide) h

/-- Digits are not white. -/
lemma isWhite_of_isDigit (h : c.isDigit) : isWhite c = false := by
  rw [Char.isDigit_iff_toNat] at h
  have hlow : 48 ≤ c.toNat := h.1
  have hhigh : c.toNat ≤ 57 := h.2
  simp only [isWhite, List.mem_cons, List.not_mem_nil, or_false, Bool.or_eq_false_iff,
    decide_eq_false_iff_not, Bool.and_eq_false_iff]
  omega

/-- All of a number is read. -/
lemma digits_toDigits (n : ℕ) : digits 10 (Nat.toDigits 10 n) = Nat.toDigits 10 n :=
  List.takeWhile_eq_self_iff.mpr fun _ hc => digit?_of_mem_toDigits (by decide) (by decide) hc

/-- A number has its own value. -/
lemma value_toDigits (n : ℕ) : value 10 (Nat.toDigits 10 n) = n := by
  induction n using Nat.base_induction 10 (by decide) with
  | single d hd =>
      rw [Nat.toDigits_of_lt_base hd]
      simp [value, digit?_digitChar hd]
  | digit m d hd hm ih =>
      rw [← Nat.toDigits_append_toDigits (by decide) hm hd, Nat.toDigits_of_lt_base hd]
      unfold value at ih ⊢
      simp [List.foldl_append, ih, digit?_digitChar hd, mul_comm]

/-- A number is read back. -/
lemma parseNat_toDigits (n : ℕ) : parseNat (Nat.toDigits 10 n) = some n := by
  have hread : (if digits 10 (Nat.toDigits 10 n) = [] then none
      else some (value 10 (digits 10 (Nat.toDigits 10 n)))) = some n := by
    rw [digits_toDigits, value_toDigits, if_neg Nat.toDigits_ne_nil]
  unfold parseNat
  split
  · next s h =>
      have hx := isDigit_of_mem_toDigits (h ▸ List.mem_cons_of_mem _ List.mem_cons_self)
      simp at hx
  · next s h =>
      have hx := isDigit_of_mem_toDigits (h ▸ List.mem_cons_of_mem _ List.mem_cons_self)
      simp at hx
  · exact hread

/-- A number that is written in decimal is read back. -/
theorem parseInt_toDigits (n : ℕ) : parseInt (Nat.toDigits 10 n) = some (n : ℤ) := by
  have hwhite : (Nat.toDigits 10 n).dropWhile isWhite = Nat.toDigits 10 n :=
    dropWhile_isWhite fun c hc =>
      isWhite_of_isDigit (isDigit_of_mem_toDigits (List.mem_of_mem_head? hc))
  unfold parseInt
  rw [hwhite]
  split
  · next s h =>
      have hsign := isDigit_of_mem_toDigits (h ▸ List.mem_cons_self)
      simp at hsign
  · next s h =>
      have hsign := isDigit_of_mem_toDigits (h ▸ List.mem_cons_self)
      simp at hsign
  · rw [parseNat_toDigits]
    rfl

/-! ## Separators -/

/-- What stands behind the last separator has none in it. -/
theorem splitAtLast_append {a b : List Char} (hb : c ∉ b) : splitAtLast c (a ++ c :: b) = (a, b) := by
  have hall : ∀ x ∈ b.reverse, decide (x ≠ c) = true := by
    intro x hx
    rw [decide_eq_true_eq]
    rintro rfl
    exact hb (List.mem_reverse.mp hx)
  have hsplit : (a ++ c :: b).reverse = b.reverse ++ c :: a.reverse := by simp
  rw [splitAtLast, hsplit, List.dropWhile_append_of_pos hall, List.takeWhile_append_of_pos hall]
  simp

/-- The text of a list, split at its commas. -/
lemma splitOn_join (x : List Char) (xs : List (List Char)) (h : ∀ y ∈ x :: xs, ',' ∉ y) :
    (", ".toList.intercalate (x :: xs)).splitOn ',' = x :: xs.map (' ' :: ·) := by
  induction xs generalizing x with
  | nil => simpa using List.splitOn_eq_singleton (h x List.mem_cons_self)
  | cons y ys ih =>
      have hjoin : ", ".toList.intercalate (x :: y :: ys) =
          x ++ ',' :: ' ' :: ", ".toList.intercalate (y :: ys) := by
        rw [List.intercalate_cons_cons]
        simp
      have hrest : (' ' :: ", ".toList.intercalate (y :: ys)) =
          ", ".toList.intercalate ((' ' :: y) :: ys) := by
        cases ys <;> simp [List.intercalate_cons_cons]
      rw [hjoin, List.splitOn_append_cons_of_beq _ _ (by simp),
        List.splitOn_eq_singleton (h x List.mem_cons_self), hrest, ih]
      · simp
      · intro z hz
        rcases List.mem_cons.mp hz with rfl | hz
        · simpa using h y (by simp)
        · exact h z (by simp [hz])

/-- A joined list begins as its first element does. -/
lemma head?_intercalate {sep x : List Char} (hx : x ≠ []) (xs : List (List Char)) :
    (sep.intercalate (x :: xs)).head? = x.head? := by
  cases xs with
  | nil => simp
  | cons y ys => rw [List.intercalate_cons_cons, List.append_assoc, List.head?_append_of_ne_nil _ hx]

/-- A joined list ends as its last element does. -/
lemma getLast?_intercalate {sep x : List Char} {xs : List (List Char)}
    (h : ∀ y ∈ x :: xs, y ≠ []) :
    (sep.intercalate (x :: xs)).getLast? = ((x :: xs).getLast (by simp)).getLast? := by
  induction xs generalizing x with
  | nil => simp
  | cons y ys ih =>
      have hne : sep.intercalate (y :: ys) ≠ [] := by
        cases ys with
        | nil => simpa using h y (by simp)
        | cons z zs => simp [List.intercalate_cons_cons, h y (by simp)]
      rw [List.intercalate_cons_cons, List.getLast?_append_of_ne_nil _ hne,
        ih fun z hz => h z (List.mem_cons_of_mem _ hz)]
      simp

/-- A list that is joined with `", "` is read back from its text. -/
theorem items_join {xs : List (List Char)}
    (h : ∀ x ∈ xs, x ≠ [] ∧ ∀ c ∈ x, c ≠ ',' ∧ isWhite c = false) :
    items (", ".toList.intercalate xs) = xs := by
  have htrim : ∀ x ∈ xs, trim x = x := fun x hx => trim_of_all fun c hc => ((h x hx).2 c hc).2
  have hcomma : ∀ x ∈ xs, ',' ∉ x := fun x hx hmem => ((h x hx).2 ',' hmem).1 rfl
  have hkeep : ∀ ys : List (List Char), (∀ y ∈ ys, y ∈ xs) → ys.filter (· ≠ []) = ys := fun ys hys =>
    List.filter_eq_self.mpr fun y hy => by simpa using (h y (hys y hy)).1
  cases xs with
  | nil => decide
  | cons x xs =>
      have hends : trim (", ".toList.intercalate (x :: xs)) = ", ".toList.intercalate (x :: xs) := by
        refine trim_of_ends ?_ ?_
        · intro c hc
          rw [head?_intercalate (h x List.mem_cons_self).1] at hc
          exact ((h x List.mem_cons_self).2 c (List.mem_of_mem_head? hc)).2
        · intro c hc
          rw [getLast?_intercalate fun y hy => (h y hy).1] at hc
          exact ((h _ (List.getLast_mem _)).2 c (List.mem_of_mem_getLast? hc)).2
      have hspace : ∀ y ∈ xs, trim (' ' :: y) = y := fun y hy =>
        (trim_cons (by decide)).trans (htrim y (List.mem_cons_of_mem _ hy))
      rw [items, hends, splitOn_join x xs hcomma, List.map_cons, List.map_map, htrim x (by simp)]
      have hrest : xs.map (trim ∘ (' ' :: ·)) = xs :=
        (List.map_congr_left fun y hy => hspace y hy).trans (List.map_id _)
      rw [hrest]
      exact hkeep _ fun y hy => hy

end JsText
