import Mathlib.Data.Int.Log
import Mathlib.Data.Rat.Floor

/-! Rounding to double precision, on rationals of the normal range: the nearest
number with 53 significant bits, ties going to the even one. What needs no more
bits is not changed. -/
namespace Double

/-- The nearest integer, ties going to the even one. -/
def nearestInt (x : ℚ) : ℤ :=
  if x - ⌊x⌋ < 1 / 2 then ⌊x⌋
  else if 1 / 2 < x - ⌊x⌋ then ⌊x⌋ + 1
  else if ⌊x⌋ % 2 = 0 then ⌊x⌋ else ⌊x⌋ + 1

/-- The place value of the last bit that a double near `q` has. -/
def ulp (q : ℚ) : ℚ := 2 ^ (Int.log 2 |q| - 52)

/-- The double nearest to `q`. -/
def nearest (q : ℚ) : ℚ := if q = 0 then 0 else nearestInt (q / ulp q) * ulp q

@[simp] theorem nearestInt_intCast (n : ℤ) : nearestInt n = n := by
  simp [nearestInt]

theorem ulp_ne_zero (q : ℚ) : ulp q ≠ 0 := by
  have two : (2 : ℚ) ≠ 0 := by norm_num
  exact zpow_ne_zero _ two

/-- A multiple of its last place is a double. -/
theorem nearest_of_multiple {q : ℚ} (n : ℤ) (multiple : q / ulp q = n) : nearest q = q := by
  unfold nearest
  split
  · rename_i zero
    exact zero.symm
  · rw [multiple, nearestInt_intCast, ← multiple, div_mul_cancel₀ q (ulp_ne_zero q)]

/-- A natural number below `2 ^ 53` is a double. -/
theorem nearest_natCast {n : ℕ} (small : n < 2 ^ 53) : nearest n = n := by
  have bits : Nat.log 2 n < 53 := by
    rcases Nat.eq_zero_or_pos n with rfl | positive
    · simp
    · exact Nat.log_lt_of_lt_pow positive.ne' small
  have place : ulp n = (2 ^ (52 - Nat.log 2 n))⁻¹ := by
    have exponent : (Nat.log 2 n : ℤ) - 52 = -((52 - Nat.log 2 n : ℕ) : ℤ) := by omega
    rw [ulp, abs_of_nonneg (Nat.cast_nonneg n), Int.log_natCast, exponent, zpow_neg, zpow_natCast]
  apply nearest_of_multiple ((n * 2 ^ (52 - Nat.log 2 n) : ℕ) : ℤ)
  rw [place, div_inv_eq_mul]
  push_cast
  rfl

/-- No integer is nearer than half a unit away. -/
theorem nearestInt_bounds (x : ℚ) : x - 1 / 2 ≤ nearestInt x ∧ nearestInt x ≤ x + 1 / 2 := by
  have below : (⌊x⌋ : ℚ) ≤ x := Int.floor_le x
  have above : x < ⌊x⌋ + 1 := Int.lt_floor_add_one x
  unfold nearestInt
  split
  · constructor <;> linarith
  · split
    · push_cast
      constructor <;> linarith
    · have tie : x - ⌊x⌋ = 1 / 2 := by linarith
      split
      · constructor <;> linarith
      · push_cast
        constructor <;> linarith

theorem nearestInt_mono {x y : ℚ} (order : x ≤ y) : nearestInt x ≤ nearestInt y := by
  rcases order.eq_or_lt with rfl | strict
  · exact le_rfl
  · by_contra reversed
    have apart : nearestInt y + 1 ≤ nearestInt x := by omega
    have apartQ : (nearestInt y : ℚ) + 1 ≤ nearestInt x := by exact_mod_cast apart
    have left := (nearestInt_bounds x).2
    have right := (nearestInt_bounds y).1
    linarith

theorem ulp_pos (q : ℚ) : 0 < ulp q := by
  have two : (0 : ℚ) < 2 := by norm_num
  exact zpow_pos two _

/-- A positive number in units of its last place has 53 bits. -/
theorem div_ulp_bounds {q : ℚ} (positive : 0 < q) : 2 ^ 52 ≤ q / ulp q ∧ q / ulp q < 2 ^ 53 := by
  have scaled (n : ℕ) : (2 : ℚ) ^ n * ulp q = 2 ^ (Int.log 2 q + (n - 52)) := by
    rw [ulp, abs_of_pos positive, ← zpow_natCast, ← zpow_add₀ two_ne_zero]
    congr 1
    ring
  have lower := Int.zpow_log_le_self (b := 2) one_lt_two positive
  have upper := Int.lt_zpow_succ_log_self (b := 2) one_lt_two q
  push_cast at lower upper
  constructor
  · rw [le_div_iff₀ (ulp_pos q), scaled 52]
    simpa using lower
  · rw [div_lt_iff₀ (ulp_pos q), scaled 53]
    norm_num
    exact upper

/-- A positive number is rounded within its power of two. -/
theorem nearest_bounds {q : ℚ} (positive : 0 < q) :
    2 ^ Int.log 2 q ≤ nearest q ∧ nearest q ≤ 2 ^ (Int.log 2 q + 1) := by
  obtain ⟨lower, upper⟩ := div_ulp_bounds positive
  have atLeast : 2 ^ 52 ≤ nearestInt (q / ulp q) := by
    rw [← nearestInt_intCast (2 ^ 52)]
    exact nearestInt_mono (by exact_mod_cast lower)
  have atMost : nearestInt (q / ulp q) ≤ 2 ^ 53 := by
    rw [← nearestInt_intCast (2 ^ 53)]
    exact nearestInt_mono (by exact_mod_cast upper.le)
  have atLeastQ : (2 : ℚ) ^ 52 ≤ nearestInt (q / ulp q) := by exact_mod_cast atLeast
  have atMostQ : (nearestInt (q / ulp q) : ℚ) ≤ 2 ^ 53 := by exact_mod_cast atMost
  have place : (2 : ℚ) ^ Int.log 2 q = 2 ^ 52 * ulp q := by
    rw [ulp, abs_of_pos positive, ← zpow_natCast, ← zpow_add₀ two_ne_zero]
    congr 1
    push_cast
    ring
  rw [nearest, if_neg positive.ne', zpow_add_one₀ two_ne_zero, place]
  constructor
  · exact mul_le_mul_of_nonneg_right atLeastQ (ulp_pos q).le
  · calc (nearestInt (q / ulp q) : ℚ) * ulp q ≤ 2 ^ 53 * ulp q :=
          mul_le_mul_of_nonneg_right atMostQ (ulp_pos q).le
      _ = 2 ^ 52 * ulp q * 2 := by ring

theorem nearest_pos {q : ℚ} (positive : 0 < q) : 0 < nearest q := by
  have two : (0 : ℚ) < 2 := by norm_num
  exact (zpow_pos two _).trans_le (nearest_bounds positive).1

/-- Rounding keeps the order of numbers that are not negative. -/
theorem nearest_mono {q r : ℚ} (nonneg : 0 ≤ q) (order : q ≤ r) : nearest q ≤ nearest r := by
  rcases nonneg.eq_or_lt with rfl | positive
  · rcases order.eq_or_lt with rfl | above
    · exact le_rfl
    · simpa [nearest] using (nearest_pos above).le
  have above : 0 < r := positive.trans_le order
  have logs : Int.log 2 q ≤ Int.log 2 r := Int.log_mono_right positive order
  rcases logs.eq_or_lt with same | apart
  · have place : ulp q = ulp r := by rw [ulp, ulp, abs_of_pos positive, abs_of_pos above, same]
    have units : q / ulp r ≤ r / ulp r := div_le_div_of_nonneg_right order (ulp_pos r).le
    have rounded : (nearestInt (q / ulp r) : ℚ) ≤ nearestInt (r / ulp r) := by
      exact_mod_cast nearestInt_mono units
    rw [nearest, nearest, if_neg positive.ne', if_neg above.ne', place]
    exact mul_le_mul_of_nonneg_right rounded (ulp_pos r).le
  · -- a whole power of two lies between them
    calc nearest q ≤ 2 ^ (Int.log 2 q + 1) := (nearest_bounds positive).2
      _ ≤ 2 ^ Int.log 2 r := zpow_le_zpow_right₀ one_le_two (by omega)
      _ ≤ nearest r := (nearest_bounds above).1

end Double
