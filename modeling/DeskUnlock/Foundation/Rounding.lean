import Mathlib.Data.Rat.Floor
import Mathlib.Tactic.Linarith

/-!
# Rounding with halves away from zero
-/

namespace Rounding

/-- The integer next to a number; of two such, the one further from zero. -/
def halfAway (number : ℚ) : ℤ :=
  if 0 ≤ number then ⌊number + 1 / 2⌋ else -⌊-number + 1 / 2⌋

variable {number : ℚ} {bound : ℤ}

theorem halfAway_neg {number : ℚ} : halfAway (-number) = -halfAway number := by
  unfold halfAway
  rcases lt_trichotomy number 0 with below | rfl | above
  · rw [if_pos (by linarith), if_neg (not_le.mpr below), neg_neg]
  · norm_num
  · rw [if_neg (by linarith), if_pos above.le, neg_neg]

/-- Rounding stays on its side of an integer. -/
theorem le_halfAway (least : bound ≤ number) : bound ≤ halfAway number := by
  unfold halfAway
  split_ifs
  · exact Int.le_floor.mpr (by linarith)
  · have small : ⌊-number + 1 / 2⌋ < -bound + 1 := Int.floor_lt.mpr (by push_cast; linarith)
    linarith

theorem halfAway_le (most : number ≤ bound) : halfAway number ≤ bound := by
  have least := @le_halfAway (-number) (-bound) (by push_cast; linarith)
  rw [halfAway_neg] at least
  linarith

/-- A natural quotient is rounded by a truncating division. -/
theorem floor_half {num : ℤ} {den : ℕ} (positive : 0 < den) :
    ⌊(num : ℚ) / den + 1 / 2⌋ = (num + (den / 2 : ℕ)) / den := by
  have wide : (0 : ℚ) < den := by exact_mod_cast positive
  have low := Int.ediv_mul_le (num + (den / 2 : ℕ)) (Int.natCast_ne_zero.mpr positive.ne')
  have high := Int.lt_ediv_add_one_mul_self (num + (den / 2 : ℕ)) (Int.natCast_pos.mpr positive)
  generalize (num + (den / 2 : ℕ)) / (den : ℤ) = quotient at low high
  have least : 2 * (quotient * den) ≤ 2 * num + den := by omega
  have most : 2 * num + den < 2 * ((quotient + 1) * den) := by omega
  have same : (num : ℚ) / den + 1 / 2 = (2 * num + den) / (2 * den) := by field_simp
  rw [same, Int.floor_eq_iff, le_div_iff₀ (by linarith), div_lt_iff₀ (by linarith)]
  have least : (2 * (quotient * den) : ℚ) ≤ 2 * num + den := by exact_mod_cast least
  have most : (2 * num + den : ℚ) < 2 * ((quotient + 1) * den) := by exact_mod_cast most
  constructor <;> linarith

end Rounding
