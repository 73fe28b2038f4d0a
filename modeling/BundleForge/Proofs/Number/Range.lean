import BundleForge.Number.Binary64
import Mathlib.Tactic.Common
import Mathlib.Tactic.Ring

/-!
The range of the doubles. Main statement: a quotient below the bound at which doubles end has a nearest
double that is finite.
-/

namespace BundleForge.Binary64

/-- The exponent of half of the largest steps. -/
def halfStep : Nat := 970

/-- The first whole number that is nearer to an infinity than to any double: half a step above the
largest double. -/
def rangeEnd : Nat := 2 ^ halfStep * (2 ^ 54 - 1)

theorem scale_neg_natCast (num den k : Nat) : scale num den (-(k : Int)) = (num, den * 2 ^ k) := by
  unfold scale
  cases k with
  | zero => simp
  | succ k =>
    have below : ¬ (0 : Int) ≤ -((k + 1 : Nat) : Int) := by omega
    rw [if_neg below]
    simp

theorem scale_neg_succ (num den k : Nat) :
    scale num den (-((k + 1 : Nat) : Int)) = (num, den * (2 * 2 ^ k)) := by
  rw [scale_neg_natCast, Nat.pow_succ, Nat.mul_comm (2 ^ k)]

/-- The steps between the doubles next to a quotient leave 53 bits below a power of two above it. -/
theorem stepExponent_le {num den n : Nat} (pos : 0 < num) (h : num < den * 2 ^ n) :
    stepExponent num den ≤ max ((n : Int) - 53) minExponent := by
  have low : 2 ^ num.log2 ≤ num := Nat.log2_self_le (by omega)
  have high : den < 2 ^ (den.log2 + 1) := Nat.lt_log2_self
  have logs : num.log2 < den.log2 + 1 + n := by
    refine (Nat.pow_lt_pow_iff_right (a := 2) (by omega)).mp ?_
    calc 2 ^ num.log2
      _ ≤ num := low
      _ < den * 2 ^ n := h
      _ < 2 ^ (den.log2 + 1) * 2 ^ n := (Nat.mul_lt_mul_right (Nat.two_pow_pos n)).mpr high
      _ = 2 ^ (den.log2 + 1 + n) := (Nat.pow_add ..).symm
  unfold stepExponent
  dsimp only
  split
  · rename_i whole
    have small : (num.log2 : Int) - den.log2 < n := by
      by_contra large
      obtain ⟨k, hk⟩ : ∃ k : Nat, (num.log2 : Int) - den.log2 = k := ⟨num.log2 - den.log2, by omega⟩
      rw [hk, scale_neg_natCast] at whole
      have beyond : den * 2 ^ n ≤ den * 2 ^ k :=
        Nat.mul_le_mul_left _ (Nat.pow_le_pow_right (by omega) (by omega))
      exact absurd (Nat.lt_of_lt_of_le h beyond) (Nat.not_lt.mpr whole)
    omega
  · omega

/-- What is half a step short of a power of two is not rounded up to it. -/
theorem roundHalfEven_lt {num den unit : Nat} (h : num < den * (unit * (2 ^ 54 - 1))) :
    Number.roundHalfEven num (den * (2 * unit)) < 2 ^ 53 := by
  have pos : 0 < den * (2 * unit) := by
    have den_pos : 0 < den := Nat.pos_of_mul_pos_right (Nat.zero_lt_of_lt h)
    have unit_pos : 0 < unit := Nat.pos_of_mul_pos_right (Nat.pos_of_mul_pos_left (Nat.zero_lt_of_lt h))
    exact Nat.mul_pos den_pos (by omega)
  have rounded := Number.two_mul_roundHalfEven_le num (den * (2 * unit)) pos
  have total : 2 * (den * (2 * unit) * Number.roundHalfEven num (den * (2 * unit))) <
      2 * (den * (2 * unit) * 2 ^ 53) := by
    calc 2 * (den * (2 * unit) * Number.roundHalfEven num (den * (2 * unit)))
      _ ≤ 2 * num + den * (2 * unit) := rounded
      _ < 2 * (den * (unit * (2 ^ 54 - 1))) + den * (2 * unit) := by omega
      _ = 2 * (den * (2 * unit) * 2 ^ 53) := by ring
  exact Nat.lt_of_mul_lt_mul_left (Nat.lt_of_mul_lt_mul_left total)

-- for any exponent, so that no power of this size is ever computed
theorem steps_le (n : Nat) : 2 ^ n * (2 ^ 54 - 1) ≤ 2 ^ (n + 54) := by
  rw [Nat.pow_add]
  exact Nat.mul_le_mul_left _ (Nat.sub_le ..)

theorem rangeEnd_le : rangeEnd ≤ 2 ^ (halfStep + 54) :=
  steps_le halfStep

/-- A quotient below the end of the range has a finite double next to it. -/
theorem nearest_finite (negative : Bool) {num den : Nat} (h : num < den * rangeEnd) :
    ∃ m e, nearest negative num den = .finite negative m e := by
  by_cases zero : num = 0
  · exact ⟨0, minExponent, by rw [zero, nearest_zero]; rfl⟩
  have step : stepExponent num den ≤ maxExponent :=
    stepExponent_le (n := halfStep + 54) (by omega) (Nat.lt_of_lt_of_le h (Nat.mul_le_mul_left den rangeEnd_le))
  unfold nearest
  rw [if_neg zero]
  dsimp only
  split
  · rename_i full
    -- only with the longest steps could this rounding leave the range
    have shorter : stepExponent num den ≠ maxExponent := by
      intro longest
      have scaled : scale num den (-maxExponent) = (num, den * (2 * 2 ^ halfStep)) :=
        scale_neg_succ num den halfStep
      rw [longest, scaled] at full
      exact absurd full (Nat.ne_of_lt (roundHalfEven_lt h))
    rw [if_neg (by omega)]
    exact ⟨_, _, rfl⟩
  · rw [if_neg (by omega)]
    exact ⟨_, _, rfl⟩

end BundleForge.Binary64
