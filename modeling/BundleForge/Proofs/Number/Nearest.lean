import BundleForge.Number.DecimalText
import BundleForge.Proofs.Number.Range
import Mathlib.Algebra.Order.Field.Rat
import Mathlib.Algebra.Order.Ring.Abs
import Mathlib.Algebra.Ring.Parity
import Mathlib.Data.List.TakeWhile
import Mathlib.Tactic.FieldSimp
import Mathlib.Tactic.Linarith

/-!
Nearest numbers and how they are written. Main statements: a quotient that is at most some double with few binary
places has a double next to it that is at most that double too; a whole number of less than 53 bits is divided by a
power of two without any rounding; and what is written with a number of places is read back as so many parts.
-/

namespace BundleForge

namespace Number

variable {num num' den : Nat}

theorem roundHalfEven_mono (h : num ≤ num') : roundHalfEven num den ≤ roundHalfEven num' den := by
  obtain lower | same := Nat.lt_or_eq_of_le (Nat.div_le_div_right (c := den) h)
  · have := roundHalfEven_eq_or num den
    have := roundHalfEven_eq_or num' den
    omega
  · have left : num % den ≤ num' % den := by
      have parts := Nat.div_add_mod num den
      have parts' := Nat.div_add_mod num' den
      rw [same] at parts
      omega
    unfold roundHalfEven
    dsimp only
    rw [same]
    split_ifs <;> omega

theorem roundHalfEven_mul_self (n : Nat) (pos : 0 < den) : roundHalfEven (n * den) den = n := by
  simp [roundHalfEven, Nat.mul_div_cancel n pos, pos]

/-- What is at most a whole number is not rounded above it. -/
theorem roundHalfEven_le {n : Nat} (h : num ≤ den * n) : roundHalfEven num den ≤ n := by
  obtain rfl | pos := Nat.eq_zero_or_pos den
  · obtain rfl : num = 0 := by omega
    simp [roundHalfEven]
  · calc roundHalfEven num den
      _ ≤ roundHalfEven (n * den) den := roundHalfEven_mono (h.trans_eq (Nat.mul_comm ..))
      _ = n := roundHalfEven_mul_self n pos

theorem roundHalfEven_mul_right (num den : Nat) {c : Nat} (pos : 0 < c) :
    roundHalfEven (num * c) (den * c) = roundHalfEven num den := by
  have less (a b : Nat) : a * c < b * c ↔ a < b := Nat.mul_lt_mul_right pos
  simp only [roundHalfEven, Nat.mul_div_mul_right _ _ pos, Nat.mul_mod_mul_right, ← Nat.mul_assoc, less]

/-- Of two naturals that are equally near the even one is taken. -/
theorem even_roundHalfEven (pos : 0 < den)
    (tie : 2 * (den * roundHalfEven num den) = 2 * num + den ∨ 2 * num = 2 * (den * roundHalfEven num den) + den) :
    Even (roundHalfEven num den) := by
  have parts := Nat.div_add_mod num den
  have left := Nat.mod_lt num pos
  have next : den * (num / den + 1) = den * (num / den) + den := Nat.mul_succ ..
  rw [Nat.even_iff]
  unfold roundHalfEven at tie ⊢
  dsimp only at tie ⊢
  split_ifs at tie ⊢ <;> omega

theorem abs_roundHalfEven_sub (num : Nat) (pos : 0 < den) :
    |(roundHalfEven num den : ℚ) - num / den| =
      |2 * (den * roundHalfEven num den : ℚ) - 2 * num| / (2 * den) := by
  have nonzero : (den : ℚ) ≠ 0 := by exact_mod_cast pos.ne'
  have scale : (0 : ℚ) < 2 * den := by exact_mod_cast Nat.mul_pos Nat.two_pos pos
  rw [eq_div_iff scale.ne', ← abs_of_pos scale, ← abs_mul]
  congr 1
  field_simp

theorem abs_roundHalfEven_sub_le (num : Nat) (pos : 0 < den) :
    |(roundHalfEven num den : ℚ) - num / den| ≤ 1 / 2 := by
  have above : (2 * (den * roundHalfEven num den) : ℚ) ≤ 2 * num + den := by
    exact_mod_cast two_mul_roundHalfEven_le num den pos
  have below : (2 * num : ℚ) ≤ 2 * (den * roundHalfEven num den) + den := by
    exact_mod_cast le_two_mul_roundHalfEven num den pos
  have scale : (0 : ℚ) < 2 * den := by exact_mod_cast Nat.mul_pos Nat.two_pos pos
  rw [abs_roundHalfEven_sub num pos, div_le_iff₀ scale, abs_le]
  constructor <;> linarith

theorem even_roundHalfEven_of_abs (pos : 0 < den)
    (tie : |(roundHalfEven num den : ℚ) - num / den| = 1 / 2) : Even (roundHalfEven num den) := by
  have scale : (0 : ℚ) < 2 * den := by exact_mod_cast Nat.mul_pos Nat.two_pos pos
  rw [abs_roundHalfEven_sub num pos, div_eq_iff scale.ne'] at tie
  refine even_roundHalfEven pos ?_
  obtain above | below := eq_or_eq_neg_of_abs_eq tie
  · left
    have : (2 * (den * roundHalfEven num den) : ℚ) = 2 * num + den := by linarith
    exact_mod_cast this
  · right
    have : (2 * num : ℚ) = 2 * (den * roundHalfEven num den) + den := by linarith
    exact_mod_cast this

/-- The number that digits spell, among them a point with digits on either side. -/
def decimal? (cs : List Char) : Option ℚ :=
  let whole := cs.takeWhile Char.isDigit
  if whole.isEmpty then none
  else
    match cs.dropWhile Char.isDigit with
    | [] => some (Nat.ofDigitChars 10 whole 0)
    | point :: decimals =>
      if point = '.' ∧ decimals ≠ [] ∧ decimals.all Char.isDigit then
        some (Nat.ofDigitChars 10 (whole ++ decimals) 0 / 10 ^ decimals.length)
      else none

theorem decimal?_digits {whole : List Char} (digits : ∀ c ∈ whole, c.isDigit = true) (nonempty : whole ≠ []) :
    decimal? whole = some (Nat.ofDigitChars 10 whole 0 : ℚ) := by
  simp only [decimal?, List.takeWhile_eq_self_iff.mpr digits, List.dropWhile_eq_nil_iff.mpr digits,
    List.isEmpty_eq_false_iff.mpr nonempty, Bool.false_eq_true, if_false]

theorem decimal?_point {whole decimals : List Char} (digits : ∀ c ∈ whole, c.isDigit = true) (nonempty : whole ≠ [])
    (digits' : ∀ c ∈ decimals, c.isDigit = true) (nonempty' : decimals ≠ []) :
    decimal? (whole ++ '.' :: decimals) =
      some (Nat.ofDigitChars 10 (whole ++ decimals) 0 / 10 ^ decimals.length : ℚ) := by
  have point : Char.isDigit '.' = false := rfl
  simp only [decimal?, List.takeWhile_append_of_pos digits, List.dropWhile_append_of_pos digits, List.takeWhile_cons,
    List.dropWhile_cons, point, List.append_nil, List.isEmpty_eq_false_iff.mpr nonempty, Bool.false_eq_true, if_false]
  rw [if_pos ⟨trivial, nonempty', List.all_eq_true.mpr digits'⟩]

end Number

namespace Binary64

variable {num den bound places k : Nat}

/-- Next to a quotient that is at most a bound with `places` binary places, doubles have as many places. -/
theorem exists_stepExponent (nonzero : num ≠ 0) (few : places ≤ 53) (fits : bound < 2 ^ 53)
    (h : num * 2 ^ places ≤ den * bound) : ∃ k : Nat, stepExponent num den = -(k : Int) ∧ places ≤ k := by
  have den_pos : 0 < den := by
    have above : 0 < den * bound := Nat.lt_of_lt_of_le (Nat.mul_pos (by omega) (Nat.two_pow_pos places)) h
    exact Nat.pos_of_mul_pos_right above
  have below : num < den * 2 ^ (53 - places) := by
    refine Nat.lt_of_mul_lt_mul_right (a := 2 ^ places) ?_
    calc num * 2 ^ places
      _ ≤ den * bound := h
      _ < den * 2 ^ 53 := (Nat.mul_lt_mul_left den_pos).mpr fits
      _ = den * 2 ^ (53 - places) * 2 ^ places := by
        rw [Nat.mul_assoc, ← Nat.pow_add, Nat.sub_add_cancel few]
  have step := stepExponent_le (Nat.pos_of_ne_zero nonzero) below
  simp only [minExponent] at step
  exact ⟨(-stepExponent num den).toNat, by omega, by omega⟩

/-- Steps that are fine enough for the bound do not lead beyond it. -/
theorem roundHalfEven_step_le (fine : places ≤ k) (h : num * 2 ^ places ≤ den * bound) :
    Number.roundHalfEven (num * 2 ^ k) den * 2 ^ places ≤ bound * 2 ^ k := by
  have rounded : Number.roundHalfEven (num * 2 ^ k) den ≤ bound * 2 ^ (k - places) := by
    refine Number.roundHalfEven_le ?_
    calc num * 2 ^ k
      _ = num * 2 ^ places * 2 ^ (k - places) := by
        rw [Nat.mul_assoc, ← Nat.pow_add, Nat.add_sub_cancel' fine]
      _ ≤ den * bound * 2 ^ (k - places) := Nat.mul_le_mul_right _ h
      _ = den * (bound * 2 ^ (k - places)) := Nat.mul_assoc ..
  calc Number.roundHalfEven (num * 2 ^ k) den * 2 ^ places
    _ ≤ bound * 2 ^ (k - places) * 2 ^ places := Nat.mul_le_mul_right _ rounded
    _ = bound * 2 ^ k := by rw [Nat.mul_assoc, ← Nat.pow_add, Nat.sub_add_cancel fine]

/-- The bound has `places` binary places, and 53 bits are enough for it. -/
theorem nearest_le (negative : Bool) (few : places ≤ 53) (fits : bound < 2 ^ 53)
    (h : num * 2 ^ places ≤ den * bound) :
    ∃ m k : Nat, nearest negative num den = .finite negative m (-(k : Int)) ∧ m * 2 ^ places ≤ bound * 2 ^ k := by
  by_cases zero : num = 0
  · exact ⟨0, 1074, by rw [zero, nearest_zero]; rfl, by rw [Nat.zero_mul]; exact Nat.zero_le _⟩
  obtain ⟨k, step, fine⟩ := exists_stepExponent zero few fits h
  have small := roundHalfEven_step_le fine h
  have scaled : scale num den (k : Int) = (num * 2 ^ k, den) := by simp [scale]
  unfold nearest
  rw [if_neg zero]
  dsimp only
  rw [step, Int.neg_neg, scaled]
  split
  · rename_i full
    -- the bound is smaller than this, so there is a place by which the exponent can grow
    obtain ⟨j, rfl⟩ : ∃ j, k = j + 1 := by
      refine Nat.exists_eq_succ_of_ne_zero ?_
      rintro rfl
      obtain rfl : places = 0 := by omega
      rw [full, Nat.pow_zero, Nat.mul_one, Nat.mul_one] at small
      exact Nat.not_lt.mpr small fits
    rw [full, Nat.pow_succ 2 j, ← Nat.mul_assoc] at small
    have halved : 2 ^ 52 * 2 ^ places ≤ bound * 2 ^ j := by
      refine Nat.le_of_mul_le_mul_right (c := 2) ?_ (by omega)
      calc 2 ^ 52 * 2 ^ places * 2
        _ = 2 ^ 53 * 2 ^ places := by ring
        _ ≤ bound * 2 ^ j * 2 := small
    rw [if_neg (by simp only [maxExponent]; omega)]
    exact ⟨_, j, congrArg _ (by omega), halved⟩
  · rw [if_neg (by simp only [maxExponent]; omega)]
    exact ⟨_, k, rfl, small⟩

/-- A product with a whole number of which all bits are kept. -/
theorem mul_le {m n j : Nat} (few : places ≤ 53) (fits : bound * n < 2 ^ 53)
    (h : m * 2 ^ places ≤ bound * 2 ^ k) :
    ∃ m' k' : Nat, (finite false m (-(k : Int))).mul (.finite false (n * 2 ^ j) (-(j : Int))) =
      .finite false m' (-(k' : Int)) ∧ m' * 2 ^ places ≤ bound * n * 2 ^ k' := by
  have exponent : -(k : Int) + -(j : Int) = -((k + j : Nat) : Int) := by omega
  simp only [mul, magnitude, exponent, scale_neg_natCast, bne_self_eq_false, Nat.one_mul]
  refine nearest_le false few fits ?_
  calc m * (n * 2 ^ j) * 2 ^ places
    _ = m * 2 ^ places * (n * 2 ^ j) := Nat.mul_right_comm ..
    _ ≤ bound * 2 ^ k * (n * 2 ^ j) := Nat.mul_le_mul_right _ h
    _ = 2 ^ (k + j) * (bound * n) := by ring

/-- A number with few digits takes few places before and after the point. -/
theorem length_pointed_le {n whole : Nat} (pos : 0 < whole) (small : n < 10 ^ (whole + places)) :
    (pointed n places).length ≤ whole + places + 1 := by
  have digits : (digitsOf n).length ≤ whole + places :=
    (Nat.length_toDigits_le_iff (by omega) (by omega)).mpr small
  unfold pointed
  dsimp only
  split <;> simp only [List.length_append, List.length_take, List.length_drop, List.length_replicate,
    List.length_cons, List.length_nil] <;> omega

theorem length_fixed_le {m whole : Nat} (pos : 0 < whole) (h : m * 10 ^ places ≤ 2 ^ k * (10 ^ (whole + places) - 1)) :
    ((finite false m (-(k : Int))).fixed places).length ≤ whole + places + 1 := by
  have small : Number.roundHalfEven (m * 10 ^ places) (2 ^ k) < 10 ^ (whole + places) := by
    have rounded := Number.roundHalfEven_le h
    have := Nat.pow_pos (n := whole + places) (a := 10) (by omega)
    omega
  have unsigned : (finite false m (-(k : Int))).fixed places =
      String.ofList (pointed (Number.roundHalfEven (m * 10 ^ places) (2 ^ k)) places) := by
    simp only [fixed, magnitude, scale_neg_natCast, Nat.one_mul, Bool.false_eq_true, if_false]
    rfl
  rw [unsigned, String.length_ofList]
  exact length_pointed_le pos small

/-- The number that a finite double is. -/
def value? : Binary64 → Option ℚ
  | .finite negative m e => some ((if negative then -1 else 1) * m * 2 ^ e)
  | _ => none

variable {n j : Nat}

/-- Division by a power of two only changes the exponent. -/
theorem nearest_two_pow (negative : Bool) (few : j ≤ 53) (fits : n < 2 ^ 53) :
    ∃ i, nearest negative n (2 ^ j) = .finite negative (n * 2 ^ i) (-((j + i : Nat) : Int)) := by
  by_cases zero : n = 0
  · refine ⟨1074 - j, ?_⟩
    rw [zero, nearest_zero, Nat.zero_mul, Nat.add_sub_cancel' (by omega)]
    rfl
  obtain ⟨k, step, fine⟩ := exists_stepExponent zero few fits (Nat.le_of_eq (Nat.mul_comm n (2 ^ j)))
  obtain ⟨i, rfl⟩ := Nat.exists_eq_add_of_le fine
  have scaled : scale n (2 ^ j) ((j + i : Nat) : Int) = (n * 2 ^ (j + i), 2 ^ j) := by
    rw [scale, if_pos (Int.natCast_nonneg _), Int.toNat_natCast]
    rfl
  have whole : Number.roundHalfEven (n * 2 ^ (j + i)) (2 ^ j) = n * 2 ^ i := by
    rw [Nat.add_comm, Nat.pow_add, ← Nat.mul_assoc, Number.roundHalfEven_mul_self _ (Nat.two_pow_pos j)]
  unfold nearest
  rw [if_neg zero]
  dsimp only
  rw [step, Int.neg_neg, scaled, whole]
  split
  · rename_i full
    -- the number itself has less bits than that, so there is a place by which the exponent can grow
    obtain ⟨i, rfl⟩ : ∃ i', i = i' + 1 := by
      refine Nat.exists_eq_succ_of_ne_zero ?_
      rintro rfl
      rw [Nat.pow_zero, Nat.mul_one] at full
      exact Nat.ne_of_lt fits full
    have halved : Nat.pow 2 52 = n * 2 ^ i := by
      refine Nat.eq_of_mul_eq_mul_right Nat.two_pos ?_
      rw [Nat.mul_assoc, ← Nat.pow_succ, full]
    rw [if_neg (by simp only [maxExponent]; omega), halved]
    exact ⟨i, congrArg _ (by omega)⟩
  · rw [if_neg (by simp only [maxExponent]; omega)]
    exact ⟨i, rfl⟩

theorem value?_nearest_two_pow (few : j ≤ 53) (fits : n < 2 ^ 53) :
    (nearest false n (2 ^ j)).value? = some ((n : ℚ) / 2 ^ j) := by
  obtain ⟨i, same⟩ := nearest_two_pow false few fits
  rw [same, value?, zpow_neg, zpow_natCast, pow_add]
  push_cast
  congr 1
  field_simp

/-- Written with some places, an exact quotient is rounded only once. -/
theorem fixed_nearest_two_pow (few : j ≤ 53) (fits : n < 2 ^ 53) (places : Nat) :
    (nearest false n (2 ^ j)).fixed places =
      String.ofList (pointed (Number.roundHalfEven (n * 10 ^ places) (2 ^ j)) places) := by
  obtain ⟨i, same⟩ := nearest_two_pow false few fits
  have once : Number.roundHalfEven (n * 2 ^ i * 10 ^ places) (1 * 2 ^ (j + i)) =
      Number.roundHalfEven (n * 10 ^ places) (2 ^ j) := by
    rw [Nat.one_mul, Nat.pow_add, Nat.mul_right_comm, Number.roundHalfEven_mul_right _ _ (Nat.two_pow_pos i)]
  simp only [same, fixed, magnitude, scale_neg_natCast, Bool.false_eq_true, if_false]
  exact congrArg (fun rounded => String.ofList (pointed rounded places)) once

theorem isDigit_of_mem_digitsOf {n : Nat} : ∀ c ∈ digitsOf n, c.isDigit = true := fun _ among =>
  Nat.isDigit_of_mem_toDigits (by omega) (by omega) among

theorem decimal?_digitsOf (n : Nat) : Number.decimal? (digitsOf n) = some (n : ℚ) := by
  rw [Number.decimal?_digits isDigit_of_mem_digitsOf Nat.toDigits_ne_nil, digitsOf, Nat.ofDigitChars_ten_toDigits]

/-- The digits that a point is put into, with zeros in front where they are few. -/
def filled (n places : Nat) : List Char :=
  List.replicate (places + 1 - (digitsOf n).length) '0' ++ digitsOf n

theorem isDigit_of_mem_filled : ∀ c ∈ filled n places, c.isDigit = true := by
  intro c among
  obtain zero | digit := List.mem_append.mp among
  · rw [List.eq_of_mem_replicate zero]
    rfl
  · exact isDigit_of_mem_digitsOf c digit

theorem lt_length_filled (n places : Nat) : places < (filled n places).length := by
  rw [filled, List.length_append, List.length_replicate]
  omega

theorem ofDigitChars_filled (n places : Nat) : Nat.ofDigitChars 10 (filled n places) 0 = n := by
  simp [filled, digitsOf, Nat.ofDigitChars_append]

theorem pointed_eq (n : Nat) (placed : places ≠ 0) : pointed n places =
    (filled n places).take ((filled n places).length - places) ++
      '.' :: (filled n places).drop ((filled n places).length - places) := by
  simp [pointed, filled, placed]

theorem decimal?_pointed (n : Nat) (placed : places ≠ 0) :
    Number.decimal? (pointed n places) = some ((n : ℚ) / 10 ^ places) := by
  have long := lt_length_filled n places
  have count : ((filled n places).drop ((filled n places).length - places)).length = places := by
    rw [List.length_drop]
    omega
  rw [pointed_eq n placed, Number.decimal?_point, List.take_append_drop, ofDigitChars_filled, count]
  · exact fun c among => isDigit_of_mem_filled c (List.mem_of_mem_take among)
  · rw [← List.length_pos_iff, List.length_take]
    omega
  · exact fun c among => isDigit_of_mem_filled c (List.mem_of_mem_drop among)
  · rw [← List.length_pos_iff]
    omega

end Binary64
end BundleForge
