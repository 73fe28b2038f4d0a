/-!
Rounding a quotient of naturals to the nearest natural, halves to the even neighbour. Main
statement: the result is never more than half a unit from the quotient.
-/

namespace BundleForge.Number

/-- The natural nearest to `num / den`; of two equally near ones the even one. -/
def roundHalfEven (num den : Nat) : Nat :=
  let q := num / den
  let r := num % den
  if 2 * r < den then q
  else if den < 2 * r then q + 1
  else if q % 2 = 0 then q else q + 1

theorem roundHalfEven_eq_or (num den : Nat) :
    roundHalfEven num den = num / den ∨ roundHalfEven num den = num / den + 1 := by
  unfold roundHalfEven
  dsimp only
  split
  · exact .inl rfl
  · split
    · exact .inr rfl
    · split
      · exact .inl rfl
      · exact .inr rfl

/-- Half a unit is the most that rounding adds. -/
theorem two_mul_roundHalfEven_le (num den : Nat) (h : 0 < den) :
    2 * (den * roundHalfEven num den) ≤ 2 * num + den := by
  have hq := Nat.div_add_mod num den
  have hr := Nat.mod_lt num h
  unfold roundHalfEven
  dsimp only
  split
  · omega
  · split
    · rw [Nat.mul_add]; omega
    · split
      · omega
      · rw [Nat.mul_add]; omega

/-- Half a unit is the most that rounding takes away. -/
theorem le_two_mul_roundHalfEven (num den : Nat) (h : 0 < den) :
    2 * num ≤ 2 * (den * roundHalfEven num den) + den := by
  have hq := Nat.div_add_mod num den
  have hr := Nat.mod_lt num h
  unfold roundHalfEven
  dsimp only
  split
  · omega
  · split
    · rw [Nat.mul_add]; omega
    · split
      · omega
      · rw [Nat.mul_add]; omega

end BundleForge.Number
