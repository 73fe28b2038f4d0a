import BundleForge.Proofs.Report.Columns
import Mathlib.Algebra.Order.Field.Basic

/-!
Sizes read back from how they are shown. Main statement: below 2^53 bytes a shown size is within a twentieth of its unit
of the size itself, and a larger size is never shown as less, also where its unit is another.
-/

namespace BundleForge.Report

open Number (roundHalfEven roundHalfEven_mono roundHalfEven_mul_self)

/-- A number of units of so many bytes. -/
structure Amount where
  number : ℚ
  unit : Nat
deriving DecidableEq

def Amount.bytes (a : Amount) : ℚ := a.number * a.unit

/-- The bytes of a unit, by its letters. -/
def unitOf? : List Char → Option Nat
  | ['b'] => some 1
  | ['k', 'b'] => some 1024
  | ['m', 'b'] => some (1024 * 1024)
  | _ => none

def isNumeral (c : Char) : Bool := c.isDigit || c == '.'

/-- The amount that a text tells: a decimal number and the letters of a unit. -/
def readAmount? (s : String) : Option Amount := do
  let number ← Number.decimal? (s.toList.takeWhile isNumeral)
  let unit ← unitOf? (s.toList.dropWhile isNumeral)
  return ⟨number, unit⟩

/-- How an amount shows a size: as the multiple of a tenth that is nearest to the size in its units, the even one of
two that are equally near. The double that is rounded is exactly the size in those units. -/
structure Amount.Shows (a : Amount) (size : Int) : Prop where
  near : |a.number - size / a.unit| ≤ 1 / 20
  rounded : ∃ tenths : Nat, a.number = tenths / 10 ∧ (|a.number - size / a.unit| = 1 / 20 → Even tenths)
  exact : ∃ x, quotient size a.unit = .ok x ∧ x.value? = some (size / a.unit : ℚ)

/-- The unit that a size is shown in. -/
def unitFor (size : Nat) : Nat :=
  if size < 1024 then 1 else if size < 1024 * 1024 then 1024 else 1024 * 1024

/-- How many tenths of its unit a size is shown as. -/
def tenths (size : Nat) : Nat := roundHalfEven (size * 10) (unitFor size)

/-- What a size is shown as. -/
def amountOf (size : Nat) : Amount := ⟨tenths size / 10, unitFor size⟩

variable {size m n : Nat}

theorem exists_unitFor (size : Nat) : ∃ j ≤ 53, unitFor size = 2 ^ j := by
  unfold unitFor
  split_ifs
  · exact ⟨0, by omega, rfl⟩
  · exact ⟨10, by omega, rfl⟩
  · exact ⟨20, by omega, rfl⟩

theorem unitFor_pos (size : Nat) : 0 < unitFor size := by
  obtain ⟨j, -, power⟩ := exists_unitFor size
  rw [power]
  exact Nat.two_pow_pos j

section Reading

theorem isNumeral_of_isDigit {c : Char} (digit : c.isDigit = true) : isNumeral c = true := by
  simp [isNumeral, digit]

theorem isNumeral_of_mem_pointed {places : Nat} (placed : places ≠ 0) :
    ∀ c ∈ Binary64.pointed n places, isNumeral c = true := by
  intro c among
  rw [Binary64.pointed_eq n placed, List.mem_append, List.mem_cons] at among
  obtain front | rfl | back := among
  · exact isNumeral_of_isDigit (Binary64.isDigit_of_mem_filled c (List.mem_of_mem_take front))
  · rfl
  · exact isNumeral_of_isDigit (Binary64.isDigit_of_mem_filled c (List.mem_of_mem_drop back))

/-- A numeral ends where the letters of a unit start. -/
theorem readAmount?_append {digits : List Char} {letters : String} {number : ℚ} {unit : Nat}
    (numeral : ∀ c ∈ digits, isNumeral c = true) (spells : Number.decimal? digits = some number)
    (known : unitOf? letters.toList = some unit) :
    readAmount? (String.ofList digits ++ letters) = some ⟨number, unit⟩ := by
  have stops : letters.toList.takeWhile isNumeral = [] ∧ letters.toList.dropWhile isNumeral = letters.toList := by
    generalize letters.toList = letters at known ⊢
    unfold unitOf? at known
    split at known
    case h_4 => cases known
    all_goals exact ⟨rfl, rfl⟩
  rw [readAmount?, String.toList_append, String.toList_ofList, List.takeWhile_append_of_pos numeral,
    List.dropWhile_append_of_pos numeral, stops.1, stops.2, List.append_nil, spells, known]
  rfl

theorem inUnits_two_pow {j : Nat} (few : j ≤ 53) (small : size < 2 ^ 53) (letters : String) :
    inUnits size (2 ^ j) letters =
      .ok (String.ofList (Binary64.pointed (roundHalfEven (size * 10) (2 ^ j)) 1) ++ letters) := by
  obtain ⟨i, divided⟩ := Binary64.nearest_two_pow false few small
  rw [inUnits, quotient_natCast divided, Except.map, ← divided, Binary64.fixed_nearest_two_pow few small, Nat.pow_one]

/-- In units of more than one byte a size is read back as it was rounded. -/
theorem readAmount?_inUnits {j : Nat} {letters : String} (few : j ≤ 53) (small : size < 2 ^ 53)
    (known : unitOf? letters.toList = some (2 ^ j)) :
    ∃ s, inUnits size (2 ^ j) letters = .ok s ∧
      readAmount? s = some ⟨roundHalfEven (size * 10) (2 ^ j) / 10, 2 ^ j⟩ := by
  refine ⟨_, inUnits_two_pow few small letters, readAmount?_append (isNumeral_of_mem_pointed Nat.one_ne_zero) ?_ known⟩
  rw [Binary64.decimal?_pointed _ Nat.one_ne_zero, pow_one]

theorem readAmount?_formatSize (small : size < 2 ^ 53) :
    ∃ s, formatSize size = .ok s ∧ readAmount? s = some (amountOf size) := by
  unfold amountOf tenths unitFor
  split_ifs with few kilobytes
  · refine ⟨_, formatSize_of_few few, ?_⟩
    have digits : toString (size : Int) = String.ofList (Binary64.digitsOf size) := by
      rw [Int.toString_eq_repr, Int.repr_eq_if, if_pos (Int.natCast_nonneg size), Int.toNat_natCast,
        Nat.repr_eq_ofList_toDigits, Binary64.digitsOf]
    have whole : roundHalfEven (size * 10) 1 = size * 10 := by
      simpa using roundHalfEven_mul_self (size * 10) Nat.one_pos
    rw [digits, whole, readAmount?_append (fun c among => isNumeral_of_isDigit (Binary64.isDigit_of_mem_digitsOf c among))
      (Binary64.decimal?_digitsOf size) rfl]
    push_cast
    rw [mul_div_cancel_right₀ _ (by norm_num)]
  · rw [formatSize, if_neg (by omega), if_pos (by omega)]
    exact readAmount?_inUnits (j := 10) (by omega) small rfl
  · rw [formatSize, if_neg (by omega), if_neg (by omega)]
    exact readAmount?_inUnits (j := 20) (by omega) small rfl

end Reading

theorem shows_amountOf (small : size < 2 ^ 53) : (amountOf size).Shows size := by
  have pos := unitFor_pos size
  have ten : (0 : ℚ) < 10 := by norm_num
  have distance : |(amountOf size).number - (size : Int) / (amountOf size).unit| =
      |(tenths size : ℚ) - (size * 10 : Nat) / unitFor size| / 10 := by
    rw [amountOf, ← abs_of_pos ten, ← abs_div, abs_of_pos ten]
    congr 1
    push_cast
    ring
  refine ⟨?_, ⟨tenths size, rfl, fun tie => ?_⟩, ?_⟩
  · have := Number.abs_roundHalfEven_sub_le (size * 10) pos
    rw [distance, tenths]
    linarith
  · rw [distance] at tie
    exact Number.even_roundHalfEven_of_abs pos (by rw [tenths] at tie; linarith)
  · obtain ⟨j, few, power⟩ := exists_unitFor size
    obtain ⟨i, divided⟩ := Binary64.nearest_two_pow false few small
    rw [amountOf, power]
    refine ⟨_, quotient_natCast divided, ?_⟩
    rw [← divided, Binary64.value?_nearest_two_pow few small]
    push_cast
    rfl

/-- What is less than a unit is shown in smaller units as no more than it, and what is not less as no less. -/
theorem tenths_mul_le_of_unit {u v : Nat} (pos : 0 < u) (pos' : 0 < v) (parts : u ∣ v) (below : m ≤ v) (above : v ≤ n) :
    roundHalfEven (m * 10) u * u ≤ roundHalfEven (n * 10) v * v := by
  obtain ⟨k, rfl⟩ := parts
  have low : roundHalfEven (m * 10) u ≤ k * 10 := by
    calc roundHalfEven (m * 10) u
      _ ≤ roundHalfEven (k * 10 * u) u := roundHalfEven_mono (by linarith)
      _ = k * 10 := roundHalfEven_mul_self _ pos
  have high : 10 ≤ roundHalfEven (n * 10) (u * k) := by
    calc 10
      _ = roundHalfEven (10 * (u * k)) (u * k) := (roundHalfEven_mul_self _ pos').symm
      _ ≤ roundHalfEven (n * 10) (u * k) := roundHalfEven_mono (by omega)
  calc roundHalfEven (m * 10) u * u
    _ ≤ k * 10 * u := Nat.mul_le_mul_right u low
    _ = 10 * (u * k) := by ring
    _ ≤ roundHalfEven (n * 10) (u * k) * (u * k) := Nat.mul_le_mul_right _ high

theorem tenths_mul_unitFor_mono (h : m ≤ n) : tenths m * unitFor m ≤ tenths n * unitFor n := by
  by_cases same : unitFor m = unitFor n
  · rw [tenths, tenths, same]
    exact Nat.mul_le_mul_right _ (roundHalfEven_mono (Nat.mul_le_mul_right _ h))
  · obtain ⟨parts, below, above⟩ : unitFor m ∣ unitFor n ∧ m ≤ unitFor n ∧ unitFor n ≤ n := by
      unfold unitFor at same ⊢
      split_ifs at same ⊢ <;> omega
    exact tenths_mul_le_of_unit (unitFor_pos m) (unitFor_pos n) parts below above

theorem bytes_amountOf (size : Nat) : (amountOf size).bytes = (tenths size * unitFor size : Nat) / 10 := by
  rw [Amount.bytes, amountOf]
  push_cast
  ring

/-- Sizes below 2^53 are shown as amounts that are read back, each within a twentieth of its unit, and of two sizes the
larger is never shown as the smaller amount. -/
theorem formatSize_keeps_order {m n : Int} (nonneg : 0 ≤ m) (ordered : m ≤ n) (small : n < 2 ^ 53) :
    ∃ (s t : String) (a b : Amount), formatSize m = .ok s ∧ formatSize n = .ok t ∧
      readAmount? s = some a ∧ readAmount? t = some b ∧ a.Shows m ∧ b.Shows n ∧ a.bytes ≤ b.bytes := by
  obtain ⟨m, rfl⟩ := Int.eq_ofNat_of_zero_le nonneg
  obtain ⟨n, rfl⟩ := Int.eq_ofNat_of_zero_le (nonneg.trans ordered)
  have ordered : m ≤ n := Int.ofNat_le.mp ordered
  have small' : n < 2 ^ 53 := by exact_mod_cast small
  have small : m < 2 ^ 53 := ordered.trans_lt small'
  obtain ⟨s, shown, read⟩ := readAmount?_formatSize small
  obtain ⟨t, shown', read'⟩ := readAmount?_formatSize small'
  refine ⟨s, t, amountOf m, amountOf n, shown, shown', read, read', shows_amountOf small, shows_amountOf small', ?_⟩
  rw [bytes_amountOf, bytes_amountOf]
  have : ((tenths m * unitFor m : Nat) : ℚ) ≤ (tenths n * unitFor n : Nat) := by
    exact_mod_cast tenths_mul_unitFor_mono ordered
  linarith

/-- The last size in kilobytes and the first in megabytes are shown as the same amount. -/
theorem formatSize_keeps_order_boundary :
    (0 : Int) ≤ 1048575 ∧ (1048575 : Int) ≤ 1048576 ∧ (1048576 : Int) < 2 ^ 53 ∧
      formatSize 1048575 = .ok "1024.0kb" ∧ formatSize 1048576 = .ok "1.0mb" ∧
      ∃ a b, readAmount? "1024.0kb" = some a ∧ readAmount? "1.0mb" = some b ∧
        a.Shows 1048575 ∧ b.Shows 1048576 ∧ a.bytes ≤ b.bytes := by
  have shown : formatSize 1048575 = .ok "1024.0kb" := by decide +kernel
  have shown' : formatSize 1048576 = .ok "1.0mb" := by decide +kernel
  obtain ⟨s, t, a, b, made, made', told⟩ :=
    formatSize_keeps_order (m := 1048575) (n := 1048576) (by omega) (by omega) (by omega)
  obtain rfl := Except.ok.inj (shown.symm.trans made)
  obtain rfl := Except.ok.inj (shown'.symm.trans made')
  exact ⟨by omega, by omega, by omega, shown, shown', a, b, told⟩

end BundleForge.Report
