import BundleForge.Number.Round

/-!
Double-precision numbers as exact dyadic values. Every operation is the exact one on rationals
followed by one rounding to the nearest double, ties to the even mantissa.
-/

namespace BundleForge

/-- A double: not a number, an infinity, or plus or minus `mantissa * 2 ^ exponent`. What is not a
number carries a payload, which no operation looks into. -/
inductive Binary64
  | nan (payload : Nat)
  | infinite (negative : Bool)
  | finite (negative : Bool) (mantissa : Nat) (exponent : Int)
deriving DecidableEq, Repr, Inhabited

namespace Binary64

/-- The exponent of the smallest steps. -/
def minExponent : Int := -1074

/-- The exponent of the largest steps. -/
def maxExponent : Int := 971

def zero (negative : Bool) : Binary64 := .finite negative 0 minExponent

/-- `num * 2 ^ e` over `den`, as a quotient of naturals. -/
def scale (num den : Nat) (e : Int) : Nat × Nat :=
  if 0 ≤ e then (num * Nat.pow 2 e.toNat, den) else (num, den * Nat.pow 2 (-e).toNat)

/-- The exponent of the doubles next to `num / den`: their mantissas have 53 bits, fewer only
where the exponent could not be smaller. -/
def stepExponent (num den : Nat) : Int :=
  let k : Int := (num.log2 : Int) - (den.log2 : Int)
  let (n, d) := scale num den (-k)
  let e := if d ≤ n then k - 52 else k - 53
  max e minExponent

/-- The double nearest to plus or minus `num / den`. -/
def nearest (negative : Bool) (num den : Nat) : Binary64 :=
  if num = 0 then zero negative
  else
    let e := stepExponent num den
    let (n, d) := scale num den (-e)
    let m := Number.roundHalfEven n d
    let (m, e) := if m = Nat.pow 2 53 then (Nat.pow 2 52, e + 1) else (m, e)
    if maxExponent < e then .infinite negative else .finite negative m e

/-- The double nearest to a whole number. -/
def ofInt (n : Int) : Binary64 := nearest (n < 0) n.natAbs 1

/-- The double nearest to `digits * 10 ^ exponent`. Beyond the ends of the range the answer is
settled by the number of digits alone. -/
def ofDecimal (negative : Bool) (digits : Nat) (exponent : Int) : Binary64 :=
  if digits = 0 then zero negative
  else
    let size : Int := (Nat.toDigits 10 digits).length + exponent
    if 400 < size then .infinite negative
    else if size < -400 then zero negative
    else if 0 ≤ exponent then nearest negative (digits * Nat.pow 10 exponent.toNat) 1
    else nearest negative digits (Nat.pow 10 (-exponent).toNat)

def isNegative : Binary64 → Bool
  | .nan _ => false
  | .infinite negative => negative
  | .finite negative _ _ => negative

def neg : Binary64 → Binary64
  | .nan payload => .nan payload
  | .infinite negative => .infinite !negative
  | .finite negative m e => .finite (!negative) m e

/-- The magnitude of a finite double as a quotient of naturals. -/
def magnitude (m : Nat) (e : Int) : Nat × Nat := scale m 1 e

def mul : Binary64 → Binary64 → Binary64
  | .finite n₁ m₁ e₁, .finite n₂ m₂ e₂ =>
    let (num, den) := magnitude (m₁ * m₂) (e₁ + e₂)
    nearest (n₁ != n₂) num den
  | .nan payload, _ | _, .nan payload => .nan payload
  | .infinite n, .finite n' m _ | .finite n m _, .infinite n' =>
    if m = 0 then .nan 0 else .infinite (n != n')
  | .infinite n, .infinite n' => .infinite (n != n')

def add : Binary64 → Binary64 → Binary64
  | .finite n₁ m₁ e₁, .finite n₂ m₂ e₂ =>
    let e := min e₁ e₂
    let a : Int := (m₁ * Nat.pow 2 (e₁ - e).toNat : Nat)
    let b : Int := (m₂ * Nat.pow 2 (e₂ - e).toNat : Nat)
    let sum := (if n₁ then -a else a) + (if n₂ then -b else b)
    if sum = 0 then zero (n₁ && n₂)
    else
      let (num, den) := magnitude sum.natAbs e
      nearest (sum < 0) num den
  | .nan payload, _ | _, .nan payload => .nan payload
  | .infinite n, .finite .. => .infinite n
  | .finite .., .infinite n => .infinite n
  | .infinite n, .infinite n' => if n = n' then .infinite n else .nan 0

/-- The whole number with the same value, if there is one. -/
def toInt? : Binary64 → Option Int
  | .finite negative m e =>
    let (num, den) := magnitude m e
    if num % den = 0 then
      let n : Int := (num / den : Nat)
      some (if negative then -n else n)
    else none
  | _ => none

/-- The whole number next to a finite double towards zero. -/
def truncate (negative : Bool) (m : Nat) (e : Int) : Int :=
  let (num, den) := magnitude m e
  let n : Int := (num / den : Nat)
  if negative then -n else n

/-- Whether the value is a zero of either sign. -/
def isZero : Binary64 → Bool
  | .finite _ m _ => m == 0
  | _ => false

/-- Numerical equality: both zeros are equal and not-a-number differs from itself. -/
def numEq : Binary64 → Binary64 → Bool
  | .nan _, _ | _, .nan _ => false
  | a, b => (a.isZero && b.isZero) || a == b

theorem nearest_zero (negative : Bool) (den : Nat) : nearest negative 0 den = zero negative := rfl

theorem neg_neg (x : Binary64) : x.neg.neg = x := by cases x <;> simp [neg]

end Binary64
end BundleForge
