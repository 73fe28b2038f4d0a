import BundleForge.Number.Binary64
import BundleForge.Shell.Numeral

/-!
Arguments as numbers. What cannot be read to its end is still a number, with a fault beside it. Main
statement: a number that is clamped fits into 64 bits.
-/

namespace BundleForge.Shell

/-- What is wrong with an argument that should be a number. -/
inductive NumberFault
  | noNumber
  | moreThanNumber
  | outOfRange
deriving DecidableEq, Repr

def NumberFault.message : NumberFault → String
  | .noNumber => "expected numeric value"
  | .moreThanNumber => "not completely converted"
  | .outOfRange => "Numerical result out of range"

namespace Argument

/-- The code of the first character of some octets. -/
def codeOf (cs : List Char) : Nat := (cs.head?.map Char.toNat).getD 0

/-- A whole number, and what is wrong with the argument. A character behind a quote stands for its
code. -/
def integer (s : String) : Int × Option NumberFault :=
  match s.toList with
  | '\x27' :: cs | '\x22' :: cs => (codeOf cs, none)
  | _ =>
    match Numeral.read s with
    | none => (0, if s.isEmpty then none else some .noNumber)
    | some (n, rest) =>
      (n, if !rest.isEmpty then some .moreThanNumber
          else if n.natAbs < Nat.pow 2 63 then none else some .outOfRange)

/-- The number of 64 bits with a sign that is nearest. -/
def clamp (n : Int) : Int := max (-Numeral.greatest - 1) (min n Numeral.greatest)

theorem fits_clamp (n : Int) : Numeral.fits (clamp n) = true := by
  have h : -Numeral.greatest - 1 ≤ Numeral.greatest := by decide
  unfold Numeral.fits clamp
  generalize Numeral.greatest = g at h ⊢
  rw [Bool.and_eq_true, decide_eq_true_eq, decide_eq_true_eq]
  omega

/-- The number of 64 bits without a sign that a number goes around to, or the greatest. -/
def unsigned (n : Int) : Nat :=
  let all : Int := Nat.pow 2 64
  if n.natAbs < Nat.pow 2 64 then (n.emod all).toNat else Nat.pow 2 64 - 1

/-- The power of ten behind digits, and what follows it; a letter without digits is no power. -/
def power (cs : List Char) : Int × List Char :=
  match cs with
  | e :: rest =>
    let (negative, digits) := match rest with
      | '-' :: rest => (true, rest)
      | '+' :: rest => (false, rest)
      | rest => (false, rest)
    let taken := digits.takeWhile Char.isDigit
    if (e = 'e' || e = 'E') && !taken.isEmpty then
      let n : Int := (String.ofList taken).toNat?.getD 0
      (if negative then -n else n, digits.drop taken.length)
    else (0, cs)
  | [] => (0, [])

/-- The real number at the start of a text without a sign, and what follows it. -/
def unsignedReal? (negative : Bool) (cs : List Char) : Option (Binary64 × List Char) :=
  let starts (word : String) : Bool := word.toList.isPrefixOf (cs.map Char.toLower)
  if starts "infinity" then some (.infinite negative, cs.drop 8)
  else if starts "inf" then some (.infinite negative, cs.drop 3)
  else if starts "nan" then some (.nan 0, cs.drop 3)
  else
    let (n, size) := Numeral.leading cs
    if 2 < size && starts "0x" then some (.nearest negative n 1, cs.drop size)
    else
      let whole := cs.takeWhile Char.isDigit
      let rest := cs.drop whole.length
      let places := if rest.head? = some '.' then rest.tail.takeWhile Char.isDigit else []
      if whole.isEmpty && places.isEmpty then none
      else
        let rest := if rest.head? = some '.' then rest.tail.drop places.length else rest
        let (power, rest) := power rest
        let digits := (String.ofList (whole ++ places)).toNat?.getD 0
        some (.ofDecimal negative digits (power - places.length), rest)

/-- A real number, and what is wrong with the argument. -/
def real (s : String) : Binary64 × Option NumberFault :=
  match s.toList with
  | '\x27' :: cs | '\x22' :: cs => (.ofInt (codeOf cs), none)
  | cs =>
    let (negative, cs) := match cs.dropWhile Numeral.isBlank with
      | '-' :: rest => (true, rest)
      | '+' :: rest => (false, rest)
      | cs => (false, cs)
    match unsignedReal? negative cs with
    | none => (.zero false, if s.isEmpty then none else some .noNumber)
    | some (x, rest) => (x, if rest.isEmpty then none else some .moreThanNumber)

end Argument
end BundleForge.Shell
