import BundleForge.Number.Binary64
import BundleForge.Number.IntegerText

/-!
Doubles and based whole numbers in free-standing text: blanks around them, a sign, digits of any
script with single underscores between them.
-/

namespace BundleForge.Number

/-- A run of digits that may be missing, with what follows it. -/
def optionalDigits (cs : List Char) : Option (List Nat × List Char) :=
  match cs with
  | [] => some ([], [])
  | c :: _ => if (digitValue? c).isSome then digitRun [] cs else some ([], cs)

/-- The power of ten at the end of a number; none where what follows is no power. -/
def exponent? (cs : List Char) : Option (Int × List Char) :=
  match cs with
  | [] => some (0, [])
  | e :: rest =>
    if e = 'e' || e = 'E' then do
      let (negative, rest) : Bool × List Char :=
        match rest with
        | '-' :: rest => (true, rest)
        | '+' :: rest => (false, rest)
        | rest => (false, rest)
      let (digits, rest) ← digitRun [] rest
      let n : Int := ofDigits 10 digits
      return (if negative then -n else n, rest)
    else some (0, cs)

def infinityWords : List String := ["inf", "infinity"]

/-- The double that a text spells after its sign. -/
def unsignedReal? (negative : Bool) (cs : List Char) : Option Binary64 :=
  let word := String.ofList (cs.map Char.toLower)
  if infinityWords.contains word then some (.infinite negative)
  else if word = "nan" then some (.nan 0)
  else do
    let (whole, rest) ← optionalDigits cs
    let (places, rest) ←
      match rest with
      | '.' :: after => optionalDigits after
      | rest => some ([], rest)
    if whole.isEmpty && places.isEmpty then none
    else do
      let (power, rest) ← exponent? rest
      if rest.isEmpty then
        some (Binary64.ofDecimal negative (ofDigits 10 (whole ++ places)) (power - places.length))
      else none

/-- The double that a text spells. -/
def readReal? (s : String) : Option Binary64 :=
  let cs := s.toList
  let cs := ((cs.dropWhile isNumberBlank).reverse.dropWhile isNumberBlank).reverse
  match cs with
  | '-' :: rest => unsignedReal? true rest
  | '+' :: rest => unsignedReal? false rest
  | cs => unsignedReal? false cs

/-- The value of a digit in a base of up to sixteen. -/
def basedDigit? (base : Nat) (c : Char) : Option Nat :=
  let n :=
    match digitValue? c with
    | some n => some n
    | none =>
      if 'a' ≤ c && c ≤ 'f' then some (c.toNat - 87)
      else if 'A' ≤ c && c ≤ 'F' then some (c.toNat - 55)
      else none
  n.filter (· < base)

/-- The letter that announces a base. -/
def baseLetter (base : Nat) : Char := if base = 2 then 'b' else if base = 8 then 'o' else 'x'

/-- The whole number that a text spells in base two, eight or sixteen, announced or not. -/
def readBased? (base : Nat) (s : String) : Option Int :=
  let cs := s.toList
  let cs := ((cs.dropWhile isNumberBlank).reverse.dropWhile isNumberBlank).reverse
  let (negative, cs) :=
    match cs with
    | '-' :: rest => (true, rest)
    | '+' :: rest => (false, rest)
    | cs => (false, cs)
  let cs :=
    match cs with
    | '0' :: letter :: rest => if letter.toLower = baseLetter base then rest else cs
    | cs => cs
  let digits := cs.map (basedDigit? base)
  if digits.isEmpty || digits.any Option.isNone then none
  else
    let n : Int := ofDigits base (digits.filterMap id)
    some (if negative then -n else n)

end BundleForge.Number
