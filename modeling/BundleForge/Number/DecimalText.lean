import BundleForge.Number.Binary64

/-!
Doubles in decimal. The default text has the fewest digits that read back as the same double, and
of those the nearest; the fixed text is the exact value rounded once to a number of places.
-/

namespace BundleForge.Binary64

/-- How shortest text is laid out: the decimal points that are written in place, and how many digits
an exponent has at least. -/
structure DecimalLayout where
  lowestPoint : Int
  highestPoint : Int
  exponentDigits : Nat

/-- From 0.0001 up to below 10^16 the point stands in place; an exponent has two digits or more. -/
def defaultLayout : DecimalLayout := ⟨-3, 16, 2⟩

/-- The reals that round to a double, all times a common denominator: its own value, the two ends,
and whether the ends belong to it. -/
structure Interval where
  value : Nat
  low : Nat
  high : Nat
  den : Nat
  closed : Bool

def intervalOf (m : Nat) (e : Int) : Interval :=
  let narrow := m = Nat.pow 2 52 ∧ minExponent < e
  let (num, den) := scale 1 1 (e - 2)
  { value := 4 * m * num
    low := (if narrow then 4 * m - 1 else 4 * m - 2) * num
    high := (4 * m + 2) * num
    den := den
    closed := m % 2 = 0 }

def Interval.holds (i : Interval) (num den : Nat) : Bool :=
  if i.closed then i.low * den ≤ num * i.den && num * i.den ≤ i.high * den
  else i.low * den < num * i.den && num * i.den < i.high * den

/-- `n * 10 ^ e` as a quotient of naturals. -/
def decimalQuotient (n : Nat) (e : Int) : Nat × Nat :=
  if 0 ≤ e then (n * Nat.pow 10 e.toNat, 1) else (n, Nat.pow 10 (-e).toNat)

/-- The better of the two neighbours of the value on the grid of multiples of `10 ^ e`, if one of
them reads back. -/
def Interval.onGrid? (i : Interval) (e : Int) : Option Nat :=
  let (gridNum, gridDen) := decimalQuotient 1 e
  let below := (i.value * gridDen) / (i.den * gridNum)
  let reads (n : Nat) : Bool := i.holds (n * gridNum) gridDen
  let nearer := Number.roundHalfEven (i.value * gridDen) (i.den * gridNum)
  let other := if nearer = below then below + 1 else below
  if reads nearer then some nearer
  else if reads other then some other
  else none

/-- The first power of ten above the value. -/
def pointOf (num den : Nat) : Int :=
  let guess : Int := ((num.log2 : Int) - (den.log2 : Int)) * 30103 / 100000
  let above (e : Int) : Bool :=
    let (n, d) := decimalQuotient 1 e
    num * d < n * den
  if above (guess - 1) then guess - 1
  else if above guess then guess
  else if above (guess + 1) then guess + 1
  else guess + 2

/-- The digits and the decimal exponent of the shortest text, trying one more digit each time. -/
def shortestFrom (i : Interval) (point : Int) : Nat → Nat → Nat × Int
  | _, 0 => (i.value / i.den, 0)
  | count, fuel + 1 =>
    let e := point - count
    match i.onGrid? e with
    | some n => (n, e)
    | none => shortestFrom i point (count + 1) fuel

/-- Drops the zeros at the end of a digit sequence. -/
def dropZeros (digits : Nat) (exponent : Int) : Nat → Nat × Int
  | 0 => (digits, exponent)
  | fuel + 1 =>
    if digits ≠ 0 ∧ digits % 10 = 0 then dropZeros (digits / 10) (exponent + 1) fuel
    else (digits, exponent)

/-- The fewest digits that read back, with the power of ten they are multiplied by. -/
def shortest (m : Nat) (e : Int) : Nat × Int :=
  let i := intervalOf m e
  let (n, x) := shortestFrom i (pointOf i.value i.den) 1 20
  dropZeros n x 400

def digitsOf (n : Nat) : List Char := Nat.toDigits 10 n

/-- Digits with the point after the given number of them, at least one digit on either side. -/
def positional (digits : List Char) (point : Int) : List Char :=
  if point ≤ 0 then '0' :: '.' :: (List.replicate (-point).toNat '0' ++ digits)
  else
    let n := point.toNat
    if digits.length ≤ n then digits ++ List.replicate (n - digits.length) '0' ++ ['.', '0']
    else digits.take n ++ '.' :: digits.drop n

/-- Digits with the point after the first, and the power of ten. -/
def scientific (layout : DecimalLayout) (digits : List Char) (point : Int) : List Char :=
  let power := point - 1
  let shown := digitsOf power.natAbs
  let shown := List.replicate (layout.exponentDigits - shown.length) '0' ++ shown
  let fraction := if digits.length ≤ 1 then [] else '.' :: digits.drop 1
  digits.take 1 ++ fraction ++ 'e' :: (if power < 0 then '-' else '+') :: shown

def layOut (layout : DecimalLayout) (digits : List Char) (point : Int) : List Char :=
  if layout.lowestPoint ≤ point ∧ point ≤ layout.highestPoint then positional digits point
  else scientific layout digits point

/-- The default text of a double. -/
def text : Binary64 → String
  | .nan _ => "nan"
  | .infinite negative => if negative then "-inf" else "inf"
  | .finite negative m e =>
    let unsigned :=
      if m = 0 then ['0', '.', '0']
      else
        let (n, x) := shortest m e
        let digits := digitsOf n
        layOut defaultLayout digits (digits.length + x)
    String.ofList (if negative then '-' :: unsigned else unsigned)

/-- The digits of `n` units of `10 ^ -places`, with a point before the last `places` of them. -/
def pointed (n places : Nat) : List Char :=
  let digits := digitsOf n
  let digits := List.replicate (places + 1 - digits.length) '0' ++ digits
  let whole := digits.length - places
  digits.take whole ++ (if places = 0 then [] else '.' :: digits.drop whole)

/-- The value rounded to a number of decimal places, halves to the even digit. -/
def fixed (places : Nat) : Binary64 → String
  | .nan _ => "nan"
  | .infinite negative => if negative then "-inf" else "inf"
  | .finite negative m e =>
    let (num, den) := magnitude m e
    let unsigned := pointed (Number.roundHalfEven (num * Nat.pow 10 places) den) places
    String.ofList (if negative then '-' :: unsigned else unsigned)

def abs : Binary64 → Binary64
  | .infinite _ => .infinite false
  | .finite _ m e => .finite false m e
  | .nan payload => .nan payload

theorem abs_abs (x : Binary64) : x.abs.abs = x.abs := by cases x <;> rfl

/-- The digits of a value rounded to a number of places behind the first digit, and the power of ten
of that first digit. -/
def roundedDigits (places m : Nat) (e : Int) : Nat × Int :=
  if m = 0 then (0, 0)
  else
    let (num, den) := magnitude m e
    let power := pointOf num den - 1
    let shift : Int := places - power
    let digits :=
      if 0 ≤ shift then Number.roundHalfEven (num * Nat.pow 10 shift.toNat) den
      else Number.roundHalfEven num (den * Nat.pow 10 (-shift).toNat)
    if digits = Nat.pow 10 (places + 1) then (Nat.pow 10 places, power + 1) else (digits, power)

/-- The text with one digit in front of the point, a number of places, and a power of ten. -/
def exponential (places : Nat) : Binary64 → String
  | .finite negative m e =>
    let (digits, power) := roundedDigits places m e
    let shown := digitsOf power.natAbs
    let shown := List.replicate (2 - shown.length) '0' ++ shown
    let unsigned := pointed digits places ++ 'e' :: (if power < 0 then '-' else '+') :: shown
    String.ofList (if negative then '-' :: unsigned else unsigned)
  | x => x.text

/-- A fraction without the zeros at its end, and without its point where nothing is left of it. -/
def dropFractionZeros (cs : List Char) : List Char :=
  if cs.contains '.' then
    let kept := cs.reverse.dropWhile (· = '0')
    (if kept.head? = some '.' then kept.tail else kept).reverse
  else cs

/-- The text with a number of digits that count: in place where the power of ten is small, and else
with the power written behind it. Zeros at the end of the fraction may be kept. -/
def general (digits : Nat) (keepZeros : Bool) : Binary64 → String
  | .finite negative m e =>
    let digits := max digits 1
    let power := (roundedDigits (digits - 1) m e).2
    let tidy (cs : List Char) : List Char := if keepZeros then cs else dropFractionZeros cs
    if -4 ≤ power && power < digits then
      String.ofList (tidy (fixed (digits - 1 - power).toNat (.finite negative m e)).toList)
    else
      let (front, back) := (exponential (digits - 1) (.finite negative m e)).toList.span (· ≠ 'e')
      String.ofList (tidy front ++ back)
  | x => x.text

end BundleForge.Binary64
