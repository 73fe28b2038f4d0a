import BundleForge.Text.Blank
import BundleForge.Text.Quoted

/-!
Whole numbers in decimal text: blanks around them, a sign, digits of any script, and single
underscores between digits. Numbers of more than 4300 digits are refused.
-/

namespace BundleForge.Number

/-- The zeros of the decimal digit sequences of Unicode 14; each is followed by its nine digits. -/
def zeroDigits : Array Nat := #[
  0x30, 0x660, 0x6f0, 0x7c0, 0x966, 0x9e6, 0xa66, 0xae6,
  0xb66, 0xbe6, 0xc66, 0xce6, 0xd66, 0xde6, 0xe50, 0xed0,
  0xf20, 0x1040, 0x1090, 0x17e0, 0x1810, 0x1946, 0x19d0, 0x1a80,
  0x1a90, 0x1b50, 0x1bb0, 0x1c40, 0x1c50, 0xa620, 0xa8d0, 0xa900,
  0xa9d0, 0xa9f0, 0xaa50, 0xabf0, 0xff10, 0x104a0, 0x10d30, 0x11066,
  0x110f0, 0x11136, 0x111d0, 0x112f0, 0x11450, 0x114d0, 0x11650, 0x116c0,
  0x11730, 0x118e0, 0x11950, 0x11c50, 0x11d50, 0x11da0, 0x16a60, 0x16ac0,
  0x16b50, 0x1d7ce, 0x1d7d8, 0x1d7e2, 0x1d7ec, 0x1d7f6, 0x1e140, 0x1e2f0,
  0x1e950, 0x1fbf0]

/-- The value of a decimal digit of any script. -/
def digitValue? (c : Char) : Option Nat :=
  let n := c.toNat
  if n < 0x80 then if c.isDigit then some (n - 0x30) else none
  else (zeroDigits.find? fun z => z ≤ n && n < z + 10).map (n - ·)

/-- The most digits that are converted between text and number. -/
def digitLimit : Nat := 4300

inductive IntegerFault
  | notInteger (text : String)
  | tooManyDigits (count : Nat)
  | tooLongToWrite
deriving DecidableEq, Repr

/-- The first 200 characters of the quoted text, as an error shows it. -/
def shownText (s : String) : String := String.ofList ((Text.quote s).toList.take 200)

def IntegerFault.message : IntegerFault → String
  | .notInteger text => "invalid literal for int() with base 10: " ++ shownText text
  | .tooManyDigits count => beyondLimit (": value has " ++ toString count ++ " digits")
  | .tooLongToWrite => beyondLimit ""
where
  beyondLimit (detail : String) : String :=
    "Exceeds the limit (4300 digits) for integer string conversion" ++ detail ++
      "; use sys.set_int_max_str_digits() to increase the limit"

/-- The digits at the start of a text, underscores between them left out, with what follows. Nothing
is read where an underscore does not stand between two digits. -/
def digitRun (seen : List Nat) : List Char → Option (List Nat × List Char)
  | [] => if seen.isEmpty then none else some (seen.reverse, [])
  | '_' :: c :: rest =>
    if seen.isEmpty then none
    else match digitValue? c with
      | some d => digitRun (d :: seen) rest
      | none => none
  | c :: rest =>
    match digitValue? c with
    | some d => digitRun (d :: seen) rest
    | none => if seen.isEmpty || c = '_' then none else some (seen.reverse, c :: rest)

def ofDigits (base : Nat) (digits : List Nat) : Nat := digits.foldl (fun n d => n * base + d) 0

/-- A blank that may stand around a number: any but the four separators among the control
characters. -/
def isNumberBlank (c : Char) : Bool := Text.isBlank c && !(0x1c ≤ c.toNat && c.toNat ≤ 0x1f)

/-- The whole number that a text spells. -/
def readInteger (s : String) : Except IntegerFault Int :=
  let cs := s.toList
  let cs := cs.dropWhile isNumberBlank
  let (negative, cs) :=
    match cs with
    | '-' :: rest => (true, rest)
    | '+' :: rest => (false, rest)
    | cs => (false, cs)
  match digitRun [] cs with
  | none => .error (.notInteger s)
  | some (digits, rest) =>
    if digitLimit < digits.length then .error (.tooManyDigits digits.length)
    else if rest.all isNumberBlank then
      let n : Int := ofDigits 10 digits
      .ok (if negative then -n else n)
    else .error (.notInteger s)

/-- The decimal text of a whole number, if it is short enough to be written. -/
def writeInteger (n : Int) : Except IntegerFault String :=
  if Nat.pow 10 digitLimit ≤ n.natAbs then .error .tooLongToWrite else .ok (toString n)

theorem writeInteger_of_lt {n : Int} (h : n.natAbs < Nat.pow 10 digitLimit) :
    writeInteger n = .ok (toString n) := by
  rw [writeInteger, if_neg (Nat.not_le.mpr h)]

end BundleForge.Number
