/-!
Whole numbers as a shell reads them: a zero in front means base eight, and with an `x` base sixteen.
Main statement: no more characters are taken for a number than there are.
-/

namespace BundleForge.Shell.Numeral

/-- The greatest number of 64 bits with a sign. -/
def greatest : Int := Nat.pow 2 63 - 1

def fits (n : Int) : Bool := -greatest - 1 ≤ n && n ≤ greatest

def isBlank (c : Char) : Bool := c == ' ' || ('\t' ≤ c && c ≤ '\r')

/-- The digits at the start of a text in some base. -/
def digitsIn (base : Nat) (cs : List Char) : List Nat :=
  let digit (c : Char) : Nat :=
    if c.isDigit then c.toNat - '0'.toNat
    else if 'a' ≤ c && c ≤ 'f' then c.toNat - 'a'.toNat + 10
    else if 'A' ≤ c && c ≤ 'F' then c.toNat - 'A'.toNat + 10
    else base
  (cs.map digit).takeWhile (· < base)

/-- The number at the start of a text and how many characters spell it: a zero in front means base
eight, and with an `x` base sixteen. -/
def leading (cs : List Char) : Nat × Nat :=
  let value (base : Nat) (cs : List Char) (before : Nat) : Nat × Nat :=
    let digits := digitsIn base cs
    (digits.foldl (fun n d => n * base + d) 0, before + digits.length)
  match cs with
  | '0' :: x :: d :: rest =>
    if (x = 'x' || x = 'X') && !(digitsIn 16 [d]).isEmpty then value 16 (d :: rest) 2
    else value 8 cs 0
  | '0' :: _ => value 8 cs 0
  | cs => value 10 cs 0

theorem digitsIn_length (base : Nat) (cs : List Char) : (digitsIn base cs).length ≤ cs.length := by
  simp only [digitsIn]
  exact Nat.le_trans (List.takeWhile_sublist _).length_le (by simp)

theorem leading_length (cs : List Char) : (leading cs).2 ≤ cs.length := by
  unfold leading
  dsimp only
  split
  · rename_i x d rest
    split
    · have := digitsIn_length 16 (d :: rest)
      simp only [List.length_cons] at this ⊢
      omega
    · have := digitsIn_length 8 ('0' :: x :: d :: rest)
      omega
  · rename_i rest _
    have := digitsIn_length 8 ('0' :: rest)
    omega
  · have := digitsIn_length 10 cs
    omega

/-- The number in base ten that a text spells, with blanks around it and a sign. -/
def decimal? (s : String) : Option Int :=
  let cs := s.toList.dropWhile isBlank
  let (negative, cs) := match cs with
    | '-' :: rest => (true, rest)
    | '+' :: rest => (false, rest)
    | cs => (false, cs)
  let digits := digitsIn 10 cs
  if digits.isEmpty || !(cs.drop digits.length).all isBlank then none
  else
    let n : Int := (digits.foldl (fun n d => n * 10 + d) 0 : Nat)
    some (if negative then -n else n)

/-- The greatest number that an argument can be. -/
def greatestArgument : Int := 2147483647

/-- A number that an argument spells, behind blanks and with blanks behind it. -/
def argument? (s : String) : Option Nat :=
  let cs := s.toList.dropWhile isBlank
  let cs := match cs with
    | '+' :: rest => rest
    | '-' :: '0' :: rest => if rest.all (· = '0') then '0' :: rest else cs
    | cs => cs
  let digits := cs.takeWhile Char.isDigit
  if digits.isEmpty || !(cs.drop digits.length).all isBlank then none
  else (String.ofList digits).toNat?.filter fun n => (n : Int) ≤ greatestArgument

/-- The number at the start of a text, behind blanks and a sign, and what follows it. -/
def read (s : String) : Option (Int × List Char) :=
  let cs := s.toList.dropWhile isBlank
  let (negative, cs) := match cs with
    | '-' :: rest => (true, rest)
    | '+' :: rest => (false, rest)
    | cs => (false, cs)
  let (n, size) := leading cs
  if size = 0 then none else some (if negative then -n else n, cs.drop size)

end BundleForge.Shell.Numeral
