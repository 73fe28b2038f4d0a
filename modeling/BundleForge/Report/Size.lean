import BundleForge.Json.Access

/-!
Sizes for people to read: whole bytes below 1024, then units of 1024 and 1024^2 bytes with one
decimal place.
-/

namespace BundleForge.Report

/-- The quotient of two whole numbers as a double. Its sign is that of the operands, also for zero. -/
def quotient (num den : Int) : Except Misfit Binary64 :=
  match Binary64.nearest ((num < 0) != (den < 0)) num.natAbs den.natAbs with
  | .infinite _ => .error .quotientTooLarge
  | x => .ok x

/-- A number of bytes in units of a given size, to one decimal place. -/
def inUnits (size : Int) (unitSize : Nat) (unit : String) : Except Misfit String :=
  (quotient size unitSize).map fun x => x.fixed 1 ++ unit

def formatSize (size : Int) : Except Misfit String :=
  if size < 1024 then
    match Number.writeInteger size with
    | .ok digits => .ok (digits ++ "b")
    | .error fault => .error (.badInteger fault)
  else if size < 1024 * 1024 then inUnits size 1024 "kb"
  else inUnits size (1024 * 1024) "mb"

/-- A size that is no whole number, in units of a given size. Dividing by a power of two is exact. -/
def realInUnits (x : Binary64) (unitExponent : Int) (unit : String) : String :=
  let scaled : Binary64 :=
    match x with
    | .finite negative m e => .finite negative m (e - unitExponent)
    | x => x
  scaled.fixed 1 ++ unit

/-- The size of a number of bytes that need not be whole. What is not a number is not below any. -/
def formatRealSize (x : Binary64) : String :=
  match x with
  | .nan _ => x.text ++ "mb"
  | .infinite negative => x.text ++ (if negative then "b" else "mb")
  | .finite negative m e =>
    let (num, den) := Binary64.magnitude m e
    if negative || num < 1024 * den then x.text ++ "b"
    else if num < 1024 * 1024 * den then realInUnits x 10 "kb"
    else realInUnits x 20 "mb"

/-- The size that a value stands for. A truth value counts as one byte or none, and is shown as it
is. -/
def formatValue : Json → Except Misfit String
  | .int n => formatSize n
  | .bool b => .ok ((Json.bool b).text ++ "b")
  | .real x => .ok (formatRealSize x)
  | j => .error (.notComparable j.kind.name (Json.int 1024).kind.name)

theorem formatSize_of_lt {size : Int} (h : size < 1024)
    (short : size.natAbs < Nat.pow 10 Number.digitLimit) :
    formatSize size = .ok (toString size ++ "b") := by
  simp only [formatSize, h, if_true, Number.writeInteger_of_lt short]

theorem formatValue_int (n : Int) : formatValue (.int n) = formatSize n := rfl

end BundleForge.Report
