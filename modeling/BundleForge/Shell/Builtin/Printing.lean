import BundleForge.Shell.Builtin.Basic
import BundleForge.Shell.Format

/-!
The builtin commands that print their arguments, as they stand or in a format. Main statement: nothing to
print is a line of its own.
-/

namespace BundleForge.Shell.Run

/-- The bytes that arguments are printed as, up to an escape that ends all printing. -/
def echoed (arguments : List String) : List UInt8 :=
  let bare := arguments.head? = some "-n"
  let (bytes, stop) := escaped (" ".intercalate (if bare then arguments.tail else arguments)).toList
  if bare || stop then bytes else bytes ++ [10]

theorem echoed_nil : echoed [] = [10] := by decide +kernel

/-- Prints its arguments with escapes and a line end, which a first argument can leave out. -/
def echo : Builtin := fun arguments => putBytes (echoed arguments) 0

/-- Prints arguments in a format. A place of an unknown kind ends it. -/
def printf : Builtin := fun arguments => do
  let (_, arguments) ← optionsOf "" arguments
  match arguments with
  | [] => fail "usage: printf format [arg ...]"
  | spec :: values => do
    let (made, stop) := format (formatParts spec.toList) values.length values
    let bytes := made.flatMap fun
      | .bytes bytes => bytes
      | .fault .. => []
    let mut faulty := false
    for one in made do
      if let .fault argument fault := one then
        warn (argument ++ ": " ++ fault.message)
        faulty := true
    match stop with
    | some (.invalid written) => do
      let _ ← attempt (fail (α := Unit) (written ++ ": invalid directive"))
      let _ ← write 1 bytes
      halt .failure
    | some .incomplete => do
      let _ ← attempt (fail (α := Unit) "missing format character")
      let _ ← write 1 bytes
      halt .failure
    | _ => putBytes bytes (if faulty then 1 else 0)

end BundleForge.Shell.Run
