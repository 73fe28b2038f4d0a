import BundleForge.Number.IntegerText

/-!
Values from outside that do not fit the use made of them. The sorts of misfit are told apart because
some callers recover from some sorts only.
-/

namespace BundleForge

/-- How a value fails to fit. Kinds are given by the names that messages use. -/
inductive Misfit
  | noMember (kind member : String)
  | notIterable (kind : String)
  | notKey (kind : String)
  | notNumber (kind : String)
  | badInteger (fault : Number.IntegerFault)
  | notANumber
  | infiniteNumber
  | quotientTooLarge
  | notPathText (kind : String)
  | notText (kind : String)
  | notComparable (left right : String)
  | unexpected (name : String)
  | wrongCount (count : Nat)
  | tooDeep
deriving DecidableEq, Repr

/-- The sorts of misfit: a member that is not there, a value of the wrong kind, a wrong value of
the right kind, a number out of range, and values too deep inside others. -/
inductive Misfit.Sort
  | member
  | kind
  | value
  | range
  | depth
deriving DecidableEq, Repr

namespace Misfit

def sort : Misfit → Misfit.Sort
  | .noMember .. => .member
  | .notIterable _ | .notKey _ | .notNumber _ | .notPathText _ | .notText _ => .kind
  | .notComparable .. | .unexpected _ | .wrongCount _ => .kind
  | .badInteger _ | .notANumber => .value
  | .infiniteNumber | .quotientTooLarge => .range
  | .tooDeep => .depth

def message : Misfit → String
  | .noMember kind member => "'" ++ kind ++ "' object has no attribute '" ++ member ++ "'"
  | .notIterable kind => "'" ++ kind ++ "' object is not iterable"
  | .notKey kind => "unhashable type: '" ++ kind ++ "'"
  | .notNumber kind =>
    "int() argument must be a string, a bytes-like object or a real number, not '" ++ kind ++ "'"
  | .badInteger fault => fault.message
  | .notANumber => "cannot convert float NaN to integer"
  | .infiniteNumber => "cannot convert float infinity to integer"
  | .quotientTooLarge => "integer division result too large for a float"
  | .notPathText kind => "expected str, bytes or os.PathLike object, not " ++ kind
  | .notText kind => "expected string or bytes-like object, got '" ++ kind ++ "'"
  | .notComparable left right =>
    "'<' not supported between instances of '" ++ left ++ "' and '" ++ right ++ "'"
  | .unexpected name => "unexpected keyword argument '" ++ name ++ "'"
  | .wrongCount count => toString count ++ " arguments were given"
  | .tooDeep => "maximum recursion depth exceeded"

end Misfit
end BundleForge
