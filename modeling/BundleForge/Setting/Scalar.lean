import BundleForge.Text.Quoted

/-!
Texts that were declared to be a number, a truth value or a time and are none.
-/

namespace BundleForge

inductive ScalarFault
  | notReal (text : String)
  | realTooLarge
  | notTruth (text : String)
  | notTimestamp
  | notText
  | endless
  | noCharacters
  | characterTooLarge
  | codeTooLarge
  | notInteger (base : Nat) (text : String)
deriving DecidableEq, Repr

def ScalarFault.message : ScalarFault → String
  | .notReal text => "could not convert string to float: " ++ Text.quote text
  | .realTooLarge => "int too large to convert to float"
  | .notTruth text => Text.quote text
  | .notTimestamp => "'NoneType' object has no attribute 'groupdict'"
  | .notText => "expected string or bytes-like object, got 'list'"
  | .endless => "maximum recursion depth exceeded"
  | .noCharacters => "string index out of range"
  | .characterTooLarge => "chr() arg not in range(0x110000)"
  | .codeTooLarge => "int too large to convert"
  | .notInteger base text =>
    "invalid literal for int() with base " ++ toString base ++ ": " ++
      String.ofList ((Text.quote text).toList.take 200)

end BundleForge
