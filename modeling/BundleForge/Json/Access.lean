import BundleForge.Json.Basic
import BundleForge.Misfit

/-!
Taking a Json value for what it is expected to be. Where it is something else the misfit says how.
-/

namespace BundleForge.Json

/-- The member of a value that has to be an object. -/
def get (name : String) : Json → Except Misfit (Option Json)
  | .obj members => .ok (members.lookup name)
  | j => .error (.noMember j.kind.name "get")

/-- The member of an object when it counts as present. -/
def getPresent (name : String) (j : Json) : Except Misfit (Option Json) :=
  (j.get name).map fun value => value.bind present?

/-- The members of a value that has to be an object. -/
def entries : Json → Except Misfit (List (String × Json))
  | .obj members => .ok members
  | j => .error (.noMember j.kind.name "items")

/-- The values met in going through a value: items, member names or characters. -/
def iterate : Json → Except Misfit (List Json)
  | .arr items => .ok items
  | .obj members => .ok (members.map fun m => .str m.1)
  | .str s => .ok (s.toList.map fun c => .str (String.singleton c))
  | .halved codes => .ok (codes.map fun c => ofSpelled (.ofCodes [c]))
  | j => .error (.notIterable j.kind.name)

/-- A value that has to be a text, because it is asked for what only texts have. -/
def asText (member : String) : Json → Except Misfit String
  | .str s => .ok s
  | j => .error (.noMember j.kind.name member)

/-- The texts met in going through a value in which there is nothing else. -/
def texts (j : Json) : Except Misfit (List String) := do
  (← j.iterate).mapM fun
    | .str s => .ok s
    | item => .error (.notText item.kind.name)

/-- The whole number that a value stands for: truth values count one or nothing, doubles lose their
fraction, texts are read. -/
def toInteger : Json → Except Misfit Int
  | .bool b => .ok (if b then 1 else 0)
  | .int n => .ok n
  | .real (.nan _) => .error .notANumber
  | .real (.infinite _) => .error .infiniteNumber
  | .real (.finite negative m e) => .ok (Binary64.truncate negative m e)
  | .str s =>
    match Number.readInteger s with
    | .ok n => .ok n
    | .error fault => .error (.badInteger fault)
  | .halved codes => .error (.badInteger (.notInteger (Text.Spelled.halved codes).text))
  | j => .error (.notNumber j.kind.name)

theorem iterate_arr (items : List Json) : iterate (.arr items) = .ok items := rfl

theorem toInteger_int (n : Int) : toInteger (.int n) = .ok n := rfl

end BundleForge.Json
