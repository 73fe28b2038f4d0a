import BundleForge.Entries
import BundleForge.Number.DecimalText
import BundleForge.Text.Spelled

/-!
Json values with the order of their members kept, and their display as text. Whole numbers and
doubles are told apart.
-/

namespace BundleForge

/-- A Json value. The members of an object keep the order in which their names first appeared. A string
in which halves of characters stand alone is `halved`. -/
inductive Json
  | null
  | bool (b : Bool)
  | int (n : Int)
  | real (x : Binary64)
  | str (s : String)
  | halved (codes : List Text.Code)
  | arr (items : List Json)
  | obj (members : List (String × Json))
deriving Inhabited, BEq, Repr

namespace Json

/-- What sort of value it is. -/
inductive Kind
  | null
  | bool
  | int
  | real
  | str
  | arr
  | obj
deriving DecidableEq, Repr

def kind : Json → Kind
  | .null => .null
  | .bool _ => .bool
  | .int _ => .int
  | .real _ => .real
  | .str _ | .halved _ => .str
  | .arr _ => .arr
  | .obj _ => .obj

/-- The name by which messages call a sort of value. -/
def Kind.name : Kind → String
  | .null => "NoneType"
  | .bool => "bool"
  | .int => "int"
  | .real => "float"
  | .str => "str"
  | .arr => "list"
  | .obj => "dict"

/-- Whether a value counts as present: null, false, the zeros and everything empty do not. -/
def isPresent : Json → Bool
  | .null => false
  | .bool b => b
  | .int n => n ≠ 0
  | .real x => !x.isZero
  | .str s => s ≠ ""
  | .halved _ => true
  | .arr items => !items.isEmpty
  | .obj members => !members.isEmpty

/-- The value when it counts as present. -/
def present? (j : Json) : Option Json := if j.isPresent then some j else none

mutual

/-- A value as it is displayed inside another: text between quotation marks. -/
def display : Json → String
  | .null => "None"
  | .bool b => if b then "True" else "False"
  | .int n => toString n
  | .real x => x.text
  | .str s => Text.quote s
  | .halved codes => Text.quoteCodes codes
  | .arr items => "[" ++ displayItems items ++ "]"
  | .obj members => "\x7b" ++ displayMembers members ++ "\x7d"

def displayItems : List Json → String
  | [] => ""
  | [j] => display j
  | j :: rest => display j ++ ", " ++ displayItems rest

def displayMembers : List (String × Json) → String
  | [] => ""
  | [(k, j)] => Text.quote k ++ ": " ++ display j
  | (k, j) :: rest => Text.quote k ++ ": " ++ display j ++ ", " ++ displayMembers rest

end

/-- The string that a literal spells. -/
def ofSpelled : Text.Spelled → Json
  | .whole s => .str s
  | .halved codes => .halved codes

/-- What a string spells. -/
def spelled? : Json → Option Text.Spelled
  | .str s => some (.whole s)
  | .halved codes => some (.halved codes)
  | _ => none

/-- A value as text: a string is itself, anything else its display. -/
def text : Json → String
  | .str s => s
  | .halved codes => (Text.Spelled.halved codes).text
  | j => display j

/-- The value of a member, if the object has it. -/
def member? (name : String) (members : List (String × Json)) : Option Json := members.lookup name

theorem text_str (s : String) : text (.str s) = s := rfl

end Json
end BundleForge
