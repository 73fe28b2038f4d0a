import BundleForge.Json.Basic
import BundleForge.Number.IntegerText
import BundleForge.Setting.Moment

/-!
The values of a configuration, whichever format they were written in. A table keeps its entries in
order and may have keys of any kind; keys that are numerically equal are one key.
-/

namespace BundleForge

/-- Why a value has no text: a number in it has too many digits, or too many values stand in it one
inside the other. -/
inductive TextFault
  | number (fault : Number.IntegerFault)
  | tooDeep
deriving DecidableEq, Repr

/-- A configuration value. A text in which halves of characters stand alone is `halved`. A list or
table that leads back into itself is `looped`: it is known by its display, given the room for it, and by
the list or table that is found on opening it. -/
inductive Setting
  | null
  | bool (b : Bool)
  | int (n : Int)
  | real (x : Binary64)
  | str (s : String)
  | halved (codes : List Text.Code)
  | bytes (content : List UInt8)
  | date (d : Date)
  | clock (t : Clock)
  | moment (m : Moment)
  | list (items : List Setting)
  | tuple (items : List Setting)
  | set (items : List Setting)
  | table (entries : List (Setting × Setting))
  | looped (shown : Nat → Except TextFault String) (inside : Unit → Setting)
deriving Inhabited

namespace Setting

/-- The entries of a table under a name. -/
abbrev Table := List (Setting × Setting)

/-- The value itself, a looped one opened. -/
def opened : Setting → Setting
  | .looped _ inside => inside ()
  | value => value

/-- The number a value counts as among keys. -/
def number? : Setting → Option Binary64
  | .real x => some x
  | _ => none

def integer? : Setting → Option Int
  | .bool b => some (if b then 1 else 0)
  | .int n => some n
  | .real x => x.toInt?
  | _ => none

mutual

/-- Whether two values are one key of a table. What is not a number is one key for each payload. -/
def sameKey (a b : Setting) : Bool :=
  match a, b with
  | .null, .null => true
  | .str s, .str t => s == t
  | .halved s, .halved t => s == t
  | .bytes s, .bytes t => s == t
  | .date d, .date e => d == e
  | .clock s, .clock t => s == t
  | .moment s, .moment t => s.same t
  | .tuple s, .tuple t => sameKeys s t
  | a, b =>
    match a.integer?, b.integer? with
    | some m, some n => m == n
    | none, none =>
      match a.number?, b.number? with
      | some (.nan p), some (.nan q) => p == q
      | some x, some y => x.numEq y
      | _, _ => false
    | _, _ => false

def sameKeys : List Setting → List Setting → Bool
  | [], [] => true
  | a :: as, b :: bs => sameKey a b && sameKeys as bs
  | _, _ => false

end

instance : BEq Setting := ⟨sameKey⟩

/-- Whether a value can be a key: lists, sets and tables cannot, nor what holds one. -/
def isKey : Setting → Bool
  | .list _ | .set _ | .table _ | .looped .. => false
  | .tuple items => items.attach.all fun ⟨item, _⟩ => isKey item
  | _ => true

/-- The value of a table under a text key. -/
def get? (name : String) (entries : Table) : Option Setting :=
  match entries with
  | [] => none
  | (.str key, value) :: rest => if key = name then some value else get? name rest
  | _ :: rest => get? name rest

/-- Whether a value counts as given: null, false, the zeros and everything empty do not. -/
def isPresent : Setting → Bool
  | .null => false
  | .bool b => b
  | .int n => n ≠ 0
  | .real x => !x.isZero
  | .str s => s ≠ ""
  | .bytes content => !content.isEmpty
  | .list items | .tuple items | .set items => !items.isEmpty
  | .table entries => !entries.isEmpty
  | _ => true

mutual

/-- A value as it is displayed inside another, where there is room for so many values one inside the
other. The members of a set stand in a list of their own. -/
def display (room : Nat) (value : Setting) : Except TextFault String :=
  match room with
  | 0 => .error .tooDeep
  | room + 1 =>
    match value with
    | .null => .ok "None"
    | .bool b => .ok (if b then "True" else "False")
    | .int n => (Number.writeInteger n).mapError .number
    | .real x => .ok x.text
    | .str s => .ok (Text.quote s)
    | .halved codes => .ok (Text.quoteCodes codes)
    | .bytes content => .ok (Text.quoteBytes content)
    | .date d => .ok d.display
    | .clock t => .ok t.display
    | .moment m => .ok m.display
    | .list items => do
      let shown ← displayAll room items
      return "[" ++ ", ".intercalate shown ++ "]"
    | .tuple items => do
      let shown ← displayAll room items
      return "(" ++ ", ".intercalate shown ++ (if shown.length = 1 then ",)" else ")")
    | .set items => do
      let shown ← displayAll (room - 1) items
      return if shown.isEmpty then "set()" else "\x7b" ++ ", ".intercalate shown ++ "\x7d"
    | .table entries => do
      let shown ← displayEntries room entries
      return "\x7b" ++ ", ".intercalate shown ++ "\x7d"
    | .looped shown _ => shown (room + 1)

def displayAll (room : Nat) : List Setting → Except TextFault (List String)
  | [] => .ok []
  | item :: rest => do
    let shown ← display room item
    let others ← displayAll room rest
    return shown :: others

def displayEntries (room : Nat) : List (Setting × Setting) → Except TextFault (List String)
  | [] => .ok []
  | (key, value) :: rest => do
    let key ← display room key
    let value ← display room value
    let others ← displayEntries room rest
    return (key ++ ": " ++ value) :: others

end

/-- How many values may stand one inside the other in a value that is made a text. -/
def textRoom : Nat := 988

/-- A value as text: strings and moments are themselves, anything else its display. -/
def text : Setting → Except TextFault String
  | .str s => .ok s
  | .halved codes => .ok (Text.Spelled.halved codes).text
  | .date d => .ok d.text
  | .clock t => .ok t.text
  | .moment m => .ok m.text
  | value => display textRoom value

/-- The text that a literal spells. -/
def ofSpelled : Text.Spelled → Setting
  | .whole s => .str s
  | .halved codes => .halved codes

mutual

/-- A Json value as a configuration value. -/
def ofJson : Json → Setting
  | .null => .null
  | .bool b => .bool b
  | .int n => .int n
  | .real x => .real x
  | .str s => .str s
  | .halved codes => .halved codes
  | .arr items => .list (ofJsonItems items)
  | .obj members => .table (ofJsonMembers members)

def ofJsonItems : List Json → List Setting
  | [] => []
  | item :: rest => ofJson item :: ofJsonItems rest

def ofJsonMembers : List (String × Json) → List (Setting × Setting)
  | [] => []
  | (name, value) :: rest => (.str name, ofJson value) :: ofJsonMembers rest

end

theorem text_str (s : String) : text (.str s) = .ok s := rfl

end Setting
end BundleForge
