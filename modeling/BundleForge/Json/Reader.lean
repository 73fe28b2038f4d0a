import BundleForge.Json.Basic
import BundleForge.Number.IntegerText

/-!
Reading Json. Besides the standard grammar the words NaN, Infinity and -Infinity are numbers; a
repeated member name keeps its first place and its last value. A whole number of more than 4300
digits, and values too deep inside others, are refused on their own account.
-/

namespace BundleForge.Json

inductive ReadFault
  | malformed
  | tooDeep
  | integer (fault : Number.IntegerFault)
deriving DecidableEq, Repr

def isSpace (c : Char) : Bool := c = ' ' || c = '\t' || c = '\n' || c = '\r'

def skipSpace (cs : List Char) : List Char := cs.dropWhile isSpace

def hexValue? (c : Char) : Option Nat :=
  if '0' ≤ c && c ≤ '9' then some (c.toNat - 48)
  else if 'a' ≤ c && c ≤ 'f' then some (c.toNat - 87)
  else if 'A' ≤ c && c ≤ 'F' then some (c.toNat - 55)
  else none

/-- The number that four hexadecimal digits spell. -/
def hexUnit? (a b c d : Char) : Option Nat := do
  let a ← hexValue? a
  let b ← hexValue? b
  let c ← hexValue? c
  let d ← hexValue? d
  return ((a * 16 + b) * 16 + c) * 16 + d

/-- The character of a one-letter escape. -/
def escaped? (c : Char) : Option Char :=
  if c = Text.doubleQuote || c = '\\' || c = '/' then some c
  else if c = 'b' then some (Char.ofNat 8)
  else if c = 'f' then some (Char.ofNat 12)
  else if c = 'n' then some '\n'
  else if c = 'r' then some '\r'
  else if c = 't' then some '\t'
  else none

/-- The second unit of a pair, if one is written next. -/
def lowUnit? : List Char → Option (Nat × List Char)
  | '\\' :: 'u' :: a :: b :: c :: d :: rest =>
    match hexUnit? a b c d with
    | some n => if 0xdc00 ≤ n && n < 0xe000 then some (n, rest) else none
    | none => none
  | _ => none

/-- The rest of a string after its opening mark. A unit that has lost its pair is a half. -/
def readString (fuel : Nat) (read : List Text.Code) (cs : List Char) :
    Except ReadFault (Text.Spelled × List Char) :=
  match fuel, cs with
  | 0, _ => .error .malformed
  | _, [] => .error .malformed
  | fuel + 1, c :: rest =>
    if c = Text.doubleQuote then .ok (.ofCodes read.reverse, rest)
    else if c.toNat < 0x20 then .error .malformed
    else if c = '\\' then
      match rest with
      | 'u' :: a :: b :: c :: d :: rest =>
        match hexUnit? a b c d with
        | none => .error .malformed
        | some n =>
          if 0xd800 ≤ n && n < 0xdc00 then
            match lowUnit? rest with
            | some (m, rest) =>
              let c := Char.ofNat (0x10000 + (n - 0xd800) * 0x400 + (m - 0xdc00))
              readString fuel (.char c :: read) rest
            | none => readString fuel (.half n :: read) rest
          else if 0xdc00 ≤ n && n < 0xe000 then readString fuel (.half n :: read) rest
          else readString fuel (.char (Char.ofNat n) :: read) rest
      | e :: rest =>
        match escaped? e with
        | some e => readString fuel (.char e :: read) rest
        | none => .error .malformed
      | [] => .error .malformed
    else readString fuel (.char c :: read) rest

/-- The digits of a fraction, if there is one. -/
def fraction : List Char → List Char × List Char
  | '.' :: c :: rest =>
    if c.isDigit then ((c :: rest).takeWhile Char.isDigit, (c :: rest).dropWhile Char.isDigit)
    else ([], '.' :: c :: rest)
  | cs => ([], cs)

/-- The power of ten, if there is one. -/
def power? (cs : List Char) : Option (Int × List Char) :=
  match cs with
  | e :: rest =>
    if e = 'e' || e = 'E' then
      let (negative, rest) : Bool × List Char :=
        match rest with
        | '-' :: rest => (true, rest)
        | '+' :: rest => (false, rest)
        | rest => (false, rest)
      let digits := rest.takeWhile Char.isDigit
      if digits.isEmpty then none
      else
        let n : Int := Number.ofDigits 10 (digits.map fun c => c.toNat - 48)
        some (if negative then -n else n, rest.dropWhile Char.isDigit)
    else none
  | [] => none

/-- A number after its sign. Without fraction and power it is a whole number. -/
def readNumber (negative : Bool) (cs : List Char) : Except ReadFault (Json × List Char) :=
  let (whole, rest) :=
    match cs with
    | '0' :: rest => (['0'], rest)
    | cs => (cs.takeWhile Char.isDigit, cs.dropWhile Char.isDigit)
  if whole.isEmpty then .error .malformed
  else
    let (places, rest) := fraction rest
    let value (digits : List Char) : Nat := Number.ofDigits 10 (digits.map fun c => c.toNat - 48)
    match power? rest with
    | some (power, rest) =>
      .ok (.real (Binary64.ofDecimal negative (value (whole ++ places)) (power - places.length)), rest)
    | none =>
      if places.isEmpty then
        if Number.digitLimit < whole.length then .error (.integer (.tooManyDigits whole.length))
        else
          let n : Int := value whole
          .ok (.int (if negative then -n else n), rest)
      else .ok (.real (Binary64.ofDecimal negative (value (whole ++ places)) (-places.length)), rest)

/-- The rest of a text after a word it starts with. -/
def afterWord? (word : String) (cs : List Char) : Option (List Char) :=
  let w := word.toList
  if w.isPrefixOf cs then some (cs.drop w.length) else none

/-- The values that are words, and the numbers. -/
def readAtom (cs : List Char) : Except ReadFault (Json × List Char) :=
  match afterWord? "null" cs with
  | some rest => .ok (.null, rest)
  | none =>
  match afterWord? "true" cs with
  | some rest => .ok (.bool true, rest)
  | none =>
  match afterWord? "false" cs with
  | some rest => .ok (.bool false, rest)
  | none =>
  match afterWord? "NaN" cs with
  | some rest => .ok (.real (.nan 0), rest)
  | none =>
  match afterWord? "Infinity" cs with
  | some rest => .ok (.real (.infinite false), rest)
  | none =>
  match afterWord? "-Infinity" cs with
  | some rest => .ok (.real (.infinite true), rest)
  | none =>
  match cs with
  | '-' :: rest => readNumber true rest
  | cs => readNumber false cs

mutual

/-- One value that may hold others, one inside the other, to a depth. The fuel bounds the number of
nested steps; twice the length of the text is enough. -/
def readValue (fuel depth : Nat) (cs : List Char) : Except ReadFault (Json × List Char) :=
  match fuel with
  | 0 => .error .malformed
  | fuel + 1 =>
    match cs with
    | [] => .error .malformed
    | c :: rest =>
      if c = Text.doubleQuote then
        match readString (rest.length + 1) [] rest with
        | .ok (s, rest) => .ok (.ofSpelled s, rest)
        | .error e => .error e
      else if c = '[' then
        if depth = 0 then .error .tooDeep
        else match skipSpace rest with
        | ']' :: rest => .ok (.arr [], rest)
        | rest =>
          match readItems fuel (depth - 1) rest with
          | .ok (items, rest) => .ok (.arr items, rest)
          | .error e => .error e
      else if c = '\x7b' then
        if depth = 0 then .error .tooDeep
        else match skipSpace rest with
        | '\x7d' :: rest => .ok (.obj [], rest)
        | rest =>
          match readMembers fuel (depth - 1) rest with
          | .ok (members, rest) => .ok (.obj (Entries.collect members), rest)
          | .error e => .error e
      else readAtom cs

/-- The items of an array up to its closing bracket. -/
def readItems (fuel depth : Nat) (cs : List Char) : Except ReadFault (List Json × List Char) :=
  match fuel with
  | 0 => .error .malformed
  | fuel + 1 =>
    match readValue fuel depth cs with
    | .error e => .error e
    | .ok (item, rest) =>
      match skipSpace rest with
      | ',' :: rest =>
        match readItems fuel depth (skipSpace rest) with
        | .ok (items, rest) => .ok (item :: items, rest)
        | .error e => .error e
      | ']' :: rest => .ok ([item], rest)
      | _ => .error .malformed

/-- The members of an object up to its closing brace. -/
def readMembers (fuel depth : Nat) (cs : List Char) :
    Except ReadFault (List (String × Json) × List Char) :=
  match fuel with
  | 0 => .error .malformed
  | fuel + 1 =>
    match cs with
    | [] => .error .malformed
    | c :: rest =>
      if c = Text.doubleQuote then
        match readString (rest.length + 1) [] rest with
        | .error e => .error e
        | .ok (name, rest) =>
          match skipSpace rest with
          | ':' :: rest =>
            match readValue fuel depth (skipSpace rest) with
            | .error e => .error e
            | .ok (value, rest) =>
              match skipSpace rest with
              | ',' :: rest =>
                match readMembers fuel depth (skipSpace rest) with
                | .ok (members, rest) => .ok ((name.text, value) :: members, rest)
                | .error e => .error e
              | '\x7d' :: rest => .ok ([(name.text, value)], rest)
              | _ => .error .malformed
          | _ => .error .malformed
      else .error .malformed

end

/-- How many arrays and objects may lie one inside the other. -/
def depthLimit : Nat := 987

/-- The value that a whole text spells. -/
def read (s : String) : Except ReadFault Json :=
  let cs := skipSpace s.toList
  match readValue (2 * cs.length + 2) depthLimit cs with
  | .error e => .error e
  | .ok (j, rest) => if (skipSpace rest).isEmpty then .ok j else .error .malformed

end BundleForge.Json
