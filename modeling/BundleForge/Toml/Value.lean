import BundleForge.Setting.Basic

/-!
Keys and values of TOML 1.0 as they are written: bare, quoted and dotted keys, the four kinds of
string, numbers, dates and times, arrays and inline tables.
-/

namespace BundleForge.Toml

inductive Fault
  | malformed
  | tooDeep
  | integer (fault : Number.IntegerFault)
deriving DecidableEq, Repr

/-- A piece that was read and the text after it. -/
abbrev Parsed (α : Type) := Except Fault (α × List Char)

def isBlank (c : Char) : Bool := c = ' ' || c = '\t'

def skipBlanks (cs : List Char) : List Char := cs.dropWhile isBlank

/-- A control character other than the tab. -/
def isControl (c : Char) : Bool := (c.toNat < 0x20 && c != '\t') || c.toNat = 0x7f

def isBareKeyChar (c : Char) : Bool := c.isAlphanum || c = '-' || c = '_'

/-- The text up to the end of the line, if a comment starts here. -/
def skipComment : List Char → Except Fault (List Char)
  | '#' :: rest =>
    let comment := rest.takeWhile (· != '\n')
    if comment.any isControl then .error .malformed else .ok (rest.dropWhile (· != '\n'))
  | cs => .ok cs

/-- Skips blanks, line ends and comments between the items of an array. -/
def skipGap (fuel : Nat) (cs : List Char) : Except Fault (List Char) :=
  match fuel with
  | 0 => .ok cs
  | fuel + 1 =>
    let rest := cs.dropWhile fun c => isBlank c || c = '\n'
    match rest with
    | '#' :: _ =>
      match skipComment rest with
      | .ok rest => skipGap fuel rest
      | .error fault => .error fault
    | rest => .ok rest

/-- The rest of a literal string, on one line. -/
def readLiteral (cs : List Char) : Parsed String :=
  let body := cs.takeWhile (· != Text.apostrophe)
  match cs.dropWhile (· != Text.apostrophe) with
  | [] => .error .malformed
  | _ :: rest => if body.any isControl then .error .malformed else .ok (String.ofList body, rest)

def hexValue? (c : Char) : Option Nat :=
  if '0' ≤ c && c ≤ '9' then some (c.toNat - 48)
  else if 'a' ≤ c && c ≤ 'f' then some (c.toNat - 87)
  else if 'A' ≤ c && c ≤ 'F' then some (c.toNat - 55)
  else none

/-- The character whose number is written in a given count of hexadecimal digits. -/
def readCodePoint (width : Nat) (cs : List Char) : Parsed Char :=
  let digits := (cs.take width).filterMap hexValue?
  if digits.length ≠ width then .error .malformed
  else
    let n := digits.foldl (fun n d => n * 16 + d) 0
    if n < 0xd800 || (0xe000 ≤ n && n < 0x110000) then .ok (Char.ofNat n, cs.drop width)
    else .error .malformed

def simpleEscape? (c : Char) : Option Char :=
  if c = 'b' then some (Char.ofNat 8)
  else if c = 't' then some '\t'
  else if c = 'n' then some '\n'
  else if c = 'f' then some (Char.ofNat 12)
  else if c = 'r' then some '\r'
  else if c = Text.doubleQuote || c = '\\' then some c
  else none

/-- What a backslash stands for: a character, or nothing where it joins two lines. -/
def readEscape (multiline : Bool) (cs : List Char) : Parsed (Option Char) :=
  match cs with
  | [] => .error .malformed
  | c :: rest =>
    if multiline && (isBlank c || c = '\n') then
      let skip (cs : List Char) : List Char := cs.dropWhile fun c => isBlank c || c = '\n'
      if c = '\n' then .ok (none, skip rest)
      else match skipBlanks rest with
        | [] => .ok (none, [])
        | '\n' :: rest => .ok (none, skip rest)
        | _ => .error .malformed
    else if c = 'u' then (readCodePoint 4 rest).map fun (c, rest) => (some c, rest)
    else if c = 'U' then (readCodePoint 8 rest).map fun (c, rest) => (some c, rest)
    else match simpleEscape? c with
      | some c => .ok (some c, rest)
      | none => .error .malformed

/-- The rest of a basic string up to its closing marks. -/
def readBasic (multiline : Bool) (fuel : Nat) (read : List Char) (cs : List Char) : Parsed (List Char) :=
  match fuel, cs with
  | 0, _ | _, [] => .error .malformed
  | fuel + 1, c :: rest =>
    if c = Text.doubleQuote then
      if !multiline then .ok (read.reverse, rest)
      else match rest with
        | a :: b :: after =>
          if a = Text.doubleQuote && b = Text.doubleQuote then .ok (read.reverse, after)
          else readBasic multiline fuel (c :: read) rest
        | _ => readBasic multiline fuel (c :: read) rest
    else if c = '\\' then
      match readEscape multiline rest with
      | .error fault => .error fault
      | .ok (some e, rest) => readBasic multiline fuel (e :: read) rest
      | .ok (none, rest) => readBasic multiline fuel read rest
    else if isControl c && !(multiline && c = '\n') then .error .malformed
    else readBasic multiline fuel (c :: read) rest

/-- The rest of a literal string on several lines, up to three apostrophes. -/
def readLongLiteral (read : List Char) : List Char → Parsed (List Char)
  | [] => .error .malformed
  | c :: rest =>
    if c = Text.apostrophe && rest.take 2 == [Text.apostrophe, Text.apostrophe] then
      .ok (read.reverse, rest.drop 2)
    else if isControl c && c != '\n' then .error .malformed
    else readLongLiteral (c :: read) rest

/-- Up to two marks may stand directly before the three that close a string on several lines. -/
def withExtraMarks (mark : Char) (body : List Char) (cs : List Char) : String × List Char :=
  match cs with
  | a :: b :: rest =>
    if a = mark then
      if b = mark then (String.ofList (body ++ [mark, mark]), rest)
      else (String.ofList (body ++ [mark]), b :: rest)
    else (String.ofList body, cs)
  | [a] => if a = mark then (String.ofList (body ++ [mark]), []) else (String.ofList body, cs)
  | [] => (String.ofList body, [])

def dropFirstNewline : List Char → List Char
  | '\n' :: rest => rest
  | cs => cs

/-- A string of any of the four kinds, given its mark and what follows it. -/
def readString (mark : Char) (cs : List Char) : Parsed String :=
  if cs.take 2 == [mark, mark] then
    let body := dropFirstNewline (cs.drop 2)
    let long :=
      if mark = Text.apostrophe then readLongLiteral [] body
      else readBasic true (body.length + 1) [] body
    match long with
    | .ok (body, rest) => .ok (withExtraMarks mark body rest)
    | .error fault => .error fault
  else if mark = Text.apostrophe then readLiteral cs
  else (readBasic false (cs.length + 1) [] cs).map fun (body, rest) => (String.ofList body, rest)

def readKeyPart (cs : List Char) : Parsed String :=
  match cs with
  | [] => .error .malformed
  | c :: rest =>
    if isBareKeyChar c then .ok (String.ofList (cs.takeWhile isBareKeyChar), cs.dropWhile isBareKeyChar)
    else if c = Text.apostrophe then readLiteral rest
    else if c = Text.doubleQuote then
      (readBasic false (rest.length + 1) [] rest).map fun (body, rest) => (String.ofList body, rest)
    else .error .malformed

/-- The parts of a key with points between them. -/
def readKey (fuel : Nat) (cs : List Char) : Parsed (List String) :=
  match fuel with
  | 0 => .error .malformed
  | fuel + 1 =>
    match readKeyPart cs with
    | .error fault => .error fault
    | .ok (part, rest) =>
      match skipBlanks rest with
      | '.' :: rest =>
        (readKey fuel (skipBlanks rest)).map fun (parts, rest) => (part :: parts, rest)
      | rest => .ok ([part], rest)

/-- Exactly `width` digits whose number lies within bounds. -/
def fixedDigits? (width low high : Nat) (cs : List Char) : Option (Nat × List Char) :=
  let digits := cs.take width
  if digits.length = width && digits.all Char.isDigit then
    let n := Number.ofDigits 10 (digits.map fun c => c.toNat - 48)
    if low ≤ n && n ≤ high then some (n, cs.drop width) else none
  else none

def sign? (c : Char) (cs : List Char) : Option (List Char) :=
  match cs with
  | d :: rest => if c = d then some rest else none
  | [] => none

/-- Millionths of a second: six digits count, the rest is dropped. -/
def microseconds (cs : List Char) : Nat × List Char :=
  match cs with
  | '.' :: rest =>
    let digits := rest.takeWhile Char.isDigit
    if digits.isEmpty then (0, cs)
    else
      let six := digits.take 6
      let six := six ++ List.replicate (6 - six.length) '0'
      (Number.ofDigits 10 (six.map fun c => c.toNat - 48), rest.dropWhile Char.isDigit)
  | cs => (0, cs)

def clock? (cs : List Char) : Option (Clock × List Char) := do
  let (hour, cs) ← fixedDigits? 2 0 23 cs
  let cs ← sign? ':' cs
  let (minute, cs) ← fixedDigits? 2 0 59 cs
  let cs ← sign? ':' cs
  let (second, cs) ← fixedDigits? 2 0 59 cs
  let (micro, cs) := microseconds cs
  return (⟨hour, minute, second, micro⟩, cs)

/-- The offset from universal time, if one is written. -/
def offset? (cs : List Char) : Option (Int × List Char) :=
  match cs with
  | c :: rest =>
    if c = 'Z' || c = 'z' then some (0, rest)
    else if c = '+' || c = '-' then do
      let (hours, rest) ← fixedDigits? 2 0 23 rest
      let rest ← sign? ':' rest
      let (minutes, rest) ← fixedDigits? 2 0 59 rest
      let n : Int := (hours * 60 + minutes : Nat)
      return (if c = '-' then -n else n, rest)
    else none
  | [] => none

def dateNumbers? (cs : List Char) : Option ((Nat × Nat × Nat) × List Char) := do
  let (year, cs) ← fixedDigits? 4 0 9999 cs
  let cs ← sign? '-' cs
  let (month, cs) ← fixedDigits? 2 1 12 cs
  let cs ← sign? '-' cs
  let (day, cs) ← fixedDigits? 2 1 31 cs
  return ((year, month, day), cs)

/-- The time that follows a date, if one does. -/
def timeAfterDate? (cs : List Char) : Option (Clock × List Char) :=
  match cs with
  | c :: rest => if c = 'T' || c = 't' || c = ' ' then clock? rest else none
  | [] => none

/-- A date, alone or with a time. -/
def dateOrMoment? (cs : List Char) : Option (Parsed Setting) := do
  let ((year, month, day), rest) ← dateNumbers? cs
  return match Date.make year month day with
    | .error _ => .error .malformed
    | .ok date =>
      match timeAfterDate? rest with
      | none => .ok (.date date, rest)
      | some (clock, rest) =>
        match offset? rest with
        | some (offset, rest) => .ok (.moment ⟨date, clock, some offset⟩, rest)
        | none => .ok (.moment ⟨date, clock, none⟩, rest)

/-- Digits of a base with single underscores between them. -/
def digitGroup (isDigit : Char → Bool) : List Char → List Char × List Char
  | [] => ([], [])
  | '_' :: d :: rest =>
    if isDigit d then
      let (digits, after) := digitGroup isDigit rest
      (d :: digits, after)
    else ([], '_' :: d :: rest)
  | d :: rest =>
    if isDigit d then
      let (digits, after) := digitGroup isDigit rest
      (d :: digits, after)
    else ([], d :: rest)

/-- Digits of a base, the first of them without an underscore before it. -/
def digitsFirst? (isDigit : Char → Bool) (cs : List Char) : Option (List Char × List Char) :=
  match cs with
  | d :: _ => if isDigit d then some (digitGroup isDigit cs) else none
  | [] => none

def valueIn (base : Nat) (digits : List Char) : Nat :=
  Number.ofDigits base (digits.filterMap hexValue?)

/-- A whole number with a base in front. -/
def based? (cs : List Char) : Option (Nat × List Char) :=
  match cs with
  | '0' :: 'x' :: rest =>
    (digitsFirst? (fun c => (hexValue? c).isSome) rest).map fun (ds, rest) => (valueIn 16 ds, rest)
  | '0' :: 'b' :: rest =>
    (digitsFirst? (fun c => c = '0' || c = '1') rest).map fun (ds, rest) => (valueIn 2 ds, rest)
  | '0' :: 'o' :: rest =>
    (digitsFirst? (fun c => '0' ≤ c && c ≤ '7') rest).map fun (ds, rest) => (valueIn 8 ds, rest)
  | _ => none

/-- The power of ten after a number, if one is written. -/
def power? (cs : List Char) : Option (Int × List Char) :=
  match cs with
  | e :: rest =>
    if e = 'e' || e = 'E' then do
      let (negative, rest) : Bool × List Char :=
        match rest with
        | '-' :: rest => (true, rest)
        | '+' :: rest => (false, rest)
        | rest => (false, rest)
      let (digits, rest) ← digitsFirst? Char.isDigit rest
      let n : Int := valueIn 10 digits
      return (if negative then -n else n, rest)
    else none
  | [] => none

/-- A decimal number after its sign: a whole number unless it has a fraction or a power. -/
def decimal (negative : Bool) (cs : List Char) : Option (Parsed Setting) := do
  let (whole, rest) ←
    match cs with
    | '0' :: rest => some (['0'], rest)
    | cs => digitsFirst? Char.isDigit cs
  let (places, rest) : List Char × List Char :=
    match rest with
    | '.' :: after => (digitsFirst? Char.isDigit after).getD ([], rest)
    | rest => ([], rest)
  match power? rest with
  | some (power, rest) =>
    return .ok (.real (Binary64.ofDecimal negative (valueIn 10 (whole ++ places)) (power - places.length)),
      rest)
  | none =>
    if !places.isEmpty then
      return .ok (.real (Binary64.ofDecimal negative (valueIn 10 (whole ++ places)) (-places.length)), rest)
    else if Number.digitLimit < whole.length then
      return .error (.integer (.tooManyDigits whole.length))
    else
      let n : Int := valueIn 10 whole
      return .ok (.int (if negative then -n else n), rest)

def number? (cs : List Char) : Option (Parsed Setting) :=
  match based? cs with
  | some (n, rest) => some (.ok (.int n, rest))
  | none =>
    match cs with
    | '-' :: rest => decimal true rest
    | '+' :: rest => decimal false rest
    | cs => decimal false cs

def afterWord? (word : String) (cs : List Char) : Option (List Char) :=
  let w := word.toList
  if w.isPrefixOf cs then some (cs.drop w.length) else none

/-- The values written as words, with the text that spells each. -/
def wordValues : List (String × Setting) := [
  ("true", .bool true), ("false", .bool false),
  ("inf", .real (.infinite false)), ("+inf", .real (.infinite false)),
  ("-inf", .real (.infinite true)),
  ("nan", .real (.nan 0)), ("+nan", .real (.nan 0)), ("-nan", .real (.nan 0))]

def word? (cs : List Char) : Option (Setting × List Char) :=
  wordValues.findSome? fun (word, value) => (afterWord? word cs).map fun rest => (value, rest)

/-- Dates before times before numbers: each of them may start like the next. -/
def readScalar (cs : List Char) : Parsed Setting :=
  match dateOrMoment? cs with
  | some parsed => parsed
  | none =>
  match clock? cs with
  | some (t, rest) => .ok (.clock t, rest)
  | none =>
  match number? cs with
  | some parsed => parsed
  | none =>
  match word? cs with
  | some (value, rest) => .ok (value, rest)
  | none => .error .malformed

/-- Changes the table at the end of a dotted key, making the tables on the way. With `lists`, a list
on the way stands for its last table. -/
def changeTable (lists : Bool) (change : List (Setting × Setting) → Option (List (Setting × Setting))) :
    List String → List (Setting × Setting) → Option (List (Setting × Setting))
  | [], entries => change entries
  | part :: parts, entries =>
    match Setting.get? part entries with
    | none =>
      (changeTable lists change parts []).map fun e => Entries.put (.str part) (.table e) entries
    | some (.table inner) =>
      (changeTable lists change parts inner).map fun e => Entries.put (.str part) (.table e) entries
    | some (.list items) =>
      if lists then
        match items.getLast? with
        | some (.table inner) =>
          (changeTable lists change parts inner).map fun e =>
            Entries.put (.str part) (.list (items.dropLast ++ [.table e])) entries
        | _ => none
      else none
    | some _ => none

/-- Adds an entry under a name that is still free. -/
def addNew (name : String) (value : Setting) (entries : List (Setting × Setting)) :
    Option (List (Setting × Setting)) :=
  if (Setting.get? name entries).isSome then none else some (entries ++ [(.str name, value)])

def isContainer : Setting → Bool
  | .table _ | .list _ => true
  | _ => false

/-- Whether a key lies at or below one of the keys that are closed. -/
def isClosed (closed : List (List String)) (key : List String) : Bool :=
  closed.any fun k => k.isPrefixOf key

mutual

/-- A value, with a number of steps inwards to spend: an array takes two, an inline table three. The
fuel bounds the number of nested calls. -/
def readValue (fuel steps : Nat) (cs : List Char) : Parsed Setting :=
  match fuel with
  | 0 => .error .malformed
  | fuel + 1 =>
    match cs with
    | [] => .error .malformed
    | c :: rest =>
      if c = Text.doubleQuote || c = Text.apostrophe then
        (readString c rest).map fun (s, rest) => (.str s, rest)
      else if c = '[' then
        if steps < 2 then .error .tooDeep
        else match skipGap (rest.length + 1) rest with
        | .error fault => .error fault
        | .ok (']' :: rest) => .ok (.list [], rest)
        | .ok rest => (readItems fuel (steps - 2) rest).map fun (items, rest) => (.list items, rest)
      else if c = '\x7b' then
        if steps < 3 then .error .tooDeep
        else match skipBlanks rest with
        | '\x7d' :: rest => .ok (.table [], rest)
        | rest =>
          (readInline fuel (steps - 3) [] [] rest).map fun (entries, rest) => (.table entries, rest)
      else readScalar cs

def readItems (fuel steps : Nat) (cs : List Char) : Parsed (List Setting) :=
  match fuel with
  | 0 => .error .malformed
  | fuel + 1 =>
    match readValue fuel steps cs with
    | .error fault => .error fault
    | .ok (item, rest) =>
      match skipGap (rest.length + 1) rest with
      | .error fault => .error fault
      | .ok (']' :: rest) => .ok ([item], rest)
      | .ok (',' :: rest) =>
        match skipGap (rest.length + 1) rest with
        | .error fault => .error fault
        | .ok (']' :: rest) => .ok ([item], rest)
        | .ok rest => (readItems fuel steps rest).map fun (items, rest) => (item :: items, rest)
      | .ok _ => .error .malformed

/-- The entries of an inline table. Keys at or below one whose value is a container are closed. -/
def readInline (fuel steps : Nat) (closed : List (List String))
    (entries : List (Setting × Setting)) (cs : List Char) : Parsed (List (Setting × Setting)) :=
  match fuel with
  | 0 => .error .malformed
  | fuel + 1 =>
    match readKey (cs.length + 1) cs with
    | .error fault => .error fault
    | .ok (key, '=' :: rest) =>
      match readValue fuel steps (skipBlanks rest) with
      | .error fault => .error fault
      | .ok (value, rest) =>
        if isClosed closed key then .error .malformed
        else match changeTable false (addNew (key.getLast?.getD "") value) key.dropLast entries with
          | none => .error .malformed
          | some entries =>
            match skipBlanks rest with
            | '\x7d' :: rest => .ok (entries, rest)
            | ',' :: rest =>
              readInline fuel steps (if isContainer value then key :: closed else closed) entries
                (skipBlanks rest)
            | _ => .error .malformed
    | .ok _ => .error .malformed

end

end BundleForge.Toml
