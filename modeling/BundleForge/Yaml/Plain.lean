import BundleForge.Entries
import BundleForge.Number.RealText
import BundleForge.Setting.Moment

/-!
What the text of a plain scalar says about its type: YAML 1.1 tells empty values, truth values,
numbers in several bases, dates, merges and default values from ordinary text.
-/

namespace BundleForge.Yaml

/-- The full tag of a type that every document knows. -/
def coreTag (kind : String) : String := "tag:yaml.org,2002:" ++ kind

def truthWords : List String := [
  "yes", "Yes", "YES", "no", "No", "NO", "true", "True", "TRUE", "false", "False", "FALSE",
  "on", "On", "ON", "off", "Off", "OFF"]

def nullWords : List String := ["", "~", "null", "Null", "NULL"]

def isDigitOrUnderscore (c : Char) : Bool := c.isDigit || c = '_'

def isSign (c : Char) : Bool := c = '+' || c = '-'

/-- The text without the sign in front. -/
def unsigned : List Char → List Char
  | [] => []
  | c :: rest => if isSign c then rest else c :: rest

/-- A digit followed by digits and underscores, and what comes after. -/
def numberRun? (cs : List Char) : Option (List Char) :=
  match cs with
  | [] => none
  | c :: rest => if c.isDigit then some (rest.dropWhile isDigitOrUnderscore) else none

/-- An exponent with its sign, or nothing at all. -/
def isExponentOrEnd (cs : List Char) : Bool :=
  match cs with
  | [] => true
  | e :: sign :: rest =>
    (e = 'e' || e = 'E') && isSign sign && !rest.isEmpty && rest.all Char.isDigit
  | _ => false

/-- One digit, or two of which the first is at most five. -/
def isSixtieth (cs : List Char) : Bool :=
  match cs with
  | [a] => a.isDigit
  | [a, b] => '0' ≤ a && a ≤ '5' && b.isDigit
  | _ => false

/-- The parts of a number in base sixty. -/
def sixtieths (cs : List Char) : List (List Char) := Text.piecesWhere (· = ':') cs

/-- A first part, and one or more parts below sixty. -/
def isSexagesimal (first : List Char → Bool) (cs : List Char) : Bool :=
  match sixtieths cs with
  | head :: next :: rest => first head && (next :: rest).all isSixtieth
  | _ => false

def isNumberRun (cs : List Char) : Bool := numberRun? cs = some []

def isReal (cs : List Char) : Bool :=
  let body := unsigned cs
  let pointed :=
    match numberRun? body with
    | some ('.' :: rest) => isExponentOrEnd (rest.dropWhile isDigitOrUnderscore)
    | _ => false
  let pointFirst :=
    match cs with
    | '.' :: d :: rest => d.isDigit && isExponentOrEnd (rest.dropWhile isDigitOrUnderscore)
    | _ => false
  let sexagesimal :=
    body.contains '.' && isSexagesimal isNumberRun (body.takeWhile (· != '.')) &&
      ((body.dropWhile (· != '.')).drop 1).all isDigitOrUnderscore
  let infinite := [".inf", ".Inf", ".INF"].contains (String.ofList body)
  let notANumber := [".nan", ".NaN", ".NAN"].contains (String.ofList cs)
  pointed || pointFirst || sexagesimal || infinite || notANumber

def isBinaryDigit (c : Char) : Bool := c = '0' || c = '1' || c = '_'

def isOctalDigit (c : Char) : Bool := ('0' ≤ c && c ≤ '7') || c = '_'

def isHexDigit (c : Char) : Bool :=
  isDigitOrUnderscore c || ('a' ≤ c && c ≤ 'f') || ('A' ≤ c && c ≤ 'F')

/-- A number that does not start with a zero. -/
def isLeadingRun (cs : List Char) : Bool :=
  match cs with
  | c :: rest => '1' ≤ c && c ≤ '9' && rest.all isDigitOrUnderscore
  | [] => false

def isInteger (cs : List Char) : Bool :=
  let body := unsigned cs
  match body with
  | ['0'] => true
  | '0' :: 'b' :: rest => !rest.isEmpty && rest.all isBinaryDigit
  | '0' :: 'x' :: rest => !rest.isEmpty && rest.all isHexDigit
  | '0' :: rest => rest.all isOctalDigit
  | body => isLeadingRun body || isSexagesimal isLeadingRun body

/-- The parts of a date, or of a moment, as they are written. -/
structure Timestamp where
  year : Nat
  month : Nat
  day : Nat
  clock : Option (Nat × Nat × Nat)
  fraction : List Char
  offset : Option Int

/-- Between `least` and `most` digits, as a number. -/
def digits? (least most : Nat) (cs : List Char) : Option (Nat × List Char) :=
  let ds := (cs.take most).takeWhile Char.isDigit
  if ds.length < least then none
  else some (Number.ofDigits 10 (ds.map fun c => c.toNat - 48), cs.drop ds.length)

def char? (c : Char) (cs : List Char) : Option (List Char) :=
  match cs with
  | d :: rest => if c = d then some rest else none
  | [] => none

/-- The zone at the end of a moment: none, universal time, or hours and minutes. -/
def zone? (cs : List Char) : Option (Option Int) :=
  if cs.isEmpty then some none
  else match cs.dropWhile fun c => c = ' ' || c = '\t' with
    | ['Z'] => some (some 0)
    | sign :: rest =>
      if isSign sign then do
        let (hours, rest) ← digits? 1 2 rest
        let minutes ←
          if rest.isEmpty then some 0
          else do
            let rest ← char? ':' rest
            let (minutes, rest) ← digits? 2 2 rest
            if rest.isEmpty then some minutes else none
        let n : Int := (hours * 60 + minutes : Nat)
        return some (if sign = '-' then -n else n)
      else none
    | [] => none

/-- The blanks or the letter between a date and a time. -/
def afterDate? (cs : List Char) : Option (List Char) :=
  match cs with
  | c :: rest =>
    if c = 'T' || c = 't' then some rest
    else if c = ' ' || c = '\t' then some (rest.dropWhile fun c => c = ' ' || c = '\t')
    else none
  | [] => none

def timestamp? (cs : List Char) : Option Timestamp := do
  let (year, cs) ← digits? 4 4 cs
  let cs ← char? '-' cs
  let (month, cs) ← digits? 1 2 cs
  let cs ← char? '-' cs
  let (day, cs) ← digits? 1 2 cs
  if cs.isEmpty then return { year, month, day, clock := none, fraction := [], offset := none }
  else do
    let cs ← afterDate? cs
    let (hour, cs) ← digits? 1 2 cs
    let cs ← char? ':' cs
    let (minute, cs) ← digits? 2 2 cs
    let cs ← char? ':' cs
    let (second, cs) ← digits? 2 2 cs
    let (fraction, cs) :=
      match cs with
      | '.' :: rest => (rest.takeWhile Char.isDigit, rest.dropWhile Char.isDigit)
      | cs => ([], cs)
    let offset ← zone? cs
    return { year, month, day, clock := some (hour, minute, second), fraction, offset }

/-- A plain date has all its digits; with a time the month and day may have one. -/
def isTimestamp (cs : List Char) : Bool :=
  match timestamp? cs with
  | some t => t.clock.isSome || cs.length = 10
  | none => false

/-- The text without one line break at its end. -/
def withoutFinalBreak (cs : List Char) : List Char :=
  if cs.getLast? = some '\n' then cs.dropLast else cs

def indicatorWords : List String := ["!", "&", "*"]

/-- The tag of a plain scalar with this text. A line break at the end does not count, but a text
that is nothing but a line break is ordinary. -/
def plainTag (text : String) : String :=
  let cs := withoutFinalBreak text.toList
  let word := String.ofList cs
  if word = "" && text ≠ "" then coreTag "str"
  else if truthWords.contains word then coreTag "bool"
  else if isReal cs then coreTag "float"
  else if isInteger cs then coreTag "int"
  else if word = "<<" then coreTag "merge"
  else if nullWords.contains word then coreTag "null"
  else if isTimestamp cs then coreTag "timestamp"
  else if word = "=" then coreTag "value"
  else if indicatorWords.contains word then coreTag "yaml"
  else coreTag "str"

theorem plainTag_empty : plainTag "" = coreTag "null" := by decide +kernel

end BundleForge.Yaml
