import BundleForge.Shell.Regular.Reader
import BundleForge.Shell.Utility.Input

/-!
Values that are computed from words: numbers, comparisons, and parts of texts.
-/

namespace BundleForge.Shell

namespace Evaluation

/-- Why words have no value. -/
inductive Fault
  | missingAfter (word : String)
  | missingClosing (word : String)
  | unexpected (word : String)
  | noInteger
  | divisionByZero
  | expression (fault : Regular.Fault)
deriving DecidableEq, Repr

def Fault.message : Fault → String
  | .missingAfter word => "syntax error: missing argument after ‘" ++ word ++ "’"
  | .missingClosing word => "syntax error: expecting ')' after ‘" ++ word ++ "’"
  | .unexpected word => "syntax error: unexpected argument ‘" ++ word ++ "’"
  | .noInteger => "non-integer argument"
  | .divisionByZero => "division by zero"
  | .expression fault => fault.message

/-- A word that is a whole number. -/
def integer? (s : String) : Option Int :=
  let digits := if s.toList.head? = some '-' then s.toList.tail else s.toList
  if digits.isEmpty || !digits.all Char.isDigit then none else s.toInt?

/-- A value that counts as nothing: no text, or zero. -/
def isNull (s : String) : Bool :=
  s.isEmpty || (let digits := if s.toList.head? = some '-' then s.toList.tail else s.toList
    !digits.isEmpty && digits.all (· = '0'))

def number (s : String) : Except Fault Int :=
  match integer? s with
  | some n => pure n
  | none => throw .noInteger

/-- What of a text a pattern matches from the start: its first group, or the number of characters. -/
def matched (text pattern : String) : Except Fault String :=
  match Regular.read { extended := false, controls := false } pattern.toList with
  | .error fault => throw (.expression fault)
  | .ok r =>
    let subject := r.subject false text.toList
    match r.matchAt? subject 0 with
    | none => return if 0 < r.groupCount then "" else "0"
    | some f =>
      if 0 < r.groupCount then
        return (f.groups.lookup 1).elim "" fun (a, b) => String.ofList (subject.between a b)
      else return toString f.stop

/-- The operators by how loosely they bind, the loosest first. -/
def levels : List (List String) :=
  [["|"], ["&"], ["<", "<=", "=", "==", "!=", ">=", ">"], ["+", "-"], ["*", "/", "%"], [":"]]

/-- What an operator makes of two values. -/
def apply (operator a b : String) : Except Fault String := do
  let truth (t : Bool) : String := if t then "1" else "0"
  let compare (o : Ordering) : String := truth (match operator with
    | "<" => o.isLT
    | "<=" => o.isLE
    | "=" | "==" => o.isEq
    | "!=" => !o.isEq
    | ">=" => o.isGE
    | _ => o.isGT)
  match operator with
  | "|" => return if !isNull a then a else if isNull b then "0" else b
  | "&" => return if isNull a || isNull b then "0" else a
  | ":" => matched a b
  | "+" => return toString ((← number a) + (← number b))
  | "-" => return toString ((← number a) - (← number b))
  | "*" => return toString ((← number a) * (← number b))
  | "/" | "%" =>
    let m ← number a
    let n ← number b
    if n = 0 then throw .divisionByZero
    return toString (if operator = "/" then m.tdiv n else m.tmod n)
  | _ =>
    match integer? a, integer? b with
    | some m, some n => return compare (Ord.compare m n)
    | _, _ => return compare (Ord.compare a b)

mutual

/-- A value at some level of binding, and the words that follow. The word read last is told with a
fault. -/
def value (operators : List (List String)) (last : String) :
    Nat → List String → Except Fault (String × List String)
  | 0, _ => throw (.missingAfter last)
  | depth + 1, words =>
    match operators with
    | [] => term last depth words
    | level :: tighter => do
      let (first, rest) ← value tighter last depth words
      more level tighter first depth rest

/-- What follows a first value, tied to the left. -/
def more (level : List String) (tighter : List (List String)) (first : String) :
    Nat → List String → Except Fault (String × List String)
  | 0, words => return (first, words)
  | depth + 1, words =>
    match words with
    | operator :: rest =>
      if level.contains operator then do
        let (second, rest) ← value tighter operator depth rest
        more level tighter (← apply operator first second) depth rest
      else return (first, words)
    | [] => return (first, [])

/-- A word, values in brackets, or a part of a text. -/
def term (last : String) : Nat → List String → Except Fault (String × List String)
  | 0, _ => throw (.missingAfter last)
  | depth + 1, words =>
    let next (rest : List String) : Except Fault (String × List String) := term last depth rest
    match words with
    | [] => throw (.missingAfter last)
    | "(" :: rest => do
      let (inner, after) ← value levels "(" depth rest
      match after with
      | ")" :: after => return (inner, after)
      | _ => throw (.missingClosing inner)
    | [word] => return (word, [])
    | "+" :: word :: rest => return (word, rest)
    | "length" :: rest => do
      let (text, rest) ← next rest
      return (toString text.length, rest)
    | "match" :: rest => do
      let (text, rest) ← next rest
      let (pattern, rest) ← next rest
      return (← matched text pattern, rest)
    | "index" :: rest => do
      let (text, rest) ← next rest
      let (cs, rest) ← next rest
      let found := text.toList.findIdx? fun c => cs.toList.contains c
      return (toString ((found.map (· + 1)).getD 0), rest)
    | "substr" :: rest => do
      let (text, rest) ← next rest
      let (start, rest) ← next rest
      let (size, rest) ← next rest
      match integer? start, integer? size with
      | some a, some n =>
        if a < 1 || n < 1 then return ("", rest)
        else return (String.ofList ((text.toList.drop (a.toNat - 1)).take n.toNat), rest)
      | _, _ => return ("", rest)
    | word :: rest => return (word, rest)

end

def read (words : List String) : Except Fault String := do
  let (result, rest) ← value levels "expr" (16 * words.length + 16) words
  match rest with
  | [] => return result
  | word :: _ => throw (.unexpected word)

end Evaluation

/-- Prints the value of its arguments; nothing and zero are told by the status. -/
def Run.evaluate (arguments : List String) : Run Nat := do
  let arguments := if arguments.head? = some "--" then arguments.tail else arguments
  if arguments.isEmpty then misused "expr" "missing operand" 2
  else match Evaluation.read arguments with
    | .error fault => do
      complain ("expr: " ++ fault.message)
      return 2
    | .ok text => do
      print (text ++ "\n")
      return if Evaluation.isNull text then 1 else 0

end BundleForge.Shell
