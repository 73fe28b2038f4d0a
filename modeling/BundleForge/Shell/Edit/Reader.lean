import BundleForge.Shell.Edit.Basic
import BundleForge.Text.Blank

/-!
Reading editing programs. A fault is told with the number of characters that were read up to it.
-/

namespace BundleForge.Shell.Edit

/-- Why a text is no program. -/
inductive Flaw
  | unknownCommand (c : Char)
  | missingCommand
  | unterminated (what : String)
  | unknownOption
  | expression (fault : Regular.Fault)
  | invalidReference (n : Nat)
  | differentLengths
  | unexpected (c : Char)
  | extraCharacters
  | expectedText
  | noAddresses (c : Char)
  | lineZero
  | openBrace
  | missingName (what : String)
  | zeroOption
  | noLabel (name : String)
  | lacksLabel
  | firstRelative
  | manyNegations
  | manyOptions (c : Char)
  | manyNumbers
  | oneAddress

/-- What is said of a flaw. -/
def Flaw.message : Flaw → String
  | .unknownCommand c => "unknown command: \x60" ++ String.singleton c ++ "'"
  | .missingCommand => "missing command"
  | .unterminated what => "unterminated " ++ what
  | .unknownOption => "unknown option to \x60s'"
  | .expression fault => fault.message
  | .invalidReference n => "invalid reference \\" ++ toString n ++ " on \x60s' command's RHS"
  | .differentLengths => "strings for \x60y' command are different lengths"
  | .unexpected c => "unexpected \x60" ++ String.singleton c ++ "'"
  | .extraCharacters => "extra characters after command"
  | .expectedText => "expected \\ after \x60a', \x60c' or \x60i'"
  | .noAddresses c => String.singleton c ++ " doesn't want any addresses"
  | .lineZero => "invalid usage of line address 0"
  | .openBrace => "unmatched \x60\x7b'"
  | .missingName what => "missing " ++ what
  | .zeroOption => "number option to \x60s' command may not be zero"
  | .lacksLabel => "\":\" lacks a label"
  | .firstRelative => "invalid usage of +N or ~N as first address"
  | .manyNegations => "multiple \x60!'s"
  | .manyOptions c => "multiple \x60" ++ String.singleton c ++ "' options to \x60s' command"
  | .manyNumbers => "multiple number options to \x60s' command"
  | .oneAddress => "command only uses one address"
  | .noLabel name => "can't find label for jump to \x60" ++ name ++ "'"

/-- What is still to be read, how much was read, and how many braces are open. -/
structure Cursor where
  rest : List Char
  read : Nat
  depth : Nat

abbrev Reader := StateT Cursor (Except (Flaw × Nat))

namespace Reader

def flawed {α : Type} (flaw : Flaw) : Reader α := do throw (flaw, (← get).read)

def skip (n : Nat) : Reader Unit := modify fun s =>
  { s with rest := s.rest.drop n, read := s.read + min n s.rest.length }

def skipWhile (p : Char → Bool) : Reader Unit := do
  skip ((← get).rest.takeWhile p).length

def takeWhile (p : Char → Bool) : Reader (List Char) := do
  let taken := (← get).rest.takeWhile p
  skip taken.length
  return taken

/-- The next character, gone past. -/
def next : Reader (Option Char) := do
  let c := (← get).rest.head?
  skip 1
  return c

def peek : Reader (Option Char) := do return (← get).rest.head?

def isBlank (c : Char) : Bool := c == ' ' || c == '\t'

def isSpace (c : Char) : Bool := c == ' ' || ('\t' ≤ c && c ≤ '\r')

/-- The characters up to a delimiter, which a backslash turns into a plain character. In an expression
a delimiter in a bracket does not count, and other backslashes stay. -/
def delimited (delimiter : Char) (expression : Bool) (inBracket : Bool) :
    List Char → Option (List Char × List Char)
  | [] => none
  | '\\' :: c :: rest =>
    if inBracket then
      (delimited delimiter expression inBracket (c :: rest)).map fun (t, r) => ('\\' :: t, r)
    else if c = delimiter then
      (delimited delimiter expression inBracket rest).map fun (t, r) => (c :: t, r)
    else (delimited delimiter expression inBracket rest).map fun (t, r) => ('\\' :: c :: t, r)
  | c :: rest =>
    if c = delimiter && !inBracket then some ([], rest)
    else
      let inside := expression && if inBracket then c ≠ ']' else c = '['
      let start := if c = '[' && !inBracket && expression then
          (if rest.head? = some '^' then 1 else 0) else 0
      let front := rest.take start
      let after := rest.drop start
      if c = '[' && !inBracket && expression && after.head? = some ']' then
        (delimited delimiter expression inside after.tail).map fun (t, r) =>
          (c :: front ++ ']' :: t, r)
      else (delimited delimiter expression inside rest).map fun (t, r) => (c :: t, r)
termination_by cs => cs.length
decreasing_by all_goals simp only [List.length_cons, List.length_tail, List.length_drop]; omega

/-- The text up to a delimiter, or a flaw that names what is not ended. -/
def upTo (delimiter : Char) (expression : Bool) (what : String) : Reader (List Char) := do
  let s ← get
  match delimited delimiter expression false s.rest with
  | some (text, rest) => do
    skip (s.rest.length - rest.length)
    return text
  | none => do
    skip s.rest.length
    flawed (.unterminated what)

/-- The digit that a character is in a base. -/
def digitBelow? (base : Nat) (c : Char) : Option Nat :=
  let value? := if c.isDigit then some (c.toNat - '0'.toNat)
    else if 'a' ≤ c && c ≤ 'f' then some (c.toNat - 'a'.toNat + 10)
    else if 'A' ≤ c && c ≤ 'F' then some (c.toNat - 'A'.toNat + 10) else none
  value?.filter (· < base)

/-- The character whose number stands behind a backslash with a letter, and the number of its digits:
ten is the base for d, eight for o, and sixteen for x. -/
def numbered? (letter : Char) (rest : List Char) : Option (Char × Nat) :=
  let found (base width : Nat) : Option (Char × Nat) :=
    let digits := (rest.take width).takeWhile fun c => (digitBelow? base c).isSome
    if digits.isEmpty then none
    else
      let n := (digits.filterMap (digitBelow? base)).foldl (fun n d => n * base + d) 0
      some (Char.ofNat (n % 256), digits.length)
  match letter with
  | 'd' => found 10 3
  | 'o' => found 8 3
  | 'x' => found 16 2
  | _ => none

/-- An expression with the characters in it that are written by their numbers. One that is a sign of
structure stands for itself. -/
def withNumbered (cs : List Char) : List Char :=
  match cs with
  | [] => []
  | '\\' :: c :: rest =>
    match numbered? c rest with
    | some (made, n) =>
      (if "^$*.[\\]".toList.contains made then ['\\', made] else [made]) ++ withNumbered (rest.drop n)
    | none => '\\' :: c :: withNumbered rest
  | c :: rest => c :: withNumbered rest
termination_by cs.length
decreasing_by all_goals simp only [List.length_cons, List.length_drop]; omega

/-- The pattern that a text spells; an empty text stands for the pattern used last. -/
def pattern (extended anyCase lines : Bool) (text : List Char) : Reader (Option Pattern) := do
  if text.isEmpty then return none
  match Regular.read ⟨extended, true, true, lines⟩ (withNumbered text) with
  | .ok expression => return some ⟨expression, anyCase⟩
  | .error fault => flawed (.expression fault)

def number? : Reader (Option Nat) := do
  return (String.ofList (← takeWhile Char.isDigit)).toNat?

/-- The address that comes next, if there is one. -/
def address? (extended : Bool) : Reader (Option Address) := do
  match ← peek with
  | some '$' => do
    skip 1
    return some .last
  | some c =>
    if c.isDigit then
      let n := (← number?).getD 0
      skipWhile isBlank
      if (← peek) = some '~' then
        skip 1
        return some (.every n ((← number?).getD 0))
      else return some (.line n)
    else if c = '/' || c = '\\' then
      skip 1
      let delimiter ← if c = '/' then pure '/' else pure ((← next).getD '/')
      let text ← upTo delimiter true "address regex"
      let flags ← takeWhile fun c => c = 'I' || c = 'M'
      return some (.matching (← pattern extended (flags.contains 'I') (flags.contains 'M') text))
    else return none
  | none => return none

/-- The end of a range. -/
def rangeEnd (extended : Bool) : Reader RangeEnd := do
  match ← peek with
  | some '+' => do
    skip 1
    return .further ((← number?).getD 0)
  | some '~' => do
    skip 1
    return .multiple ((← number?).getD 0)
  | _ =>
    match ← address? extended with
    | some address => return .address address
    | none => do
      skip 1
      flawed (.unexpected ',')

/-- The lines that the next command is for. -/
def scope (extended : Bool) : Reader Scope := do
  if (← peek).any fun c => c = '+' || c = '~' then
    skip 2
    flawed .firstRelative
  let first ← address? extended
  skipWhile isSpace
  let stop ← if first.isSome && (← peek) = some ',' then do
      skip 1
      skipWhile isSpace
      pure (some (← rangeEnd extended))
    else pure none
  match first, stop with
  | some (.line 0), some (.address (.matching _)) => pure ()
  | some (.line 0), _ | some (.every 0 0), _ => do
    skip 1
    flawed .lineZero
  | _, _ => pure ()
  skipWhile isSpace
  let negated := (← peek) = some '!'
  if negated then
    skip 1
    skipWhile isSpace
    if (← peek) = some '!' then
      skip 1
      flawed .manyNegations
  return ⟨first, stop, negated⟩

/-- The parts of a replacement. -/
def parts (cs : List Char) : List Part :=
  match cs with
  | [] => []
  | '&' :: rest => .group 0 :: parts rest
  | '\\' :: c :: rest =>
    match numbered? c rest with
    | some (made, n) => .char made :: parts (rest.drop n)
    | none =>
      (if c.isDigit then .group (c.toNat - '0'.toNat)
        else match c with
          | 'U' => .case .upper
          | 'L' => .case .lower
          | 'u' => .case .nextUpper
          | 'l' => .case .nextLower
          | 'E' => .case .unchanged
          | c => .char ((Regular.control? c).getD c)) :: parts rest
  | c :: rest => .char c :: parts rest
termination_by cs.length
decreasing_by all_goals simp only [List.length_cons, List.length_drop]; omega

/-- What stands behind a substitution. -/
structure Flags where
  all : Bool := false
  prints : Bool := false
  nth : Option Nat := none
  file : Option String := none
  anyCase : Bool := false
  lines : Bool := false

/-- Reads the flags, of which some may stand only once. -/
def flags (f : Flags) : Nat → Reader Flags
  | 0 => return f
  | depth + 1 => do
    let some c ← peek | return f
    if c = '\n' || c = ';' || c = '\x7d' || c = '#' || isSpace c then return f
    else if c.isDigit then
      let n := (← number?).getD 1
      if n = 0 then flawed .zeroOption
      else if f.nth.isSome then flawed .manyNumbers
      else flags { f with nth := some n } depth
    else
      skip 1
      match c with
      | 'g' => if f.all then flawed (.manyOptions 'g') else flags { f with all := true } depth
      | 'p' => if f.prints then flawed (.manyOptions 'p') else flags { f with prints := true } depth
      | 'i' | 'I' => flags { f with anyCase := true } depth
      | 'm' | 'M' => flags { f with lines := true } depth
      | 'w' => do
        skipWhile isBlank
        let name ← takeWhile (· ≠ '\n')
        if name.isEmpty then flawed (.missingName "filename in r/R/w/W commands")
        return { f with file := some (String.ofList name) }
      | _ => flawed .unknownOption

def substitute (extended : Bool) : Reader Action := do
  let delimiter := (← next).getD '\n'
  if delimiter = '\n' || delimiter = '\\' then flawed (.unterminated "\x60s' command")
  let expression ← upTo delimiter true "\x60s' command"
  let replacement := parts (← upTo delimiter false "\x60s' command")
  let f ← flags {} ((← get).rest.length + 1)
  let pattern ← pattern extended f.anyCase f.lines expression
  for part in replacement do
    match part, pattern with
    | .group n, some p => if p.expression.groupCount < n then flawed (.invalidReference n)
    | _, _ => pure ()
  return .substitute ⟨pattern, replacement, f.nth.getD 1, f.all, f.prints, f.file⟩

/-- A text whose backslashes stand for the character behind them. -/
def unescape : List Char → List Char
  | '\\' :: c :: rest => (if c = 'n' then '\n' else c) :: unescape rest
  | c :: rest => c :: unescape rest
  | [] => []

def exchange : Reader Action := do
  let delimiter := (← next).getD '\n'
  if delimiter = '\n' || delimiter = '\\' then flawed (.unterminated "\x60y' command")
  let before := unescape (← upTo delimiter false "\x60y' command")
  let after := unescape (← upTo delimiter false "\x60y' command")
  if before.length ≠ after.length then flawed .differentLengths
  return .exchange (before.zip after)

/-- The text of a command that brings in lines: up to a line end without a backslash. -/
def textLines : List Char → List Char × List Char
  | [] => ([], [])
  | '\n' :: rest => ([], '\n' :: rest)
  | '\\' :: c :: rest => let (t, r) := textLines rest; (c :: t, r)
  | ['\\'] => ([], [])
  | c :: rest => let (t, r) := textLines rest; (c :: t, r)

/-- The lines that a command brings in. They start behind a backslash and a line end, or at once. -/
def text : Reader String := do
  skipWhile isBlank
  match (← get).rest with
  | [] => flawed .expectedText
  | '\\' :: rest =>
    let blanks := (rest.takeWhile isBlank).length
    match rest.drop blanks with
    | '\n' :: [] | [] => do
      skip (blanks + 2)
      return ""
    | '\n' :: _ => skip (blanks + 2)
    | _ => skip 1
  | _ => pure ()
  let s ← get
  let (lines, rest) := textLines s.rest
  skip (s.rest.length - rest.length)
  return String.ofList lines ++ "\n"

/-- The name behind a command that takes one, up to the end of the line. -/
def fileName : Reader String := do
  skipWhile isBlank
  let name ← takeWhile (· ≠ '\n')
  if name.isEmpty then flawed (.missingName "filename in r/R/w/W commands")
  return String.ofList name

def label : Reader String := do
  skipWhile isBlank
  let name ← takeWhile fun c => c ≠ '\n' && c ≠ ';' && !isSpace c
  return String.ofList name

/-- Goes past the end of a command. -/
def commandEnd : Reader Unit := do
  skipWhile isBlank
  match ← peek with
  | none | some '\x7d' | some '#' => return ()
  | some c =>
    skip 1
    if c ≠ ';' && c ≠ '\n' then flawed .extraCharacters

/-- What a command does, read behind its letter. -/
def action (extended : Bool) (letter : Char) : Reader Action := do
  let plain (a : Action) : Reader Action := do
    commandEnd
    return a
  match letter with
  | '=' => plain .number
  | 'd' => plain .delete
  | 'D' => plain .deleteFirst
  | 'p' => plain .print
  | 'P' => plain .printFirst
  | 'n' => plain .next
  | 'N' => plain .joinNext
  | 'g' => plain .get
  | 'G' => plain .getMore
  | 'h' => plain .hold
  | 'H' => plain .holdMore
  | 'x' => plain .swap
  | 'l' => do
    skipWhile isBlank
    let width ← number?
    plain (.unambiguous width)
  | 'F' => plain .name
  | 'v' => do
    skipWhile fun c => c ≠ '\n' && c ≠ ';'
    plain .nothing
  | 'z' => plain .clear
  | 'q' | 'Q' => do
    skipWhile isBlank
    let status := (← number?).getD 0
    plain (.quit status (letter = 'Q'))
  | 's' => do
    let a ← substitute extended
    plain a
  | 'y' => do
    let a ← exchange
    plain a
  | 'a' => return .append (← text)
  | 'i' => return .insert (← text)
  | 'c' => return .change (← text)
  | 'r' => return .readFile (← fileName)
  | 'w' => return .writeFile (← fileName)
  | 'W' => return .writeFirst (← fileName)
  | 'b' => do
    let name ← label
    plain (.jump .always name)
  | 't' => do
    let name ← label
    plain (.jump .changed name)
  | 'T' => do
    let name ← label
    plain (.jump .unchanged name)
  | '\x7b' => do
    modify fun s => { s with depth := s.depth + 1 }
    return .opening
  | c => flawed (.unknownCommand c)

/-- The commands of a program. -/
def commands (extended : Bool) : Nat → Reader (List Command)
  | 0 => return []
  | fuel + 1 => do
    skipWhile fun c => isSpace c || c = ';'
    if (← get).rest.isEmpty then
      if (← get).depth ≠ 0 then throw (.openBrace, 0)
      return []
    let scope ← scope extended
    match ← next with
    | none => flawed .missingCommand
    | some '#' => do
      if scope.first.isSome then flawed (.noAddresses '#')
      skipWhile (· ≠ '\n')
      commands extended fuel
    | some ':' => do
      if scope.first.isSome then flawed (.noAddresses ':')
      let name ← label
      if name = "" then flawed .lacksLabel
      return ⟨scope, .label name⟩ :: (← commands extended fuel)
    | some '\x7d' => do
      if (← get).depth = 0 then flawed (.unexpected '\x7d')
      if scope.first.isSome then flawed (.noAddresses '\x7d')
      modify fun s => { s with depth := s.depth - 1 }
      commandEnd
      return ⟨scope, .closing⟩ :: (← commands extended fuel)
    | some letter => do
      if (letter = 'q' || letter = 'Q') && scope.stop.isSome then flawed .oneAddress
      let action ← action extended letter
      return ⟨scope, action⟩ :: (← commands extended fuel)

end Reader

/-- The program that a text spells, or its flaw and how much was read up to it. -/
def read (extended : Bool) (script : List Char) : Except (Flaw × Option Nat) Program := do
  let (commands, _) ← ((Reader.commands extended (script.length + 1)).run ⟨script, 0, 0⟩).mapError
    fun (flaw, n) => (flaw, some n)
  let program := commands.toArray
  for command in program do
    match command.action with
    | .jump _ label =>
      if label ≠ "" && ((labels program).lookup label).isNone then throw (.noLabel label, none)
    | _ => pure ()
  return program

end BundleForge.Shell.Edit
