import BundleForge.Shell.Command

/-!
What a script is read from: its characters, the texts of aliases that stand in front of them, and what
was last read. An alias is not used again in its own text. Main statement: a character that is given
back comes next.
-/

namespace BundleForge.Shell

/-- What comes next in a script. -/
inductive Token
  | ended
  | newline
  | word
  | redirection
  | sign (text : String)
  | reserved (text : String)
deriving DecidableEq, Repr

/-- A token as a message calls it. -/
def Token.name : Token → String
  | .ended => "end of file"
  | .newline => "newline"
  | .word => "word"
  | .redirection => "redirection"
  | .sign text | .reserved text => "\"" ++ text ++ "\""

/-- Whether a token ends a list of commands. -/
def Token.endsList : Token → Bool
  | .ended => true
  | .sign text => text == ")" || text == ";;"
  | .reserved text =>
    ["do", "done", "elif", "else", "esac", "fi", "then", "\x7d"].contains text
  | _ => false

/-- The words that only mean something where a command can start. -/
def reservedWords : List String := [
  "!", "case", "do", "done", "elif", "else", "esac", "fi", "for", "if", "in", "then", "until", "while",
  "\x7b", "\x7d"]

/-- Why a script cannot be read any further. -/
inductive SyntaxFault
  | unexpected (found : Token) (expected : Option Token)
  | unterminatedQuotes
  | unterminatedOutput
  | missingBrace
  | missingSumEnd
  | badLoopName
  | badFunctionName
  | tooDeep
deriving DecidableEq, Repr

def SyntaxFault.message (fault : SyntaxFault) : String :=
  "Syntax error: " ++ match fault with
    | .unexpected found expected =>
      found.name ++ " unexpected" ++ expected.elim "" fun t => " (expecting " ++ t.name ++ ")"
    | .unterminatedQuotes => "Unterminated quoted string"
    | .unterminatedOutput => "EOF in backquote substitution"
    | .missingBrace => "Missing '\x7d'"
    | .missingSumEnd => "Missing '))'"
    | .badLoopName => "Bad for loop variable"
    | .badFunctionName => "Bad function name"
    | .tooDeep => "too deep"

/-- What a word that comes next may be besides a word, and whether line ends in front of it count. -/
structure Wanted where
  lines : Bool := false
  reserved : Bool := false
  aliases : Bool := false
  ending : Bool := false
deriving DecidableEq, Repr

def Wanted.or (a b : Wanted) : Wanted :=
  ⟨a.lines || b.lines, a.reserved || b.reserved, a.aliases || b.aliases, a.ending || b.ending⟩

/-- Where a command can start, behind line ends or not. -/
def Wanted.command (lines : Bool) : Wanted := { lines, reserved := true, aliases := true }

/-- The text of an alias, as far as it is still to be read. -/
structure Stand where
  name : String
  rest : List Char
  blankEnd : Bool
deriving Repr

/-- A document that is announced: its number, the line that ends it, whether tabs in front of its lines
are dropped, and whether it is literal. -/
structure Announced where
  number : Nat
  ending : List Char
  strips : Bool
  literal : Bool
deriving Repr

/-- How a redirection starts; the word behind it tells the rest. -/
inductive RedirectionStart
  | file (stream : Nat) (opening : Opening)
  | join (stream : Nat)
  | document (stream : Nat) (strips : Bool)
deriving DecidableEq, Repr

/-- What is still to be read, and what was last read. -/
structure Reading where
  rest : List Char
  line : Nat := 1
  stands : List Stand := []
  spent : List String := []
  aliases : List (String × String) := []
  pushed : Bool := false
  last : Token := .ended
  word : Wording := []
  quoted : Bool := false
  wanted : Wanted := {}
  start : RedirectionStart := .join 0
  announced : List Announced := []
  documents : List (Nat × Document) := []
  nextDocument : Nat := 0

/-- Where and why a script cannot be read any further. -/
structure ReadingFault where
  line : Nat
  cause : SyntaxFault
deriving DecidableEq, Repr

abbrev Reader := StateT Reading (Except ReadingFault)

namespace Reading

/-- The next character. An alias whose text is used up may be used again, but not before another
character is read; a blank at the end of its text lets the next word be an alias. -/
def next (s : Reading) : Option Char × Reading := go s.stands { s with spent := [] }
where
  go : List Stand → Reading → Option Char × Reading
    | [], s =>
      match s.rest with
      | [] => (none, { s with stands := [] })
      | c :: rest => (some c, { s with rest, stands := [] })
    | stand :: stands, s =>
      match stand.rest with
      | c :: rest => (some c, { s with stands := { stand with rest } :: stands })
      | [] =>
        let aliases := s.wanted.aliases || stand.blankEnd
        go stands { s with
          spent := stand.name :: s.spent, wanted := { s.wanted with aliases } }

/-- Gives a character back. -/
def back (c : Char) (s : Reading) : Reading :=
  match s.stands with
  | [] => { s with rest := c :: s.rest }
  | stand :: stands => { s with stands := { stand with rest := c :: stand.rest } :: stands }

theorem next_back (c : Char) (s : Reading) : ((s.back c).next).1 = some c := by
  cases h : s.stands with
  | nil => simp [back, next, next.go, h]
  | cons stand stands => simp [back, next, next.go, h]

/-- The text of an alias that may be used. -/
def alias? (s : Reading) (name : String) : Option String :=
  if s.spent.contains name || s.stands.any fun stand => stand.name = name then none
  else s.aliases.lookup name

/-- Puts the text of an alias in front of what is still to be read. -/
def stand (name value : String) (s : Reading) : Reading :=
  let rest := value.toList
  if rest.isEmpty then s
  else { s with stands :=
    { name, rest, blankEnd := rest.getLast?.any fun c => c = ' ' || c = '\t' } :: s.stands }

end Reading

namespace Reader

def fail {α : Type} (cause : SyntaxFault) : Reader α := do throw ⟨(← get).line, cause⟩

/-- A token that does not belong where it stands. -/
def unexpected {α : Type} (expected : Option Token) : Reader α := do
  fail (.unexpected (← get).last expected)

def char : Reader (Option Char) := modifyGet Reading.next

def giveBack : Option Char → Reader Unit
  | some c => modify (Reading.back c)
  | none => return ()

def countLine : Reader Unit := modify fun s => { s with line := s.line + 1 }

/-- The most line ends in a row that one character can stand behind. -/
def joinLimit : Nat := 1000000

/-- The next character behind line ends that a backslash takes away. -/
def joinedChar (joins : Nat := joinLimit) : Reader (Option Char) := do
  match ← char with
  | some '\\' =>
    match ← char with
    | some '\n' => do
      countLine
      match joins with
      | 0 => fail .tooDeep
      | joins + 1 => joinedChar joins
    | c => do
      giveBack c
      return some '\\'
  | c => return c

/-- The token just read comes next again. -/
def pushBack : Reader Unit := modify fun s => { s with pushed := true }

def want (wanted : Wanted) : Reader Unit := modify fun s => { s with wanted }

def found (last : Token) : Reader Token := do
  modify fun s => { s with last }
  return last

/-- The characters up to the end of the line are left out. -/
def skipComment (cs : Nat := joinLimit) : Reader Unit := do
  match ← char with
  | some '\n' => giveBack (some '\n')
  | none => return ()
  | some _ =>
    match cs with
    | 0 => return ()
    | cs + 1 => skipComment cs

/-- Whether a second character follows; if it does not, it is left where it stands. -/
def followedBy (c : Char) : Reader Bool := do
  let d ← joinedChar
  if d = some c then return true
  giveBack d
  return false

end Reader
end BundleForge.Shell
