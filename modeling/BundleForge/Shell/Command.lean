/-!
Commands of a shell script. A word is made of pieces, some of which stand for something that is only
known when the word is used. What a command is told to read from the script itself is kept apart, under
a number. Main statement: a word of characters that stand for themselves has a spelling.
-/

namespace BundleForge.Shell

/-- How a file is opened: for reading, for both, or for writing, which starts it anew or goes on behind
what it holds; a careful shell starts no file anew that is there unless that is wanted regardless. -/
inductive Opening
  | reading
  | anew
  | regardless
  | behind
  | both
deriving DecidableEq, Repr

/-- What is made of the value of a parameter. -/
inductive Use
  | bad
  | plain
  | length
  | default
  | assign
  | alternative
  | required
  | withoutFront (longest : Bool)
  | withoutBack (longest : Bool)
deriving DecidableEq, Repr

mutual

/-- A piece of a word: a character, which is kept from any meaning of its own where it is quoted; the
place where quotes open or close; the value of a parameter, where with `orEmpty` one without text counts
as one that is not set; the value of a sum; or what a script prints. -/
inductive Piece
  | char (c : Char) (kept : Bool)
  | quotes
  | parameter (name : String) (use : Use) (orEmpty : Bool) (word : List Piece)
  | sum (text : List Piece)
  | output (script : Option Command)

/-- Where a stream leads: to a file, to where another stream leads, nowhere at all, or to a text of the
script. -/
inductive Redirection
  | file (stream : Nat) (opening : Opening) (name : List Piece)
  | join (stream : Nat) (other : Option Nat)
  | joinNamed (stream : Nat) (other : List Piece)
  | document (stream : Nat) (number : Nat)

inductive Command
  | simple (line : Nat) (assignments words : List (List Piece)) (redirections : List Redirection)
  | pipeline (stages : List Command) (background : Bool)
  | redirected (line : Nat) (inner : Command) (redirections : List Redirection)
  | subshell (line : Nat) (inner : Command) (redirections : List Redirection)
  | background (line : Nat) (inner : Command) (redirections : List Redirection)
  | andThen (first second : Command)
  | orElse (first second : Command)
  | sequence (first second : Command)
  | negated (inner : Command)
  | branch (test yes : Command) (no : Option Command)
  | loop (whileTrue : Bool) (test body : Command)
  | each (line : Nat) (name : String) (words : List (List Piece)) (body : Command)
  | select (line : Nat) (subject : List Piece) (arms : List (List (List Piece) × Option Command))
  | define (name : String) (body : Command)

end

instance : Inhabited Command := ⟨.simple 0 [] [] []⟩

/-- A word as it is written. -/
abbrev Wording := List Piece

/-- A text of the script, which a stream can be read from. A literal one holds no parameters. -/
structure Document where
  body : Wording
  literal : Bool

namespace Wording

/-- The characters that a word stands for, if none of them is quoted and nothing else is in it. -/
def spelling? : Wording → Option (List Char)
  | [] => some []
  | .char c false :: rest => (spelling? rest).map (c :: ·)
  | _ :: _ => none

theorem spelling?_chars (cs : List Char) : spelling? (cs.map fun c => .char c false) = some cs := by
  induction cs with
  | nil => rfl
  | cons c rest ih => simp [spelling?, ih]

/-- All characters of a word, quoted or not. -/
def chars : Wording → List Char
  | [] => []
  | .char c _ :: rest => c :: chars rest
  | _ :: rest => chars rest

end Wording

/-- A character that a name can start with. -/
def isNameStart (c : Char) : Bool := c.isAlpha || c == '_'

/-- A character that a name can hold. -/
def isNameChar (c : Char) : Bool := c.isAlphanum || c == '_'

/-- Whether a text is a name. -/
def isName (s : String) : Bool :=
  match s.toList with
  | [] => false
  | c :: rest => isNameStart c && rest.all isNameChar

/-- Whether a word starts with a name and an equals sign. -/
def Wording.isAssignment (w : Wording) : Bool := named false w
where
  /-- The same behind the start of a name, or in front of any. -/
  named (begun : Bool) : Wording → Bool
    | .char c false :: rest =>
      if c = '=' then begun else (if begun then isNameChar c else isNameStart c) && named true rest
    | _ => false

end BundleForge.Shell
