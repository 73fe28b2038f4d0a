import BundleForge.Shell.Reader.Basic

/-!
Words as a row of marks. What is written in braces or in a sum is set off by a mark in front and one
behind; the pieces of a word are what stands between them. Main statement: marks of characters are
pieces of the same characters.
-/

namespace BundleForge.Shell

/-- A mark of a word: a character, a quote that opens or closes, the front of a parameter, of a sum, the
end of either, or a script whose output stands there. -/
inductive WordMark
  | char (c : Char) (kept : Bool)
  | quotes
  | parameter (name : String) (use : Use) (orEmpty : Bool)
  | sum
  | close
  | output (script : Option Command)

namespace WordMark

/-- The pieces up to a mark that closes, behind pieces that are held back to front, and what follows
that mark. A parameter of which nothing is made has no end of its own. -/
def pieces : Nat → Wording → List WordMark → Wording × List WordMark
  | 0, made, rest => (made.reverse, rest)
  | _ + 1, made, [] => (made.reverse, [])
  | _ + 1, made, .close :: rest => (made.reverse, rest)
  | fuel + 1, made, .char c kept :: rest => pieces fuel (.char c kept :: made) rest
  | fuel + 1, made, .quotes :: rest => pieces fuel (.quotes :: made) rest
  | fuel + 1, made, .output script :: rest => pieces fuel (.output script :: made) rest
  | fuel + 1, made, .parameter name .plain orEmpty :: rest =>
    pieces fuel (.parameter name .plain orEmpty [] :: made) rest
  | fuel + 1, made, .parameter name use orEmpty :: rest =>
    let (word, rest) := pieces fuel [] rest
    pieces fuel (.parameter name use orEmpty word :: made) rest
  | fuel + 1, made, .sum :: rest =>
    let (text, rest) := pieces fuel [] rest
    pieces fuel (.sum text :: made) rest

/-- The word that marks are of. -/
def word (marks : List WordMark) : Wording := (pieces (marks.length + 1) [] marks).1

theorem pieces_chars (made : Wording) (cs : List Char) :
    pieces (cs.length + 1) made (cs.map fun c => .char c false) =
      (made.reverse ++ cs.map fun c => .char c false, []) := by
  induction cs generalizing made with
  | nil => simp [pieces]
  | cons c rest ih => simp [pieces, ih]

theorem word_chars (cs : List Char) :
    word (cs.map fun c => .char c false) = cs.map fun c => .char c false := by
  simp [word, pieces_chars]

end WordMark

/-- How characters are taken: as they come, between single quotes, between double quotes, or in a
sum. -/
inductive Quoting
  | none
  | single
  | double
  | sum
deriving DecidableEq, Repr

/-- One level of a word: how its characters are taken, whether double quotes are open inside braces,
whether the level was entered for braces, whether it is quoted as a whole, and how many braces and
brackets are open. -/
structure Level where
  quoting : Quoting := .none
  inner : Bool := false
  entered : Bool := false
  double : Bool := false
  braces : Nat := 0
  quotedBraces : Nat := 0
  brackets : Nat := 0
deriving DecidableEq, Repr

/-- A word as far as it is read. Its marks are held back to front. -/
structure Scan where
  level : Level := {}
  outer : List Level := []
  marks : List WordMark := []
  quoted : Bool := false

namespace Scan

def put (mark : WordMark) (s : Scan) : Scan := { s with marks := mark :: s.marks }

/-- Adds a character, kept from its meaning or not. -/
def add (c : Char) (kept : Bool) (s : Scan) : Scan := s.put (.char c kept)

def enter (level : Level) (s : Scan) : Scan := { s with level, outer := s.level :: s.outer }

def leave (s : Scan) : Scan :=
  match s.outer with
  | level :: outer => { s with level, outer }
  | [] => { s with level := {} }

theorem leave_enter (level : Level) (s : Scan) : (s.enter level).leave = s := rfl

end Scan

/-- What a character does where it stands. -/
inductive CharClass
  | plain
  | guarded
  | newline
  | backslash
  | singleQuote
  | doubleQuote
  | closingQuote
  | backquote
  | dollar
  | brace
  | openBracket
  | closeBracket
  | separator
deriving DecidableEq, Repr

/-- The characters that mean something in patterns, or behind which a home may stand. -/
def patternSigns : List Char := "!*?[]=~:/-".toList

namespace Quoting

/-- The class of a character. Between quotes, those that would mean something in a pattern are guarded
from it. -/
def classOf (q : Quoting) (c : Char) : CharClass :=
  match q, c with
  | _, '\n' => .newline
  | .single, '\x27' => .closingQuote
  | .single, '\\' => .guarded
  | .single, c => if patternSigns.contains c then .guarded else .plain
  | _, '\\' => .backslash
  | _, '\x60' => .backquote
  | _, '$' => .dollar
  | _, '\x7d' => .brace
  | .none, '\x27' => .singleQuote
  | .none, '\x22' => .doubleQuote
  | .none, c => if " \t<>();&|".toList.contains c then .separator else .plain
  | .double, '\x22' => .closingQuote
  | .double, c => if patternSigns.contains c then .guarded else .plain
  | .sum, '(' => .openBracket
  | .sum, ')' => .closeBracket
  | .sum, _ => .plain

end Quoting

/-- A parameter with a name of its own sign. -/
def isSpecialSign (c : Char) : Bool := "!#$*-?@".toList.contains c || c.isDigit

/-- What is being read: a word, or a text up to a line that ends it, in which quotes stand for
themselves. The line that ends a text is read as it stands. -/
structure Goal where
  isText : Bool := false
  ending : Option (List Char) := none
  strips : Bool := false
  literal : Bool := false
deriving Repr

end BundleForge.Shell
