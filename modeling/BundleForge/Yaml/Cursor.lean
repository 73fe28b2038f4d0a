import BundleForge.Yaml.Token

/-!
A place in a text with its line and column, and the simple steps that move it.
-/

namespace BundleForge.Yaml

/-- A place in a text. -/
structure Cursor where
  rest : List Char
  index : Nat := 0
  line : Nat := 0
  column : Nat := 0
deriving Inhabited

namespace Cursor

/-- The character some way ahead; past the end there is only the end. -/
def peekAt (c : Cursor) (n : Nat) : Char := (c.rest[n]?).getD eof

def peek (c : Cursor) : Char := c.rest.head?.getD eof

/-- One character further. A line feed after a carriage return ends the same line. -/
def next (c : Cursor) : Cursor :=
  match c.rest with
  | [] => c
  | ch :: rest =>
    if ch = '\r' && rest.head? = some '\n' then
      { rest, index := c.index + 1, line := c.line, column := c.column + 1 }
    else if isBreak ch then { rest, index := c.index + 1, line := c.line + 1, column := 0 }
    else if ch.toNat = 0xfeff then { rest, index := c.index + 1, line := c.line, column := c.column }
    else { rest, index := c.index + 1, line := c.line, column := c.column + 1 }

def skip (c : Cursor) : Nat → Cursor
  | 0 => c
  | n + 1 => c.next.skip n

/-- The characters from here on that pass a test, and the place after them. -/
def takeWhile (c : Cursor) (p : Char → Bool) : List Char × Cursor :=
  let taken := c.rest.takeWhile fun ch => ch != eof && p ch
  (taken, c.skip taken.length)

def skipWhile (c : Cursor) (p : Char → Bool) : Cursor := (c.takeWhile p).2

def skipSpaces (c : Cursor) : Cursor := c.skipWhile (· = ' ')

/-- Skips a comment up to the end of its line. -/
def skipComment (c : Cursor) : Cursor :=
  if c.peek = '#' then c.skipWhile fun ch => !isBreakOrEnd ch else c

/-- Skips the end of a line. All ends of lines but two read as a line feed. -/
def lineBreak (c : Cursor) : List Char × Cursor :=
  let ch := c.peek
  if ch = '\r' then
    if c.peekAt 1 = '\n' then (['\n'], c.skip 2) else (['\n'], c.next)
  else if ch = '\n' || ch.toNat = 0x85 then (['\n'], c.next)
  else if ch.toNat = 0x2028 || ch.toNat = 0x2029 then ([ch], c.next)
  else ([], c)

/-- Whether the next three characters are all the given one, with a blank after them. -/
def atMarker (c : Cursor) (mark : Char) : Bool :=
  c.peekAt 0 = mark && c.peekAt 1 = mark && c.peekAt 2 = mark && isBlankOrEnd (c.peekAt 3)

/-- Whether a line that separates documents starts here. -/
def atSeparator (c : Cursor) : Bool := c.atMarker '-' || c.atMarker '.'

/-- The rest of a line that may hold only a comment. -/
def blankLine (c : Cursor) : Except Fault Cursor :=
  let c := c.skipSpaces.skipComment
  if isBreakOrEnd c.peek then .ok c.lineBreak.2 else .error .malformed

end Cursor
end BundleForge.Yaml
