import BundleForge.Json.Reader
import BundleForge.Text.Utf8
import BundleForge.Yaml.Cursor

/-!
The texts inside a YAML stream: plain, quoted and block scalars with their folding of lines, names
of anchors, and tags.
-/

namespace BundleForge.Yaml

/-- The name of an anchor or alias after its sign. -/
def readName (c : Cursor) : Except Fault (String × Cursor) :=
  let (name, c) := c.next.takeWhile isNameChar
  if name.isEmpty || !mayFollowName c.peek then .error .malformed
  else .ok (String.ofList name, c)

/-- Bytes written with percent signs. -/
def readUriEscapes (fuel : Nat) (read : List UInt8) (c : Cursor) : Except Fault (String × Cursor) :=
  match fuel with
  | 0 => .error .malformed
  | fuel + 1 =>
    if c.peek = '%' then
      match Json.hexValue? (c.peekAt 1), Json.hexValue? (c.peekAt 2) with
      | some a, some b => readUriEscapes fuel (UInt8.ofNat (a * 16 + b) :: read) (c.skip 3)
      | _, _ => .error .malformed
    else match Text.Utf8.decode read.reverse with
      | .ok s => .ok (s, c)
      | .error _ => .error .malformed

/-- The text of a tag. -/
def readUri (fuel : Nat) (read : String) (c : Cursor) : Except Fault (String × Cursor) :=
  match fuel with
  | 0 => .error .malformed
  | fuel + 1 =>
    let (run, c) := c.takeWhile fun ch => isUriChar ch && ch != '%'
    let read := read ++ String.ofList run
    if c.peek = '%' then
      match readUriEscapes (c.rest.length + 1) [] c with
      | .ok (s, c) => readUri fuel (read ++ s) c
      | .error fault => .error fault
    else .ok (read, c)

/-- A tag's text, which may not be missing. -/
def readSomeUri (c : Cursor) : Except Fault (String × Cursor) :=
  if isUriChar c.peek then readUri (c.rest.length + 1) "" c else .error .malformed

/-- A handle: one exclamation mark, or a name between two. -/
def readHandle (c : Cursor) : Except Fault (String × Cursor) :=
  if c.peek ≠ '!' then .error .malformed
  else if c.peekAt 1 = ' ' then .ok ("!", c.next)
  else
    let (name, after) := c.next.takeWhile isNameChar
    if after.peek = '!' then .ok ("!" ++ String.ofList name ++ "!", after.next) else .error .malformed

/-- Whether another exclamation mark comes before the next space. -/
def hasHandle (c : Cursor) : Bool :=
  let word := c.rest.drop 1 |>.takeWhile fun ch => !isSpaceOrEnd ch
  word.contains '!'

def readTag (c : Cursor) : Except Fault (Token × Cursor) := do
  let (token, c) ←
    if c.peekAt 1 = '<' then do
      let (suffix, c) ← readSomeUri (c.skip 2)
      if c.peek ≠ '>' then throw .malformed
      pure (Token.tag none suffix, c.next)
    else if isBlankOrEnd (c.peekAt 1) then pure (Token.tag none "!", c.next)
    else if hasHandle c then do
      let (handle, c) ← readHandle c
      let (suffix, c) ← readSomeUri c
      pure (Token.tag (some handle) suffix, c)
    else do
      let (suffix, c) ← readSomeUri c.next
      pure (Token.tag (some "!") suffix, c)
  if isSpaceOrEnd c.peek then return (token, c) else throw .malformed

/-- The empty lines after a break inside a quoted scalar. A separator of documents may not start
one. -/
def quotedBreaks (fuel : Nat) (read : List Char) (c : Cursor) : Except Fault (List Char × Cursor) :=
  match fuel with
  | 0 => .error .malformed
  | fuel + 1 =>
    if c.atSeparator then .error .malformed
    else
      let c := c.skipWhile fun ch => ch = ' ' || ch = '\t'
      if isBreak c.peek then
        let (b, c) := c.lineBreak
        quotedBreaks fuel (read ++ b) c
      else .ok (read, c)

/-- A break inside a scalar, folded: alone it is a space, before empty lines nothing. -/
def fold (first rest : List Char) : List Char :=
  (if first ≠ ['\n'] then first else if rest.isEmpty then [' '] else []) ++ rest

def quotedSpaces (c : Cursor) : Except Fault (List Char × Cursor) := do
  let (spaces, c) := c.takeWhile fun ch => ch = ' ' || ch = '\t'
  if c.peek = eof then throw .unclosed
  else if isBreak c.peek then
    let (first, c) := c.lineBreak
    let (rest, c) ← quotedBreaks (c.rest.length + 1) [] c
    return (fold first rest, c)
  else return (spaces, c)

/-- The character of a one-letter escape between double quotes. -/
def escaped? (c : Char) : Option Char :=
  match c with
  | '0' => some (Char.ofNat 0)
  | 'a' => some (Char.ofNat 7)
  | 'b' => some (Char.ofNat 8)
  | 't' | '\t' => some '\t'
  | 'n' => some '\n'
  | 'v' => some (Char.ofNat 11)
  | 'f' => some (Char.ofNat 12)
  | 'r' => some '\r'
  | 'e' => some (Char.ofNat 27)
  | ' ' | '\x22' | '\\' | '/' => some c
  | 'N' => some (Char.ofNat 0x85)
  | '_' => some (Char.ofNat 0xa0)
  | 'L' => some (Char.ofNat 0x2028)
  | 'P' => some (Char.ofNat 0x2029)
  | _ => none

/-- How many hexadecimal digits follow the letter of an escape. -/
def escapeWidth? (c : Char) : Option Nat :=
  if c = 'x' then some 2 else if c = 'u' then some 4 else if c = 'U' then some 8 else none

/-- The number that so many hexadecimal digits stand for. -/
def hexCode? (width : Nat) (cs : List Char) : Option Nat :=
  let digits := (cs.take width).filterMap Json.hexValue?
  if digits.length = width then some (digits.foldl (fun n d => n * 16 + d) 0) else none

/-- The code whose number is written in hexadecimal. A number may be too large for any character. -/
def readCode (width : Nat) (c : Cursor) : Except Fault (Text.Code × Cursor) :=
  match hexCode? width c.rest with
  | none => .error .malformed
  | some n =>
    let after := c.skip width
    if 0x80000000 ≤ n then .error .codeTooLarge
    else if 0x110000 ≤ n then .error .characterTooLarge
    else if 0xd800 ≤ n && n < 0xe000 then .ok (.half n, after)
    else .ok (.char (Char.ofNat n), after)

/-- The characters of a quoted scalar up to a blank or its closing mark. -/
def quotedWord (double : Bool) (fuel : Nat) (read : List Text.Code) (c : Cursor) :
    Except Fault (List Text.Code × Cursor) :=
  match fuel with
  | 0 => .error .malformed
  | fuel + 1 =>
    let ch := c.peek
    if isBlankOrEnd ch then .ok (read, c)
    else if !double && ch = '\x27' then
      if c.peekAt 1 = '\x27' then quotedWord double fuel (read ++ [.char ch]) (c.skip 2) else .ok (read, c)
    else if double && ch = '\x22' then .ok (read, c)
    else if double && ch = '\\' then
      let c := c.next
      match escaped? c.peek with
      | some e => quotedWord double fuel (read ++ [.char e]) c.next
      | none =>
        match escapeWidth? c.peek with
        | some width =>
          match readCode width c.next with
          | .ok (e, c) => quotedWord double fuel (read ++ [e]) c
          | .error fault => .error fault
        | none =>
          if isBreak c.peek then
            let (_, c) := c.lineBreak
            match quotedBreaks (c.rest.length + 1) [] c with
            | .ok (b, c) => quotedWord double fuel (read ++ b.map .char) c
            | .error fault => .error fault
          else .error .malformed
    else
      let (run, after) := c.takeWhile fun ch =>
        !(isBlankOrEnd ch || ch = '\x27' || ch = '\x22' || ch = '\\')
      if run.isEmpty then quotedWord double fuel (read ++ [.char ch]) c.next
      else quotedWord double fuel (read ++ run.map .char) after

def quotedRest (mark : Char) (fuel : Nat) (read : List Text.Code) (c : Cursor) :
    Except Fault (List Text.Code × Cursor) :=
  match fuel with
  | 0 => .error .malformed
  | fuel + 1 =>
    if c.peek = mark then .ok (read, c.next)
    else match quotedSpaces c with
      | .error fault => .error fault
      | .ok (spaces, c) =>
        match quotedWord (mark = '\x22') (c.rest.length + 1) [] c with
        | .error fault => .error fault
        | .ok (word, c) => quotedRest mark fuel (read ++ spaces.map .char ++ word) c

/-- A scalar between two marks. -/
def readQuoted (c : Cursor) : Except Fault (Token × Cursor) := do
  let mark := c.peek
  let c := c.next
  let (word, c) ← quotedWord (mark = '\x22') (c.rest.length + 1) [] c
  let (codes, c) ← quotedRest mark (c.rest.length + 1) word c
  return (.scalar (.ofCodes codes) false, c)

/-- The breaks and indentation spaces between the lines of a plain scalar; none where a separator of
documents follows. -/
def plainBreaks (fuel : Nat) (read : List Char) (c : Cursor) : Option (List Char) × Cursor :=
  match fuel with
  | 0 => (some read, c)
  | fuel + 1 =>
    if c.peek = ' ' then plainBreaks fuel read c.next
    else if isBreak c.peek then
      let (b, c) := c.lineBreak
      if c.atSeparator then (none, c) else plainBreaks fuel (read ++ b) c
    else (some read, c)

/-- The blanks after a word of a plain scalar, whether a line ended among them, and whether the
scalar can go on. -/
structure PlainGap where
  text : List Char
  brokeLine : Bool
  place : Cursor

def plainGap (c : Cursor) : PlainGap :=
  let (spaces, c) := c.takeWhile (· = ' ')
  if isBreak c.peek then
    let (first, c) := c.lineBreak
    if c.atSeparator then ⟨[], true, c⟩
    else match plainBreaks (c.rest.length + 1) [] c with
      | (none, c) => ⟨[], true, c⟩
      | (some rest, c) => ⟨fold first rest, true, c⟩
  else ⟨spaces, false, c⟩

/-- Whether a plain scalar ends before a character, given the one after it. -/
def endsPlain (inFlow : Bool) (ch after : Char) : Bool :=
  isBlankOrEnd ch ||
    (ch = ':' && (isBlankOrEnd after || (inFlow && ",[]\x7b\x7d".toList.contains after))) ||
    (inFlow && ",?[]\x7b\x7d".toList.contains ch)

/-- The length of the word of a plain scalar that starts here. -/
def plainLength (inFlow : Bool) : List Char → Nat
  | [] => 0
  | ch :: rest => if endsPlain inFlow ch (rest.head?.getD eof) then 0 else plainLength inFlow rest + 1

/-- A plain scalar, where it ends, and whether a line ended after its last word. -/
structure PlainText where
  text : List Char
  brokeLine : Bool
  place : Cursor

def readPlain (inFlow : Bool) (indent : Int) (fuel : Nat) (read gap : List Char) (broke : Bool)
    (c : Cursor) : PlainText :=
  match fuel with
  | 0 => ⟨read, broke, c⟩
  | fuel + 1 =>
    if c.peek = '#' then ⟨read, broke, c⟩
    else
      let n := plainLength inFlow c.rest
      if n = 0 then ⟨read, broke, c⟩
      else
        let read := read ++ gap ++ c.rest.take n
        let next := plainGap (c.skip n)
        let stop := next.text.isEmpty || next.place.peek = '#' ||
          (!inFlow && (next.place.column : Int) < indent)
        if stop then ⟨read, next.brokeLine, next.place⟩
        else readPlain inFlow indent fuel read next.text next.brokeLine next.place

/-- How a block scalar treats the breaks at its end: keep all, keep one, or keep none. -/
inductive Chomping
  | keep
  | clip
  | strip
deriving DecidableEq

def chomping? (c : Char) : Option Chomping :=
  if c = '+' then some .keep else if c = '-' then some .strip else none

/-- The sign and the digit that may follow the start of a block scalar, in either order. -/
def blockHeader (c : Cursor) : Except Fault (Chomping × Option Nat × Cursor) := do
  let digit? (c : Cursor) : Except Fault (Option Nat × Cursor) :=
    if c.peek.isDigit then
      if c.peek = '0' then .error .malformed else .ok (some (c.peek.toNat - 48), c.next)
    else .ok (none, c)
  let (chomping, increment, c) ←
    match chomping? c.peek with
    | some chomping => do
      let (increment, c) ← digit? c.next
      pure (chomping, increment, c)
    | none => do
      let (increment, c) ← digit? c
      match increment, chomping? c.peek with
      | some n, some chomping => pure (chomping, some n, c.next)
      | increment, _ => pure (.clip, increment, c)
  if isSpaceOrEnd c.peek then return (chomping, increment, c) else throw .malformed

/-- The empty lines before a block scalar whose indentation is still unknown, with the widest of
them. -/
def leadingBreaks (fuel : Nat) (read : List Char) (widest : Nat) (c : Cursor) :
    List Char × Nat × Cursor :=
  match fuel with
  | 0 => (read, widest, c)
  | fuel + 1 =>
    if c.peek = ' ' then
      let c := c.next
      leadingBreaks fuel read (max widest c.column) c
    else if isBreak c.peek then
      let (b, c) := c.lineBreak
      leadingBreaks fuel (read ++ b) widest c
    else (read, widest, c)

def skipIndent (fuel : Nat) (indent : Nat) (c : Cursor) : Cursor :=
  match fuel with
  | 0 => c
  | fuel + 1 => if c.column < indent && c.peek = ' ' then skipIndent fuel indent c.next else c

/-- The empty lines between lines of a block scalar, and the indentation of the next. -/
def blockBreaks (fuel : Nat) (indent : Nat) (read : List Char) (c : Cursor) : List Char × Cursor :=
  match fuel with
  | 0 => (read, c)
  | fuel + 1 =>
    let c := skipIndent indent indent c
    if isBreak c.peek then
      let (b, c) := c.lineBreak
      blockBreaks fuel indent (read ++ b) c
    else (read, c)

/-- The lines of a block scalar: the text, the last break, the empty lines after it, and the end. -/
def blockLines (folded : Bool) (indent fuel : Nat) (read breaks : List Char) (c : Cursor) :
    List Char × List Char × List Char × Cursor :=
  match fuel with
  | 0 => (read, [], breaks, c)
  | fuel + 1 =>
    if c.column = indent && c.peek ≠ eof then
      let isText (c : Cursor) : Bool := !(c.peek = ' ' || c.peek = '\t')
      let leading := isText c
      let (line, c) := c.takeWhile fun ch => !isBreakOrEnd ch
      let read := read ++ breaks ++ line
      let (last, c) := c.lineBreak
      let (breaks, c) := blockBreaks (c.rest.length + 1) indent [] c
      if c.column = indent && c.peek ≠ eof then
        let joint :=
          if folded && last = ['\n'] && leading && isText c then
            if breaks.isEmpty then [' '] else []
          else last
        blockLines folded indent fuel (read ++ joint) breaks c
      else (read, last, breaks, c)
    else (read, [], breaks, c)

/-- A block scalar, literal or folded, in a block of the given indentation. -/
def readBlock (parent : Int) (c : Cursor) : Except Fault (Token × Cursor) := do
  let folded := c.peek = '>'
  let (chomping, increment, c) ← blockHeader c.next
  let c ← c.blankLine
  let least := (max (parent + 1) 1).toNat
  let (breaks, indent, c) :=
    match increment with
    | none =>
      let (breaks, widest, c) := leadingBreaks (c.rest.length + 1) [] 0 c
      (breaks, max least widest, c)
    | some n =>
      let indent := least + n - 1
      let (breaks, c) := blockBreaks (c.rest.length + 1) indent [] c
      (breaks, indent, c)
  let (text, last, breaks, c) := blockLines folded indent (c.rest.length + 1) [] breaks c
  let text :=
    match chomping with
    | .keep => text ++ last ++ breaks
    | .clip => text ++ last
    | .strip => text
  return (.scalar (.whole (String.ofList text)) false, c)

end BundleForge.Yaml
