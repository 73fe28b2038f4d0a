import BundleForge.Text.Supply
import BundleForge.Yaml.Scalar

/-!
Cutting a YAML text into tokens. Indentation is tracked on a stack, and a place where a key may have
started is remembered until the colon after it is found or can no longer come.
-/

namespace BundleForge.Yaml

/-- Where a key on one line may have started. -/
structure PossibleKey where
  tokenNumber : Nat
  required : Bool
  index : Nat
  line : Nat
  column : Nat

/-- The state of the cutting: the place, the fault that is met at the end of the text if it breaks off
there, the open indentations, how deep in flow collections it is, and the tokens so far. -/
structure Stream where
  place : Cursor
  ending : Option Fault := none
  indent : Int := -1
  indents : List Int := []
  flow : Nat := 0
  allowKey : Bool := true
  keys : List (Nat × PossibleKey) := []
  tokens : Array Token := #[]
  finished : Bool := false

namespace Stream

def emit (s : Stream) (t : Token) : Stream := { s with tokens := s.tokens.push t }

/-- Inserts a token before the one with a number. -/
def insertAt (s : Stream) (n : Nat) (t : Token) : Stream :=
  { s with tokens := s.tokens.extract 0 n ++ #[t] ++ s.tokens.extract n s.tokens.size }

/-- The longest distance between the start of a key and its colon. -/
def keyReach : Nat := 1024

def isStale (s : Stream) (k : PossibleKey) : Bool :=
  k.line ≠ s.place.line || keyReach < s.place.index - k.index

/-- Forgets the keys that can no longer be completed; one that had to be is a fault. -/
def dropStaleKeys (s : Stream) : Except Fault Stream :=
  if s.keys.any fun k => s.isStale k.2 && k.2.required then .error .malformed
  else .ok { s with keys := s.keys.filter fun k => !s.isStale k.2 }

def keyHere? (s : Stream) : Option PossibleKey := s.keys.lookup s.flow

def withoutKeyHere (s : Stream) : Stream := { s with keys := s.keys.filter fun k => k.1 != s.flow }

def dropKey (s : Stream) : Except Fault Stream :=
  match s.keyHere? with
  | some k => if k.required then .error .malformed else .ok s.withoutKeyHere
  | none => .ok s

/-- Remembers that a key may start here. -/
def saveKey (s : Stream) : Except Fault Stream :=
  if s.allowKey then do
    let required := s.flow = 0 && s.indent == (s.place.column : Int)
    let s ← s.dropKey
    let key : PossibleKey := ⟨s.tokens.size, required, s.place.index, s.place.line, s.place.column⟩
    return { s with keys := (s.flow, key) :: s.keys }
  else .ok s

/-- Closes the blocks that are indented further than a column. -/
def unwind (column : Int) : List Int → Stream → Stream
  | [], s => s
  | outer :: rest, s =>
    if s.flow = 0 && column < s.indent then
      unwind column rest ({ s with indent := outer, indents := rest }.emit .blockEnd)
    else s

def unwindTo (s : Stream) (column : Int) : Stream := unwind column s.indents s

/-- Opens a block at a column that lies further in than the open ones. -/
def addIndent (s : Stream) (column : Nat) : Bool × Stream :=
  if s.indent < (column : Int) then
    (true, { s with indents := s.indent :: s.indents, indent := column })
  else (false, s)

def move (s : Stream) (c : Cursor) : Stream := { s with place := c }

/-- Skips spaces, comments and line ends. A new line may start with a key. -/
def toNextToken (fuel : Nat) (s : Stream) : Stream :=
  match fuel with
  | 0 => s
  | fuel + 1 =>
    let c := s.place.skipSpaces.skipComment
    if isBreak c.peek then
      toNextToken fuel { s with place := c.lineBreak.2, allowKey := s.allowKey || s.flow = 0 }
    else s.move c

/-- Whoever uses up a text that breaks off meets the fault there. -/
def checkEnd (s : Stream) : Except Fault Stream :=
  match s.ending with
  | some fault => if s.place.rest.isEmpty then .error fault else .ok s
  | none => .ok s

def fetchEnd (s : Stream) : Except Fault Stream := do
  let s ← (s.unwindTo (-1)).dropKey
  return { s with allowKey := false, keys := [], finished := true }.emit .streamEnd

/-- A number in the directive that names the version. -/
def versionNumber (c : Cursor) : Except Fault (Nat × Cursor) :=
  let (digits, c) := c.takeWhile Char.isDigit
  if digits.isEmpty then .error .malformed
  else if Number.digitLimit < digits.length then .error (.versionTooLong digits.length)
  else .ok (Number.ofDigits 10 (digits.map fun d => d.toNat - 48), c)

def readDirective (c : Cursor) : Except Fault (Token × Cursor) := do
  let (name, c) := c.next.takeWhile isNameChar
  if name.isEmpty || !isSpaceOrEnd c.peek then throw .malformed
  let (token, c) ←
    if String.ofList name = "YAML" then do
      let (major, c) ← versionNumber c.skipSpaces
      if c.peek ≠ '.' then throw .malformed
      let (_, c) ← versionNumber c.next
      if !isSpaceOrEnd c.peek then throw .malformed
      pure (Token.version major, c)
    else if String.ofList name = "TAG" then do
      let (handle, c) ← readHandle c.skipSpaces
      if c.peek ≠ ' ' then throw .malformed
      let (start, c) ← readSomeUri c.skipSpaces
      if !isSpaceOrEnd c.peek then throw .malformed
      pure (Token.tagHandle handle start, c)
    else pure (Token.otherDirective, c.skipWhile fun ch => !isBreakOrEnd ch)
  let c ← c.blankLine
  return (token, c)

def fetchDirective (s : Stream) : Except Fault Stream := do
  let s ← (s.unwindTo (-1)).dropKey
  let (token, c) ← readDirective s.place
  return { s with allowKey := false, place := c }.emit token

def fetchMarker (s : Stream) (t : Token) : Except Fault Stream := do
  let s ← (s.unwindTo (-1)).dropKey
  return { s with allowKey := false, place := s.place.skip 3 }.emit t

def fetchFlowStart (s : Stream) (t : Token) : Except Fault Stream := do
  let s ← s.saveKey
  return { s with flow := s.flow + 1, allowKey := true, place := s.place.next }.emit t

def fetchFlowEnd (s : Stream) (t : Token) : Except Fault Stream := do
  let s ← s.dropKey
  if s.flow = 0 then throw .malformed
  return { s with flow := s.flow - 1, allowKey := false, place := s.place.next }.emit t

def fetchFlowEntry (s : Stream) : Except Fault Stream := do
  let s ← { s with allowKey := true }.dropKey
  return (s.move s.place.next).emit .flowEntry

/-- Opens a block of a kind here unless one is open already. -/
def openBlock (s : Stream) (t : Token) : Except Fault Stream :=
  if s.flow = 0 then
    if s.allowKey then
      let (opened, s) := s.addIndent s.place.column
      .ok (if opened then s.emit t else s)
    else .error .malformed
  else .ok s

def fetchBlockEntry (s : Stream) : Except Fault Stream := do
  let s ← s.openBlock .blockSequence
  let s ← { s with allowKey := true }.dropKey
  return (s.move s.place.next).emit .blockEntry

def fetchKey (s : Stream) : Except Fault Stream := do
  let s ← s.openBlock .blockMapping
  let s ← { s with allowKey := s.flow = 0 }.dropKey
  return (s.move s.place.next).emit .key

/-- The colon after a key: the token for the key goes to where the key started. -/
def fetchValue (s : Stream) : Except Fault Stream := do
  let s ←
    match s.keyHere? with
    | some k =>
      let s := s.withoutKeyHere.insertAt k.tokenNumber .key
      let s :=
        if s.flow = 0 then
          let (opened, s) := s.addIndent k.column
          if opened then s.insertAt k.tokenNumber .blockMapping else s
        else s
      pure { s with allowKey := false }
    | none => do
      let s ← s.openBlock .blockMapping
      { s with allowKey := s.flow = 0 }.dropKey
  return (s.move s.place.next).emit .value

def fetchName (s : Stream) (token : String → Token) : Except Fault Stream := do
  let s ← s.saveKey
  let (name, c) ← readName s.place
  return { s with allowKey := false, place := c }.emit (token name)

def fetchTag (s : Stream) : Except Fault Stream := do
  let s ← s.saveKey
  let (token, c) ← readTag s.place
  return { s with allowKey := false, place := c }.emit token

def fetchBlock (s : Stream) : Except Fault Stream := do
  let s ← { s with allowKey := true }.dropKey
  let (token, c) ← readBlock s.indent s.place
  return (s.move c).emit token

def fetchQuoted (s : Stream) : Except Fault Stream := do
  let s ← s.saveKey
  match readQuoted s.place with
  | .ok (token, c) => return { s with allowKey := false, place := c }.emit token
  | .error .unclosed => throw (s.ending.getD .unclosed)
  | .error fault => throw fault

def fetchPlain (s : Stream) : Except Fault Stream := do
  let s ← s.saveKey
  let plain := readPlain (s.flow ≠ 0) (s.indent + 1) (s.place.rest.length + 1) [] [] false s.place
  return { s with allowKey := plain.brokeLine, place := plain.place }.emit
    (.scalar (.whole (String.ofList plain.text)) true)

/-- Whether a plain scalar may start here. -/
def startsPlain (s : Stream) : Bool :=
  let ch := s.place.peek
  !(isBlankOrEnd ch || isIndicator ch) ||
    (!isBlankOrEnd (s.place.peekAt 1) && (ch = '-' || (s.flow = 0 && (ch = '?' || ch = ':'))))

/-- The token that starts here, chosen by its first character. -/
def fetchHere (s : Stream) : Except Fault Stream :=
  let ch := s.place.peek
  let lineStart := s.place.column = 0
  let inFlow := s.flow ≠ 0
  let blankNext := isBlankOrEnd (s.place.peekAt 1)
  if ch = eof then s.fetchEnd
  else if ch = '%' && lineStart then s.fetchDirective
  else if lineStart && s.place.atMarker '-' then s.fetchMarker .documentStart
  else if lineStart && s.place.atMarker '.' then s.fetchMarker .documentEnd
  else if ch = '[' then s.fetchFlowStart .flowSequenceStart
  else if ch = '\x7b' then s.fetchFlowStart .flowMappingStart
  else if ch = ']' then s.fetchFlowEnd .flowSequenceEnd
  else if ch = '\x7d' then s.fetchFlowEnd .flowMappingEnd
  else if ch = ',' then s.fetchFlowEntry
  else if ch = '-' && blankNext then s.fetchBlockEntry
  else if ch = '?' && (inFlow || blankNext) then s.fetchKey
  else if ch = ':' && (inFlow || blankNext) then s.fetchValue
  else if ch = '*' then s.fetchName .alias
  else if ch = '&' then s.fetchName .anchor
  else if ch = '!' then s.fetchTag
  else if (ch = '|' || ch = '>') && !inFlow then s.fetchBlock
  else if ch = '\x27' || ch = '\x22' then s.fetchQuoted
  else if s.startsPlain then s.fetchPlain
  else .error .malformed

/-- The next token. -/
def fetch (s : Stream) : Except Fault Stream := do
  let s ← (s.toNextToken (s.place.rest.length + 1)).checkEnd
  let s ← s.dropStaleKeys
  let s ← (s.unwindTo s.place.column).fetchHere
  s.checkEnd

/-- The tokens that are seen before a fault. Where a key may have started the fault is met first: the
token there stays unseen until it is known whether it belongs to a key. -/
def seen (s : Stream) : Array Token :=
  s.tokens.extract 0 ((s.keys.filter fun k => !s.isStale k.2).foldl (fun n k => min n k.2.tokenNumber)
    s.tokens.size)

/-- All tokens of a text, or those before the first fault and that fault. -/
def fetchAll (fuel : Nat) (s : Stream) : Array Token × Option Fault :=
  match fuel with
  | 0 => (s.tokens, some .malformed)
  | fuel + 1 =>
    if s.finished then (s.tokens, none)
    else match s.fetch with
      | .error fault => (s.seen, some fault)
      | .ok s => fetchAll fuel s

end Stream

/-- The part of a supply that can be used, and the fault that is met after it. A page with a character
that may not stand in a stream is refused as a whole. -/
def usable (supply : Text.Supply) : List Char × Option Fault :=
  let cs := supply.text.toList
  match cs.findIdx? fun c => !isAllowed c with
  | some i => (cs.take (Text.Supply.inPages i), some .malformed)
  | none => (cs, supply.refusal.map Fault.undecodable)

/-- The tokens of a text. A byte order mark in front does not count. -/
def tokensOf (supply : Text.Supply) : Array Token × Option Fault :=
  let (cs, ending) := usable supply
  let cs' := if (cs.head?.map Char.toNat) = some 0xfeff then cs.tail else cs
  let place : Cursor := { rest := cs', index := cs.length - cs'.length }
  Stream.fetchAll (2 * cs.length + 3) { place, ending }

end BundleForge.Yaml
