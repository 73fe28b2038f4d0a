import BundleForge.Shell.Reader.Marks

/-!
Reading a script, one complete command at a time, so that what stands before a fault is still carried
out. Words hold scripts and scripts hold words, so both are read by one family of functions; every step
costs one unit of depth. Main statement: a script of blank space holds no command.
-/

namespace BundleForge.Shell

/-- What is read at a time: the end of the script, or a command; a blank line holds none. -/
inductive Listing
  | ended
  | command (command : Option Command)

/-- The names of the builtin commands that a function cannot have. -/
def specialNames : List String := [
  ".", ":", "break", "continue", "eval", "exec", "exit", "export", "local", "readonly", "return", "set",
  "shift", "times", "trap", "unset"]

namespace Reader

/-- The text that a quoted or plain word spells, quotes left out. -/
def spelt (w : Wording) : List Char := w.chars

/-- A list with one more command behind it. -/
def sequenced (before : Option Command) (next : Command) : Command :=
  match before with
  | none => next
  | some before => .sequence before next

/-- A command that is not waited for. -/
def inBackground : Command → Command
  | .pipeline stages _ => .pipeline stages true
  | .redirected line inner rs => .background line inner rs
  | inner => .background 0 inner []

/-- How the redirection behind a sign goes on, `>` here. -/
def outputStart (stream : Nat) : Reader RedirectionStart := do
  match ← joinedChar with
  | some '>' => return .file stream .behind
  | some '|' => return .file stream .regardless
  | some '&' => return .join stream
  | c => do
    giveBack c
    return .file stream .anew

/-- The same behind `<`. -/
def inputStart (stream : Nat) : Reader RedirectionStart := do
  match ← joinedChar with
  | some '<' => return .document stream (← followedBy '-')
  | some '&' => return .join stream
  | some '>' => return .file stream .both
  | c => do
    giveBack c
    return .file stream .reading

/-- The characters of a name, the first one read already. -/
def nameChars (holds : Char → Bool) (c : Option Char) (made : List Char) (fuel : Nat := joinLimit) :
    Reader (List Char × Option Char) := do
  match c, fuel with
  | some d, fuel + 1 =>
    if holds d then nameChars holds (← joinedChar) (d :: made) fuel else return (made.reverse, c)
  | _, _ => return (made.reverse, c)

/-- The name of a parameter in braces or without, what stands for it: whether its length is asked for,
and the character behind the name. No name is found where none can stand. -/
def parameterName (braces : Bool) (c : Option Char) :
    Reader (Option (String × Bool) × Option Char) := do
  let named (c : Option Char) (length : Bool) : Reader (Option (String × Bool) × Option Char) := do
    if c.any Char.isDigit && !braces then
      return (c.map fun c => (String.singleton c, false), ← joinedChar)
    let holds := if c.any Char.isDigit then Char.isDigit else isNameChar
    let (name, after) ← nameChars holds c []
    return (some (String.ofList name, length), after)
  match c with
  | none => return (none, c)
  | some '\x7d' => return (none, c)
  | some sign =>
    if isNameChar sign then named c false
    else
      let c ← joinedChar
      let special (sign : Char) (length : Bool) (c : Option Char) :
          Option (String × Bool) × Option Char :=
        if isSpecialSign sign then (some (String.singleton sign, length), c) else (none, c)
      if braces && sign = '#' then
        if c.any isNameChar then named c true
        else
          let d ← joinedChar
          if c = some '\x7d' || d ≠ some '\x7d' then
            giveBack d
            return special '#' false c
          else return special (c.getD ' ') true d
      else return special sign false c

/-- What is made of a parameter in braces, by what stands behind its name. -/
def useOf (length : Bool) (c : Option Char) : Reader (Use × Bool) := do
  if length then
    giveBack c
    return (if c = some '\x7d' then .length else .bad, false)
  let orEmpty := c = some ':'
  let c ← if orEmpty then joinedChar else pure c
  let trimmed (sign : Char) (make : Bool → Use) : Reader (Use × Bool) := do
    if orEmpty then return (.bad, true)
    return (make (← followedBy sign), false)
  match c with
  | some '\x7d' => return (.plain, orEmpty)
  | some '-' => return (.default, orEmpty)
  | some '+' => return (.alternative, orEmpty)
  | some '?' => return (.required, orEmpty)
  | some '=' => return (.assign, orEmpty)
  | some '%' => trimmed '%' .withoutBack
  | some '#' => trimmed '#' .withoutFront
  | _ => return (.bad, orEmpty)

/-- Whether what is made of a parameter is a pattern. -/
def takesPattern : Use → Bool
  | .withoutFront _ | .withoutBack _ => true
  | _ => false

/-- A word with the front of a parameter in it. What is made of it is read up to a closing brace. -/
def openBraces (name : String) (use : Use) (orEmpty : Bool) (s : Scan) : Scan :=
  let s := s.put (.parameter name use orEmpty)
  if use = .plain then s
  else
    let quoting := if takesPattern use then .none
      else if s.level.quoting = .sum then .double else s.level.quoting
    let s := if quoting ≠ s.level.quoting || s.level.inner then
        s.enter { quoting, entered := true, double := quoting ≠ .none }
      else s
    let level := s.level
    { s with level := { level with
      braces := level.braces + 1
      quotedBraces := if level.double then level.quotedBraces + 1 else level.quotedBraces } }

/-- A word behind a closing brace. -/
def closeBraces (s : Scan) : Scan :=
  let level := s.level
  if level.inner || level.braces = 0 then s.add '\x7d' false
  else
    let s := s.put .close
    if level.braces = 1 && level.entered then s.leave
    else { s with level := { level with
      braces := level.braces - 1, quotedBraces := level.quotedBraces - 1 } }

/-- A word behind a quote, which shows in the word unless it is a text. -/
def turnQuotes (g : Goal) (isDouble : Bool) (s : Scan) : Scan :=
  let s := if isDouble && s.level.braces ≠ 0 then
      { s with level := { s.level with inner := !s.level.inner } }
    else s
  if g.isText then s else s.put .quotes

/-- A word behind a character that closes quotes. -/
def closeQuotes (g : Goal) (c : Char) (s : Scan) : Scan :=
  if g.isText && s.level.braces = 0 then s.add c false
  else
    let level := s.level
    let s := if level.quotedBraces = 0 then
        { s with level := { level with quoting := .none, double := false } }
      else s
    turnQuotes g (c = '\x22') { s with quoted := true }

/-- A word with the character behind a backslash. Between double quotes the backslash only keeps few
characters, and stands for itself before others. -/
def addEscaped (g : Goal) (c : Char) (s : Scan) : Scan :=
  let level := s.level
  let stays := level.double && c ≠ '\\' && c ≠ '\x60' && c ≠ '$' &&
    (c ≠ '\x22' || (g.isText && level.braces = 0)) && (c ≠ '\x7d' || level.braces = 0)
  let s := if stays then s.add '\\' true else s
  { s.add c true with quoted := true }

/-- Whether the line that starts with a character is the one that ends a text. What was read of another
line is given back. -/
def lineEnds (fuel : Nat) (ending : List Char) (c : Option Char) (read : List Char) :
    Reader (Bool × Option Char) := do
  let refuse : Reader (Bool × Option Char) := do
    match (match c with
      | some c => c :: read
      | none => read).reverse with
    | [] => return (false, c)
    | first :: others => do
      for c in others.reverse do giveBack (some c)
      return (false, some first)
  match fuel, ending, c with
  | _, [], none => return (true, none)
  | _, [], some '\n' => do
    countLine
    return (true, none)
  | fuel + 1, e :: ending, some d =>
    if e = d then lineEnds fuel ending (← char) (d :: read) else refuse
  | _, _, _ => refuse

/-- The first character that is no tab. -/
def skipTabs (c : Option Char) (fuel : Nat := joinLimit) : Reader (Option Char) := do
  match c, fuel with
  | some '\t', fuel + 1 => skipTabs (← char) fuel
  | c, _ => return c

/-- The start of a line. In a text it may be the line that ends it, and then nothing comes next. -/
def startOfLine (g : Goal) (c : Option Char) : Reader (Option Char) := do
  match g.ending with
  | none => return c
  | some ending => do
    let c ← if g.strips then skipTabs c else pure c
    return (← lineEnds (ending.length + 1) ending c []).2

/-- The text between backquotes, in which backslashes keep few characters. -/
def backquoted (double : Bool) (made : List Char) (fuel : Nat := joinLimit) : Reader (List Char) := do
  let goOn (made : List Char) : Reader (List Char) :=
    match fuel with
    | 0 => fail .tooDeep
    | fuel + 1 => backquoted double made fuel
  match ← joinedChar with
  | none => fail .unterminatedOutput
  | some '\x60' => return made.reverse
  | some '\n' => do
    countLine
    goOn ('\n' :: made)
  | some '\\' => do
    match ← char with
    | none => fail .unterminatedOutput
    | some c =>
      if c = '\\' || c = '\x60' || c = '$' || (double && c = '\x22') then goOn (c :: made)
      else goOn (c :: '\\' :: made)
  | some c => goOn (c :: made)

/-- Reads something from another text, and then goes on where it was. -/
def inside {α : Type} (text : List Char) (action : Reader α) : Reader α := do
  let before ← get
  set { before with rest := text, line := 1, stands := [], spent := [] }
  let result ← action
  modify fun s => { s with
    rest := before.rest, line := before.line, stands := before.stands, pushed := false }
  return result

/-- The word that was read, if it came to its end. -/
def finish (g : Goal) (s : Scan) : Reader Wording := do
  if s.level.quoting = .sum then fail .missingSumEnd
  if s.level.quoting ≠ .none && !g.isText then fail .unterminatedQuotes
  if s.level.braces ≠ 0 then fail .missingBrace
  return WordMark.word s.marks.reverse

mutual

/-- A word or a text that starts with a character, up to its end, and the character behind it. -/
def scan : Nat → Goal → Scan → Option Char → Reader (Scan × Option Char)
  | 0, _, _, _ => fail .tooDeep
  | fuel + 1, g, s, c => do
    match c with
    | none => return (s, none)
    | some c =>
      let goOn (s : Scan) : Reader (Scan × Option Char) := do scan fuel g s (← char)
      match s.level.quoting.classOf c with
      | .newline =>
        if s.level.quoting = .none && s.level.braces = 0 then return (s, some c)
        else
          countLine
          scan fuel g (s.add c false) (← startOfLine g (← char))
      | .plain => goOn (s.add c false)
      | .guarded => goOn (s.add c (!g.isText || s.level.double || s.level.braces ≠ 0))
      | .backslash =>
        match ← char with
        | none => goOn (s.add '\\' true)
        | some '\n' => do
          countLine
          goOn s
        | some d => goOn (addEscaped g d s)
      | .singleQuote => goOn (turnQuotes g false { s with level := { s.level with quoting := .single } })
      | .doubleQuote =>
        goOn (turnQuotes g true { s with level := { s.level with quoting := .double, double := true } })
      | .closingQuote => goOn (closeQuotes g c s)
      | .dollar => goOn (← dollar fuel g s)
      | .brace => goOn (closeBraces s)
      | .openBracket =>
        goOn { s.add c false with level := { s.level with brackets := s.level.brackets + 1 } }
      | .closeBracket =>
        if s.level.brackets ≠ 0 then
          goOn { s.add c false with level := { s.level with brackets := s.level.brackets - 1 } }
        else if ← followedBy ')' then goOn (s.put .close).leave
        else goOn (s.add c false)
      | .backquote =>
        if g.literal then goOn (s.add c false)
        else do
          let text ← backquoted s.level.double []
          let script ← enclosed fuel text
          goOn (s.put (.output script))
      | .separator => if s.level.braces = 0 then return (s, some c) else goOn (s.add c false)

/-- A word behind a dollar sign. -/
def dollar : Nat → Goal → Scan → Reader Scan
  | 0, _, _ => fail .tooDeep
  | fuel + 1, g, s => do
    let c ← joinedChar
    let starts := c.any fun c => c = '(' || c = '\x7b' || isNameStart c || isSpecialSign c
    if g.literal || !starts then
      giveBack c
      return s.add '$' false
    if c = some '(' then
      if ← followedBy '(' then return (s.put .sum).enter { quoting := .sum, double := true }
      return s.put (.output (← bracketed fuel))
    let braces := c = some '\x7b'
    let c ← if braces then joinedChar else pure c
    let (name?, c) ← parameterName braces c
    match name? with
    | none => do
      giveBack c
      return openBraces "" .bad false s
    | some (name, length) =>
      if !braces then
        giveBack c
        return openBraces name .plain false s
      let (use, orEmpty) ← useOf length c
      return openBraces name use orEmpty s

/-- The script between backquotes. What follows a complete list in it is left out. -/
def enclosed : Nat → List Char → Reader (Option Command)
  | 0, _ => fail .tooDeep
  | fuel + 1, text => do
    let announced := (← get).announced
    modify fun s => { s with announced := [] }
    let script ← inside text (do
      let script ← list fuel false true none
      documents fuel
      return script)
    modify fun s => { s with announced, pushed := false }
    return script

/-- The script up to a closing bracket. -/
def bracketed : Nat → Reader (Option Command)
  | 0 => fail .tooDeep
  | fuel + 1 => do
    let announced := (← get).announced
    modify fun s => { s with announced := [] }
    let script ← list fuel false true none
    if (← token fuel) ≠ .sign ")" then unexpected (some (.sign ")"))
    inside [] (documents fuel)
    modify fun s => { s with announced }
    return script

/-- The documents that are announced, in order, from the line that comes next. -/
def documents : Nat → Reader Unit
  | 0 => fail .tooDeep
  | fuel + 1 => do
    let announced := (← get).announced
    modify fun s => { s with announced := [] }
    eachDocument fuel announced

def eachDocument : Nat → List Announced → Reader Unit
  | 0, _ => fail .tooDeep
  | _ + 1, [] => return ()
  | fuel + 1, a :: rest => do
    let g : Goal := { isText := true, ending := some a.ending, strips := a.strips }
    let level : Level := if a.literal then { quoting := .single } else { quoting := .double, double := true }
    let (s, _) ← scan fuel g { level } (← startOfLine g (← char))
    let body ← finish g s
    modify fun s => { s with documents := (a.number, ⟨body, a.literal⟩) :: s.documents }
    eachDocument fuel rest

/-- The word that starts with a character, or the redirection that does. -/
def wordToken : Nat → Option Char → Reader Token
  | 0, _ => fail .tooDeep
  | fuel + 1, c => do
    let g : Goal := { literal := (← get).wanted.ending }
    let (s, c) ← scan fuel g {} c
    let word ← finish g s
    let stream? : Option (Option Nat) :=
      if s.quoted then none
      else match word with
        | [] => some none
        | [.char d false] => if d.isDigit then some (some (d.toNat - '0'.toNat)) else none
        | _ => none
    match stream?, c with
    | some stream, some '>' => do
      let start ← outputStart (stream.getD 1)
      modify fun s => { s with start }
      found .redirection
    | some stream, some '<' => do
      let start ← inputStart (stream.getD 0)
      modify fun s => { s with start }
      found .redirection
    | _, _ => do
      giveBack c
      modify fun r => { r with word, quoted := s.quoted }
      found .word

/-- The next token, as it is written. -/
def plainToken : Nat → Reader Token
  | 0 => fail .tooDeep
  | fuel + 1 => do
    let s ← get
    if s.pushed then
      set { s with pushed := false }
      return s.last
    let sign (c : Char) (one two : String) : Reader Token := do
      found (.sign (if ← followedBy c then two else one))
    match ← joinedChar with
    | some ' ' | some '\t' => plainToken fuel
    | some '#' => do
      skipComment
      plainToken fuel
    | some '\n' => do
      countLine
      found .newline
    | none => found .ended
    | some '&' => sign '&' "&" "&&"
    | some '|' => sign '|' "|" "||"
    | some ';' => sign ';' ";" ";;"
    | some '(' => found (.sign "(")
    | some ')' => found (.sign ")")
    | c => wordToken fuel c

/-- The next token. What may be a reserved word or an alias is taken for one. -/
def token : Nat → Reader Token
  | 0 => fail .tooDeep
  | fuel + 1 => do tokenFor fuel (← get).wanted

def tokenFor : Nat → Wanted → Reader Token
  | 0, _ => fail .tooDeep
  | fuel + 1, wanted => do
    let t ← plainToken fuel
    let t ← if wanted.lines then behindLines fuel t else pure t
    let s ← get
    let wanted := wanted.or s.wanted
    set { s with wanted := {} }
    if t ≠ .word || s.quoted then return t
    match s.word.spelling? with
    | none => return t
    | some cs => do
      let text := String.ofList cs
      if wanted.reserved && reservedWords.contains text then found (.reserved text)
      else if wanted.aliases then
        match s.alias? text with
        | some value => do
          modify (Reading.stand text value)
          tokenFor fuel wanted
        | none => return t
      else return t

/-- The first token that is no line end; documents stand behind line ends. -/
def behindLines : Nat → Token → Reader Token
  | 0, _ => fail .tooDeep
  | fuel + 1, t => do
    if t ≠ .newline then return t
    documents fuel
    behindLines fuel (← plainToken fuel)

/-- Commands in a row, behind those already read: on one line, or up to a token that ends them. Nothing
at all is only a list where that is checked for. -/
def list : Nat → Bool → Bool → Option Command → Reader (Option Command)
  | 0, _, _, _ => fail .tooDeep
  | fuel + 1, single, checked, before => do
    want (.command (!single))
    let t ← token fuel
    let stop : Reader (Option Command) := do
      documents fuel
      pushBack
      modify fun s => { s with last := .ended }
      return before
    if t = .newline then
      documents fuel
      return before
    else if t = .ended then stop
    else
      pushBack
      if !single && checked && t.endsList then return before
      let next ← andOr fuel
      let t ← token fuel
      let before := some (sequenced before (if t = .sign "&" then inBackground next else next))
      if t = .ended then
        documents fuel
        pushBack
        modify fun s => { s with last := .ended }
        return before
      else if t = .newline then
        pushBack
        list fuel single true before
      else if t = .sign "&" || t = .sign ";" then list fuel single true before
      else if single then unexpected none
      else
        pushBack
        return before

/-- A list that cannot be empty. Where the script ends instead, what has to follow is missed. -/
def body : Nat → Reader Command
  | 0 => fail .tooDeep
  | fuel + 1 => do return (← list fuel false false none).getD default

def andOr : Nat → Reader Command
  | 0 => fail .tooDeep
  | fuel + 1 => do moreOf fuel (← pipeline fuel)

/-- What follows the first of commands that depend on each other. -/
def moreOf : Nat → Command → Reader Command
  | 0, _ => fail .tooDeep
  | fuel + 1, first => do
    let t ← token fuel
    if t = .sign "&&" || t = .sign "||" then
      want (.command true)
      let second ← pipeline fuel
      moreOf fuel (if t = .sign "&&" then .andThen first second else .orElse first second)
    else
      pushBack
      return first

def pipeline : Nat → Reader Command
  | 0 => fail .tooDeep
  | fuel + 1 => do
    let negated := (← token fuel) = .reserved "!"
    if negated then want (.command false) else pushBack
    let first ← command fuel
    let stages ← stagesAfter fuel
    let whole := if stages.isEmpty then first else .pipeline (first :: stages) false
    return if negated then .negated whole else whole

/-- The commands that what is printed is handed on to. -/
def stagesAfter : Nat → Reader (List Command)
  | 0 => fail .tooDeep
  | fuel + 1 => do
    if (← token fuel) = .sign "|" then
      want (.command true)
      let next ← command fuel
      return next :: (← stagesAfter fuel)
    else
      pushBack
      return []

/-- A token that has to come next. -/
def expect : Nat → Token → Reader Unit
  | 0, _ => fail .tooDeep
  | fuel + 1, t => do
    if (← token fuel) ≠ t then unexpected (some t)

def command : Nat → Reader Command
  | 0 => fail .tooDeep
  | fuel + 1 => do
    let line := (← get).line
    match ← token fuel with
    | .reserved "if" => do
      let branch ← branches fuel
      expect fuel (.reserved "fi")
      redirected fuel line branch
    | .reserved "while" => do
      let loop ← loopBody fuel true
      redirected fuel line loop
    | .reserved "until" => do
      let loop ← loopBody fuel false
      redirected fuel line loop
    | .reserved "for" => do
      let loop ← forLoop fuel line
      redirected fuel line loop
    | .reserved "case" => do
      let t ← token fuel
      if t ≠ .word then unexpected (some .word)
      let subject := (← get).word
      want (.command true)
      expect fuel (.reserved "in")
      let arms ← arms fuel
      redirected fuel line (.select line subject arms)
    | .sign "(" => do
      let inner ← body fuel
      expect fuel (.sign ")")
      let rs ← redirections fuel
      return .subshell line inner rs
    | .reserved "\x7b" => do
      let inner ← body fuel
      expect fuel (.reserved "\x7d")
      redirected fuel line inner
    | .word | .redirection => do
      pushBack
      simple fuel (← get).line true [] [] []
    | _ => unexpected none

/-- The branches behind `if` or `elif`, up to the end of the last one. -/
def branches : Nat → Reader Command
  | 0 => fail .tooDeep
  | fuel + 1 => do
    let test ← body fuel
    expect fuel (.reserved "then")
    let yes ← body fuel
    let t ← token fuel
    if t = .reserved "elif" then return .branch test yes (some (← branches fuel))
    else if t = .reserved "else" then return .branch test yes (some (← body fuel))
    else
      pushBack
      return .branch test yes none

def loopBody : Nat → Bool → Reader Command
  | 0, _ => fail .tooDeep
  | fuel + 1, whileTrue => do
    let test ← body fuel
    expect fuel (.reserved "do")
    let inner ← body fuel
    expect fuel (.reserved "done")
    return .loop whileTrue test inner

def forLoop : Nat → Nat → Reader Command
  | 0, _ => fail .tooDeep
  | fuel + 1, line => do
    let t ← token fuel
    let s ← get
    let name := (s.word.spelling?).elim "" String.ofList
    if t ≠ .word || s.quoted || !isName name then fail .badLoopName
    want (.command true)
    let words ← do
      if (← token fuel) = .reserved "in" then
        let words ← wordsInRow fuel
        let t := (← get).last
        if t ≠ .newline && t ≠ .sign ";" then unexpected none
        pure words
      else
        if (← get).last ≠ .sign ";" then pushBack
        pure [[.quotes, .parameter "@" .plain false [], .quotes]]
    want (.command true)
    expect fuel (.reserved "do")
    let inner ← body fuel
    expect fuel (.reserved "done")
    return .each line name words inner

def wordsInRow : Nat → Reader (List Wording)
  | 0 => fail .tooDeep
  | fuel + 1 => do
    if (← token fuel) = .word then
      let word := (← get).word
      return word :: (← wordsInRow fuel)
    else return []

/-- The arms of a choice by patterns, up to its end. -/
def arms : Nat → Reader (List (List Wording × Option Command))
  | 0 => fail .tooDeep
  | fuel + 1 => do
    want { lines := true, reserved := true }
    if (← token fuel) = .reserved "esac" then return []
    if (← get).last = .sign "(" then
      let _ ← token fuel
    let patterns ← patternsInRow fuel
    let inner ← list fuel false true none
    want { lines := true, reserved := true }
    let t ← token fuel
    if t = .reserved "esac" then return [(patterns, inner)]
    if t ≠ .sign ";;" then unexpected (some (.sign ";;"))
    return (patterns, inner) :: (← arms fuel)

/-- The patterns of an arm, the first one read already. -/
def patternsInRow : Nat → Reader (List Wording)
  | 0 => fail .tooDeep
  | fuel + 1 => do
    let word := (← get).word
    let t ← token fuel
    if t = .sign "|" then
      let _ ← token fuel
      return word :: (← patternsInRow fuel)
    if t ≠ .sign ")" then unexpected (some (.sign ")"))
    return [word]

/-- Redirections in a row. -/
def redirections : Nat → Reader (List Redirection)
  | 0 => fail .tooDeep
  | fuel + 1 => do
    want (.command false)
    if (← token fuel) = .redirection then
      let first ← redirection fuel
      return first :: (← redirections fuel)
    else
      pushBack
      return []

/-- A command with the redirections behind it. -/
def redirected : Nat → Nat → Command → Reader Command
  | 0, _, _ => fail .tooDeep
  | fuel + 1, line, inner => do
    let rs ← redirections fuel
    return if rs.isEmpty then inner else .redirected line inner rs

/-- The rest of a redirection, behind its sign. -/
def redirection : Nat → Reader Redirection
  | 0 => fail .tooDeep
  | fuel + 1 => do
    let start := (← get).start
    if let .document .. := start then want { ending := true }
    if (← token fuel) ≠ .word then unexpected none
    let s ← get
    match start with
    | .file stream opening => return .file stream opening s.word
    | .document stream strips => do
      let announced : Announced := {
        number := s.nextDocument, ending := s.word.chars, strips, literal := s.quoted }
      set { s with announced := s.announced ++ [announced], nextDocument := s.nextDocument + 1 }
      return .document stream announced.number
    | .join stream =>
      match s.word with
      | [.char '-' false] => return .join stream none
      | [.char d false] =>
        if d.isDigit then return .join stream (some (d.toNat - '0'.toNat))
        else return .joinNamed stream s.word
      | word => return .joinNamed stream word

/-- A command of words, or the definition of a function, behind what is read of it, which is held back
to front. In front of the first word of a command an alias can stand, and assignments. -/
def simple : Nat → Nat → Bool → List Wording → List Wording → List Redirection → Reader Command
  | 0, _, _, _, _, _ => fail .tooDeep
  | fuel + 1, line, front, given, words, rs => do
    want { aliases := front }
    let done : Reader Command := do
      pushBack
      return .simple line given.reverse words.reverse rs.reverse
    match ← token fuel with
    | .word => do
      let word := (← get).word
      if front && word.isAssignment then simple fuel line true (word :: given) words rs
      else simple fuel line false given (word :: words) rs
    | .redirection => do
      let r ← redirection fuel
      simple fuel line front given words (r :: rs)
    | .sign "(" =>
      match given, words, rs with
      | [], [word], [] => do
        expect fuel (.sign ")")
        let name := (word.spelling?).elim "" String.ofList
        if !isName name || specialNames.contains name then fail .badFunctionName
        want (.command true)
        return .define name (← command fuel)
      | _, _, _ => done
    | _ => done

end

/-- How deep reading can go: a step for each character, and more than any script holds. -/
def readingDepth : Nat := 1000000000

/-- The next complete command of a script. -/
def nextListing : Reader Listing := do
  modify fun s => { s with pushed := false, wanted := {}, announced := [] }
  match ← list readingDepth true false none with
  | some command => return .command (some command)
  | none => return if (← get).last = .ended then .ended else .command none

/-- A text in which parameters stand for their values, read as if between double quotes. -/
def valuesIn : Reader Wording := do
  let g : Goal := { isText := true }
  let (s, _) ← scan readingDepth g { level := { quoting := .double, double := true } } (← char)
  finish g s

end Reader
end BundleForge.Shell
