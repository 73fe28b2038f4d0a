import BundleForge.Shell.Regular.Basic

/-!
Reading regular expressions. In the basic dialect the signs of structure are written with a
backslash, in the extended one without.
-/

namespace BundleForge.Shell.Regular

/-- How expressions are written: which signs need a backslash, whether a backslash with a letter
stands for a character that controls, whether signs with nothing to do are refused, and whether the
lines of a text have starts and ends of their own. -/
structure Dialect where
  extended : Bool
  controls : Bool
  strict : Bool := false
  lines : Bool := false
deriving DecidableEq, Repr

/-- Why a text is no expression. -/
inductive Fault
  | openBracket
  | openGroup
  | closedGroup
  | openBrace
  | badBrace
  | lastBackslash
  | nothingBefore
  | noSuchGroup
  | unknownClass
  | classOutside
  | badRange
  | tooBig
deriving DecidableEq, Repr

def Fault.message : Fault → String
  | .openBracket => "Unmatched [, [^, [:, [., or [="
  | .openGroup => "Unmatched ( or \\("
  | .closedGroup => "Unmatched ) or \\)"
  | .openBrace => "Unmatched \\\x7b"
  | .badBrace => "Invalid content of \\\x7b\\\x7d"
  | .lastBackslash => "Trailing backslash"
  | .nothingBefore => "Invalid preceding regular expression"
  | .noSuchGroup => "Invalid back reference"
  | .unknownClass => "Invalid character class name"
  | .classOutside => "character class syntax is [[:space:]], not [:space:]"
  | .badRange => "Invalid range end"
  | .tooBig => "Regular expression too big"

/-- A sign of structure. -/
inductive Sign
  | opening
  | closing
  | bar
  | star
  | plus
  | question
  | brace
deriving DecidableEq, Repr

/-- The sign that a character stands for where signs stand. -/
def Sign.ofChar? : Char → Option Sign
  | '(' => some .opening
  | ')' => some .closing
  | '|' => some .bar
  | '+' => some .plus
  | '?' => some .question
  | '\x7b' => some .brace
  | _ => none

/-- The sign at the start of a text, and what follows it. -/
def sign? (d : Dialect) (cs : List Char) : Option (Sign × List Char) :=
  match cs with
  | '*' :: rest => some (.star, rest)
  | '\\' :: c :: rest => if d.extended then none else (Sign.ofChar? c).map (·, rest)
  | c :: rest => if d.extended then (Sign.ofChar? c).map (·, rest) else none
  | [] => none

/-- What is still to be read, and how many groups were opened. -/
structure State where
  rest : List Char
  groups : Nat

abbrev Reader := StateT State (Except Fault)

def skipTo (rest : List Char) : Reader Unit := modify fun s => { s with rest }

/-- The bounds between braces, and what follows them. -/
def bounds? (d : Dialect) (cs : List Char) : Option (Nat × Option Nat × List Char) :=
  let low := cs.takeWhile Char.isDigit
  let after := cs.drop low.length
  let least := (String.ofList low).toNat?
  let (most, after) := match after with
    | ',' :: rest =>
      let high := rest.takeWhile Char.isDigit
      (some ((String.ofList high).toNat?), rest.drop high.length)
    | rest => (none, rest)
  let after := if d.extended then after
    else if after.head? = some '\\' then after.tail else []
  match after, least, most with
  | '\x7d' :: rest, some n, none => some (n, some n, rest)
  | '\x7d' :: rest, least, some most => some (least.getD 0, most, rest)
  | _, _, _ => none

/-- How often an expression can be asked to be repeated. -/
def repetitionLimit : Nat := 32767

/-- An expression with the repetitions behind it. -/
def withRepetitions (d : Dialect) (r : Regular) : Nat → Reader Regular
  | 0 => return r
  | depth + 1 => do
    let again (least : Nat) (most : Option Nat) (rest : List Char) : Reader Regular := do
      skipTo rest
      withRepetitions d (.repeated least most r) depth
    match sign? d (← get).rest with
    | some (.star, rest) => again 0 none rest
    | some (.plus, rest) => again 1 none rest
    | some (.question, rest) => again 0 (some 1) rest
    | some (.brace, rest) =>
      match bounds? d rest with
      | some (least, most, rest) =>
        if most.any (· < least) then throw .badBrace
        else if repetitionLimit < max least (most.getD 0) then throw .tooBig
        else again least most rest
      | none =>
        if d.extended && !d.strict then return r
        else throw (if (rest.dropWhile fun c => c.isDigit || c = ',').isEmpty then .openBrace else .badBrace)
    | _ => return r

/-- The character that a letter behind a backslash controls. -/
def control? : Char → Option Char
  | 'n' => some '\n'
  | 't' => some '\t'
  | 'r' => some '\r'
  | 'f' => some '\x0c'
  | 'v' => some '\x0b'
  | 'a' => some '\x07'
  | _ => none

/-- What a backslash and a character stand for, where they are no sign of structure. -/
def escaped (d : Dialect) (groups : Nat) (c : Char) : Except Fault Regular :=
  let space : List Member := [.named "space"]
  let word : List Member := [.named "alnum", .range '_' '_']
  match c with
  | 'w' => pure (.oneOf false word)
  | 'W' => pure (.oneOf true word)
  | 's' => pure (.oneOf false space)
  | 'S' => pure (.oneOf true space)
  | 'b' => pure (.edge .wordEdge)
  | 'B' => pure (.edge .noWordEdge)
  | '<' => pure (.edge .wordStart)
  | '>' => pure (.edge .wordEnd)
  | '\x60' => pure (.edge .textStart)
  | '\x27' => pure (.edge .textEnd)
  | c =>
    if '1' ≤ c && c ≤ '9' then
      let n := c.toNat - '0'.toNat
      if groups < n then throw .noSuchGroup else pure (.again n)
    else
      match if d.controls then control? c else none with
      | some control => pure (.char control)
      | none => pure (.char c)

/-- The bracket behind its opening sign, and what follows it. -/
def bracket (d : Dialect) (cs : List Char) : Except Fault (Regular × List Char) :=
  let negated := cs.head? = some '^'
  let inner := (if negated then cs.tail else cs).map fun c => (c, false)
  match members? true (if d.controls then controlled inner else inner) with
  | none => throw .openBracket
  | some (ms, rest) =>
    if ms.any fun
        | .named name => !Member.classNames.contains name
        | .range .. => false then throw .unknownClass
    else if ms.any fun
        | .range first last => last < first
        | .named _ => false then throw .badRange
    else if !d.controls && !negated && 2 < ms.length && isColon ms.head? && isColon ms.getLast? then
      throw .classOutside
    else return (.oneOf negated ms, rest.map Prod.fst)
where
  isColon (m : Option Member) : Bool := m = some (.range ':' ':')
  /-- A backslash with a letter in a bracket as the character that it stands for. -/
  controlled : List PatternChar → List PatternChar
    | ('\\', q) :: (c, q') :: rest =>
      match control? c with
      | some control => (control, true) :: controlled rest
      | none => ('\\', q) :: (c, q') :: controlled rest
    | c :: rest => c :: controlled rest
    | [] => []

/-- Whether the signs of a text say that a part of an expression ends. -/
def ends (d : Dialect) (cs : List Char) : Bool :=
  match sign? d cs with
  | some (.closing, _) | some (.bar, _) => true
  | _ => cs.isEmpty

mutual

/-- Expressions with bars between. -/
def alternatives (d : Dialect) (inGroup : Bool) : Nat → Reader Regular
  | 0 => return .nothing
  | depth + 1 => do
    let first ← branch d true depth
    match sign? d (← get).rest with
    | some (.bar, rest) => do
      skipTo rest
      return .either first (← alternatives d inGroup depth)
    | some (.closing, rest) =>
      if inGroup then return first
      else if d.extended && !d.strict then do
        skipTo rest
        return .sequence first (.sequence (.char ')') (← alternatives d false depth))
      else throw .closedGroup
    | _ => return first

/-- Expressions one after another. At the front a sign of repetition has nothing to repeat. -/
def branch (d : Dialect) (front : Bool) : Nat → Reader Regular
  | 0 => return .nothing
  | depth + 1 => do
    let cs := (← get).rest
    if ends d cs then return .nothing
    match cs with
    | '^' :: rest =>
      if d.extended || front then
        skipTo rest
        return .sequence (.edge (if d.lines then .lineStart else .textStart)) (← branch d true depth)
    | '$' :: rest =>
      if d.extended || ends d rest then
        skipTo rest
        let last ← withRepetitions d (.edge (if d.lines then .lineEnd else .textEnd)) depth
        return .sequence last (← branch d false depth)
    | _ => pure ()
    let first ← withRepetitions d (← atom d front depth) depth
    return .sequence first (← branch d false depth)

/-- One character, bracket or group. -/
def atom (d : Dialect) (front : Bool) : Nat → Reader Regular
  | 0 => return .nothing
  | depth + 1 => do
    let cs := (← get).rest
    match sign? d cs with
    | some (.opening, rest) => do
      modify fun s => ⟨rest, s.groups + 1⟩
      let number := (← get).groups
      let inner ← alternatives d true depth
      match sign? d (← get).rest with
      | some (.closing, rest) => do
        skipTo rest
        return .group number inner
      | _ => throw .openGroup
    | some (.brace, rest) =>
      if d.extended && !d.strict then
        skipTo rest
        return .char '\x7b'
      else throw .nothingBefore
    | some (.star, rest) =>
      skipTo rest
      if d.extended && d.strict then throw .nothingBefore
      else if d.extended || !front then return .nothing else return .char '*'
    | some (_, rest) =>
      skipTo rest
      if d.extended && d.strict then throw .nothingBefore
      else if d.extended then return .nothing
      else if front then return .char ((cs.tail.head?).getD ' ') else return .nothing
    | none =>
      match cs with
      | '\\' :: c :: rest => do
        let r ← (escaped d (← get).groups c : Except Fault Regular)
        skipTo rest
        return r
      | ['\\'] => throw .lastBackslash
      | '.' :: rest => do
        skipTo rest
        return .any
      | '[' :: rest => do
        let (r, rest) ← (bracket d rest : Except Fault (Regular × List Char))
        skipTo rest
        return r
      | c :: rest => do
        skipTo rest
        return .char c
      | [] => return .nothing

end

/-- The expression that a text spells. -/
def read (d : Dialect) (cs : List Char) : Except Fault Regular :=
  ((alternatives d false (3 * cs.length + 4)).run ⟨cs, 0⟩).map Prod.fst

end BundleForge.Shell.Regular
