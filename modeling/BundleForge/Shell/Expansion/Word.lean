import BundleForge.Shell.Expansion.Paths
import BundleForge.Shell.Process
import BundleForge.Shell.Reader.Marks
import BundleForge.Shell.Sum
import BundleForge.Shell.Surroundings

/-!
What words stand for. The pieces of a word are put together, values take the place of parameters, and
what is not quoted is divided at separators and taken for a pattern of paths. Main statement: nothing at
all stands for nothing.
-/

namespace BundleForge.Shell

/-- How a word is made: whether it is divided, whether a home may stand in front of it, behind colons and
behind the first equals sign, whether all of it is quoted, whether it is a pattern, and whether it stands
for the value of a parameter. -/
structure Making where
  divided : Bool := false
  home : Bool := false
  homes : Bool := false
  behindEquals : Bool := false
  quoted : Bool := false
  pattern : Bool := false
  inner : Bool := false
deriving DecidableEq, Repr

/-- Whether it has to be known which characters were quoted. -/
def Making.keeps (m : Making) : Bool := m.divided || m.pattern

namespace Environment

/-- The letters of options, in the order in which they are shown. -/
def shownLetters : List Char := "pubaCEVvxsnmiIfe".toList

/-- The value of a parameter with a sign or a number for a name. -/
def sign? (e : Environment) (name : String) : Option (Option String) :=
  match name with
  | "$" => some (some (toString e.rootPid))
  | "?" => some (some (toString (e.trapStatus.elim e.status id)))
  | "#" => some (some (toString e.arguments.length))
  | "!" => some (e.lastJob.map toString)
  | "-" => some (some (String.ofList (shownLetters.filter e.manners.has)))
  | "0" => some (some e.name)
  | name =>
    if (name.toList.head?).any Char.isDigit then
      some (match name.toNat? with
        | some 0 => some e.name
        | some n => e.arguments[n - 1]?
        | none => none)
    else none

/-- The value of a parameter, if it has one. -/
def parameter? (e : Environment) (name : String) : Option String :=
  (e.sign? name).getD (e.value? name)

/-- The home of a user, or of the one that the shell belongs to. -/
def homeOf? (e : Environment) (user : String) : Option String :=
  if user = "" then e.value? "HOME" else Surroundings.homeOf? user

end Environment

/-- The name of a user behind a tilde: characters up to a slash, or a colon where homes stand behind
colons. Nothing else can be in it. -/
def userName? (homes : Bool) : Wording → Option (List Char)
  | [] => some []
  | .char '/' _ :: _ => some []
  | .char c kept :: rest =>
    if kept then none
    else if c = ':' && homes then some []
    else (userName? homes rest).map (c :: ·)
  | _ :: _ => none

/-- Adds the characters of a value. Quoted ones that could mean something are kept from it, and zeros are
left out unless they divide. -/
def Expanded.addValue (m : Making) (zeros : Bool) (cs : List Char) (x : Expanded) : Expanded :=
  cs.foldl (fun x c =>
    if c = Char.ofNat 0 && !zeros then x
    else x.push c (m.keeps && m.quoted && (patternSigns.contains c || c = '\\'))) x

/-- What stands between the arguments of a shell where they are put together: nothing, or a character, a
zero where each of them is to stay a word of its own. -/
def joint? (e : Environment) (m : Making) (name : String) : Option Char :=
  if name = "@" && m.quoted && m.divided then some (Char.ofNat 0)
  else match e.separators with
    | c :: _ => some c
    | [] => if m.divided && !m.quoted then some (Char.ofNat 0) else none

/-- Adds the value of a parameter. The length of what is added shows whether there was one. -/
def Expanded.addParameter (e : Environment) (m : Making) (name : String) (x : Expanded) :
    Option Nat × Expanded :=
  if name = "@" || name = "*" then
    let joint := (joint? e m name).toList
    let x' := (e.arguments.zipIdx).foldl (fun x (a, i) =>
      (if i = 0 then x else x.addValue m true joint).addValue m true a.toList) x
    (some (x'.size - x.size), x')
  else match e.parameter? name with
    | none => (none, x)
    | some value => (some value.length, x.addValue m true value.toList)

/-- The part of a word that stands for the value of a parameter may be divided, unless it is quoted; then
only the arguments of a shell stay apart. -/
def Expanded.recordValue (e : Environment) (m : Making) (name : String) (start : Nat) (x : Expanded) :
    Expanded :=
  if m.quoted then if name = "@" && !e.arguments.isEmpty then x.record start true else x
  else x.record start false

/-- Takes away what a pattern stands for at one end of what was added last. -/
def Expanded.trim (use : Use) (pattern : List Char) (start : Nat) (x : Expanded) : Expanded :=
  let added := (x.marks.extract start x.marks.size).toList
  let cs := Mark.chars added
  let pattern := glyphs (patternChars pattern)
  let left : List Mark := match use with
    | .withoutFront longest => (frontLength? longest pattern cs).elim added fun n => added.drop n
    | .withoutBack longest => (backStart? longest pattern cs).elim added fun n => added.take n
    | _ => added
  { x with marks := x.marks.extract 0 start ++ left.toArray }

/-- The end of a stretch of characters that may be divided. -/
def Expanded.endStretch (stretch : Option Nat) (x : Expanded) : Expanded :=
  match stretch with
  | some start => if start < x.size then x.record start false else x
  | none => x

/-- Octets without the line ends behind them. -/
def dropLineEnds (bytes : List UInt8) : List UInt8 := (bytes.reverse.dropWhile (· = 10)).reverse

namespace Run

/-- Says that a parameter is not set, in the words that are given for that or in others. -/
def notSet {α : Type} (name : String) (message : Option String) (orEmpty : Bool) : Run α :=
  fail (name ++ ": " ++ message.getD ("parameter not set" ++ if orEmpty then " or null" else ""))

/-- The value of a sum. Names in it may be given new values. -/
def sum (text : String) : Run Int := do
  let s ← get
  match Sum.evaluate s.value? text with
  | .ok (n, given) => do
    for (name, value) in given.reverse do assign name (toString value)
    return n
  | .error .overflow => halt (.killed 8)
  | .error fault => fail (fault.message text)

/-- What a script prints, without the line ends behind it. -/
def outputOf (script : Option Command) : Run (List Char) := do
  match script with
  | none => return []
  | some command => do
    let (bytes, ending) ← capture (.script (some command) [] false)
    modify fun s => { s with outputStatus := ending.status }
    return (Octets.ofBytes (dropLineEnds (bytes.filter (· ≠ 0)))).toList

/-- The home behind a tilde, and how many characters name its user. -/
def homeBehind? (homes : Bool) (w : Wording) : Run (Option (Nat × String)) := do
  let e := (← get).toEnvironment
  return (userName? homes w).bind fun user => (e.homeOf? (String.ofList user)).map (user.length, ·)

mutual

/-- Adds what pieces of a word stand for: `skipped` of them are done with already, `open_` tells whether
quotes are open, `front` whether a home can stand here, and `stretch` where characters that may be
divided started. -/
def addPieces (m : Making) (skipped : Nat) (open_ front : Bool) (stretch : Option Nat) (x : Expanded) :
    Wording → Run Expanded
  | [] => return x.endStretch stretch
  | .char c kept :: rest =>
    match skipped with
    | skipped + 1 => addPieces m skipped open_ false none x rest
    | 0 => do
      let home? ← if c = '~' && !kept && front then homeBehind? m.homes rest else pure none
      match home? with
      | some (length, home) =>
        let x := (x.endStretch stretch).addValue { m with quoted := true } true home.toList
        addPieces m length open_ false none x rest
      | none =>
        if kept then
          addPieces m 0 open_ false none ((x.endStretch stretch).push c m.keeps) rest
        else
          let begins := m.homes && (c = ':' || (c = '=' && !m.behindEquals))
          let m := if c = '=' && m.homes then { m with behindEquals := true } else m
          let stretch := if m.inner && !m.quoted && !open_ then some (stretch.getD x.size) else none
          addPieces m 0 open_ begins stretch (x.push c false) rest
  | .quotes :: .parameter "@" .plain orEmpty word :: .quotes :: rest => do
    let x := x.endStretch stretch
    if open_ then
      let x := if m.keeps then { x with marks := x.marks.push .quotes } else x
      let x ← addPiece m x (.parameter "@" .plain orEmpty word)
      let x := if m.keeps then { x with marks := x.marks.push .quotes } else x
      addPieces m 0 true false none x rest
    else
      let x ← addPiece { m with quoted := true } x (.parameter "@" .plain orEmpty word)
      addPieces m 0 false false none x rest
  | .quotes :: rest =>
    let x := x.endStretch stretch
    let x := if m.keeps then { x with marks := x.marks.push .quotes } else x
    addPieces m 0 (!open_) false none x rest
  | piece :: rest => do
    let x ← addPiece { m with quoted := m.quoted || open_ } (x.endStretch stretch) piece
    addPieces m 0 open_ false none x rest

/-- Adds what a piece stands for. -/
def addPiece (m : Making) (x : Expanded) : Piece → Run Expanded
  | .char c kept => return x.push c (kept && m.keeps)
  | .quotes => return x
  | .output script => do
    let start := x.size
    let x := x.addValue m false (← outputOf script)
    return if m.quoted then x else x.record start false
  | .sum text => do
    let start := x.size
    let inner ← addPieces {} 0 false false none {} text
    let n ← sum inner.text
    let x := x.addValue m true (toString n).toList
    return if m.quoted then x else x.record start false
  | .parameter name use orEmpty word => do
    if use = .bad then fail "Bad substitution"
    let e := (← get).toEnvironment
    let start := x.size
    let (size?, valued) := x.addParameter e (if use = .length then {} else m) name
    let present := if orEmpty then size?.any (· ≠ 0) else size?.isSome
    let unsettled := !present && e.manners.needsValues
    match use with
    | .alternative =>
      if present then addPieces { m with inner := true } 0 false true none x word else return x
    | .default =>
      if present then return valued.recordValue e m name start
      else addPieces { m with inner := true } 0 false true none x word
    | .required =>
      if present then return valued.recordValue e m name start
      else
        let text ← addPieces {} 0 false true none {} word
        notSet name (if word.isEmpty then none else some text.text) orEmpty
    | .assign =>
      if present then return valued.recordValue e m name start
      else
        let text ← addPieces {} 0 false true none {} word
        if !isName name then fail (name ++ ": bad variable name")
        assign name text.text
        let e := (← get).toEnvironment
        return ((x.addParameter e m name).2).recordValue e m name start
    | .length =>
      if unsettled then notSet name none false
      let x := x.addValue m true (toString (size?.getD 0)).toList
      return x.recordValue e m name start
    | .withoutFront _ | .withoutBack _ =>
      if unsettled then notSet name none false
      if !present then return x
      let pattern ← addPieces { pattern := true } 0 false true none {} word
      return (valued.trim use (Mark.pattern pattern.marks.toList) start).recordValue e m name start
    | _ =>
      if unsettled then notSet name none false
      return if present then valued.recordValue e m name start else valued

end

/-- What a word stands for, as it is made. -/
def expandWord (m : Making) (w : Wording) : Run Expanded := addPieces m 0 false m.home none {} w

theorem expandWord_nil (m : Making) : expandWord m [] = pure {} := by
  simp [expandWord, addPieces, Expanded.endStretch]

/-- The words that a word stands for. -/
def wordsOf (w : Wording) : Run (List String) := do
  let x ← expandWord { divided := true, home := true } w
  let s ← get
  return (x.fields s.separators none).flatMap (Paths.ofField s)

/-- The one text that a word stands for. -/
def textFor (w : Wording) : Run String := do return (← expandWord { home := true } w).text

/-- The text that an assignment stands for. -/
def assignmentOf (w : Wording) : Run String := do return (← expandWord { homes := true } w).text

/-- The text of the pattern that a word stands for. -/
def patternOf (w : Wording) : Run (List Char) := do
  return Mark.pattern (← expandWord { home := true, pattern := true } w).marks.toList

/-- The text that a document stands for. -/
def documentText (d : Document) : Run String := do
  if d.literal then return String.ofList (Wording.chars d.body)
  else return (← expandWord { quoted := true } d.body).text

end Run
end BundleForge.Shell
