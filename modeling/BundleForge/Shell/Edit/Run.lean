import BundleForge.Entries
import BundleForge.Shell.Edit.Basic
import BundleForge.Shell.Octets

/-!
Carrying out an editing program. A cycle takes a line, goes through the commands, and prints what has
become of the line. Main statements: a cycle that ends quietly prints nothing, and without lines nothing
quits.
-/

namespace BundleForge.Shell.Edit

/-- A line of a text, whether it has an end, and the name of the file that it is from. -/
structure Line where
  text : List Char
  ended : Bool
  file : String
deriving DecidableEq, Repr

/-- What an editor knows beside its program: whether lines are only printed when asked for, what ends a
line, how wide lines are where everything is told apart, and the texts of files. -/
structure Surroundings where
  quiet : Bool
  separator : Char
  width : Nat
  file? : String → Option String

/-- An editor at work. A range that is open is known by the position of its command, and by the line
it ends on where that is settled. The queue is printed at the end of the cycle. -/
structure State where
  space : List Char := []
  ended : Bool := true
  file : String := "-"
  held : List Char := []
  heldEnded : Bool := true
  number : Nat := 0
  input : List Line := []
  separator : Char := '\n'
  changed : Bool := false
  openRanges : List (Nat × Option Nat) := []
  lastPattern : Option Pattern := none
  queue : Option String := none
  output : String := ""
  endDue : Bool := false
  written : List (String × String) := []

namespace State

/-- What ends a line. -/
def lineEnd (s : State) : String := String.singleton s.separator

/-- Prints a text. An end that the line before it lacked comes first. -/
def print (s : State) (text : String) (ended : Bool) : State :=
  { s with
    output := s.output ++ (if s.endDue then s.lineEnd else "") ++ text ++ (if ended then s.lineEnd else "")
    endDue := !ended }

def printSpace (s : State) : State := s.print (String.ofList s.space) s.ended

/-- Prints a line that ends as lines of text do. -/
def printText (s : State) (text : String) : State :=
  { s with output := s.output ++ (if s.endDue then s.lineEnd else "") ++ text ++ "\n", endDue := false }

/-- Prints the end that a line lacked, and what is queued. -/
def settle (s : State) : State :=
  { s with
    output := s.output ++ (if s.endDue then s.lineEnd else "") ++ s.queue.getD "", endDue := false
    queue := none }

/-- Prints what is queued, if anything is. -/
def flush (s : State) : State := if s.queue.isNone then s else s.settle

/-- Puts a text into the queue. -/
def enqueue (s : State) (text : String) : State := { s with queue := some (s.queue.getD "" ++ text) }

/-- Adds a line to a file that is written. -/
def writeTo (s : State) (name text : String) : State :=
  let line := text ++ if s.ended then s.lineEnd else ""
  if name = "/dev/stdout" then { s with output := s.output ++ line }
  else { s with written := Entries.put name ((s.written.lookup name).getD "" ++ line) s.written }

/-- The next line in place of the one at hand, or behind it. -/
def take (s : State) (join : Bool) : Option State :=
  match s.input with
  | [] => none
  | line :: rest => some { s with
    space := if join then s.space ++ s.separator :: line.text else line.text
    ended := line.ended, file := line.file, number := s.number + 1, input := rest, changed := false }

/-- The pattern that is meant, and the state that remembers it. -/
def resolve (s : State) (pattern : Option Pattern) : Option Pattern × State :=
  match pattern with
  | some p => (some p, { s with lastPattern := some p })
  | none => (s.lastPattern, s)

/-- Whether the line at hand is one that an address means. -/
def isAt (s : State) : Address → Bool × State
  | .line n => (s.number = n, s)
  | .every first step =>
    (if step = 0 then s.number = first else first ≤ s.number && (s.number - first) % step = 0, s)
  | .last => (s.input.isEmpty, s)
  | .matching pattern =>
    let (pattern, s) := s.resolve pattern
    (pattern.any fun p =>
      (p.expression.search? (p.expression.subject p.anyCase s.space) 0).isSome, s)

def closeRange (s : State) (i : Nat) : State :=
  { s with openRanges := s.openRanges.filter (·.1 ≠ i) }

def openRange (s : State) (i : Nat) (stop : Option Nat) : State :=
  { s with openRanges := (i, stop) :: s.openRanges }

/-- Whether the command at a position is for the line at hand. -/
def isFor (s : State) (i : Nat) (scope : Scope) : Bool × State :=
  match scope.first, scope.stop with
  | none, _ => (true, s)
  | some first, none => s.isAt first
  | some first, some stop =>
    match s.openRanges.lookup i with
    | some (some n) => (s.number ≤ n, if n ≤ s.number then s.closeRange i else s)
    | some none =>
      match stop with
      | .address address =>
        let (met, s) := s.isAt address
        (true, if met then s.closeRange i else s)
      | _ => (true, s)
    | none =>
      let (met, s) := s.isAt first
      if !met then (false, s)
      else
        let upTo (n : Nat) : State := if n ≤ s.number then s else s.openRange i (some n)
        match stop with
        | .address (.line n) => (true, upTo n)
        | .further lines => (true, upTo (s.number + lines))
        | .multiple n => (true, upTo (if n = 0 then 0 else (s.number / n + 1) * n))
        | .address _ => (true, s.openRange i none)

end State

/-- Letters as a change of case leaves them: the change that lasts, and the one for the next letter. -/
structure Casing where
  lasting : CaseChange := .unchanged
  next : CaseChange := .unchanged

namespace Casing

def withChange (k : Casing) : CaseChange → Casing
  | .nextUpper => { k with next := .nextUpper }
  | .nextLower => { k with next := .nextLower }
  | change => ⟨change, .unchanged⟩

/-- Characters with the changes carried out, and the changes that stay. -/
def apply (k : Casing) (cs : List Char) : List Char × Casing :=
  let lasting (cs : List Char) : List Char := match k.lasting with
    | .upper => cs.map Char.toUpper
    | .lower => cs.map Char.toLower
    | _ => cs
  match k.next, cs with
  | .nextUpper, c :: rest => (c.toUpper :: lasting rest, { k with next := .unchanged })
  | .nextLower, c :: rest => (c.toLower :: lasting rest, { k with next := .unchanged })
  | _, cs => (lasting cs, k)

end Casing

/-- A replacement with the groups of a match filled in. -/
def replacement (subject : Regular.Subject) (f : Regular.Found) (k : Casing) :
    List Part → List Char
  | [] => []
  | .case change :: rest => replacement subject f (k.withChange change) rest
  | .char c :: rest =>
    let (shown, k) := k.apply [c]
    shown ++ replacement subject f k rest
  | .group n :: rest =>
    let (start, stop) := if n = 0 then (f.start, f.stop) else (f.groups.lookup n).getD (0, 0)
    let (shown, k) := k.apply (subject.between start stop)
    shown ++ replacement subject f k rest

/-- A text from a position on, with matches replaced, and whether one was. Behind a match there is no
empty match. -/
def replaceFrom (r : Regular) (subject : Regular.Subject) (t : Substitution) (seen : Nat)
    (behind : Option Nat) (start : Nat) : Nat → List Char × Bool
  | 0 => (subject.between start subject.text.size, false)
  | fuel + 1 =>
    match r.search? subject start with
    | none => (subject.between start subject.text.size, false)
    | some f =>
      let before := subject.between start f.start
      let empty := f.start = f.stop
      let stepped := if empty then subject.between f.stop (f.stop + 1) else []
      let next := if empty then f.stop + 1 else f.stop
      if empty && behind = some f.start then
        let (others, changed) := replaceFrom r subject t seen none next fuel
        (before ++ stepped ++ others, changed)
      else
        let seen := seen + 1
        let behind := if empty then none else some f.stop
        if seen < t.nth then
          let (others, changed) := replaceFrom r subject t seen behind next fuel
          (before ++ subject.between f.start f.stop ++ stepped ++ others, changed)
        else
          let shown := replacement subject f {} t.replacement
          if t.all then
            let (others, _) := replaceFrom r subject t seen behind next fuel
            (before ++ shown ++ stepped ++ others, true)
          else (before ++ shown ++ subject.between f.stop subject.text.size, true)

/-- A text in which everything can be told apart, in lines of a width. The width of zero is no limit. -/
def unambiguous (limit : Nat) (cs : List Char) : String :=
  let shown (c : Char) : List String :=
    match c with
    | '\\' => ["\\\\"]
    | '\x07' => ["\\a"]
    | '\x08' => ["\\b"]
    | '\x0c' => ["\\f"]
    | '\n' => ["\\n"]
    | '\r' => ["\\r"]
    | '\t' => ["\\t"]
    | '\x0b' => ["\\v"]
    | c =>
      if Member.isPrintable c then [String.singleton c]
      else (Octets.bytesOf (String.singleton c)).map fun b =>
        "\\" ++ String.ofList ((Nat.toDigits 8 (b.toNat + 512)).drop 1)
  let (text, _) := (cs.flatMap shown).foldl (fun (text, width) piece =>
    if 0 < limit && limit - 1 < width + piece.length then (text ++ "\\\n" ++ piece, piece.length)
    else (text ++ piece, width + piece.length)) ("", 0)
  text ++ "$"

/-- How an editor goes on behind a command. -/
inductive Course
  | goOn (next : Nat)
  | cycleEnd (prints : Bool)
  | restart
  | stop (status : Nat) (prints : Bool)
deriving DecidableEq, Repr

/-- What the command at a position does with the line at hand. -/
def act (around : Surroundings) (p : Program) (i : Nat) (command : Command) (s : State) :
    Course × State :=
  let on (s : State) : Course × State := (.goOn (i + 1), s)
  let jump (label : String) (s : State) : Course × State :=
    if label = "" then (.cycleEnd true, s)
    else (.goOn (((labels p).lookup label).getD p.size), s)
  match command.action with
  | .opening | .closing | .label _ => on s
  | .jump .always label => jump label s
  | .jump .changed label => if s.changed then jump label { s with changed := false } else on s
  | .jump .unchanged label => if s.changed then on { s with changed := false } else jump label s
  | .substitute t =>
    let (pattern, s) := s.resolve t.pattern
    match pattern with
    | none => on s
    | some pattern =>
      let subject := pattern.expression.subject pattern.anyCase s.space
      let (text, changed) :=
        replaceFrom pattern.expression subject t 0 none 0 (s.space.length + 2)
      if changed then
        let s := { s with space := text, changed := true }
        let s := if t.prints then s.printSpace else s
        on (match t.file with
          | some name => s.writeTo name (String.ofList s.space)
          | none => s)
      else on s
  | .exchange pairs => on { s with space := s.space.map fun c => (pairs.lookup c).getD c }
  | .append text => on (s.enqueue text)
  | .insert text => on (if text = "" then s else s.printText (String.ofList text.toList.dropLast))
  | .change text =>
    let inRange := (s.openRanges.lookup i).isSome && !command.scope.negated
    (.cycleEnd false,
      if inRange || text = "" then s else s.printText (String.ofList text.toList.dropLast))
  | .delete => (.cycleEnd false, s)
  | .deleteFirst =>
    let rest := s.space.dropWhile (· ≠ s.separator)
    if rest.isEmpty then (.cycleEnd false, s) else (.restart, { s with space := rest.tail })
  | .print => on s.printSpace
  | .printFirst => on (s.print (String.ofList (s.space.takeWhile (· ≠ s.separator))) true)
  | .next =>
    if s.input.isEmpty then (.cycleEnd true, s)
    else
      let s := if around.quiet then s else s.printSpace
      on ((s.flush.take false).getD s)
  | .joinNext => if s.input.isEmpty then (.cycleEnd true, s) else on ((s.flush.take true).getD s)
  | .get => on { s with space := s.held, ended := s.heldEnded }
  | .getMore => on { s with space := s.space ++ s.separator :: s.held, ended := s.heldEnded }
  | .hold => on { s with held := s.space, heldEnded := s.ended }
  | .holdMore => on { s with held := s.held ++ s.separator :: s.space, heldEnded := s.ended }
  | .swap => on { s with space := s.held, ended := s.heldEnded, held := s.space, heldEnded := s.ended }
  | .number => on (s.printText (toString s.number))
  | .name => on (s.printText s.file)
  | .nothing => on s
  | .unambiguous width => on (s.printText (unambiguous (width.getD around.width) s.space))
  | .quit status quiet => (.stop status (!quiet), s)
  | .readFile name => on (s.enqueue ((around.file? name).getD ""))
  | .writeFile name => on (s.writeTo name (String.ofList s.space))
  | .writeFirst name => on (s.writeTo name (String.ofList (s.space.takeWhile (· ≠ s.separator))))
  | .clear => on { s with space := [] }

/-- What the editor does at one position, or where it goes on if the command there is not for the
line at hand. -/
def step (around : Surroundings) (p : Program) (i : Nat) (s : State) : Course × State :=
  match p[i]? with
  | none => (.cycleEnd true, s)
  | some command =>
    let (met, s) := s.isFor i command.scope
    if met != command.scope.negated then act around p i command s
    else match command.action with
      | .opening => (.goOn (closingAt 0 (i + 1) (p.toList.drop (i + 1))), s)
      | _ => (.goOn (i + 1), s)

/-- The end of a cycle: what became of the line is printed, and then what is queued. -/
def finish (around : Surroundings) (prints : Bool) (s : State) : State :=
  (if prints && !around.quiet then s.printSpace else s).flush

theorem finish_quiet (around : Surroundings) (s : State) (h : s.queue = none) :
    finish around false s = s := by
  simp [finish, State.flush, h]

/-- Goes on from a position, up to the end of the lines or to a command that quits with a status. Where
the steps run out there is no end. -/
def run (around : Surroundings) (p : Program) : Nat → Nat → State → Option (Option Nat × State)
  | 0, _, _ => none
  | fuel + 1, i, s =>
    match step around p i s with
    | (.goOn j, s) => run around p fuel j s
    | (.restart, s) => run around p fuel 0 (finish around false s)
    | (.stop status prints, s) =>
      let s := finish around prints s
      some (some status, if prints then s.settle else s)
    | (.cycleEnd prints, s) =>
      let s := finish around prints s
      match s.take false with
      | some s => run around p fuel 0 s
      | none => some (none, s)

/-- The ranges that are open before the first line: those that start at line zero. -/
def firstRanges (p : Program) : List (Nat × Option Nat) := p.toList.zipIdx.filterMap fun (c, i) =>
  match c.scope.first with
  | some (.line 0) => some (i, none)
  | _ => none

/-- How many steps an editor may take for some lines. -/
def stepLimit (p : Program) (lines : List Line) : Nat := 1000 * (p.size + 1) * (lines.length + 1)

/-- What a program makes of lines: the status that it quits with, and the editor at its end. Only what
is held, and what was printed, stays from the lines before. -/
def edit (around : Surroundings) (p : Program) (before : State) (lines : List Line) :
    Option (Option Nat × State) :=
  let s := { before with
    input := lines, number := 0, openRanges := firstRanges p, separator := around.separator }
  match s.take false with
  | none => some (none, s)
  | some s => run around p (stepLimit p lines) 0 s

theorem edit_nil (around : Surroundings) (p : Program) (before : State) :
    (edit around p before []).map Prod.fst = some none := rfl

end BundleForge.Shell.Edit
