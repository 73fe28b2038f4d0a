import BundleForge.Shell.Edit.Reader
import BundleForge.Shell.Edit.Run
import BundleForge.Shell.Utility.Input

/-!
The command that edits lines with a program: as they go by, or in their files. Main statement: putting
lines in a row loses none.
-/

namespace BundleForge.Shell.Run

/-- How the editor is used. -/
def editUsage : String := "Usage: sed [OPTION]... \x7bscript-only-if-no-other-script\x7d [input-file]..."

/-- The lines of a text up to a separator. The last one may lack it. -/
def editLinesFrom (separator : Char) (file : String) : Nat → List Char → List Edit.Line
  | 0, _ | _, [] => []
  | fuel + 1, c :: rest =>
    let text := (c :: rest).takeWhile (· ≠ separator)
    match (c :: rest).drop text.length with
    | [] => [⟨text, false, file⟩]
    | _ :: after => ⟨text, true, file⟩ :: editLinesFrom separator file fuel after

/-- The lines of bytes for an editor. -/
def editLines (separator : Char) (file : String) (bytes : List UInt8) : List Edit.Line :=
  let text := (Octets.textOf bytes).toList
  editLinesFrom separator file text.length text

/-- Lines in a row. Only the last one may lack its end. -/
def joinedLines (lines : List Edit.Line) : List Edit.Line :=
  lines.zipIdx.map fun (line, i) => if i + 1 < lines.length then { line with ended := true } else line

theorem length_joinedLines (lines : List Edit.Line) : (joinedLines lines).length = lines.length := by
  simp [joinedLines]

/-- Puts what an editor wrote into files. -/
def writeFiles : List (String × String) → Run Unit
  | [] => return ()
  | (name, text) :: rest => do
    if let some cause ← writeInto name false (Octets.bytesOf text) then
      complain ("sed: couldn't open file " ++ name ++ ": " ++ cause.wording)
    writeFiles rest

/-- What an editor works with: its program, and what it knows beside it. -/
structure Editing where
  program : Edit.Program
  quiet : Bool
  separator : Char
  width : Nat

namespace Editing

def lines (e : Editing) (file : String) (bytes : List UInt8) : List Edit.Line :=
  editLines e.separator file bytes

/-- What an editor knows of its surroundings. -/
def surroundings (e : Editing) (s : State) : Edit.Surroundings :=
  let file? (name : String) : Option String :=
    match s.lookup name true with
    | .ok (.file content) => some (Octets.textOf content)
    | _ => none
  ⟨e.quiet, e.separator, e.width, file?⟩

/-- Carries out an editing program on lines, and gives the editor at its end. -/
def edit (e : Editing) (before : Edit.State) (lines : List Edit.Line) :
    Run (Option Nat × Edit.State) := do
  match Edit.edit (e.surroundings (← get)) e.program before lines with
  | none => halt .exhausted
  | some answer => return answer

/-- Prints what an editor printed, and leaves what it wrote. -/
def finish (answer : Option Nat × Edit.State) (failure : Nat) : Run Nat := do
  writeFiles answer.2.written
  print answer.2.output
  return answer.1.getD failure

/-- Whether an editor that is given some bytes ends before it needs more. -/
def endsWithin (e : Editing) (s : State) (bytes : List UInt8) : Bool :=
  let known := (bytes.reverse.dropWhile (· ≠ 10)).reverse
  (e.program.toList.any fun c => c.action matches .quit ..) && !known.isEmpty &&
    match Edit.edit (e.surroundings s) e.program {} (e.lines "-" (known ++ [10, 10])) with
    | some (some _, _) => true
    | _ => false

/-- Edits what is read. -/
def input (e : Editing) : Run Nat := do
  let s ← get
  match ← readUntil 0 (e.endsWithin s) patience [] with
  | .error fault => do
    complain ("sed: read error on stdin: " ++ fault.wording)
    return 4
  | .ok (bytes, _) => finish (← e.edit {} (e.lines "-" bytes)) 0

/-- The files to be edited that can be read, and the status for those that cannot. A directory ends
the work. -/
def files : List String → Run (List (String × List UInt8) × Nat)
  | [] => return ([], 0)
  | name :: rest => do
    match ← fileBytes name with
    | .ok bytes => do
      let (others, status) ← files rest
      return ((name, bytes) :: others, status)
    | .error cause => do
      if name = "-" || cause = .isDirectory then
        complain ("sed: read error on " ++ (if name = "-" then "stdin" else name) ++ ": " ++ cause.wording)
        return ([], 4)
      complain ("sed: can't read " ++ name ++ ": " ++ cause.wording)
      let (others, status) ← files rest
      return (others, max 2 status)

/-- Edits files one after the other, each with lines of its own. -/
def separately (e : Editing) (before : Edit.State) :
    List (String × List UInt8) → Run (Option Nat × Edit.State)
  | [] => return (none, before)
  | (name, bytes) :: rest => do
    match ← e.edit before (e.lines name bytes) with
    | (none, s) => separately e s rest
    | stopped => return stopped

/-- Edits each file by itself, and puts the outcome in its place. With an ending the files are kept as
they were, under names with that ending. -/
def inPlace (e : Editing) (ending : String) (held : Edit.State) : List String → Run Nat
  | [] => return 0
  | name :: rest => do
    match ← fileBytes name with
    | .error .isDirectory => do
      complain ("sed: couldn't edit " ++ name ++ ": not a regular file")
      return max 4 (← inPlace e ending held rest)
    | .error cause => do
      complain ("sed: can't read " ++ name ++ ": " ++ cause.wording)
      return max 2 (← inPlace e ending held rest)
    | .ok bytes => do
      let (quit, after) ← e.edit held (e.lines name bytes)
      if ending ≠ "" then
        let _ ← writeInto (name ++ ending) false bytes
      writeFiles ((name, after.output) :: after.written)
      match quit with
      | some status => return status
      | none => inPlace e ending { after with output := "", written := [], endDue := false } rest

end Editing

/-- The options of the editor. -/
def editOptions : KnownOptions where
  plain := "nErsuzbpDSx"
  valued := "efl"
  optional := "i"
  words := [
    ("quiet", 'n'), ("silent", 'n'), ("regexp-extended", 'E'), ("expression", 'e'), ("file", 'f'),
    ("separate", 's'), ("unbuffered", 'u'), ("null-data", 'z'), ("in-place", 'i'), ("line-length", 'l'),
    ("posix", 'p'), ("binary", 'b'), ("zero-terminated", 'z'), ("follow-symlinks", 'x')]

/-- The pieces of a program: what is given, and what stands in files. -/
def scriptPieces : List (Char × String) → Run (Except String (List String))
  | [] => return .ok []
  | ('e', text) :: rest => return (← scriptPieces rest).map (text :: ·)
  | ('f', name) :: rest => do
    match ← fileBytes name with
    | .error cause => return .error ("couldn't open file " ++ name ++ ": " ++ cause.wording)
    | .ok bytes =>
      let text := Octets.textOf bytes
      let text := if text.toList.getLast? = some '\n' then String.ofList text.toList.dropLast else text
      return (← scriptPieces rest).map (text :: ·)
  | _ :: rest => scriptPieces rest

/-- Edits lines with the program that a script spells. A script whose first line says so prints only
what it is asked to. -/
def editWith (o : Options) (script : String) (names : List String) : Run Nat :=
  match Edit.read (o.has 'E' || o.has 'r') script.toList with
  | .error (flaw, position) => do
    let place := position.elim "" fun n => "-e expression #1, char " ++ toString n ++ ": "
    complain ("sed: " ++ place ++ flaw.message)
    return if flaw matches .noLabel _ then 4 else 1
  | .ok program => do
    let e : Editing := {
      program
      quiet := o.has 'n' || (script.toList.takeWhile (· ≠ '\n')) = ['#', 'n']
      separator := if o.has 'z' then '\x00' else '\n'
      width := ((o.value? 'l').bind String.toNat?).getD 70 }
    match o.value? 'i' with
    | some ending =>
      if names.isEmpty then
        complain "sed: no input files"
        return 4
      e.inPlace ending {} names
    | none =>
      if names.isEmpty then e.input
      else
        let (inputs, failure) ← Editing.files names
        if o.has 's' then Editing.finish (← e.separately {} inputs) failure
        else
          let lines := joinedLines (inputs.flatMap fun (name, bytes) => e.lines name bytes)
          Editing.finish (← e.edit {} lines) failure

/-- Edits lines with a program. -/
def sed (arguments : List String) : Run Nat := do
  match Options.read editOptions arguments with
  | .error fault => do
    complain ("sed: " ++ fault.message)
    complain editUsage
    return 1
  | .ok o =>
    let given := o.given.filter fun g => g.1 = 'e' || g.1 = 'f'
    match ← scriptPieces given with
    | .error text => do
      complain ("sed: " ++ text)
      return 4
    | .ok pieces =>
      if given.isEmpty then
        match o.others with
        | [] => do
          complain editUsage
          return 1
        | script :: names => editWith o script names
      else editWith o ("\n".intercalate pieces) o.others

end BundleForge.Shell.Run
