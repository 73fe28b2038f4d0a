import BundleForge.Shell.Builtin.Asking
import BundleForge.Shell.Builtin.Moving
import BundleForge.Shell.Builtin.Printing
import BundleForge.Shell.Builtin.Signals
import BundleForge.Shell.Utility.Editing
import BundleForge.Shell.Utility.Evaluation
import BundleForge.Shell.Utility.Filters
import BundleForge.Shell.Utility.Modes
import BundleForge.Shell.Utility.Searching

/-!
The programs of the system that need no other program to be carried out. Each gives its status. Main
statement: the program that does nothing does it well.
-/

namespace BundleForge.Shell.Run

/-- A program that says something that never changes. -/
def say (text : String) : List String → Run Nat := fun _ => do
  print (text ++ "\n")
  return 0

/-- Tells who the user is. -/
def identity (arguments : List String) : Run Nat :=
  withOptions "id" { plain := "ugnGr" } 1 arguments fun o => do
    print (if o.has 'n' then "root\n"
      else if o.has 'u' || o.has 'g' || o.has 'G' then "0\n"
      else "uid=0(root) gid=0(root) groups=0(root)\n")
    return 0

/-- Compares two files byte by byte. -/
def compareFiles (arguments : List String) : Run Nat :=
  withOptions "cmp" { plain := "sl", words := [("silent", 's'), ("quiet", 's')] } 2 arguments fun o => do
    match o.others with
    | first :: rest =>
      let second := rest.headD "-"
      let (inputs, failed) ← files "cmp" [first]
      let (others, failed') ← if failed then pure ([], true) else files "cmp" [second]
      match failed', inputs ++ others with
      | false, [(_, a), (_, b)] =>
        let same := ((a.zip b).takeWhile fun p => p.1 = p.2).length
        if same = a.length && same = b.length then return 0
        let line := toString ((a.take same).count 10 + 1)
        unless o.has 's' do
          if same = a.length || same = b.length then
            let shorter := if a.length < b.length then first else second
            if same = 0 then complain ("cmp: EOF on " ++ shorter ++ " which is empty")
            else
              let ended := (a.take same).getLast? = some 10
              complain ("cmp: EOF on " ++ shorter ++ " after byte " ++ toString same ++
                (if ended then ", line " ++ toString ((a.take same).count 10) else ", in line " ++ line))
          else
            print (first ++ " " ++ second ++ " differ: char " ++ toString (same + 1) ++ ", line " ++ line ++ "\n")
        return 1
      | _, _ => return 2
    | [] => misused "cmp" "missing operand after 'cmp'" 2

/-- A builtin command as a program of its own. -/
def asProgram (name : String) (action : Builtin) : List String → Run Nat := fun arguments => do
  modify fun s => { s with command := name }
  match ← attempt (action (arguments.map Octets.ofText)) with
  | .ok status => return status
  | .error .failure => return 2
  | .error h => halt h

/-- The options in front of the arguments of the program that prints: whether a line end follows, and
whether escapes are known. -/
def echoOptions (bare escapes : Bool) : List String → Bool × Bool × List String
  | [] => (bare, escapes, [])
  | a :: rest =>
    match a.toList with
    | '-' :: c :: cs =>
      if (c :: cs).all fun c => c = 'n' || c = 'e' || c = 'E' then
        let last := ((c :: cs).filter (· ≠ 'n')).getLast?
        echoOptions (bare || (c :: cs).contains 'n') (last.elim escapes (· = 'e')) rest
      else (bare, escapes, a :: rest)
    | _ => (bare, escapes, a :: rest)

/-- Prints its arguments; this one knows no escapes unless it is told to. -/
def plainEcho (arguments : List String) : Run Nat := do
  let (bare, escapes, words) := echoOptions false false arguments
  let text := Octets.ofText (" ".intercalate words)
  let (bytes, stop) := if escapes then escaped text.toList else (Octets.toBytes text, false)
  printBytes (if bare || stop then bytes else bytes ++ [10])
  return 0

/-- Millionths of a second that a text spells, or none where it has no end. -/
def duration? (text : String) : Option (Option Nat) :=
  let cs := text.toList
  if text = "infinity" || text = "inf" then some none
  else
    let number := cs.takeWhile fun c => c.isDigit || c = '.'
    let (whole, places) := Text.cutAt '.' number
    let places := places.getD []
    let digits (cs : List Char) : Nat := ((String.ofList cs).toNat?).getD 0
    let unit? : Option Nat := match cs.drop number.length with
      | [] | ['s'] => some 1
      | ['m'] => some 60
      | ['h'] => some 3600
      | ['d'] => some 86400
      | _ => none
    if (whole ++ places).isEmpty || places.contains '.' then none
    else unit?.map fun unit =>
      let fraction := places.take 6
      some ((digits whole * 1000000 + digits (fraction ++ List.replicate (6 - fraction.length) '0')) * unit)

/-- Waits for some time. -/
def sleep (arguments : List String) : Run Nat :=
  withOptions "sleep" { plain := "" } 1 arguments fun o => do
    let bad := o.others.filter fun a => (duration? a).isNone
    if o.others.isEmpty then noOperand "sleep" "operand"
    else if !bad.isEmpty then
      for a in bad do complain ("sleep: invalid time interval ‘" ++ a ++ "’")
      complain "Try 'sleep --help' for more information."
      return 1
    else
      let times := o.others.filterMap duration?
      let total := if times.any Option.isNone then 1000000000000000 else (times.filterMap id).foldl (· + ·) 0
      pause (.time ((← get).world.clock + total))
      return 0

/-- Tells the variables that were handed on, or the values of some. -/
def printenv (arguments : List String) : Run Nat := do
  let s ← get
  let text := Octets.toText
  if arguments.isEmpty then
    print (lineEnds (s.handedOn.map fun (name, value) => text (name ++ "=" ++ value)))
    return 0
  let found := arguments.map fun name => (s.handedOn.lookup (Octets.ofText name)).map text
  print (lineEnds (found.filterMap id))
  return if found.all Option.isSome then 0 else 1

/-- Removes one name. -/
def unlink (arguments : List String) : Run Nat := do
  match arguments with
  | [] => noOperand "unlink" "operand"
  | [name] =>
    let s ← get
    match s.placeOf name false with
    | .error cause => do
      complain ("unlink: cannot unlink '" ++ name ++ "': " ++ cause.wording)
      return 1
    | .ok place => do
      if (s.tree.top.at? place).any Node.isDirNode then
        complain ("unlink: cannot unlink '" ++ name ++ "': " ++ Refusal.isDirectory.wording)
        return 1
      takeAway place
      return 0
  | _ :: extra :: _ => misused "unlink" ("extra operand ‘" ++ extra ++ "’") 1

/-- Makes a file, or a directory, whose name nothing has yet. -/
def mktemp (arguments : List String) : Run Nat :=
  withOptions "mktemp" { plain := "duqt", valued := "p" } 1 arguments fun o => do
    let s ← get
    let template := o.others.headD "tmp.XXXXXXXXXX"
    let marks := (template.toList.reverse.takeWhile (· = 'X')).length
    if marks < 3 then
      complain ("mktemp: too few X's in template ‘" ++ template ++ "’")
      return 1
    let digits := Nat.toDigits 36 (s.world.nextNumber + 46656)
    let mark := (List.replicate (marks - digits.length) 'a' ++ digits.map Char.toLower).take marks
    let name := String.ofList (template.toList.take (template.length - marks) ++ mark)
    let name := if o.others.isEmpty then (o.value? 'p').getD "/tmp" ++ "/" ++ name
      else match o.value? 'p' with
        | some directory => directory ++ "/" ++ name
        | none => if o.has 't' then "/tmp/" ++ name else name
    modifyWorld fun w => { w with nextNumber := w.nextNumber + 1 }
    unless o.has 'u' do
      match placeNamed s name with
      | .error cause => do
        complain ("mktemp: failed to create file via template ‘" ++ template ++ "’: " ++ cause.wording)
        return 1
      | .ok place => setTree (s.tree.setAt place (if o.has 'd' then .dir [] else .file []))
    print (name ++ "\n")
    return 0

/-- The program of a name, if it needs no other one. -/
def tool? : String → Option (List String → Run Nat)
  | "true" | "chown" | "sync" | "clear" => some fun _ => return 0
  | "false" => some fun _ => return 1
  | "sleep" => some sleep
  | "echo" => some plainEcho
  | "printf" => some (asProgram "printf" printf)
  | "pwd" => some fun _ => do
    print (Octets.toText (placeText (← get).cwd) ++ "\n")
    return 0
  | "kill" => some (asProgram "kill" kill)
  | "test" => some (asProgram "test" test)
  | "[" => some (asProgram "[" bracket)
  | "cat" => some cat
  | "head" => some head
  | "tail" => some tail
  | "wc" => some count
  | "grep" => some grep
  | "egrep" => some (grepWith [('E', "")])
  | "fgrep" => some (grepWith [('F', "")])
  | "sed" => some sed
  | "sort" => some sort
  | "uniq" => some uniq
  | "cut" => some cut
  | "tr" => some exchangeBytes
  | "tac" => some reverseLines
  | "rev" => some turnLines
  | "nl" => some numberLines
  | "fold" => some foldLines
  | "paste" => some paste
  | "od" => some dump
  | "base64" => some sixBits
  | "tee" => some tee
  | "seq" => some sequence
  | "yes" => some repeatLine
  | "expr" => some evaluate
  | "cmp" => some compareFiles
  | "find" => some find
  | "printenv" => some printenv
  | "unlink" => some unlink
  | "mktemp" => some mktemp
  | "chmod" => some chmod
  | "whoami" => some (say "root")
  | "id" => some identity
  | "uname" => some (say "Linux")
  | "mkdir" => some fun arguments =>
    withOptions "mkdir" { plain := "pv", valued := "m", words := [("parents", 'p')] } 1 arguments fun o =>
      if o.others.isEmpty then noOperand "mkdir" "operand" else forNames (makeDirectory (o.has 'p')) o.others
  | "rmdir" => some fun arguments =>
    withOptions "rmdir" { plain := "pv" } 1 arguments fun o =>
      if o.others.isEmpty then noOperand "rmdir" "operand" else forNames removeDirectory o.others
  | "rm" => some fun arguments =>
    withOptions "rm" { plain := "rRfdiIv", words := [("recursive", 'r'), ("force", 'f')] } 1 arguments fun o =>
      if o.others.isEmpty && !o.has 'f' then noOperand "rm" "operand"
      else forNames (remove (o.has 'r' || o.has 'R') (o.has 'f')) o.others
  | "touch" => some fun arguments =>
    withOptions "touch" { plain := "acmh", valued := "drt" } 1 arguments fun o =>
      if o.others.isEmpty then noOperand "touch" "file operand" else forNames touch o.others
  | "cp" => some fun arguments =>
    withOptions "cp" { plain := "rRafpvPLnuTd" } 1 arguments fun o =>
      transfer "cp" false (o.has 'r' || o.has 'R' || o.has 'a') o.others
  | "mv" => some fun arguments =>
    withOptions "mv" { plain := "fnvuT" } 1 arguments fun o => transfer "mv" true true o.others
  | "ln" => some fun arguments =>
    withOptions "ln" { plain := "sfnvrT" } 1 arguments fun o => link (o.has 's') (o.has 'f') o.others
  | "readlink" => some fun arguments =>
    withOptions "readlink" { plain := "femnqvz" } 1 arguments fun o =>
      if o.others.isEmpty then noOperand "readlink" "operand"
      else forNames (readLink (o.has 'f' || o.has 'e' || o.has 'm')) o.others
  | "realpath" => some fun arguments =>
    withOptions "realpath" { plain := "emsqzLP" } 1 arguments fun o =>
      if o.others.isEmpty then noOperand "realpath" "operand" else forNames (readLink true) o.others
  | "ls" => some fun arguments =>
    withOptions "ls" { plain := "aAd1rCFptSUhi", words := [("all", 'a'), ("almost-all", 'A')] } 2 arguments
      fun o => list ⟨o.has 'a', o.has 'A', o.has 'd', o.has 'r'⟩ o.others
  | "basename" => some nameOnly
  | "dirname" => some directoryOnly
  | _ => none

/-- The status of a program that cannot print. -/
def unprintedStatus (name : String) : Nat :=
  if ["grep", "egrep", "fgrep", "sort", "ls", "printenv"].contains name then 2
  else if name = "expr" then 3
  else if name = "sed" then 4
  else 1

/-- What a program says that cannot print. -/
def unprintedTold (name wording : String) : String :=
  let what := match name with
    | "yes" => "standard output"
    | "sed" => "couldn't flush stdout"
    | _ => "write error"
  name ++ ": " ++ what ++ ": " ++ wording

/-- Carries out a program, which says so where it could not print. -/
def runTool (name : String) (action : List String → Run Nat) (arguments : List String) : Run Nat := do
  let status ← action arguments
  match (← get).unprinted with
  | none => return status
  | some wording => do
    complain (unprintedTold name wording)
    return unprintedStatus name

theorem runTool_nothing (name : String) (arguments : List String) (s : State)
    (h : s.unprinted = none) : runTool name (fun _ => return 0) arguments s = .done (.ok 0) s := by
  simp [runTool, h, bind, Run.bind, get, getThe, MonadStateOf.get, getState, pure, Run.pure]

end BundleForge.Shell.Run
