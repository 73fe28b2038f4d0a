import BundleForge.Shell.Builtin.Asking
import BundleForge.Shell.Builtin.Jobs
import BundleForge.Shell.Builtin.Moving
import BundleForge.Shell.Builtin.Naming
import BundleForge.Shell.Builtin.Printing
import BundleForge.Shell.Builtin.Reading

/-!
Carrying out the commands of a script. Every step down costs one unit of fuel, of which there is more than
any script needs. Main statements: a shell that carries out nothing only looks for signals, and a list of
alternatives ends with the first that succeeds.
-/

namespace BundleForge.Shell

/-- The builtin commands that carry out no others. -/
def builtin? : String → Option Builtin
  | ":" | "true" => some fun _ => return 0
  | "false" => some fun _ => return 1
  | "[" => some Run.bracket
  | "alias" => some Run.alias_
  | "bg" | "fg" => some Run.resume
  | "break" => some (Run.leaveLoops .leaveLoop)
  | "cd" | "chdir" => some Run.cd
  | "command" => some Run.tellAbout
  | "continue" => some (Run.leaveLoops .nextTurn)
  | "echo" => some Run.echo
  | "exit" => some Run.exit_
  | "export" => some Run.export_
  | "getopts" => some Run.getopts
  | "hash" => some Run.hash
  | "jobs" => some Run.jobs
  | "kill" => some Run.kill
  | "local" => some Run.local_
  | "printf" => some Run.printf
  | "pwd" => some Run.pwd
  | "read" => some Run.read
  | "readonly" => some Run.readonly
  | "return" => some Run.return_
  | "set" => some Run.set_
  | "shift" => some Run.shift
  | "test" => some Run.test
  | "times" => some Run.times
  | "trap" => some Run.trap
  | "type" => some Run.type
  | "ulimit" => some Run.ulimit
  | "umask" => some Run.umask
  | "unalias" => some Run.unalias
  | "unset" => some Run.unset
  | "wait" => some Run.wait
  | _ => none

/-- The front of a command of words: the words behind the builtin commands that only hand on to others,
all words so far, and those that are not expanded yet; whether functions count, where programs are looked
for, whether faults end the shell, and whether arguments can be assignments. -/
structure Aim where
  words : List String
  all : List String
  rest : List Wording
  noFunction : Bool := false
  path : Option String := none
  special : Option Bool := none
  assigns : Bool := false

namespace Aim

/-- Words that are added at the end. -/
def add (words : List String) (a : Aim) : Aim := { a with words := a.words ++ words, all := a.all ++ words }

end Aim

/-- Whether the status of a command counts where a shell ends with the first that fails. -/
def Command.isChecked : Command → Bool
  | .simple .. | .pipeline .. | .subshell .. | .background .. => true
  | _ => false

/-- How deep functions can call each other. -/
def callLimit : Nat := 1000

namespace Run

/-- Whether some signal, or the end, has a script. -/
def hasTraps : Run Bool := do return (← get).traps.any fun t => !t.2.isEmpty

/-- Ends the shell with a status. -/
def leaveWith (status : Nat) : Run Unit := do
  modify fun s => { s with status, trapStatus := s.trapStatus.map fun _ => status }
  halt .leave

def atLine (line : Nat) : Run Unit := modify fun s => { s with line }

/-- Expands words up to the first that stands for something. -/
def firstWords : List Wording → Run (List String × List Wording)
  | [] => return ([], [])
  | w :: rest => do
    match ← wordsOf w with
    | [] => firstWords rest
    | words => return (words, rest)

/-- The options of the builtin command that hands on to another one: where programs are looked for, and
the words behind them. Other options are not for handing on. -/
def handedOnTo : Nat → Aim → Run (Option Aim)
  | 0, _ => return none
  | fuel + 1, a => do
    let a ← match a.words.tail with
      | [] => do
        let (more, rest) ← firstWords a.rest
        pure { a.add more with rest, words := more }
      | words => pure { a with words }
    match a.words with
    | [] => return none
    | word :: others =>
      match word.toList with
      | ['-', '-'] =>
        if !others.isEmpty then return some { a with words := others }
        let (more, rest) ← firstWords a.rest
        return if more.isEmpty then none else some { a.add more with rest, words := more }
      | '-' :: c :: cs =>
        if (c :: cs).all (· = 'p') then handedOnTo fuel { a with path := some usualPath } else return none
      | _ => return some a

/-- Finds out what kind of command the first words make. -/
def aim : Nat → Aim → Run Aim
  | 0, a => return a
  | fuel + 1, a => do
    let name := a.words.headD ""
    let isFunction := !a.noFunction && ((← get).functions.lookup name).isSome
    if isFunction || !isBuiltin name then return { a with special := a.special.orElse fun _ => some false }
    let a := { a with
      assigns := assigningNames.contains name
      special := a.special.orElse fun _ => some (isSpecial name) }
    if name ≠ "command" then return a
    match ← handedOnTo fuel a with
    | some b => aim fuel { b with noFunction := true }
    | none => return a

/-- Expands the words that are left. -/
def otherWords (assigns : Bool) : List Wording → Run (List String)
  | [] => return []
  | w :: rest => do
    let first ← if assigns && w.isAssignment then do pure [← assignmentOf w] else wordsOf w
    return first ++ (← otherWords assigns rest)

/-- Carries out assignments from left to right, and gives their texts. -/
def assignAll (hidden exported : Bool) : List Wording → Run (List String)
  | [] => return []
  | w :: rest => do
    let text ← assignmentOf w
    let (name, value) := cutSetting text
    if hidden then hide name
    assignWith exported name (value.getD "")
    return text :: (← assignAll hidden exported rest)

/-- Tells a command before it is carried out, where that is wanted, behind a sign that is a text with
parameters in it. -/
def tell (stream : Nat) (words : List String) : Run Unit := do
  let s ← get
  if s.manners.tells then
    let sign := (s.value? "PS4").getD ""
    let front ← match Reader.valuesIn.run { rest := sign.toList } with
      | .error _ => pure sign
      | .ok (w, _) => do
        modify fun s => { s with manners := s.manners.set 'x' false }
        let front ← expandWord { quoted := true } w
        modify fun s => { s with manners := s.manners.set 'x' true }
        pure front.text
    let _ ← write stream (Octets.toBytes (front ++ " ".intercalate words ++ "\n"))

/-- Tells lines that are read, where that is wanted. -/
def tellLines (text : List Char) : Run Unit := do
  if (← get).manners.has 'v' then complainOctets (String.ofList text)

/-- The first lines of a text. -/
def frontLines : Nat → List Char → List Char
  | 0, _ | _, [] => []
  | n + 1, c :: rest => c :: frontLines (if c = '\n' then n else n + 1) rest

/-- Carries out a builtin command, whose faults only end the shell where it is special. -/
def callBuiltin (special : Bool) (name : String) (action : Run Nat) : Run Unit := do
  let before := (← get).command
  modify fun s => { s with command := name }
  let result ← attempt action
  modify fun s => { s with command := before }
  match result with
  | .ok status => setStatus status
  | .error .failure => if special then halt .failure
  | .error h => halt h

/-- A program that cannot be run. -/
def cannotRun (name : String) (cause : Refusal) : Run Unit := do
  warn (name ++ ": " ++ refusalOnRunning cause)
  setStatus (match cause with
    | .missing | .notDirectory | .tooManyLinks | .nameTooLong => 127
    | _ => 126)

/-- Runs a program in the place of the shell, or in a process of its own. -/
def runProgram (last : Bool) (name path : String) (arguments : List String) : Run Unit := do
  let s ← get
  match imageOf s .texts name path arguments scriptLimit with
  | .error cause => cannotRun name cause
  | .ok image =>
    if last && !(← hasTraps) then halt (.become image)
    else
      let pid ← fork (.image image) id fun w _ => w
      follow [pid]

/-- Makes a program take the place of the shell. -/
def replace (words : List String) : Run Nat := do
  match words with
  | [] => return 0
  | name :: arguments => do
    match imageNamed (← get) .texts name arguments with
    | .ok image => halt (.become image)
    | .error cause => do
      cannotRun name cause
      halt .leave

/-- The streams and the manners of a process in the background: the first of a job reads nothing, and
the signals of a terminal are ignored. -/
def inBackground (e : Environment) : Environment := { e with ignored := 2 :: 3 :: e.ignored }

def readsNothing (w : World) (pid : Nat) : World := w.openAs pid 0 { lead := .nothing, reads := true, writes := false }

/-- A pipe: the open files of the end that is read and the one that is written. -/
def newPipe : Run (Nat × Nat) := modifyGet fun s =>
  let (pipe, w) := s.world.addPipe {}
  let (front, w) := w.addFile { lead := .pipe pipe, reads := true, writes := false }
  let (back, w) := w.addFile { lead := .pipe pipe, reads := false, writes := true }
  ((front, back), { s with world := w })

/-- Starts the stages of a pipeline, each of which reads what the one before prints. -/
def startStages (background tested : Bool) (before : Option Nat) : List Command → Run (List Nat)
  | [] => return []
  | stage :: rest => do
    let ends ← if rest.isEmpty then pure none else some <$> newPipe
    let pid ← fork (.script (some stage) [] (tested && !background))
      (if background then inBackground else id)
      fun w pid =>
        let w := match before with
          | some file => w.connect pid 0 file
          | none => if background then readsNothing w pid else w
        match ends with
        | some (_, back) => w.connect pid 1 back
        | none => w
    return pid :: (← startStages background tested (ends.map Prod.fst) rest)

/-- Looks for the program that a stage starts with, so that the shell remembers it. -/
def lookAhead : Command → Run Unit
  | .simple _ _ (w :: _) _ => do
    if let some cs := Wording.spelling? w then
      let name := String.ofList cs
      if isName name then
        let _ ← meaningOf false none name
  | _ => return ()

/-- What becomes of a loop behind a turn: whether it goes on. -/
def afterTurn (result : Except Halt Unit) : Except Halt Bool :=
  match result with
  | .ok () => .ok true
  | .error (.leaveLoop n) => if n ≤ 1 then .ok false else .error (.leaveLoop (n - 1))
  | .error (.nextTurn n) => if n ≤ 1 then .ok true else .error (.nextTurn (n - 1))
  | .error h => .error h

theorem afterTurn_leaveLoop_one : afterTurn (.error (.leaveLoop 1)) = .ok false := rfl

/-- An action in a loop. -/
def inLoop (action : Run Unit) : Run Unit := do
  let loops := (← get).loops
  modify fun s => { s with loops := loops + 1 }
  mending action fun s => { s with loops }

/-- A loop over words, each of which is carried out with. -/
def overWords (turn : String → Run Unit) (words : List String) : Run Unit :=
  iterate (fun words => do
    match words with
    | [] => return .inr ()
    | word :: rest =>
      match afterTurn (← attempt (turn word)) with
      | .ok true => return .inl rest
      | .ok false => return .inr ()
      | .error h => halt h) patience words

/-- A loop that goes on as long as a test says so. A loop that the test itself leaves has the status of
its last turn, unless the test gives another one. -/
def asLongAs (test : Run Bool) (body : Run Unit) : Run Unit :=
  iterate (fun (status : Nat) => do
    match ← attempt test with
    | .ok false => do
      setStatus status
      return .inr ()
    | .ok true => do
      match afterTurn (← attempt body) with
      | .ok true => return .inl (← get).status
      | .ok false => return .inr ()
      | .error h => halt h
    | .error h => do
      if h matches .returned false || h matches .leaveLoop _ || h matches .nextTurn _ then setStatus status
      match afterTurn (.error h) with
      | .ok true => return .inl status
      | .ok false => return .inr ()
      | .error h => halt h) patience 0

/-- Some steps of other processes can come in between. -/
def giveWay : Run Unit := do
  let s ← get
  if s.world.steps % 1024 = 1023 then pause .turn
  modifyWorld fun w => { w with steps := w.steps + 1 }

mutual

/-- Carries out a command: `last` tells that nothing follows it, and `tested` that its status only decides
what is done next. -/
def exec : Nat → Bool → Bool → Command → Run Unit
  | 0, _, _, _ => halt .exhausted
  | fuel + 1, last, tested, command => do
    if !(← get).pending.isEmpty then attend fuel
    unless (← get).manners.idle do
      perform fuel last tested command
      if !(← get).pending.isEmpty then attend fuel
      let s ← get
      if command.isChecked && !tested && s.manners.strict && s.status ≠ 0 then leaveWith s.status

/-- The same without a look for signals, and whatever the status. -/
def perform : Nat → Bool → Bool → Command → Run Unit
  | 0, _, _, _ => halt .exhausted
  | fuel + 1, last, tested, command =>
    match command with
    | .simple line given words redirections => do
      giveWay
      simple fuel last tested line given words redirections
    | .pipeline stages background => do
      stages.forM lookAhead
      let pids ← startStages background tested none stages
      if background then
        modify fun s => { s with toEnvironment := addJob pids s.toEnvironment }
        setStatus 0
      else follow pids
    | .redirected line inner redirections => do
      atLine line
      let routes ← routes redirections
      let (kept, result) ← followKeeping [] routes
      mending (do
        match result with
        | .ok () => exec fuel false tested inner
        | .error .failure => setStatus 2
        | .error h => halt h) (giveBackStreams kept)
    | .subshell line inner redirections => do
      atLine line
      let routes ← routes redirections
      if last && !(← hasTraps) then
        modify fun s => { s with toEnvironment := { s.toEnvironment.ofChild s.pid with parent := s.parent } }
        part fuel (some inner) routes tested
        halt .leave
      else
        let pid ← fork (.script (some inner) routes tested) id fun w _ => w
        follow [pid]
    | .background line inner redirections => do
      atLine line
      let routes ← routes redirections
      let pid ← fork (.script (some inner) routes false) inBackground readsNothing
      modify fun s => { s with toEnvironment := addJob [pid] s.toEnvironment }
      setStatus 0
    | .andThen first second => do
      exec fuel false true first
      if (← get).status = 0 then exec fuel last tested second
    | .orElse first second => do
      exec fuel false true first
      if (← get).status ≠ 0 then exec fuel last tested second
    | .sequence first second => do
      exec fuel false tested first
      exec fuel last tested second
    | .negated inner => do
      exec fuel false true inner
      modify fun s => { s with status := if s.status = 0 then 1 else 0 }
    | .branch test yes no => do
      exec fuel false true test
      if (← get).status = 0 then exec fuel last tested yes
      else match no with
        | some no => exec fuel last tested no
        | none => setStatus 0
    | .loop whileTrue test body => inLoop (asLongAs
      (do
        exec fuel false true test
        return ((← get).status = 0) = whileTrue)
      (exec fuel false tested body))
    | .each line name words body => do
      atLine line
      let words ← otherWords false words
      if words.isEmpty then setStatus 0
      inLoop (overWords (fun word => do
        assign name word
        exec fuel false tested body) words)
    | .select line subject arms => do
      atLine line
      let subject ← textFor subject
      choose fuel last tested subject.toList arms
    | .define name body => modify fun s => { s with
      functions := Entries.put name body s.functions, status := 0 }

/-- Carries out the first arm with a pattern that a text matches. -/
def choose : Nat → Bool → Bool → List Char → List (List Wording × Option Command) → Run Unit
  | 0, _, _, _, _ => halt .exhausted
  | _ + 1, _, _, _, [] => setStatus 0
  | fuel + 1, last, tested, subject, (patterns, inner) :: arms => do
    if ← patterns.anyM fun w => do return patternMatches (← patternOf w) subject then
      match inner with
      | some inner => exec fuel last tested inner
      | none => setStatus 0
    else choose fuel last tested subject arms

/-- Carries out a command of words. -/
def simple : Nat → Bool → Bool → Nat → List Wording → List Wording → List Redirection → Run Unit
  | 0, _, _, _, _, _, _ => halt .exhausted
  | fuel + 1, last, tested, line, given, words, redirections => do
    atLine line
    modify fun s => { s with outputStatus := 0 }
    let (front, rest) ← firstWords words
    let a ← if front.isEmpty then pure { words := [], all := [], rest := [] }
      else aim words.length { words := front, all := front, rest }
    let a := a.add (← otherWords a.assigns a.rest)
    let name := a.words.headD ""
    let isCall := !a.words.isEmpty && !a.noFunction && ((← get).functions.lookup name).isSome
    let isOwn := !isCall && isBuiltin name
    let isExec := isOwn && name = "exec"
    let hidden := !a.words.isEmpty && a.special ≠ some true
    (if hidden then inScope else id) do
      let routes ← routes redirections
      let (kept, result) ← followKeeping [] routes
      mending (do
        match result with
        | .error .failure => do
          setStatus 2
          if a.special = some true then halt .failure
        | .error h => halt h
        | .ok () => do
          let texts ← assignAll hidden (hidden || (isExec && 1 < a.words.length)) given
          tell (((kept.lookup 2).bind id).getD 2) (texts ++ a.all)
          if a.words.isEmpty then modify fun s => { s with status := s.outputStatus }
          else carryOut fuel last tested a isOwn) (if isExec then dropKept kept else giveBackStreams kept)

/-- Carries out what a name stands for. -/
def carryOut : Nat → Bool → Bool → Aim → Bool → Run Unit
  | 0, _, _, _, _ => halt .exhausted
  | fuel + 1, last, tested, a, isOwn => do
    let name := a.words.headD ""
    let arguments := a.words.tail
    let special := a.special = some true
    if isOwn then
      match name with
      | "eval" => callBuiltin special name (do
        if arguments.isEmpty then return 0
        script fuel false tested (" ".intercalate arguments).toList
        return (← get).status)
      | "." => callBuiltin special name (do
        let (_, arguments) ← optionsOf "" arguments
        match arguments with
        | [] => return 0
        | file :: _ => do
          let (path, text) ← dotted file
          modify fun s => { s with command := path }
          match ← attempt (script fuel true false text) with
          | .ok () | .error (.returned _) => return (← get).status
          | .error h => halt h)
      | "exec" => callBuiltin special name (do
        let (_, words) ← optionsOf "" arguments
        replace words)
      | name =>
        match builtin? name with
        | some action => do
          let result ← attempt (callBuiltin special name (action arguments))
          let s ← get
          if result matches .error (.returned _) && !tested && s.manners.strict && s.status ≠ 0 then
            leaveWith s.status
          settle result
        | none => setStatus 127
    else
      match ← meaningOf a.noFunction a.path name with
      | .function body => call fuel tested arguments body
      | .builtin => return ()
      | .path => runProgram last name name arguments
      | .found full => runProgram last name full arguments
      | .absent cause => do
        warn (name ++ ": " ++ refusalOnRunning cause)
        setStatus 127

/-- Calls a function with arguments of its own. -/
def call : Nat → Bool → List String → Command → Run Unit
  | 0, _, _, _ => halt .exhausted
  | fuel + 1, tested, arguments, body => do
    let before := (← get).toEnvironment
    if callLimit ≤ before.calls then
      fail ("Maximum function recursion depth (" ++ toString callLimit ++ ") reached")
    modify fun s => { s with
      arguments, loops := 0, optionPlace := (1, 0), calls := before.calls + 1 }
    let result ← attempt (mending (exec fuel false tested body) fun s => { s with
      arguments := before.arguments, loops := before.loops, optionPlace := before.optionPlace, calls := before.calls })
    match result with
    | .error (.returned _) => return ()
    | result => settle result

/-- Carries out a script as it is read. One that holds no command has the status zero. The lines of a
script that comes from a file may be told as they are read. -/
def script : Nat → Bool → Bool → List Char → Run Unit
  | 0, _, _, _ => halt .exhausted
  | fuel + 1, fromFile, tested, text => do
    let before := (← get).reached
    mending (iterate (fun ((reading, untold, empty) : Reading × List Char × Bool) => do
      let s ← get
      let reading := { reading with
        aliases := s.aliases, documents := s.documents, nextDocument := s.nextDocument }
      match Reader.nextListing.run reading with
      | .error fault => do
        if fromFile then tellLines (frontLines (fault.line + 1 - reading.line) untold)
        atLine fault.line
        fail fault.cause.message
      | .ok (listing, reading) => do
        if fromFile then tellLines (untold.take (untold.length - reading.rest.length))
        modify fun s => { s with
          reached := reading.line :: before, documents := reading.documents, nextDocument := reading.nextDocument }
        match listing with
        | .ended => do
          if empty then setStatus 0
          return .inr ()
        | .command none => return .inl (reading, reading.rest, empty)
        | .command (some command) => do
          exec fuel false tested command
          return .inl (reading, reading.rest, false)) patience ({ rest := text }, text, true))
      fun s => { s with reached := before }

/-- Carries out the scripts for the signals that have come, in the order of their numbers. The status
stays what it was. -/
def attend : Nat → Run Unit
  | 0 => halt .exhausted
  | fuel + 1 => do
    let s ← get
    let kept := s.trapStatus
    let status := kept.getD s.status
    set { s with pending := [], trapStatus := some status }
    let rest ← attempt (serve fuel status (s.pending.mergeSort (· ≤ ·)))
    modify fun s => { s with trapStatus := kept }
    settle rest

/-- The same for some signals. Where one script leaves something, the others stay for later. -/
def serve : Nat → Nat → List Nat → Run Unit
  | 0, _, _ => halt .exhausted
  | _ + 1, _, [] => return ()
  | fuel + 1, status, signal :: rest => do
    let text := ((← get).traps.lookup signal).getD ""
    if text ≠ "" then
      match ← attempt (script fuel false false text.toList) with
      | .ok () => setStatus status
      | .error h => do
        if h matches .returned false || h matches .leaveLoop _ || h matches .nextTurn _ then
          setStatus status
        modify fun s => { s with pending := rest ++ s.pending }
        halt h
    serve fuel status rest

/-- Carries out a part of a script to the end of its process. -/
def part : Nat → Option Command → List Route → Bool → Run Unit
  | 0, _, _, _ => halt .exhausted
  | fuel + 1, command, routes, tested => do
    routes.forM follow_
    match command with
    | some command => exec fuel true tested command
    | none => return ()

end

end Run
end BundleForge.Shell
