import BundleForge.Shell.Builtin.Naming
import BundleForge.Shell.Utility

/-!
The programs that carry out others: in their own place, or one after another. Main statement: words that
are gathered one at a time make a command each.
-/

namespace BundleForge.Shell.Run

/-- Makes a program take the place of the one that names it, or says that it cannot be run. -/
def carryOn (refusal : String → Refusal → String) (name : String) (arguments : List String) : Run Nat := do
  match imageNamed (← get) .all (Octets.ofText name) (arguments.map Octets.ofText) with
  | .ok image => halt (.become image)
  | .error cause => do
    complain (refusal name cause)
    return if cause = .missing || cause = .notDirectory then 127 else 126

/-- A refusal behind the name of a program that stands between quotes. -/
def quotedRefusal (front : String) (name : String) (cause : Refusal) : String :=
  front ++ "‘" ++ name ++ "’: " ++ cause.wording

/-- Variables in front of a command that is started with them. -/
def settingsIn (arguments : List String) : List (String × String) × List String :=
  let isSetting (a : String) : Bool := a.toList.contains '='
  let front := arguments.takeWhile isSetting
  (front.map fun a =>
    let (name, value) := Text.cutAt '=' a.toList
    (String.ofList name, String.ofList (value.getD [])), arguments.drop front.length)

/-- The options in front of the variables that a command is started with: whether it is handed no others,
which ones it is not handed, and its directory. Gives an option that is none. -/
def surroundingsIn (bare : Bool) (dropped : List String) (directory : Option String) :
    List String → Except String (Bool × List String × Option String × List String)
  | "-i" :: rest | "-" :: rest | "--ignore-environment" :: rest => surroundingsIn true dropped directory rest
  | "-u" :: name :: rest => surroundingsIn bare (name :: dropped) directory rest
  | "-C" :: name :: rest => surroundingsIn bare dropped (some name) rest
  | "--" :: rest => .ok (bare, dropped, directory, rest)
  | a :: rest =>
    match a.toList with
    | '-' :: 'u' :: name =>
      if name.isEmpty then .error ("option requires an argument -- 'u'")
      else surroundingsIn bare (String.ofList name :: dropped) directory rest
    | '-' :: '-' :: 'u' :: 'n' :: 's' :: 'e' :: 't' :: '=' :: name =>
      surroundingsIn bare (String.ofList name :: dropped) directory rest
    | '-' :: '-' :: _ => .error ("unrecognized option '" ++ a ++ "'")
    | '-' :: c :: _ => .error ("invalid option -- '" ++ String.singleton c ++ "'")
    | _ => .ok (bare, dropped, directory, a :: rest)
  | [] => .ok (bare, dropped, directory, [])

/-- Starts a command with other variables, or tells them. -/
def env (arguments : List String) : Run Nat := do
  match surroundingsIn false [] none arguments with
  | .error text => misused "env" text 125
  | .ok (bare, dropped, directory, rest) => do
    let isHanded (v : String × Variable) : Bool := !bare && !(dropped.map Octets.ofText).contains v.1
    modify fun s => { s with bindings := s.bindings.filter isHanded }
    let (given, command) := settingsIn rest
    for (name, value) in given do
      let v : Variable := ⟨some (Octets.ofText value), true, false⟩
      modify fun s => { s with bindings := Entries.put (Octets.ofText name) v s.bindings }
    if let some name := directory then
      let s ← get
      match s.placeOf name true with
      | .error cause => do
        complain ("env: cannot change directory to ‘" ++ name ++ "’: " ++ cause.wording)
        return 125
      | .ok place => set { s with cwd := place }
    match command with
    | [] => do
      let s ← get
      print (lineEnds (s.bindings.filterMap fun (name, v) =>
        v.value.map fun value => Octets.toText (name ++ "=" ++ value)))
      return 0
    | name :: rest => carryOn (quotedRefusal "env: ") name rest

/-- The words of a text that is read: blanks divide them, and quotes and backslashes keep blanks. A word
that was begun is held back to front. Quotes that are never closed give that quote. -/
def inputWords (begun : Option (List Char)) (quote : Option Char) : List Char → Except Char (List String)
  | [] =>
    match quote with
    | some q => .error q
    | none => .ok (begun.map fun cs => String.ofList cs.reverse).toList
  | c :: rest =>
    match quote with
    | some q =>
      if c = q then inputWords (some (begun.getD [])) none rest
      else if c = '\n' then .error q
      else inputWords (some (c :: begun.getD [])) quote rest
    | none =>
      if c = '\x27' || c = '\x22' then inputWords (some (begun.getD [])) (some c) rest
      else if c = '\\' then
        match rest with
        | d :: rest => inputWords (some (d :: begun.getD [])) none rest
        | [] => inputWords begun none []
      else if c = ' ' || c = '\t' || c = '\n' then
        (inputWords none none rest).map ((begun.map fun cs => String.ofList cs.reverse).toList ++ ·)
      else inputWords (some (c :: begun.getD [])) none rest

/-- Words in batches of some size. -/
def batches (size : Nat) : Nat → List String → List (List String)
  | 0, _ | _, [] => []
  | fuel + 1, words => words.take (max size 1) :: batches size fuel (words.drop (max size 1))

theorem batches_one (word : String) (fuel : Nat) : batches 1 (fuel + 1) [word] = [[word]] := by
  cases fuel <;> simp [batches]

/-- How words that are read are made into commands: how many at a time, or each line in the place of a
mark, and whether there is no command without any; a separator may divide them alone, and commands may be
told. -/
structure Gathering where
  size : Nat := 0
  lines : Nat := 0
  mark : Option String := none
  careful : Bool := false
  separator : Option Char := none
  tells : Bool := false
deriving DecidableEq, Repr

/-- The options of commands that are made of words. -/
def gatheringOptions : KnownOptions where
  plain := "rt0px"
  valued := "nLIdPsaE"
  optional := "i"
  words := [("no-run-if-empty", 'r'), ("verbose", 't'), ("null", '0'), ("max-args", 'n'),
    ("max-lines", 'L'), ("replace", 'i'), ("delimiter", 'd'), ("max-procs", 'P')]

def gatheringOf (o : Options) : Gathering where
  size := ((o.value? 'n').bind String.toNat?).getD 0
  lines := ((o.value? 'L').bind String.toNat?).getD 0
  mark := (o.value? 'I').orElse fun _ => (o.value? 'i').map fun mark => if mark = "" then "\x7b\x7d" else mark
  careful := o.has 'r'
  separator := if o.has '0' then some (Char.ofNat 0)
    else (o.value? 'd').map fun d => match (escaped d.toList).1 with
      | b :: _ => Char.ofNat b.toNat
      | [] => '\n'
  tells := o.has 't'

/-- The pieces of a text between separators. The last one may lack it. -/
def separated (separator : Char) (text : String) : List String :=
  let pieces := Text.pieces separator text
  if pieces.getLast? = some "" then pieces.dropLast else pieces

/-- A text without the blanks in front of it. -/
def withoutBlanks (s : String) : String := String.ofList (s.toList.dropWhile fun c => c = ' ' || c = '\t')

/-- The commands that a text is made into. -/
def Gathering.commands (g : Gathering) (command : List String) (text : String) :
    Except Char (List (List String)) := do
  let command := if command.isEmpty then ["echo"] else command
  match g.mark with
  | some mark =>
    let lines := match g.separator with
      | some separator => separated separator text
      | none => ((Text.pieces '\n' text).map withoutBlanks).filter (· ≠ "")
    return lines.map fun line => command.map fun word => line.intercalate (word.splitOn mark)
  | none =>
    if 0 < g.lines then
      let lines := (Text.pieces '\n' text).filter (· ≠ "")
      let groups := batches g.lines lines.length lines
      groups.mapM fun lines => do return command ++ (← inputWords none none (" ".intercalate lines).toList)
    else
      let words ← match g.separator with
        | some separator => pure (separated separator text)
        | none => inputWords none none text.toList
      if words.isEmpty then return if g.careful then [] else [command]
      else if g.size = 0 then return [command ++ words]
      else return (batches g.size words.length words).map (command ++ ·)

/-- Programs one after another. One that cannot be found, or tells that all are to end, ends them. -/
def eachCommand (tells : Bool) (status : Nat) : List (List String) → Run Nat
  | [] => return status
  | words :: rest => do
    if tells then complain (" ".intercalate words)
    let name := words.headD ""
    match imageNamed (← get) .all (Octets.ofText name) (words.tail.map Octets.ofText) with
    | .error cause => do
      complain ("xargs: " ++ name ++ ": " ++ cause.wording)
      return if cause = .missing || cause = .notDirectory then 127 else 126
    | .ok image => do
      let pid ← fork (.image image) id fun w pid =>
        w.openAs pid 0 { lead := .nothing, reads := true, writes := false }
      let endings ← awaitAll [pid]
      match endings.headD (.exited 0) with
      | .killed signal => do
        complain ("xargs: " ++ name ++ ": terminated by signal " ++ toString signal)
        return 125
      | .exited 255 => do
        complain ("xargs: " ++ name ++ ": exited with status 255; aborting")
        return 124
      | .exited n => eachCommand tells (if n = 0 then status else 123) rest

/-- Makes the words that are read into commands. -/
def xargs (arguments : List String) : Run Nat := do
  let isOption (a : String) : Bool := a.toList.head? = some '-' && a ≠ "-" && a ≠ "--"
  let rec_ := optionsInFront isOption arguments.length arguments
  withOptions "xargs" gatheringOptions 1 rec_.1 fun o => do
    let g := gatheringOf o
    let (bytes, failed) ← wholeInput "xargs" []
    if failed then return 1
    match g.commands rec_.2 (Octets.textOf bytes) with
    | .ok commands => eachCommand g.tells 0 commands
    | .error quote => do
      let kind := if quote = '\x27' then "single" else "double"
      complain ("xargs: unmatched " ++ kind ++
        " quote; by default quotes are special to xargs unless you use the -0 option")
      return 1
where
  /-- The options in front, with their values, and the command behind them. -/
  optionsInFront (isOption : String → Bool) : Nat → List String → List String × List String
    | 0, rest => ([], rest)
    | _ + 1, [] => ([], [])
    | fuel + 1, a :: rest =>
      if a = "--" then ([], rest)
      else if !isOption a then ([], a :: rest)
      else
        let wants := match a.toList with
          | ['-', c] => gatheringOptions.valued.toList.contains c
          | _ => ["--max-args", "--max-lines", "--delimiter", "--max-procs"].contains a
        match wants, rest with
        | true, value :: rest =>
          let (front, rest) := optionsInFront isOption fuel rest
          (a :: value :: front, rest)
        | _, rest =>
          let (front, rest) := optionsInFront isOption fuel rest
          (a :: front, rest)

/-- Tells where programs are found. -/
def which (arguments : List String) : Run Nat :=
  withOptions "which" { plain := "as" } 2 arguments fun o => do
    let s ← get
    let found := o.others.map fun name =>
      let octets := Octets.ofText name
      if name.toList.contains '/' then (runnable s octets).toOption.map fun _ => name
      else (search s octets .missing (Text.pieces ':' (programPath s))).toOption.map Octets.toText
    print (lineEnds (found.filterMap id))
    return if !found.isEmpty && found.all Option.isSome then 0 else 1

/-- Carries on with a program that ignores the loss of its terminal. -/
def nohup (arguments : List String) : Run Nat := do
  match arguments with
  | [] => do
    complain "nohup: missing operand"
    complain "Try 'nohup --help' for more information."
    return 125
  | name :: rest => do
    modify fun s => { s with ignored := 1 :: s.ignored }
    carryOn (fun name cause => "nohup: failed to run command '" ++ name ++ "': " ++ cause.wording) name rest

/-- Carries on with a program of another priority. -/
def nice (arguments : List String) : Run Nat := do
  let rest := match arguments with
    | "-n" :: _ :: rest => rest
    | a :: rest => if a.toList.head? = some '-' then rest else a :: rest
    | [] => []
  match rest with
  | [] => do
    print "0\n"
    return 0
  | name :: rest => carryOn (quotedRefusal "nice: ") name rest

/-- Carries on with a program that has no terminal. -/
def setsid (arguments : List String) : Run Nat := do
  match arguments.dropWhile fun a => a.toList.head? = some '-' with
  | [] => misused "setsid" "no command specified" 1
  | name :: rest => carryOn (quotedRefusal "setsid: failed to execute ") name rest

/-- Carries out a program that is stopped when it takes too long. -/
def timeout (arguments : List String) : Run Nat := do
  let flags := ["--preserve-status", "--foreground", "-v", "--verbose"]
  let rec_ := front flags 15 none arguments.length (false, arguments)
  let (preserves, signal, after, words) := rec_
  match words with
  | [] | [_] => misused "timeout" "missing operand" 125
  | limit :: name :: rest =>
    match duration? limit with
    | none => misused "timeout" ("invalid time interval ‘" ++ limit ++ "’") 125
    | some limit =>
      match imageNamed (← get) .all (Octets.ofText name) (rest.map Octets.ofText) with
      | .error cause => do
        complain ("timeout: failed to run command ‘" ++ name ++ "’: " ++ cause.wording)
        return if cause = .missing || cause = .notDirectory then 127 else 126
      | .ok image => do
        let pid ← fork (.image image) id fun w _ => w
        let whole (ending : Ending) : Run Nat := match ending with
          | .exited n => return n
          | .killed n => halt (.killed n)
        match limit.filter (0 < ·) with
        | none => whole ((← awaitAll [pid]).headD (.exited 0))
        | some limit => do
          pause (.endOrTime pid ((← get).world.clock + limit))
          if (← get).world.isOver pid then whole ((← awaitAll [pid]).headD (.exited 0))
          else
            sendSignal pid signal
            if let some (some after) := after then
              pause (.endOrTime pid ((← get).world.clock + after))
              unless (← get).world.isOver pid do
                sendSignal pid 9
                let _ ← awaitAll [pid]
                return 137
            let ending := (← awaitAll [pid]).headD (.exited 0)
            return if preserves then ending.status else if signal = 9 then 137 else 124
where
  sendSignal (pid signal : Nat) : Run Unit := modifyWorld fun w =>
    match w.processes.lookup pid with
    | some p => if p.ending.isNone then w.withProcess pid { p with signals := p.signals ++ [signal] } else w
    | none => w
  /-- The options in front: whether the status of the program counts, the signal that stops it, and how
  long it has from then. -/
  front (flags : List String) (signal : Nat) (after : Option (Option Nat)) :
      Nat → Bool × List String → Bool × Nat × Option (Option Nat) × List String
    | 0, (preserves, words) => (preserves, signal, after, words)
    | fuel + 1, (preserves, words) =>
      match words with
      | "-s" :: name :: rest => front flags ((signal? false name).getD 15) after fuel (preserves, rest)
      | "-k" :: time :: rest => front flags signal (duration? time) fuel (preserves, rest)
      | "--" :: rest => (preserves, signal, after, rest)
      | a :: rest =>
        if flags.contains a then front flags signal after fuel (preserves || a = "--preserve-status", rest)
        else (preserves, signal, after, a :: rest)
      | [] => (preserves, signal, after, [])

/-- The program of a name. -/
def program? : String → Option (List String → Run Nat)
  | "env" => some env
  | "xargs" => some xargs
  | "which" => some which
  | "nohup" => some nohup
  | "nice" => some nice
  | "setsid" => some setsid
  | "timeout" => some timeout
  | name => (tool? name).map (runTool name)

end BundleForge.Shell.Run
