import BundleForge.Shell.Options
import BundleForge.Shell.Place
import BundleForge.Shell.Process
import BundleForge.Shell.Showing

/-!
What programs share: their options, the files that they read, and what they print. Programs know
characters where a shell only knows bytes. Main statement: a program without files to read has nothing to
say about them.
-/

namespace BundleForge.Shell.Run

/-- Prints bytes, and keeps in mind why that was not possible. -/
def printBytes (bytes : List UInt8) : Run Unit := do
  match ← write 1 bytes with
  | none => return ()
  | some fault => modify fun s => { s with unprinted := some fault.wording }

def print (text : String) : Run Unit := printBytes (Octets.bytesOf text)

/-- A line for errors. -/
def complain (text : String) : Run Unit := do
  let _ ← write 2 (Octets.bytesOf (text ++ "\n"))

/-- Reads the options of a program and goes on with them, or says what is wrong. -/
def withOptions (command : String) (k : KnownOptions) (faultStatus : Nat) (arguments : List String)
    (action : Options → Run Nat) : Run Nat :=
  match Options.read k arguments with
  | .ok o => action o
  | .error fault => do
    complain (command ++ ": " ++ fault.message)
    complain ("Try '" ++ command ++ " --help' for more information.")
    return faultStatus

/-- A program that is used in a wrong way. -/
def misused (command text : String) (status : Nat) : Run Nat := do
  complain (command ++ ": " ++ text)
  complain ("Try '" ++ command ++ " --help' for more information.")
  return status

/-- What is said of a file that a program cannot open, or cannot read once it is open. A dash stands for
what the program is given to read, which is open already. -/
def unread (command name : String) (cause : Refusal) : String :=
  let isOpen := name = "-" || cause = .isDirectory
  let why := ": " ++ cause.wording
  let input := if name = "-" then "'standard input'" else Showing.named name
  let quotedInput := if name = "-" then "'standard input'" else Showing.quoted name
  let said (text : String) : String := command ++ ": " ++ text ++ why
  match command, isOpen with
  | "tail", true =>
    if cause = .badStream then said ("cannot fstat " ++ quotedInput) else said ("error reading " ++ quotedInput)
  | "head", true => said ("error reading " ++ quotedInput)
  | "head", false | "tail", false => said ("cannot open " ++ Showing.quoted name ++ " for reading")
  | "tac", true =>
    "tac: " ++ input ++ ": read error: " ++ if cause = .isDirectory then "Invalid argument" else cause.wording
  | "tac", false => said ("failed to open " ++ Showing.quoted name ++ " for reading")
  | "sort", true =>
    said ((if cause = .badStream then "stat failed: " else "read failed: ") ++ Showing.named name)
  | "sort", false => said ("cannot read: " ++ Showing.named name)
  | "uniq", true => said ("error reading " ++ Showing.quoted name)
  | "tr", true | "base64", true => said "read error"
  | "od", _ => said input
  | "rev", _ => said ("cannot open " ++ name)
  | "grep", _ => said (if name = "-" then "(standard input)" else name)
  | "cmp", _ => said name
  | _, _ => said (Showing.named name)

/-- How a program calls what it is given to read, when that turns out not to be open. -/
def inputName? (command : String) : Option String :=
  if command = "cat" then some "closing standard input"
  else if ["od", "tee"].contains command then some "standard input"
  else if ["head", "tail", "cut", "nl", "fold", "paste", "wc", "tac"].contains command then some "-"
  else none

/-- What a program says at its end of what it was given to read, if that was not open. Tells whether
there was something to say. -/
def inputLost (command : String) (names : List String) : Run Bool := do
  let s ← get
  match inputName? command with
  | none => return false
  | some name =>
    if !names.contains "-" || (s.world.fileOf? s.pid 0).isSome then return false
    complain (command ++ ": " ++ name ++ ": " ++ Refusal.badStream.wording)
    return true

/-- Opens the file that a name stands for, as a stream under some number; or gives zero where the name
stands for what is read. -/
def opened (name : String) : Run (Except Refusal Nat) := do
  if name = "-" then return .ok 0
  let s ← get
  match s.spot name true with
  | .error cause => return .error cause
  | .ok spot =>
    let spare := s.world.spareStream s.pid
    let add (lead : Lead) (held : List UInt8) : Run (Except Refusal Nat) := do
      set { s with world := s.world.openAs s.pid spare { lead, reads := true, writes := false, held } }
      return .ok spare
    match deviceAt? spot.place with
    | some (.stream n) =>
      match s.world.fileOf? s.pid n with
      | none => return .error .missing
      | some file => do
        set { s with world := s.world.connect s.pid spare file }
        return .ok spare
    | some .zeros | some .full => add .zeros []
    | some .nothing => add .nothing []
    | some .terminal => return .error .missing
    | none =>
      match s.tree.top.at? spot.place with
      | some (.file content) => add (.file spot.place) content
      | some (.dir _) => add (.directory spot.place) []
      | _ => return .error .missing

/-- Closes a stream, unless it is what the program was given to read. -/
def closed (stream : Nat) : Run Unit := modify fun s =>
  if stream = 0 then s else { s with world := s.world.close s.pid stream }

/-- The refusal that a faulty stream stands for. -/
def refusalOf : StreamFault → Refusal
  | .isDirectory => .isDirectory
  | .broken => .brokenPipe
  | .notOpen => .badStream
  | .noRoom => .noRoom

/-- The bytes of the file that a name stands for. A dash stands for what is read. -/
def fileBytes (name : String) : Run (Except Refusal (List UInt8)) := do
  match ← opened name with
  | .error cause => return .error cause
  | .ok stream => do
    let bytes ← readToEnd stream
    closed stream
    return bytes.mapError refusalOf

/-- The files that names stand for, with their names, and whether one of them could not be read. -/
def files (command : String) : List String → Run (List (String × List UInt8) × Bool)
  | [] => return ([], false)
  | name :: rest => do
    match ← fileBytes name with
    | .ok bytes => do
      let (others, failed) ← files command rest
      return ((name, bytes) :: others, failed)
    | .error cause => do
      complain (unread command name cause)
      return ((← files command rest).1, true)

theorem files_nil (command : String) (s : State) : files command [] s = .done (.ok ([], false)) s := rfl

/-- All that a program reads: its files in a row, or what it is given to its end. -/
def wholeInput (command : String) (names : List String) : Run (List UInt8 × Bool) := do
  let names := if names.isEmpty then ["-"] else names
  let (inputs, failed) ← files command names
  let lost ← inputLost command names
  return (inputs.flatMap Prod.snd, failed || lost)

/-- Reads up to a point where there is enough, behind what was read before. Tells whether the end was
reached. -/
def readUntil (stream : Nat) (enough : List UInt8 → Bool) :
    Nat → List UInt8 → Run (Except StreamFault (List UInt8 × Bool))
  | 0, _ => halt .exhausted
  | fuel + 1, before => do
    if enough before then return .ok (before, false)
    match ← readSome stream 8192 with
    | .error fault => return .error fault
    | .ok [] => return .ok (before, true)
    | .ok bytes => readUntil stream enough fuel (before ++ bytes)

/-- Gives back what was read too much, where that is possible. -/
def giveBack (stream n : Nat) : Run Unit := do
  if let some file ← file? stream then
    modifyWorld fun w => w.goBack file n

/-- Whether a stream leads to a file. -/
def leadsToFile (stream : Nat) : Run Bool := do
  let s ← get
  return match (s.world.openFile? s.pid stream).map OpenFile.lead with
    | some (.file _) => true
    | _ => false

/-- Lines of text as they are printed. -/
def lineEnds (lines : List String) : String := String.join (lines.map (· ++ "\n"))

/-- Prints bytes for a program that reads to the end, with a status that tells whether that went
well. -/
def answer (bytes : List UInt8) (failed : Bool) : Run Nat := do
  printBytes bytes
  return if failed then 1 else 0

/-- Writes bytes into a file, behind what it holds or in place of that. Gives the reason where that cannot
be done. -/
def writeInto (name : String) (behind : Bool) (bytes : List UInt8) : Run (Option Refusal) := do
  let s ← get
  match s.spot name true with
  | .error cause => return some cause
  | .ok spot =>
    match deviceAt? spot.place with
    | some (.stream n) => do
      match ← write n bytes with
      | none => return none
      | some fault => return some (refusalOf fault)
    | some .full => return some .noRoom
    | some _ => return none
    | none =>
      match s.tree.top.at? spot.place with
      | some (.dir _) => return some .isDirectory
      | found =>
        let before := match found with
          | some (.file content) => if behind then content else []
          | _ => []
        setTree (s.tree.setAt spot.place (.file (before ++ bytes)))
        modifyWorld fun w => w.stamped spot.place
        return none

end BundleForge.Shell.Run
