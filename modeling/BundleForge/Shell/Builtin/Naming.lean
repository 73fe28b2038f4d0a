import BundleForge.Shell.Builtin.Basic
import BundleForge.Shell.Reader.Script
import BundleForge.Shell.Surroundings

/-!
What the name of a command means: a function, a builtin command, or a program that is found in the
directories of a path. Main statement: a name with a slash in it is never looked for.
-/

namespace BundleForge.Shell

/-- The builtin commands, beside those whose faults end a shell. -/
def regularNames : List String := [
  "[", "alias", "bg", "cd", "chdir", "command", "echo", "false", "fg", "getopts", "hash", "jobs", "kill",
  "printf", "pwd", "read", "test", "true", "type", "ulimit", "umask", "unalias", "wait"]

/-- The builtin commands whose arguments can be assignments. -/
def assigningNames : List String := ["alias", "export", "local", "readonly"]

def isSpecial (name : String) : Bool := specialNames.contains name

def isBuiltin (name : String) : Bool := isSpecial name || regularNames.contains name

/-- What a name means: a function, a builtin command, a program that was found, a program that is named by
its path, or nothing. -/
inductive Meaning
  | function (body : Command)
  | builtin
  | found (path : String)
  | path
  | absent (cause : Refusal)

/-- What is said of a program that is not there, or cannot be run. -/
def refusalOnRunning : Refusal → String
  | .missing | .notDirectory => "not found"
  | cause => cause.wording

/-- The path of the programs of the system. -/
def usualPath : String := "/usr/local/sbin:/usr/local/bin:/usr/sbin:/usr/bin:/sbin:/bin"

namespace Run

/-- The file of a program under a path, or why it cannot be run. -/
def runnable (s : State) (path : String) : Except Refusal (List String) :=
  match s.placeOf (Octets.toText path) true with
  | .error cause => .error cause
  | .ok place =>
    if (s.world.contentAt? place).isSome && s.world.isRunnable place then .ok place else .error .denied

/-- Looks for a program in the directories of a path. -/
def search (s : State) (name : String) : Refusal → List String → Except Refusal String
  | cause, [] => .error cause
  | cause, directory :: rest =>
    let full := if directory = "" then name else directory ++ "/" ++ name
    match runnable s full with
    | .ok _ => .ok full
    | .error .missing | .error .notDirectory => search s name cause rest
    | .error other => search s name other rest

/-- The path that programs are looked for in. -/
def programPath (s : State) : String := (s.value? "PATH").getD ""

/-- What a name means, functions aside where that is wanted. Programs may be looked for in another path
than the one of the shell; those that are found in its own path are remembered. -/
def meaningOf (noFunction : Bool) (path? : Option String) (name : String) : Run Meaning := do
  let s ← get
  if name.toList.contains '/' then return .path
  match if noFunction then none else s.functions.lookup name with
  | some body => return .function body
  | none =>
    if isBuiltin name then return .builtin
    match if path?.isNone then s.hashed.lookup name else none with
    | some full => return .found full
    | none =>
      match search s name .missing (Text.pieces ':' (path?.getD (programPath s))) with
      | .error cause => return .absent cause
      | .ok full => do
        if path?.isNone then set { s with hashed := s.hashed ++ [(name, full)] }
        return .found full

theorem meaningOf_path (noFunction : Bool) (path? : Option String) (name : String) (s : State)
    (h : '/' ∈ name.toList) : meaningOf noFunction path? name s = .done (.ok .path) s := by
  simp [meaningOf, h, bind, Run.bind, get, getThe, MonadStateOf.get, getState, pure, Run.pure]

/-- Tells what a name means, in words or as it is called. -/
def describe (inWords : Bool) (path? : Option String) (name : String) : Run Nat := do
  let say (text called : String) : Run Nat := put (if inWords then name ++ text ++ "\n" else called ++ "\n")
  let s ← get
  if reservedWords.contains name then say " is a shell keyword" name
  else match s.aliases.lookup name with
  | some value =>
    say (" is an alias for " ++ value) ("alias " ++ name ++ "=" ++ quotedValue value)
  | none => do
    let known := path?.isNone && (s.hashed.lookup name).isSome
    let absent : Run Nat := do if inWords then put (name ++ ": not found\n") 127 else return 127
    match ← meaningOf false path? name with
    | .function .. => say " is a shell function" name
    | .builtin => say (if isSpecial name then " is a special shell builtin" else " is a shell builtin") name
    | .found full => do
      set s
      say ((if known then " is a tracked alias for " else " is ") ++ full) full
    | .path => if (s.placeOf (Octets.toText name) true).toOption.isSome then say (" is " ++ name) name else absent
    | .absent _ => absent

/-- Tells what names mean. -/
def type : Builtin := fun names => do
  let statuses ← names.mapM (describe true none)
  return statuses.foldl (· ||| ·) 0

/-- What a command that only tells about another one tells. -/
def tellAbout : Builtin := fun arguments => do
  let (given, names) ← optionsOf "pvV" arguments
  let letters := given.map Prod.fst
  let path? := if letters.contains 'p' then some usualPath else none
  match names with
  | name :: _ =>
    if letters.contains 'v' || letters.contains 'V' then describe (letters.contains 'V' && !letters.contains 'v') path? name
    else return 0
  | [] => return 0

/-- Shows where programs were found, forgets that, or looks for some anew. -/
def hash : Builtin := fun arguments => do
  let (given, names) ← optionsOf "r" arguments
  if !given.isEmpty then
    modify fun s => { s with hashed := [] }
    return 0
  if names.isEmpty then
    put (String.join ((tabled 31 (← get).hashed).map fun (_, full) => full ++ "\n"))
  else
    let mut status := 0
    for name in names do
      modify fun s => { s with hashed := Entries.drop name s.hashed }
      if let .absent cause ← meaningOf false none name then
        warn (name ++ ": " ++ refusalOnRunning cause)
        status := 1
    return status

/-- The script that is read where a name stands: at a path, or in the directories for programs. -/
def dotted (name : String) : Run (String × List Char) := do
  let s ← get
  let read? (path : String) : Except Refusal (List UInt8) :=
    match s.lookup (Octets.toText path) true with
    | .ok (.file content) => .ok content
    | .ok _ => .ok []
    | .error cause => .error cause
  let isFile (path : String) : Bool :=
    ((s.lookup (Octets.toText path) true).toOption).any Node.isFileNode
  let path? := if name.toList.contains '/' then some name
    else ((Text.pieces ':' (programPath s)).map fun directory =>
      if directory = "" then name else directory ++ "/" ++ name).find? isFile
  match path? with
  | none => fail (name ++ ": not found")
  | some path =>
    match read? path with
    | .ok content => return (path, (Octets.ofBytes (content.filter (· ≠ 0))).toList)
    | .error cause => fail (openingFault .reading path (refusalOnOpening .reading cause))

/-- How many scripts may stand for one another until a program is reached. -/
def scriptLimit : Nat := 5

/-- The interpreter that the first line of a script names, and its argument. -/
def interpreter? (content : List UInt8) : Option (String × List String) :=
  match content with
  | 35 :: 33 :: rest =>
    let line := (Octets.ofBytes (rest.takeWhile (· ≠ 10))).toList.take 253
    let isBlank (c : Char) : Bool := c == ' ' || c == '\t'
    let line := (((line.dropWhile isBlank).reverse).dropWhile isBlank).reverse
    let name := line.takeWhile fun c => !isBlank c
    let argument := (line.drop name.length).dropWhile isBlank
    if name.isEmpty then none
    else some (String.ofList name, if argument.isEmpty then [] else [String.ofList argument])
  | _ => none

/-- Which files are run by the shell though they do not name it: none, those that start like a text, or
all. -/
inductive Trust
  | none
  | texts
  | all
deriving DecidableEq, Repr

/-- Whether the first line of a file, or as much of it as is looked at, holds what no text does. -/
def startsAsProgram (content : List UInt8) : Bool :=
  ((content.take 128).takeWhile (· ≠ 10)).any fun b =>
    b = 127 || (b < 32 && !(9 ≤ b && b ≤ 15) && b ≠ 27)

theorem isBinary_programFile : startsAsProgram (Surroundings.programFile Surroundings.shellName) = true := by
  decide +kernel

/-- Whether a file is run by the shell. -/
def Trust.covers (content : List UInt8) : Trust → Bool
  | .none => false
  | .texts => !startsAsProgram content
  | .all => true

/-- What a path is run as, or why it cannot be run. A script is run by its interpreter; a file that is
neither a script nor a program, by the shell, if it is trusted. -/
def imageOf (s : State) (trust : Trust) (name path : String) (arguments : List String) :
    Nat → Except Refusal Image
  | 0 => .error .tooManyLinks
  | levels + 1 =>
    match runnable s path with
    | .error cause => .error cause
    | .ok place =>
      let content := (s.world.contentAt? place).getD []
      let found : Except Refusal Image := match Surroundings.programIn? content with
        | some program => .ok ⟨program, name, arguments⟩
        | none =>
          match interpreter? content with
          | some (interpreter, more) =>
            imageOf s .none interpreter interpreter (more ++ path :: arguments) levels
          | none => .error .noProgram
      match found with
      | .error .noProgram =>
        if trust.covers content then .ok ⟨Surroundings.shellName, "/bin/sh", path :: arguments⟩
        else .error .noProgram
      | found => found

/-- What a name is run as: a path, or a program that is looked for. -/
def imageNamed (s : State) (trust : Trust) (name : String) (arguments : List String) :
    Except Refusal Image :=
  if name.toList.contains '/' then imageOf s trust name name arguments scriptLimit
  else match search s name .missing (Text.pieces ':' (programPath s)) with
    | .error cause => .error cause
    | .ok full => imageOf s trust name full arguments scriptLimit

end Run
end BundleForge.Shell
