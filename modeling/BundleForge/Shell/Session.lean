import BundleForge.Shell.Execution

/-!
A shell from its start to its end: its options, where it takes its script from, and the script that it
keeps for its end. Main statement: a program that is started knows the variables that are handed on, and
no functions.
-/

namespace BundleForge.Shell

/-- How many steps down a shell can take. -/
def depthLimit : Nat := 1000000000000

/-- The environment of a program that takes over a process. -/
def Environment.becoming (e : Environment) (image : Image) : Environment where
  pid := e.pid
  rootPid := e.pid
  parent := e.parent
  name := image.name
  cwd := e.cwd
  directory := placeText e.cwd
  arguments := image.arguments
  bindings := e.handedOn.map fun (name, value) => (name, ⟨some value, true, false⟩)
  ignored := e.ignored ++ (e.traps.filter fun t => t.2.isEmpty).map Prod.fst
  mask := e.mask

theorem functions_becoming (e : Environment) (image : Image) : (e.becoming image).functions = [] := rfl

/-- The variables that a shell starts with, beside those that are handed on to it. -/
def initialVariables (parent : Nat) (directory : String) : List (String × String) := [
  ("PATH", usualPath), ("PS1", "# "), ("PS2", "> "), ("PS4", "+ "), ("IFS", usualSeparators),
  ("OPTIND", "1"), ("PPID", toString parent), ("PWD", directory)]

/-- The variables that the start of a shell gives values anew. -/
def renewedNames : List String := ["IFS", "OPTIND", "PPID", "PWD"]

namespace Run

/-- The directory that a shell starts in goes by the name that is handed on, if that leads there. -/
def initialDirectory (s : State) : String :=
  match s.value? "PWD" with
  | some name =>
    if name.toList.head? = some '/' && (s.placeOf (Octets.toText name) true).toOption = some s.cwd then name
    else placeText s.cwd
  | none => placeText s.cwd

/-- The variables of a shell at its start. -/
def initialize_ (s : State) : State :=
  let directory := initialDirectory s
  let handed := s.bindings.filter fun v => isName v.1
  let own := (initialVariables s.parent directory).map fun (name, value) =>
    let before := handed.lookup name
    let value := if renewedNames.contains name then value else (before.bind Variable.value).getD value
    (name, { value := some value, exported := before.isSome || name = "PWD" : Variable })
  { s with
    directory
    bindings := own ++ handed.filter fun v => (own.lookup v.1).isNone }

/-- A script to its end, and then the one that is kept for that. -/
def concluding (action : Run Unit) : Run Unit := do
  let isFinal : Except Halt Unit → Bool
    | .error (.killed _) | .error (.become _) | .error .exhausted => true
    | _ => false
  let result ← attempt action
  if isFinal result then settle result
  else
    let s ← get
    let text := (s.traps.lookup 0).getD ""
    set { s with trapStatus := some s.status, traps := Entries.drop 0 s.traps, loops := 0 }
    if text ≠ "" then
      let result ← attempt (script depthLimit false false text.toList)
      if isFinal result then settle result
      if result matches .error .failure then modify fun s => { s with trapStatus := some s.status }
    modify fun s => { s with status := s.trapStatus.getD s.status }
    halt .leave

/-- Reads the script of a file. What is no file holds nothing. -/
def scriptFile (path : String) : Run (List Char) := do
  let text (bytes : List UInt8) : List Char := (Octets.ofBytes (bytes.filter (· ≠ 0))).toList
  let file ← openNamed .reading path
  let spare := (← get).world.spareStream (← get).pid
  lead spare file
  let bytes ← readToEnd spare
  closeStream spare
  return match bytes with
    | .ok bytes => text bytes
    | .error _ => []

/-- A shell that has nobody to talk to says so where it is to control jobs. -/
def refuseTerminal : Run Unit := do
  let m := (← get).manners
  if m.has 'i' || m.has 'm' then
    warn "can't access tty; job control turned off"
    modify fun s => { s with manners := s.manners.set 'm' false }

/-- What a shell does: its options come first; then it takes a script from its arguments, from a file that
they name, or from what it reads. -/
def shell : Run Unit := do
  modify initialize_
  let arguments := (← get).arguments
  modify fun s => { s with arguments := [] }
  let (given, left) ← setOptions true (arguments.length + 1) arguments
  let left := left.getD []
  match given, left with
  | true, [] => fail "-c requires an argument"
  | true, text :: rest => do
    refuseTerminal
    modify fun s => { s with name := rest.headD s.name, arguments := rest.tail, reached := [1] }
    script depthLimit false false text.toList
    if (← get).manners.has 's' then readScript
  | false, file :: rest => do
    if (← get).manners.has 's' then
      modify fun s => { s with arguments := left }
      readScript
    else
      let text ← scriptFile file
      refuseTerminal
      modify fun s => { s with name := file, arguments := rest }
      script depthLimit true false text
  | false, [] => do
    modify fun s => { s with manners := s.manners.set 's' true }
    readScript
where
  /-- Carries out the script that is read. -/
  readScript : Run Unit := do
    match ← readToEnd 0 with
    | .ok bytes => script depthLimit true false (Octets.ofBytes (bytes.filter (· ≠ 0))).toList
    | .error _ => return ()

end Run
end BundleForge.Shell
