import BundleForge.Shell.Builtin.Variables

/-!
The builtin commands that tell where a script goes on, and those that work through its arguments. Main
statement: outside of loops there is nothing to leave.
-/

namespace BundleForge.Shell.Run

/-- Ends the shell, with the status that is given or the last one. -/
def exit_ : Builtin := fun arguments => do
  if let a :: _ := arguments then
    let status ← number a
    modify fun s => { s with status, trapStatus := s.trapStatus.map fun _ => status }
  halt .leave

/-- Leaves a function or a script that is read. -/
def return_ : Builtin := fun arguments => do
  if let a :: _ := arguments then
    let status ← number a
    setStatus status
  halt (.returned !arguments.isEmpty)

/-- Leaves loops, or their turns. -/
def leaveLoops (stop : Nat → Halt) : Builtin := fun arguments => do
  let wanted ← match arguments with
    | [] => pure 1
    | a :: _ => do
      let n ← number a
      if n = 0 then fail ("Illegal number: " ++ a)
      pure n
  let loops := (← get).loops
  if loops = 0 then return 0
  setStatus 0
  halt (stop (min wanted loops))

theorem leaveLoops_outside (stop : Nat → Halt) (s : State) (h : s.loops = 0) :
    leaveLoops stop [] s = .done (.ok 0) s := by
  simp [leaveLoops, bind, Run.bind, pure, Run.pure, get, getThe, MonadStateOf.get, getState, h]

/-- Drops the first arguments. -/
def shift : Builtin := fun arguments => do
  let n ← match arguments with
    | [] => pure 1
    | a :: _ => number a
  let s ← get
  if s.arguments.length < n then fail "can't shift that many"
  set { s with arguments := s.arguments.drop n, optionPlace := (1, 0) }
  return 0

/-- Whether a letter is an option, and whether it takes a value. -/
def optionKind (letter : Char) : List Char → Option Bool
  | [] => none
  | c :: ':' :: rest => if c = letter then some true else optionKind letter rest
  | c :: rest => if c = letter then some false else optionKind letter rest

/-- Reads the next option of the arguments into a variable. -/
def getopts : Builtin := fun arguments => do
  match arguments with
  | known :: name :: given => do
    let s ← get
    let words := if given.isEmpty then s.arguments else given
    let (index, place) := s.optionPlace
    let silent := known.toList.head? = some ':'
    let finish (letter : Char) (index place : Nat) (status : Nat) : Run Nat := do
      assign "OPTIND" (toString index)
      modify fun t => { t with optionPlace := s.optionPlace }
      if !isName name then fail (name ++ ": bad variable name")
      assign name (String.singleton letter)
      modify fun s => { s with optionPlace := (index, place) }
      return status
    let current := if index ≤ 1 || place = 0 then [] else ((words[index - 2]?).getD "").toList.drop place
    let start : Option (List Char × Nat × Nat) :=
      if !current.isEmpty then some (current, index, place)
      else match words[index - 1]? with
        | none => none
        | some word =>
          match word.toList with
          | '-' :: c :: rest => some (c :: rest, index + 1, 1)
          | _ => none
    match start with
    | none => finish '?' index 0 1
    | some (['-'], index, 1) => finish '?' index 0 1
    | some ([], index, _) => finish '?' index 0 1
    | some (c :: rest, index, place) =>
      match optionKind c known.toList with
      | none => do
        if silent then assign "OPTARG" (String.singleton c)
        else
          complainOctets ("Illegal option -" ++ String.singleton c ++ "\n")
          forget "OPTARG"
        finish '?' index (place + 1) 0
      | some false => do
        assign "OPTARG" ""
        finish c index (place + 1) 0
      | some true =>
        if !rest.isEmpty then
          assign "OPTARG" (String.ofList rest)
          finish c index 0 0
        else match words[index - 1]? with
          | some value => do
            assign "OPTARG" value
            finish c (index + 1) 0 0
          | none =>
            if silent then
              assign "OPTARG" (String.singleton c)
              finish ':' index 0 0
            else
              complainOctets ("No arg for -" ++ String.singleton c ++ " option\n")
              forget "OPTARG"
              finish '?' index 0 0
  | _ => fail "Usage: getopts optstring var [arg...]"

end BundleForge.Shell.Run
