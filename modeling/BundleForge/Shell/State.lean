import BundleForge.Shell.Octets
import BundleForge.Shell.System

/-!
The state of a shell, and actions on it. An action may have to wait for others, and then goes on where it
was; or it stops short, because the shell ends, is killed, or leaves a loop or a function. Main
statements: a value that is put in front of an action does not show, and what is assigned is found again.
-/

namespace BundleForge.Shell

/-- A program with its arguments, and the name that it is called by. -/
structure Image where
  program : String
  name : String
  arguments : List String
deriving DecidableEq, Repr

/-- Why an action stops short: the shell ends with its status, it fails, it is killed, it leaves loops or
their turns, or a function with a status that may be given; a program takes over; or it takes more steps
than are granted. -/
inductive Halt
  | leave
  | failure
  | killed (signal : Nat)
  | leaveLoop (loops : Nat)
  | nextTurn (loops : Nat)
  | returned (given : Bool)
  | become (image : Image)
  | exhausted
deriving DecidableEq, Repr

/-- A redirection whose words are known. -/
inductive Route
  | file (stream : Nat) (opening : Opening) (name : String)
  | join (stream : Nat) (other : Option Nat)
  | document (stream : Nat) (number : Nat)
deriving DecidableEq, Repr

def Route.stream : Route → Nat
  | .file stream .. | .join stream _ | .document stream _ => stream

/-- The options of a shell, each known by a letter. -/
structure Manners where
  letters : List Char := []
deriving DecidableEq, Repr

namespace Manners

def has (m : Manners) (letter : Char) : Bool := m.letters.contains letter

def set (m : Manners) (letter : Char) (on : Bool) : Manners :=
  ⟨if on then letter :: m.letters.filter (· ≠ letter) else m.letters.filter (· ≠ letter)⟩

theorem has_set (m : Manners) (letter : Char) (on : Bool) : (m.set letter on).has letter = on := by
  cases on <;> simp [has, set]

/-- Ends with the first command that fails. -/
def strict (m : Manners) : Bool := m.has 'e'

/-- Needs values for all parameters. -/
def needsValues (m : Manners) : Bool := m.has 'u'

/-- Tells each command that it carries out. -/
def tells (m : Manners) : Bool := m.has 'x'

/-- Carries out no commands. -/
def idle (m : Manners) : Bool := m.has 'n'

/-- Hands every parameter on. -/
def passesAll (m : Manners) : Bool := m.has 'a'

/-- Leaves files that are there alone. -/
def sparesFiles (m : Manners) : Bool := m.has 'C'

/-- Does not look for paths that match. -/
def literalPaths (m : Manners) : Bool := m.has 'f'

end Manners

/-- A variable: its value, if it has one, whether it is handed on, and whether it is fixed. -/
structure Variable where
  value : Option String
  exported : Bool := false
  fixed : Bool := false
deriving DecidableEq, Repr

/-- A job in the background: its processes, each with its ending once the shell has noticed it, and
whether somebody has waited for it. -/
structure Job where
  processes : List (Nat × Option Ending)
  waited : Bool := false
deriving Repr

namespace Job

def pids (j : Job) : List Nat := j.processes.map Prod.fst

def isOver (j : Job) : Bool := j.processes.all fun p => p.2.isSome

/-- How the last process of a job ended. -/
def ending (j : Job) : Ending := (j.processes.getLast?.bind Prod.snd).getD (.exited 0)

end Job

/-- What belongs to one shell alone. All texts are octets. -/
structure Environment where
  pid : Nat
  rootPid : Nat
  parent : Nat
  name : String
  cwd : List String
  directory : String
  arguments : List String := []
  bindings : List (String × Variable) := []
  scopes : List (List (String × Option Variable)) := []
  functions : List (String × Command) := []
  aliases : List (String × String) := []
  documents : List (Nat × Document) := []
  nextDocument : Nat := 0
  status : Nat := 0
  outputStatus : Nat := 0
  trapStatus : Option Nat := none
  line : Nat := 0
  reached : List Nat := []
  command : String := ""
  manners : Manners := {}
  traps : List (Nat × String) := []
  ignored : List Nat := []
  pending : List Nat := []
  loops : Nat := 0
  calls : Nat := 0
  depth : Nat := 0
  jobs : List (Nat × Job) := []
  lastJob : Option Nat := none
  optionPlace : Nat × Nat := (1, 1)
  hashed : List (String × String) := []
  mask : Nat := 0o022
  unprinted : Option String := none

/-- A shell, and what it shares with others. -/
structure State extends Environment where
  world : World

/-- What a process does when it starts: it goes on with a part of a script, whose status may only decide
what is done next, or it is a program. -/
inductive Task
  | script (command : Option Command) (routes : List Route) (tested : Bool)
  | image (image : Image)

/-- A process that is still to start. -/
structure Newborn where
  environment : Environment
  task : Task

/-- What an action waits for: its turn, a time, bytes to read, room to write, the end of some processes,
of one of some, or of one at some time at the latest. -/
inductive Need
  | turn
  | time (at_ : Nat)
  | bytes (file : Nat)
  | room (pipe : Nat)
  | ends (processes : List Nat)
  | anyEnd (processes : List Nat)
  | endOrTime (process : Nat) (at_ : Nat)
deriving DecidableEq, Repr

/-- How an action goes on: it is done, it starts another process, or it waits, for a signal at the latest
where that is said. -/
inductive Step (α : Type)
  | done (result : Except Halt α) (state : State)
  | start (newborn : Newborn) (state : State) (resume : State → Step α)
  | pause (need : Need) (orSignal : Bool) (state : State) (resume : State → Step α)

namespace Step

variable {α β : Type}

/-- A step, and what is made of its result. -/
def andThen : Step α → (Except Halt α → State → Step β) → Step β
  | .done result s, next => next result s
  | .start newborn s resume, next => .start newborn s fun s => (resume s).andThen next
  | .pause need orSignal s resume, next => .pause need orSignal s fun s => (resume s).andThen next

end Step

/-- An action of a shell. -/
def Run (α : Type) : Type := State → Step α

namespace Run

variable {α β : Type}

@[inline] protected def pure (a : α) : Run α := fun s => .done (.ok a) s

@[inline] protected def bind (x : Run α) (f : α → Run β) : Run β := fun s =>
  match x s with
  | .done (.ok a) s => f a s
  | .done (.error h) s => .done (.error h) s
  | step => step.andThen fun
    | .ok a => f a
    | .error h => .done (.error h)

@[always_inline]
instance : Monad Run where
  pure := Run.pure
  bind := Run.bind

@[always_inline, inline]
def getState : Run State := fun s => .done (.ok s) s

@[always_inline, inline]
def setState (s : State) : Run Unit := fun _ => .done (.ok ()) s

@[always_inline]
instance : MonadStateOf State Run where
  get := getState
  set := setState
  modifyGet f := fun s =>
    match f s with
    | (a, s) => .done (.ok a) s

theorem pure_bind (a : α) (f : α → Run β) : (pure a >>= f) = f a := rfl

@[inline] def halt (h : Halt) : Run α := fun s => .done (.error h) s

theorem halt_bind (h : Halt) (f : α → Run β) : ((halt h : Run α) >>= f) = halt h := rfl

/-- An action together with why it stopped short, if it did. -/
@[inline] def attempt (x : Run α) : Run (Except Halt α) := fun s =>
  match x s with
  | .done result s => .done (.ok result) s
  | step => step.andThen fun result => .done (.ok result)

/-- What was attempted counts after all. -/
@[inline] def settle (result : Except Halt α) : Run α := fun s => .done result s

theorem attempt_settle (result : Except Halt α) (s : State) :
    (attempt (settle result)) s = .done (.ok result) s := rfl

/-- Waits. -/
def pause (need : Need) : Run Unit := fun s => .pause need false s fun s => .done (.ok ()) s

/-- Waits, for a signal at the latest. -/
def pauseOrSignal (need : Need) : Run Unit := fun s => .pause need true s fun s => .done (.ok ()) s

/-- Starts a process. -/
def start (newborn : Newborn) : Run Unit := fun s => .start newborn s fun s => .done (.ok ()) s

/-- What is put right behind an action: nothing where a program takes over. -/
@[inline] def mended (mend : State → State) (result : Except Halt α) (s : State) : Step α :=
  match result with
  | .error (.become image) => .done (.error (.become image)) s
  | result => .done result (mend s)

/-- Something is put right after an action. -/
@[inline] def mending (x : Run α) (mend : State → State) : Run α := fun s =>
  match x s with
  | .done result s => mended mend result s
  | step => step.andThen (mended mend)

/-- Repeats a step up to one that gives an answer. -/
def iterate {σ : Type} (step : σ → Run (σ ⊕ α)) : Nat → σ → Run α
  | 0, _ => halt .exhausted
  | n + 1, x => fun s =>
    match step x s with
    | .done (.ok (.inl x)) s => iterate step n x s
    | .done (.ok (.inr a)) s => .done (.ok a) s
    | .done (.error h) s => .done (.error h) s
    | paused => paused.andThen fun
      | .ok (.inl x) => iterate step n x
      | .ok (.inr a) => fun s => .done (.ok a) s
      | .error h => fun s => .done (.error h) s

end Run
end BundleForge.Shell
