import BundleForge.Command
import BundleForge.Shell.Machine

/-!
Starting programs: the shell, and the commands that stand in its directories for programs. A program
is looked up only after the directory it starts in was entered. Main statement: a command that
succeeded has the exit code zero.
-/

namespace BundleForge.Shell

/-- Why a program does not start. -/
inductive LaunchFault
  | noProgram
  | nullInText
  | refused (cause : Refusal)
deriving DecidableEq, Repr

/-- How a program that was started goes on: it ended with an exit code, it waits for input, or it
never stops by itself. -/
inductive Course
  | ended (code : Int)
  | waiting
  | endless
deriving DecidableEq, Repr

/-- Whether a program has ended. -/
def Course.isOver : Course → Bool
  | .ended _ => true
  | _ => false

/-- What a program has done so far; what it printed is in the pieces that it printed it in. -/
structure Launched where
  course : Course
  output : List (List UInt8)
  errors : List (List UInt8)
  tree : Tree

/-- The first number of bytes that is too many for one argument, with the zero behind it. -/
def argumentLimit : Nat := 131072

/-- The variables that a program is started with. -/
def startingVariables : List (String × String) := [
  ("PATH", "/usr/local/bin:/usr/local/sbin:/usr/local/bin:/usr/sbin:/usr/bin:/sbin:/bin"),
  ("HOME", "/root"), ("LANG", "C.UTF-8")]

/-- A run at its start, in a directory of a file tree, with the channels that it prints to and what it
reads. -/
def startOf (t : Tree) (place : List String) (input : List UInt8) (open_ : Bool) : State :=
  let stream (lead : Lead) (reads : Bool) : OpenFile := { lead, reads, writes := !reads }
  let pid := firstProcess
  let world : World := {
    tree := Surroundings.surround t, input, inputEnds := !open_, nextProcess := pid + 1
    processes := [(pid, {})] }
  let world := ((world.openAs pid 0 (stream .input true)).openAs pid 1 (stream (.channel 0) false)).openAs
    pid 2 (stream (.channel 1) false)
  { pid, rootPid := pid, parent := parentProcess, name := "", cwd := place, directory := ""
    bindings := startingVariables.map fun (name, value) => (name, ⟨some value, true, false⟩)
    world }

/-- The program that a name stands for, or why there is none. A name without a slash is looked for in the
directories for programs. -/
def program? (s : State) (name : String) (arguments : List String) : Except Refusal Image :=
  Run.imageNamed s .none (Octets.ofText name) (arguments.map Octets.ofText)

/-- The course of a run, by how its machine came to stand still. -/
def courseOf (standstill : Standstill) (ending : Option Ending) : Course :=
  match standstill with
  | .endless => .endless
  | .waiting => .waiting
  | .quiet =>
    match ending with
    | some (.killed signal) => .ended (-(signal : Int))
    | some (.exited status) => .ended status
    | none => .waiting

/-- Starts a program in a directory of a file tree, and follows it until it ends or waits. -/
def launch (t : Tree) (cwd : Path) (input : List UInt8) (open_ : Bool) (command : List String) :
    Except LaunchFault Launched :=
  match command with
  | [] => .error .noProgram
  | name :: arguments =>
    if (cwd.text :: command).any fun s => s.toList.contains (Char.ofNat 0) then .error .nullInText
    else match t.realPlace cwd, t.isDir cwd with
      | .error cause, _ => .error (.refused cause)
      | .ok _, .ok false | .ok _, .error _ => .error (.refused .notDirectory)
      | .ok place, .ok true =>
        let s := startOf t place input open_
        match program? s name arguments with
        | .error cause => .error (.refused cause)
        | .ok image =>
          if (name :: arguments).any fun a => argumentLimit ≤ a.utf8ByteSize then
            .error (.refused .argumentsTooLong)
          else
            let first : Waiting := {
              environment := s.toEnvironment.becoming image, need := .turn, orSignal := false
              resume := (Task.image image).run }
            let (m, standstill) := Machine.run Machine.turnLimit ⟨s.world, [first]⟩
            let w := m.world
            let pieces (n : Nat) : List (List UInt8) := (w.channels[n]?.getD #[]).toList
            .ok ⟨courseOf standstill (w.endingOf firstProcess), pieces 0, pieces 1, w.tree⟩

/-- Why a command gave no result. -/
inductive CommandFault
  | launch (fault : LaunchFault)
  | endless
  | undecodable (refusal : Text.Utf8.Refusal)
  | failed (result : CommandResult)
deriving DecidableEq, Repr

/-- Bytes that were printed as text, every line end a line feed. -/
def printedText (bytes : List UInt8) : Except CommandFault String :=
  match Text.Utf8.decode bytes with
  | .ok s => .ok (Text.unifyNewlines s)
  | .error refusal => .error (.undecodable refusal)

/-- Runs a command to its end with nothing to read. An exit code other than zero is a fault. -/
def runCommand (t : Tree) (cwd : Path) (command : List String) :
    Except CommandFault (CommandResult × Tree) :=
  match launch t cwd [] false command with
  | .error fault => .error (.launch fault)
  | .ok launched =>
    match launched.course with
    | .waiting | .endless => .error .endless
    | .ended code => do
      let output ← printedText launched.output.flatten
      let errors ← printedText launched.errors.flatten
      let result : CommandResult := { command, code, output, errors }
      if code = 0 then return (result, launched.tree) else throw (.failed result)

theorem code_of_runCommand {t t' : Tree} {cwd : Path} {command : List String} {r : CommandResult}
    (h : runCommand t cwd command = .ok (r, t')) : r.code = 0 := by
  unfold runCommand at h
  split at h
  · simp at h
  · split at h
    · simp at h
    · simp at h
    · rename_i code _
      simp only [bind, Except.bind] at h
      split at h
      · simp at h
      · split at h
        · simp at h
        · split at h
          · rename_i hc
            simp only [pure, Except.pure, Except.ok.injEq, Prod.mk.injEq] at h
            rw [← h.1]
            exact hc
          · simp [throw, throwThe, MonadExceptOf.throw] at h

end BundleForge.Shell
