import BundleForge.Shell.Command
import BundleForge.Tree.Basic

/-!
What the processes of a run share: the file tree, open files, pipes, a clock, and the processes
themselves. A stream of a process is a number for an open file; several streams may lead to the same
open file, and then share its position. Main statements: what goes into a pipe comes out in order, and
an open file is found under its number.
-/

namespace BundleForge.Shell

/-- Bytes on their way from one process to another, in the pieces they were written in. -/
structure Pipe where
  front : List UInt8 := []
  back : List (List UInt8) := []
  size : Nat := 0
  bounded : Bool := true

namespace Pipe

/-- How many bytes wait in a pipe at most. -/
def capacity : Nat := 65536

def put (bytes : List UInt8) (p : Pipe) : Pipe :=
  { p with back := bytes :: p.back, size := p.size + bytes.length }

/-- The bytes on their way, in order. -/
def toList (p : Pipe) : List UInt8 := p.front ++ p.back.reverse.flatten

theorem toList_put (bytes : List UInt8) (p : Pipe) : (p.put bytes).toList = p.toList ++ bytes := by
  simp [put, toList]

/-- Takes up to a number of bytes. -/
def take (n : Nat) (p : Pipe) : List UInt8 × Pipe :=
  let all := if p.back.isEmpty then p.front else p.toList
  let taken := all.take n
  (taken, { p with front := all.drop n, back := [], size := p.size - taken.length })

theorem take_append (n : Nat) (p : Pipe) : (p.take n).1 ++ (p.take n).2.toList = p.toList := by
  have h : (if p.back.isEmpty then p.front else p.toList) = p.toList := by
    split
    · rename_i e
      simp [toList, List.isEmpty_iff.1 e]
    · rfl
  simp only [take, h]
  simp [toList]

def room (p : Pipe) : Nat := if p.bounded then capacity - p.size else 2 * capacity

end Pipe

/-- What an open file leads to: what the run is given to read, a channel that it prints to, a file or a
directory of the tree, a pipe, or a device: one that holds nothing, zeros without end, or no room. -/
inductive Lead
  | input
  | channel (n : Nat)
  | file (place : List String)
  | directory (place : List String)
  | pipe (n : Nat)
  | nothing
  | zeros
  | full
deriving DecidableEq, Repr

/-- An open file. A file that is no longer in the tree still holds what it held when it was last
read or written. -/
structure OpenFile where
  lead : Lead
  reads : Bool
  writes : Bool
  behind : Bool := false
  position : Nat := 0
  held : List UInt8 := []
deriving Repr

/-- How a process ended. -/
inductive Ending
  | exited (status : Nat)
  | killed (signal : Nat)
deriving DecidableEq, Repr

/-- The status that an ending shows as. -/
def Ending.status : Ending → Nat
  | .exited status => status
  | .killed signal => 128 + signal

/-- A process: its open streams, the signals on their way to it, and how it ended. -/
structure Process where
  streams : List (Nat × Nat) := []
  signals : List Nat := []
  ending : Option Ending := none
deriving Repr

/-- What is shared. Times are in millionths of a second. -/
structure World where
  tree : Tree
  modes : List (List String × Nat) := []
  times : List (List String × Nat) := []
  input : List UInt8 := []
  inputEnds : Bool := true
  channels : Array (Array (List UInt8)) := #[#[], #[]]
  files : List (Nat × OpenFile) := []
  pipes : List (Nat × Pipe) := []
  processes : List (Nat × Process) := []
  nextNumber : Nat := 0
  nextProcess : Nat := 0
  clock : Nat := 1
  steps : Nat := 0

namespace World

variable (w : World)

def process (pid : Nat) : Process := (w.processes.lookup pid).getD {}

def withProcess (pid : Nat) (p : Process) : World := { w with processes := Entries.put pid p w.processes }

/-- The number of the open file that a stream leads to. -/
def fileOf? (pid stream : Nat) : Option Nat := (w.process pid).streams.lookup stream

def openFile? (pid stream : Nat) : Option OpenFile := (w.fileOf? pid stream).bind fun file => w.files.lookup file

/-- Whether some stream leads to an open file. -/
def isHeld (file : Nat) : Bool :=
  w.processes.any fun p => p.2.streams.any fun s => s.2 = file

/-- Whether some stream of a running process leads to one end of a pipe. -/
def hasEnd (pipe : Nat) (writes : Bool) : Bool :=
  w.processes.any fun p => p.2.streams.any fun s =>
    (w.files.lookup s.2).any fun f => f.lead = .pipe pipe && (if writes then f.writes else f.reads)

/-- Adds an open file, and gives its number. -/
def addFile (f : OpenFile) : Nat × World :=
  (w.nextNumber, { w with files := (w.nextNumber, f) :: w.files, nextNumber := w.nextNumber + 1 })

theorem lookup_addFile (f : OpenFile) : (w.addFile f).2.files.lookup (w.addFile f).1 = some f := by
  simp [addFile]

def addPipe (p : Pipe) : Nat × World :=
  (w.nextNumber, { w with pipes := (w.nextNumber, p) :: w.pipes, nextNumber := w.nextNumber + 1 })

/-- Forgets an open file that no stream leads to, and the pipe that it was the last end of. -/
def release (file : Nat) : World :=
  if w.isHeld file then w
  else
    let lead := (w.files.lookup file).map OpenFile.lead
    let files := Entries.drop file w.files
    let w := { w with files }
    match lead with
    | some (.pipe n) =>
      if files.any fun f => f.2.lead = .pipe n then w else { w with pipes := Entries.drop n w.pipes }
    | _ => w

/-- Takes a stream of a process away. -/
def close (pid stream : Nat) : World :=
  match w.fileOf? pid stream with
  | none => w
  | some file =>
    let p := w.process pid
    (w.withProcess pid { p with streams := Entries.drop stream p.streams }).release file

/-- Makes a stream of a process lead to an open file. -/
def connect (pid stream file : Nat) : World :=
  let before := w.fileOf? pid stream
  if before = some file then w
  else
    let p := w.process pid
    let w := w.withProcess pid { p with streams := Entries.put stream file p.streams }
    match before with
    | some other => w.release other
    | none => w

/-- The end of a process: its streams are closed. -/
def finish (pid : Nat) (ending : Ending) : World :=
  let files := (w.process pid).streams.map Prod.snd
  let w := w.withProcess pid { ending := some ending }
  files.foldl World.release w

/-- The bytes of the file at a place. -/
def contentAt? (place : List String) : Option (List UInt8) :=
  match w.tree.top.at? place with
  | some (.file content) => some content
  | _ => none

/-- The permissions at a place, as the digits of a number in base eight. The programs of the system may
be run, and everybody may leave files in its directory for that. -/
def modeAt (place : List String) : Nat :=
  (w.modes.lookup place).getD (
    if place = ["tmp"] then 0o1777
    else if (w.tree.top.at? place).any Node.isDirNode || ["usr", "bin"].isPrefixOf place then 0o755
    else 0o644)

/-- When what stands at a place was written last. -/
def timeAt (place : List String) : Nat := (w.times.lookup place).getD 0

/-- The world in which something was just written at a place. -/
def stamped (place : List String) : World := { w with times := Entries.put place w.clock w.times }

/-- Whether what stands at a place may be run. -/
def isRunnable (place : List String) : Bool := w.modeAt place &&& 0o111 ≠ 0

/-- What was known of places that are gone, and of all that was in them, is forgotten. -/
def forget (place : List String) : World :=
  { w with
    modes := w.modes.filter fun m => !place.isPrefixOf m.1
    times := w.times.filter fun t => !place.isPrefixOf t.1 }

end World
end BundleForge.Shell
