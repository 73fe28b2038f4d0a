import BundleForge.Shell.Variable

/-!
Processes that a shell starts: it waits for them, reads what they print, or leaves them to themselves. A
process starts with the streams of the one that starts it. Main statement: nothing is told of a process
that ended by itself.
-/

namespace BundleForge.Shell

/-- What is said of a process that a signal ended. Where nobody reads what is printed, or the user stops
it, that is no news. -/
def signalTold (signal : Nat) : String :=
  let told : List (Nat × String) := [
    (1, "Hangup"), (3, "Quit"), (4, "Illegal instruction"), (5, "Trace/breakpoint trap"), (6, "Aborted"),
    (7, "Bus error"), (8, "Floating point exception"), (9, "Killed"), (10, "User defined signal 1"),
    (11, "Segmentation fault"), (12, "User defined signal 2"), (14, "Alarm clock"), (15, "Terminated"),
    (16, "Stack fault"), (24, "CPU time limit exceeded"), (25, "File size limit exceeded"),
    (26, "Virtual timer expired"), (27, "Profiling timer expired"), (29, "I/O possible"),
    (30, "Power failure"), (31, "Bad system call")]
  ((told.lookup signal).map (· ++ "\n")).getD ""

/-- What is said of the end of a process. -/
def Ending.told : Ending → String
  | .exited _ => ""
  | .killed signal => signalTold signal

theorem Ending.told_exited (status : Nat) : (Ending.exited status).told = "" := rfl

namespace World

def endingOf (w : World) (pid : Nat) : Option Ending := (w.processes.lookup pid).bind Process.ending

/-- Whether a process has ended, or was never there. -/
def isOver (w : World) (pid : Nat) : Bool := (w.processes.lookup pid).all fun p => p.ending.isSome

/-- Forgets processes that have ended. -/
def reap (w : World) (pids : List Nat) : World :=
  { w with processes := w.processes.filter fun p => !(pids.contains p.1 && p.2.ending.isSome) }

/-- The first number from ten on that is no stream of a process. -/
def spareStream (w : World) (pid : Nat) : Nat :=
  let used := (w.process pid).streams.map Prod.fst
  (((List.range (used.length + 1)).map (· + 10)).find? fun n => !used.contains n).getD 10

/-- Opens something as a stream of a process. -/
def openAs (w : World) (pid stream : Nat) (f : OpenFile) : World :=
  let (file, w) := w.addFile f
  w.connect pid stream file

/-- Makes a stream of a process lead where a stream of another one leads, or nowhere. -/
def share (w : World) (from_ stream to_ stream' : Nat) : World :=
  match w.fileOf? from_ stream with
  | some file => w.connect to_ stream' file
  | none => w.close to_ stream'

end World

/-- The environment of a process that goes on with a part of a script. Scripts for signals are not its
own, but signals that are ignored stay so; jobs are not its own either. -/
def Environment.ofChild (e : Environment) (pid : Nat) : Environment :=
  { e with
    pid, parent := e.pid, jobs := [], pending := [], reached := e.reached.drop (e.reached.length - 1)
    traps := e.traps.filter fun t => t.2.isEmpty }

namespace Run

/-- Starts a process with a task, whose streams are arranged before it starts. -/
def fork (task : Task) (change : Environment → Environment) (arrange : World → Nat → World) :
    Run Nat := do
  let s ← get
  let pid := s.world.nextProcess
  let world := { s.world with nextProcess := pid + 1 }.withProcess pid
    { streams := (s.world.process s.pid).streams }
  set { s with world := arrange world pid }
  start ⟨change (s.toEnvironment.ofChild pid), task⟩
  return pid

/-- Notices which processes of jobs have ended. -/
def notice : Run Unit := modify fun s =>
  let look (p : Nat × Option Ending) : Nat × Option Ending := (p.1, p.2.orElse fun _ => s.world.endingOf p.1)
  let jobs := s.jobs.map fun (n, j) => (n, { j with processes := j.processes.map look })
  let ended := jobs.flatMap fun (_, j) => j.processes.filterMap fun p => p.2.map fun _ => p.1
  { s with jobs, world := s.world.reap ended }

/-- Waits until some processes have ended, and gives their endings. -/
def awaitAll (pids : List Nat) : Run (List Ending) := do
  let s ← get
  unless pids.all s.world.isOver do pause (.ends pids)
  let s ← get
  let endings := pids.map fun pid => (s.world.endingOf pid).getD (.exited 0)
  set { s with world := s.world.reap pids }
  notice
  return endings

/-- Waits for processes, and takes over the status of the last one. What ended them is told. -/
def follow (pids : List Nat) : Run Unit := do
  let endings ← awaitAll pids
  complainOctets (String.join (endings.map Ending.told))
  setStatus ((endings.getLast?.map Ending.status).getD 0)

/-- What a task prints, and how it ended. What ended it is told. -/
def capture (task : Task) : Run (List UInt8 × Ending) := do
  let s ← get
  let own := s.pid
  let (pipe, world) := s.world.addPipe { bounded := false }
  let back := world.spareStream own
  let front := back + 1000
  let world := (world.openAs own front { lead := .pipe pipe, reads := false, writes := true }).openAs
    own back { lead := .pipe pipe, reads := true, writes := false }
  set { s with world }
  let pid ← fork task id fun w pid => ((w.share own front pid 1).close pid front).close pid back
  modifyWorld fun w => w.close own front
  let bytes ← match ← readToEnd back with
    | .ok bytes => pure bytes
    | .error _ => pure []
  let endings ← awaitAll [pid]
  complainOctets (String.join (endings.map Ending.told))
  modifyWorld fun w => w.close own back
  return (bytes, (endings.head?).getD (.exited 0))

end Run
end BundleForge.Shell
