import BundleForge.Bridge.Process
import BundleForge.Command

/-!
The engine starts one process for each build and sees to its end: a process is left running only for
a watch session, and the closing of the engine ends those too.
-/

namespace BundleForge.Bridge

/-- How bundlers are started. -/
structure Engine where
  level : Level
  cwd : Path
  node : String := "node"
  bridge : String

/-- A watch session that was opened, and its process. -/
structure Watcher where
  session : Session
  process : Process

/-- What changes while builds run: the file tree, the processes that can still be had, how many were
started, those that are known to have ended, the watch sessions that are open, and how often a script
was hardened. -/
structure Running where
  tree : Tree
  scripts : List Script := []
  started : Nat := 0
  ended : List Process := []
  watchers : List Watcher := []
  hardenings : Nat := 0

/-- What is built, and what becomes of it on the way. -/
structure Job where
  options : Options
  label : String
  policy : Option Resolution.Policy := none
  onRebuild : Rebuild → List Event := fun _ => []

/-- The text for a system that has no more processes. -/
def noProcess : String := "no more processes"

namespace Engine

def command (e : Engine) : List String := [e.node, e.bridge]

/-- What a process does to the file tree when it starts. -/
def startEffect (script : Script) (t : Tree) : Tree :=
  script.removed.foldl Tree.removeDir (t.installAll script.files)

/-- Starts the next process. What it does to the files stays done even if it fails to start. -/
def spawn (e : Engine) : Action Fault Running Process := fun r =>
  let events : List Event := [.spawned e.command e.cwd.text]
  match r.scripts with
  | [] => ⟨.error (.system (.reported noProcess)), r, events⟩
  | script :: rest =>
    let r := { r with tree := startEffect script r.tree, scripts := rest }
    match script.startFault with
    | some fault => ⟨.error (.system fault), r, events⟩
    | none => ⟨.ok (.ofScript r.started script), { r with started := r.started + 1 }, events⟩

/-- A step of a conversation with a process, as an action on the process. -/
def converse {ε α : Type} (step : Step α) (p : Process) : Action ε Running (Except Fault α × Process) :=
  fun r =>
    let done := step p.wire
    ⟨.ok (done.result, { p with wire := done.state }), r, done.events⟩

/-- Carries out what is done to a process at its end. -/
def ending {ε : Type} (ended : Process × List Event) : Action ε Running Process :=
  fun r => ⟨.ok ended.1, { r with ended := r.ended ++ [ended.1] }, ended.2⟩

def openWatch (w : Watcher) : Action Fault Running Unit :=
  fun r => ⟨.ok (), { r with watchers := r.watchers ++ [w] }, []⟩

/-- The text of an error, with the exit code where the bundler gave no reason itself. -/
def withExitCode (text : String) (p : Process) : String :=
  match p.code with
  | none | some 0 => text
  | some code => if p.wire.reported then text else text ++ " (exit code " ++ toString code ++ ")"

/-- The end of a process whose build broke off. After an error it may end by itself; after anything
else it is stopped. -/
def breakOff {α : Type} (p : Process) (fault : Fault) : Action Fault Running α :=
  match fault with
  | .bundler text errors => do
    let p ← ending p.finish
    .fail (.bundler (withExitCode text p) errors)
  | fault => do
    let _ ← ending p.stop
    .fail fault

/-- Runs one build. -/
def build (e : Engine) (job : Job) : Action Fault Running Outcome := do
  .emit (e.level.log .debug ("[" ++ job.label ++ "]: Starting " ++ commandLine e.command))
  let process ← e.spawn
  let running ← .state
  let session : Session := {
    label := job.label, level := e.level, policy := job.policy, onRebuild := job.onRebuild,
    tree := running.tree }
  match ← converse (session.start job.options) process with
  | (.error fault, process) => breakOff process fault
  | (.ok outcome, process) =>
    if job.options.watch then openWatch ⟨session, process⟩
    else
      let _ ← ending process.finish
    return outcome

/-- Listens to one watch session to its end. A fault that loses the listener is handed on. -/
def listenTo {ε : Type} (w : Watcher) : Action ε Running (Watcher × Option Fault) := do
  let running ← .state
  let session := { w.session with tree := running.tree }
  let (result, process) ← converse session.listen w.process
  let heard : Process := { process with wire := { process.wire with unread := [] } }
  return (⟨session, heard⟩, match result with
    | .ok () => none
    | .error fault => some fault)

/-- Listens to watch sessions in turn. -/
def listenAll {ε : Type} : List Watcher → Action ε Running (List Watcher × List Fault)
  | [] => pure ([], [])
  | w :: rest => do
    let (w, lost) ← listenTo w
    let (others, faults) ← listenAll rest
    return (w :: others, lost.toList ++ faults)

def setWatchers {ε : Type} (watchers : List Watcher) : Action ε Running Unit :=
  fun r => ⟨.ok (), { r with watchers }, []⟩

/-- Waits until no watch session has anything more to say. The faults are those of lost listeners. -/
def wait {ε : Type} : Action ε Running (List Fault) := do
  let running ← .state
  let (watchers, lost) ← listenAll running.watchers
  setWatchers watchers
  return lost

/-- Ends every process that watches. -/
def stopAll {ε : Type} : List Watcher → Action ε Running Unit
  | [] => pure ()
  | w :: rest => do
    let _ ← ending w.process.stop
    stopAll rest

/-- Closes all watch sessions. -/
def close {ε : Type} : Action ε Running Unit := do
  let running ← .state
  stopAll running.watchers
  setWatchers []

end Engine
end BundleForge.Bridge
