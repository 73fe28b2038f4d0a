import BundleForge.Bridge.Engine
import Mathlib.Tactic.Common

/-!
One build of the engine, from the start of its process to the end of it. Main statement: what a build
comes to in each of the ways in which its process can start and its conversation can end; the process
of a build is left running by a watch session alone.
-/

namespace BundleForge.Bridge

namespace Process

theorem number_stop (p : Process) : p.stop.1.number = p.number := by
  unfold stop poll
  split <;> split <;> rfl

theorem number_finish (p : Process) : p.finish.1.number = p.number := by
  unfold finish
  dsimp only
  split
  · exact number_stop p
  · rfl

end Process

/-- The process of a build that broke off, at its end: after an error of the bundler it was let to end by
itself, after anything else it was stopped. -/
def Fault.endOf (fault : Fault) (p : Process) : Process × List Event :=
  match fault with
  | .bundler .. => p.finish
  | _ => p.stop

/-- What a build breaks off with, given its process at the end. -/
def Fault.seenFrom (fault : Fault) (p : Process) : Fault :=
  match fault with
  | .bundler text errors => .bundler (Engine.withExitCode text p) errors
  | fault => fault

theorem Fault.code_endOf (fault : Fault) (p : Process) : (fault.endOf p).1.code.isSome = true := by
  cases fault with
  | bundler => exact p.code_finish
  | _ => exact p.code_stop

theorem Fault.number_endOf (fault : Fault) (p : Process) : (fault.endOf p).1.number = p.number := by
  cases fault with
  | bundler => exact p.number_finish
  | _ => exact p.number_stop

namespace Engine

variable {e : Engine} {job : Job} {r : Running} {script : Script} {rest : List Script}

/-- What is seen of a build before its process says anything. -/
def opening (e : Engine) (job : Job) : List Event :=
  e.level.log .debug ("[" ++ job.label ++ "]: Starting " ++ commandLine e.command) ++
    [.spawned e.command e.cwd.text]

/-- A process that did not start has still done what it does to the files. -/
def tried (r : Running) (script : Script) (rest : List Script) : Running :=
  { r with tree := startEffect script r.tree, scripts := rest }

def launched (r : Running) (script : Script) (rest : List Script) : Running :=
  { tried r script rest with started := r.started + 1 }

/-- The session of a build over a tree. -/
def sessionOn (e : Engine) (job : Job) (t : Tree) : Session where
  label := job.label
  level := e.level
  policy := job.policy
  onRebuild := job.onRebuild
  tree := t

/-- The conversation of a build with its process. -/
def conversation (e : Engine) (job : Job) (r : Running) (script : Script) : Done Fault Wire Outcome :=
  ((e.sessionOn job (startEffect script r.tree)).start job.options).run
    (Process.ofScript r.started script).wire

/-- The process of a build as its conversation leaves it. -/
def heardOut (e : Engine) (job : Job) (r : Running) (script : Script) : Process :=
  { Process.ofScript r.started script with wire := (e.conversation job r script).state }

def withEnded (r : Running) (p : Process) : Running := { r with ended := r.ended ++ [p] }

theorem run_ending {ε : Type} (ended : Process × List Event) (r : Running) :
    (ending ended : Action ε Running Process).run r = ⟨.ok ended.1, withEnded r ended.1, ended.2⟩ := rfl

theorem run_openWatch (w : Watcher) (r : Running) :
    (openWatch w).run r = ⟨.ok (), { r with watchers := r.watchers ++ [w] }, []⟩ := rfl

theorem run_breakOff {α : Type} (p : Process) (fault : Fault) (r : Running) :
    (breakOff p fault : Action Fault Running α).run r =
      ⟨.error (fault.seenFrom (fault.endOf p).1), withEnded r (fault.endOf p).1, (fault.endOf p).2⟩ := by
  cases fault with
  | bundler text errors =>
    unfold breakOff
    rw [Action.run_bind_ok (run_ending p.finish r)]
    simp [Fault.seenFrom, Fault.endOf]
  | unresolved | system | reading | undecodable | integer | name | misfit =>
    unfold breakOff
    dsimp only
    rw [Action.run_bind_ok (run_ending p.stop r)]
    simp [Fault.seenFrom, Fault.endOf]

theorem run_log (e : Engine) (job : Job) (r : Running) :
    (Action.emit (e.level.log .debug ("[" ++ job.label ++ "]: Starting " ++ commandLine e.command)) :
      Action Fault Running Unit).run r =
      ⟨.ok (), r, e.level.log .debug ("[" ++ job.label ++ "]: Starting " ++ commandLine e.command)⟩ := rfl

/-- Without another process to be had a build is refused. -/
theorem run_build_of_none (h : r.scripts = []) :
    (e.build job).run r = ⟨.error (.system (.reported noProcess)), r, e.opening job⟩ := by
  have refused : e.spawn.run r =
      ⟨.error (.system (.reported noProcess)), r, [.spawned e.command e.cwd.text]⟩ := by
    simp [spawn, Action.run, h]
  unfold build
  rw [Action.run_bind_ok (run_log e job r), Action.run_bind_error refused]
  rfl

/-- A process that does not start leaves nothing but what it did to the files. -/
theorem run_build_of_startFault (h : r.scripts = script :: rest) {fault : SystemFault}
    (hf : script.startFault = some fault) :
    (e.build job).run r = ⟨.error (.system fault), tried r script rest, e.opening job⟩ := by
  have refused : e.spawn.run r =
      ⟨.error (.system fault), tried r script rest, [.spawned e.command e.cwd.text]⟩ := by
    simp [spawn, Action.run, h, hf, tried]
  unfold build
  rw [Action.run_bind_ok (run_log e job r), Action.run_bind_error refused]
  rfl

/-- What follows the conversation of a build. -/
def closing (e : Engine) (job : Job) (r : Running) (script : Script) (rest : List Script) :
    Done Fault Running Outcome :=
  let p := e.heardOut job r script
  let r' := launched r script rest
  match (e.conversation job r script).result with
  | .error fault =>
    ⟨.error (fault.seenFrom (fault.endOf p).1), withEnded r' (fault.endOf p).1, (fault.endOf p).2⟩
  | .ok outcome =>
    if job.options.watch then
      ⟨.ok outcome,
        { r' with watchers := r'.watchers ++ [⟨e.sessionOn job (startEffect script r.tree), p⟩] }, []⟩
    else ⟨.ok outcome, withEnded r' p.finish.1, p.finish.2⟩

/-- A process that starts is conversed with and then seen to its end, or watched. -/
theorem run_build_of_start (h : r.scripts = script :: rest) (hf : script.startFault = none) :
    (e.build job).run r =
      ⟨(e.closing job r script rest).result, (e.closing job r script rest).state,
        e.opening job ++ (e.conversation job r script).events ++
          (e.closing job r script rest).events⟩ := by
  have started : e.spawn.run r =
      ⟨.ok (.ofScript r.started script), launched r script rest, [.spawned e.command e.cwd.text]⟩ := by
    simp [spawn, Action.run, h, hf, launched, tried]
  have conversed : (converse ((e.sessionOn job (launched r script rest).tree).start job.options)
      (.ofScript r.started script) : Action Fault Running (Except Fault Outcome × Process)).run
        (launched r script rest) =
      ⟨.ok ((e.conversation job r script).result, e.heardOut job r script), launched r script rest,
        (e.conversation job r script).events⟩ := rfl
  unfold sessionOn at conversed
  unfold build
  rw [Action.run_bind_ok (run_log e job r), Action.run_bind_ok started,
    Action.run_bind_ok (Action.run_state _), Action.run_bind_ok conversed]
  unfold closing
  cases (e.conversation job r script).result with
  | error fault =>
    dsimp only
    rw [run_breakOff]
    simp [opening]
  | ok outcome =>
    dsimp only
    split
    · rw [Action.run_bind_ok (run_openWatch _ _)]
      simp [opening, sessionOn, launched, tried]
    · rw [Action.run_bind_ok (run_ending _ _)]
      simp [opening]

end Engine
end BundleForge.Bridge
