import BundleForge.Shell.Session
import BundleForge.Shell.Utility.Carrying

/-!
A machine on which processes run in turn. A process runs until it has to wait; one that waits for nothing
more that could come never goes on. Where all processes wait for a time, the clock goes on to the first of
these times. Main statements: a process that is ready to run does not wait for time to pass, and a machine
without processes stands still.
-/

namespace BundleForge.Shell

/-- A process that waits: its environment, what it waits for, whether a signal ends the waiting, and how
it goes on. -/
structure Waiting where
  environment : Environment
  need : Need
  orSignal : Bool
  resume : State → Step Unit

/-- The processes that wait, in the order in which they began to, and what they share. -/
structure Machine where
  world : World
  waiting : List Waiting := []

/-- How a machine comes to stand still: nothing runs any more, processes wait in vain, or there were more
turns than are granted. -/
inductive Standstill
  | quiet
  | waiting
  | endless
deriving DecidableEq, Repr

namespace Task

/-- What a process does. -/
def run : Task → Run Unit
  | .script command routes tested => Run.concluding (Run.part depthLimit command routes tested)
  | .image called =>
    if called.program = Surroundings.shellName then Run.concluding Run.shell
    else match Run.program? called.program with
      | some action => do Run.setStatus (← action (called.arguments.map Octets.toText))
      | none => Run.setStatus 127

end Task

/-- A process that is still to start, as it waits for its turn. A program starts afresh. -/
def Newborn.waiting (n : Newborn) : Waiting where
  environment := match n.task with
    | .script .. => n.environment
    | .image image => n.environment.becoming image
  need := .turn
  orSignal := false
  resume := n.task.run

namespace Machine

/-- Whether what a process waits for is there. -/
def isMet (w : World) : Need → Bool
  | .turn => true
  | .time at_ => at_ ≤ w.clock
  | .bytes file => w.isReady file
  | .room pipe => w.hasRoom pipe
  | .ends pids => pids.all w.isOver
  | .anyEnd pids => pids.any w.isOver
  | .endOrTime pid at_ => w.isOver pid || at_ ≤ w.clock

/-- When a process goes on at the latest, if that is a matter of time. -/
def dueAt? : Need → Option Nat
  | .time at_ | .endOrTime _ at_ => some at_
  | _ => none

def isReady (w : World) (p : Waiting) : Bool :=
  isMet w p.need || (p.orSignal && !p.environment.pending.isEmpty)

theorem isReady_turn (w : World) (e : Environment) (orSignal : Bool) (resume : State → Step Unit) :
    isReady w ⟨e, .turn, orSignal, resume⟩ = true := rfl

/-- How a process ended, by why it stopped short if it did. -/
def endingOf (result : Except Halt Unit) (status : Nat) : Ending :=
  match result with
  | .error (.killed signal) => .killed signal
  | _ => .exited (status % 256)

/-- The machine without a process that ended. The one that started it hears of that if it asked to. -/
def finish (e : Environment) (ending : Ending) (m : Machine) : Machine where
  world := m.world.finish e.pid ending
  waiting := m.waiting.map fun p =>
    if p.environment.pid = e.parent && (p.environment.traps.lookup childSignal).any (!·.isEmpty) then
      { p with environment.pending := childSignal :: p.environment.pending.filter (· ≠ childSignal) }
    else p

theorem finish_alone (e : Environment) (ending : Ending) (w : World) :
    finish e ending ⟨w, []⟩ = ⟨w.finish e.pid ending, []⟩ := rfl

/-- Follows a process up to where it waits, or ends. A program that takes over goes on in its place. -/
def follow : Nat → Step Unit → Machine → Machine × Bool
  | 0, _, m => (m, false)
  | fuel + 1, step, m =>
    match step with
    | .start newborn s resume =>
      follow fuel (resume s) { m with waiting := m.waiting ++ [newborn.waiting] }
    | .pause need orSignal s resume =>
      ({ world := s.world
         waiting := m.waiting ++ [⟨s.toEnvironment, need, orSignal, resume⟩] }, true)
    | .done (.error (.become image)) s =>
      let e := s.toEnvironment.becoming image
      follow fuel ((Task.image image).run { toEnvironment := e, world := s.world }) m
    | .done (.error .exhausted) s => ({ m with world := s.world }, false)
    | .done result s =>
      (finish s.toEnvironment (endingOf result s.status) { m with world := s.world }, true)

/-- Delivers the signals on their way to a process. It waits on, unless one of them ends it. -/
def deliver (m : Machine) (pid : Nat) : Machine :=
  let process := m.world.process pid
  match process.signals, m.waiting.find? fun p => p.environment.pid = pid with
  | [], _ | _, none => m
  | signals, some p =>
    let world := m.world.withProcess pid { process with signals := [] }
    match (signals.forM Run.receive) { toEnvironment := p.environment, world } with
    | .done (.error (.killed signal)) s =>
      let waiting := m.waiting.filter fun p => p.environment.pid ≠ pid
      finish s.toEnvironment (.killed signal) { world := s.world, waiting }
    | .done _ s =>
      let waiting := m.waiting.map fun p =>
        if p.environment.pid = pid then { p with environment := s.toEnvironment } else p
      { world := s.world, waiting }
    | _ => { m with world }

def deliverAll (m : Machine) : Machine := (m.waiting.map fun p => p.environment.pid).foldl deliver m

/-- How long a turn is that a process gives way for. -/
def turnLength : Nat := 1000

/-- Lets processes run until nothing can run any more. -/
def run : Nat → Machine → Machine × Standstill
  | 0, m => (m, .endless)
  | fuel + 1, m =>
    if m.waiting.isEmpty then (m, .quiet)
    else
      let m := if m.world.processes.any fun p => !p.2.signals.isEmpty then m.deliverAll else m
      match m.waiting.findIdx? (isReady m.world) with
      | some i =>
        match m.waiting[i]? with
        | none => (m, .quiet)
        | some p =>
          let world := if p.need = .turn then { m.world with clock := m.world.clock + turnLength } else m.world
          let others := { world, waiting := m.waiting.eraseIdx i }
          let (m, goesOn) := follow fuel (p.resume { toEnvironment := p.environment, world }) others
          if goesOn then run fuel m else (m, .endless)
      | none =>
        match (m.waiting.filterMap fun p => dueAt? p.need).min? with
        | some time => run fuel { m with world := { m.world with clock := max time (m.world.clock + 1) } }
        | none => (m, if m.waiting.isEmpty then .quiet else .waiting)

theorem run_nothing (fuel : Nat) (w : World) : run (fuel + 1) ⟨w, []⟩ = (⟨w, []⟩, .quiet) := rfl

/-- How many turns are granted. -/
def turnLimit : Nat := 2000000

end Machine
end BundleForge.Shell
