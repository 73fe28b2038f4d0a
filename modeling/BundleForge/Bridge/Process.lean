import BundleForge.Bridge.Session

/-!
The bundler's process as it is seen from outside: what it does when it starts, what can be read from
it and written to it, and how it ends.
-/

namespace BundleForge.Bridge

/-- How a process behaves. It writes and removes files when it starts, or does not start at all.
It has ended already, ends when it is waited for, or ends only when it is told to. -/
structure Script where
  files : List (Path × Node) := []
  removed : List Path := []
  startFault : Option SystemFault := none
  items : List Item := []
  exitCode : Int := 0
  hasEnded : Bool := false
  hangs : Bool := false
  brokenInput : Bool := false
  writes : Option Nat := none
  writeFault : SystemFault := .refused .brokenPipe none

/-- The exit code of a process that was told to end. -/
def terminatedCode : Int := -15

/-- A process that was started: its number among those that were, and its exit code once it is known
to have ended. -/
structure Process where
  number : Nat
  script : Script
  code : Option Int := none
  wire : Wire

namespace Process

def ofScript (number : Nat) (script : Script) : Process where
  number := number
  script := script
  wire := { unread := script.items, writesLeft := script.writes, writeFault := script.writeFault }

/-- Looks whether it has ended. -/
def poll (p : Process) : Process :=
  if p.code.isNone && p.script.hasEnded then { p with code := some p.script.exitCode } else p

/-- Waits for its end, however long that takes. -/
def wait (p : Process) : Process := { p with code := some (p.code.getD p.script.exitCode) }

/-- Tells it to end. Nothing more can be read from it. -/
def terminate (p : Process) : Process :=
  { p with code := some terminatedCode, wire := { p.wire with unread := [] } }

/-- Closes its input. It may refuse, having broken the pipe on its side. -/
def closeInput (p : Process) : Except Refusal Unit × List Event :=
  (if p.script.brokenInput then .error .brokenPipe else .ok (), [.closedInput])

/-- Ends it: it is told to, unless it has ended by itself. -/
def stop (p : Process) : Process × List Event :=
  if p.poll.code.isNone then (p.terminate.wait, [.terminated]) else (p.poll.wait, [])

/-- Whether it is still there when it was given time to end by itself. -/
def outlasts (p : Process) : Bool := p.script.hangs && !p.script.hasEnded && p.code.isNone

/-- Lets it end by itself by closing its input, whether or not it refuses that. When it does not end
in time it is stopped. -/
def finish (p : Process) : Process × List Event :=
  let closing := p.closeInput.2
  if p.outlasts then (p.stop.1, closing ++ p.stop.2) else (p.wait, closing)

theorem code_wait (p : Process) : p.wait.code = some (p.code.getD p.script.exitCode) := rfl

theorem code_stop (p : Process) : p.stop.1.code.isSome = true := by
  unfold stop
  split <;> simp [wait]

theorem code_finish (p : Process) : p.finish.1.code.isSome = true := by
  unfold finish
  simp only
  split
  · exact code_stop p
  · simp [wait]

end Process
end BundleForge.Bridge
