import BundleForge.Console
import BundleForge.Json.Basic

/-!
What a run does to the outside, as a list of events in the order in which they happen.
-/

namespace BundleForge

inductive Stream
  | output
  | errors
deriving DecidableEq, Repr

/-- The errors and warnings of one rebuild that the bundler did by itself. -/
structure Rebuild where
  errors : List Json
  warnings : List Json
deriving Repr

def Rebuild.succeeded (r : Rebuild) : Bool := r.errors.isEmpty

/-- One thing done to the outside. A message to a bundler is sent; one of its own is read. -/
inductive Event
  | printed (stream : Stream) (text : String)
  | spawned (command : List String) (cwd : String)
  | sent (message : Json)
  | read
  | closedInput
  | terminated
  | rebuilt (rebuild : Rebuild)
  | obfuscated (source : String) (command : List String)
deriving Repr

def Severity.stream : Severity → Stream
  | .error => .errors
  | _ => .output

/-- Why a value is no level: none has its name, or it can be no name. -/
inductive Level.Fault
  | unknown (name : String)
  | notKey (kind : String)
deriving DecidableEq, Repr

/-- The level that a value names. -/
def Level.ofJson (j : Json) : Except Level.Fault Level :=
  match j with
  | .str s => (Level.ofName? s).elim (.error (.unknown s)) .ok
  | .arr _ | .obj _ => .error (.notKey j.kind.name)
  | j => .error (.unknown j.text)

/-- The severity that a line of a given sort has. -/
def Severity.ofName? : String → Option Severity
  | "error" => some .error
  | "info" => some .info
  | "debug" => some .debug
  | "report" => some .report
  | _ => none

/-- One console line, or nothing where the level does not allow it. -/
def Level.log (l : Level) (s : Severity) (text : String) : List Event :=
  if l.allows s then [.printed s.stream (s.tag ++ text)] else []

theorem Level.log_of_not_allows {l : Level} {s : Severity} (h : l.allows s = false) (text : String) :
    l.log s text = [] := by
  simp [log, h]

end BundleForge
