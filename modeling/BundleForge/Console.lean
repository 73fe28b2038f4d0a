/-!
Console levels. A line is printed when its severity is allowed at the level in force. Main
statement: what is allowed at a level is allowed at every higher one.
-/

namespace BundleForge

inductive Level
  | none
  | error
  | info
  | debug
deriving DecidableEq, Repr

namespace Level

def all : List Level := [.none, .error, .info, .debug]

def name : Level → String
  | .none => "none"
  | .error => "error"
  | .info => "info"
  | .debug => "debug"

def rank : Level → Nat
  | .none => 0
  | .error => 1
  | .info => 2
  | .debug => 3

def ofName? (name : String) : Option Level := all.find? fun l => l.name = name

/-- What is said of a level that there is not. -/
def unknownMessage (name : String) : String :=
  "Unknown log level '" ++ name ++ "'. Allowed: " ++ ", ".intercalate (all.map Level.name)

end Level

/-- What sort of line it is. A report is printed as it is, without a tag. -/
inductive Severity
  | error
  | info
  | debug
  | report
deriving DecidableEq, Repr

namespace Severity

/-- The lowest level at which a line is printed. -/
def level : Severity → Level
  | .error => .error
  | .info | .report => .info
  | .debug => .debug

def tag : Severity → String
  | .error => "[ERROR] "
  | .info => "[INFO] "
  | .debug => "[DEBUG] "
  | .report => ""

end Severity

namespace Level

def allows (l : Level) (s : Severity) : Bool := s.level.rank ≤ l.rank

theorem allows_mono {low high : Level} (h : low.rank ≤ high.rank) {s : Severity}
    (allowed : low.allows s = true) : high.allows s = true := by
  simp only [allows, decide_eq_true_eq] at *
  omega

theorem not_allows_none (s : Severity) : Level.none.allows s = false := by
  cases s <;> rfl

theorem ofName?_name (l : Level) : ofName? l.name = some l := by
  cases l <;> rfl

end Level
end BundleForge
