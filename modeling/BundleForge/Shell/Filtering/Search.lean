import BundleForge.Shell.Regular.Basic

/-!
Searching lines for patterns: which lines match, and the parts of them that do. Main statement: the
lines that are searched for and the other ones are exactly complements.
-/

namespace BundleForge.Shell.Filtering

/-- What is searched for. -/
structure Searching where
  expression : Regular
  anyCase : Bool
  inverted : Bool

namespace Searching

/-- An expression that has to match whole lines, or whole words. -/
def bounded (wholeLine wholeWord : Bool) (r : Regular) : Regular :=
  if wholeLine then .sequence (.edge .textStart) (.sequence r (.edge .textEnd))
  else if wholeWord then .sequence (.edge .noWordBefore) (.sequence r (.edge .noWordBehind))
  else r

def selects (s : Searching) (line : List Char) : Bool :=
  (s.expression.search? (s.expression.subject s.anyCase line) 0).isSome != s.inverted

theorem selects_inverted (s : Searching) (line : List Char) :
    { s with inverted := !s.inverted }.selects line = !s.selects line := by
  simp only [selects]
  generalize (s.expression.search? (s.expression.subject s.anyCase line) 0).isSome = b
  cases b <;> cases s.inverted <;> rfl

/-- The matches of a line from a position on that hold something, with the places where they start. -/
def partsFrom (s : Searching) (subject : Regular.Subject) : Nat → Nat → List (Nat × List Char)
  | 0, _ => []
  | fuel + 1, start =>
    match s.expression.search? subject start with
    | none => []
    | some f =>
      if f.start = f.stop then partsFrom s subject fuel (f.stop + 1)
      else (f.start, subject.between f.start f.stop) :: partsFrom s subject fuel f.stop

def parts (s : Searching) (line : List Char) : List (Nat × List Char) :=
  s.partsFrom (s.expression.subject s.anyCase line) (line.length + 1) 0

end Searching
end BundleForge.Shell.Filtering
