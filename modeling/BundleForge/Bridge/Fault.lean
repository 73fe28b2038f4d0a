import BundleForge.Bridge.Message
import BundleForge.Resolution.Policy

/-!
How a conversation with the bundler breaks off, and what a listener makes of it. Main statement: a
listener goes on after the bundler's own errors only.
-/

namespace BundleForge.Bridge

/-- Why a conversation or a build breaks off. An error of the bundler carries the errors it gave. -/
inductive Fault
  | bundler (text : String) (errors : List Json)
  | unresolved (text : String)
  | system (fault : SystemFault)
  | reading (text : String)
  | undecodable (refusal : Text.Utf8.Refusal)
  | integer (fault : Number.IntegerFault)
  | name (fault : Path.NameFault)
  | misfit (fault : Misfit)
deriving Repr

namespace Fault

def message : Fault → String
  | .bundler text _ => text
  | .unresolved text => text
  | .system fault => fault.message
  | .reading text => text
  | .undecodable refusal => refusal.message
  | .integer fault => fault.message
  | .name fault => fault.message
  | .misfit fault => fault.message

def ofLine : LineFault → Fault
  | .malformed line => .bundler (malformedText line) []
  | .tooDeep => .misfit .tooDeep
  | .integer fault => .integer fault

/-- What a listener does after a fault: it goes on, it ends in good order, or it is lost. -/
inductive Course
  | goesOn
  | ends
  | lost
deriving DecidableEq, Repr

def course : Fault → Course
  | .bundler .. => .goesOn
  | .unresolved _ => .lost
  | .system _ | .reading _ | .undecodable _ | .integer _ | .name _ => .ends
  | .misfit fault => if fault.sort = .value then .ends else .lost

theorem course_eq_goesOn {fault : Fault} (h : fault.course = .goesOn) :
    ∃ text errors, fault = .bundler text errors := by
  cases fault with
  | bundler text errors => exact ⟨text, errors, rfl⟩
  | misfit m =>
    simp only [course] at h
    split at h <;> simp at h
  | _ => simp [course] at h

end Fault
end BundleForge.Bridge
