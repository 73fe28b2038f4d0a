import BundleForge.Shell.Builtin.Basic
import BundleForge.Shell.Question

/-!
Answers to questions about texts, numbers and files. Main statement: a text that holds nothing is not
filled.
-/

namespace BundleForge.Shell

/-- What stands at a name, as far as questions ask for it. -/
inductive Standing
  | file (place : List String) (filled : Bool)
  | directory (place : List String)
  | device
  | pipe
deriving DecidableEq, Repr

namespace Run

/-- An answer as a status. -/
def verdict (b : Bool) : Nat := if b then 0 else 1

/-- What a name leads to. -/
def standing? (name : String) : Run (Option Standing) := do
  let s ← get
  match s.spot name true with
  | .error _ => return none
  | .ok spot =>
    let ofLead (f : OpenFile) : Standing := match f.lead with
      | .file place => .file place (!(s.world.holding f).isEmpty)
      | .directory place => .directory place
      | .pipe _ | .channel _ | .input => .pipe
      | _ => .device
    match deviceAt? spot.place with
    | some (.stream n) => return (s.world.openFile? s.pid n).map ofLead
    | some _ => return some .device
    | none =>
      return match s.tree.top.at? spot.place with
        | some (.file content) => some (.file spot.place (!content.isEmpty))
        | some (.dir _) => some (.directory spot.place)
        | _ => none

/-- Whether what stands at a name has a property. -/
def askPath (operator name : String) : Run Bool := do
  let name := Octets.toText name
  let found ← standing? name
  let s ← get
  let mode (bits : Nat) : Bool := match found with
    | some (.file place _) | some (.directory place) => s.world.modeAt place &&& bits ≠ 0
    | _ => false
  return match operator with
    | "-e" | "-r" | "-w" | "-O" | "-G" => found.isSome
    | "-f" => (found matches some (.file ..))
    | "-d" => (found matches some (.directory _))
    | "-x" => mode 0o111
    | "-s" => match found with
      | some (.file _ filled) => filled
      | some (.directory _) => true
      | _ => false
    | "-c" => (found matches some .device)
    | "-p" => (found matches some .pipe)
    | "-u" => mode 0o4000
    | "-g" => mode 0o2000
    | "-k" => mode 0o1000
    | "-h" | "-L" => (((s.placeOf name false).toOption).bind s.tree.top.at?).any Node.isLinkNode
    | _ => false

/-- How two numbers compare, or what is no number. -/
def compareNumbers (operator first second : String) : Except Question.Fault Bool := do
  let number (s : String) : Except Question.Fault Int :=
    match Numeral.decimal? s with
    | some n => if Numeral.fits n then pure n else throw (.illegalNumber s)
    | none => throw (.illegalNumber s)
  let a ← number first
  let b ← number second
  return match operator with
    | "-eq" => a = b
    | "-ne" => a ≠ b
    | "-lt" => a < b
    | "-le" => a ≤ b
    | "-gt" => a > b
    | _ => a ≥ b

/-- How what stands at two names compares: which one was written later, or whether both are the same. -/
def comparePaths (operator first second : String) : Run Bool := do
  let s ← get
  let place (name : String) := (s.placeOf (Octets.toText name) true).toOption
  return match place first, place second with
    | some a, some b => match operator with
      | "-nt" => s.world.timeAt b < s.world.timeAt a
      | "-ot" => s.world.timeAt a < s.world.timeAt b
      | _ => a = b
    | _, _ => false

/-- The answer to a question. All parts of it are answered. -/
def answerTo : Question → Run (Except Question.Fault Bool)
  | .nothing => return .ok false
  | .filled text => return .ok (text ≠ "")
  | .ofPath "-t" text => do
    match Numeral.decimal? text with
    | some n => return if Numeral.fits n then .ok false else .error (.illegalNumber text)
    | none => return .error (.illegalNumber text)
  | .ofPath operator name => return .ok (← askPath operator name)
  | .compared "=" a b => return .ok (a = b)
  | .compared "!=" a b => return .ok (a ≠ b)
  | .compared "<" a b => return .ok (a < b)
  | .compared ">" a b => return .ok (b < a)
  | .compared operator a b =>
    if ["-nt", "-ot", "-ef"].contains operator then return .ok (← comparePaths operator a b)
    else return compareNumbers operator a b
  | .not inner => do return (← answerTo inner).map (!·)
  | .and first second => do
    match ← answerTo first with
    | .error fault => return .error fault
    | .ok a => return (← answerTo second).map (a && ·)
  | .or first second => do
    match ← answerTo first with
    | .error fault => return .error fault
    | .ok a => return (← answerTo second).map (a || ·)
  | .faulty fault => return .error fault

theorem answerTo_filled (s : State) : answerTo (.filled "") s = .done (.ok (.ok false)) s := rfl

/-- Asks a question. -/
def test : Builtin := fun words => do
  match ← answerTo (Question.read words) with
  | .error fault => fail fault.message
  | .ok b => return verdict b

/-- The same with a last word that starts with a bracket. -/
def bracket : Builtin := fun arguments =>
  if (arguments.getLast?.bind fun word => word.toList.head?) ≠ some ']' then fail "missing ]"
  else test arguments.dropLast

end Run
end BundleForge.Shell
