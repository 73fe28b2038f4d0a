import BundleForge.Shell.Variable

/-!
Names in the file tree, as a shell sees them from its directory. Links on the way are followed; a name
that ends in a slash has to lead to a directory. Main statement: a name without anything in it leads
nowhere.
-/

namespace BundleForge.Shell

/-- A device: it holds nothing, zeros without end, or has no room; or it stands for a stream, or for a
terminal that is not there. -/
inductive Device
  | nothing
  | zeros
  | full
  | stream (n : Nat)
  | terminal
deriving DecidableEq, Repr

/-- The device at a place. -/
def deviceAt? : List String → Option Device
  | ["dev", "null"] => some .nothing
  | ["dev", "zero"] | ["dev", "random"] | ["dev", "urandom"] => some .zeros
  | ["dev", "full"] => some .full
  | ["dev", "stdin"] => some (.stream 0)
  | ["dev", "stdout"] => some (.stream 1)
  | ["dev", "stderr"] => some (.stream 2)
  | ["dev", "tty"] => some .terminal
  | ["dev", "fd", n] | ["proc", "self", "fd", n] => n.toNat?.map .stream
  | _ => none

namespace State

def tree (s : State) : Tree := s.world.tree

def withTree (s : State) (tree : Tree) : State := { s with world := { s.world with tree } }

/-- The directory of a shell. -/
def here (s : State) : Path := ⟨.root, s.cwd⟩

/-- The path that a name stands for. -/
def pathOf (s : State) (name : String) : Path := s.here / name

/-- The place that a name leads to. What it leads to is followed where it is a link, unless it is taken
as it is. Only a place in a directory can be a new one. -/
def spot (s : State) (name : String) (follow : Bool) : Except Refusal Tree.Spot :=
  let needsDir := name.toList.getLast? = some '/'
  if name = "" then .error .missing
  else
    let path := s.pathOf name
    let spot := if follow || needsDir || path.parts.isEmpty then s.tree.spot path
      else match path.name with
        | ".." => s.tree.spot path
        | last =>
          match s.tree.spot ⟨path.anchor, path.parts.dropLast⟩ with
          | .error cause => .error cause
          | .ok spot =>
            if !spot.found then .error .missing
            else if Tree.nameLimit < last.utf8ByteSize then .error .nameTooLong
            else match s.tree.top.at? spot.place with
              | some (.dir entries) => .ok ⟨spot.place ++ [last], (entries.lookup last).isSome⟩
              | _ => .error .notDirectory
    match spot with
    | .error cause => .error cause
    | .ok spot =>
      if needsDir && spot.found && !(s.tree.top.at? spot.place).any Node.isDirNode then
        .error .notDirectory
      else .ok spot

theorem spot_empty (s : State) (follow : Bool) : s.spot "" follow = .error .missing := by
  simp [spot]

/-- The place of what a name leads to. -/
def placeOf (s : State) (name : String) (follow : Bool) : Except Refusal (List String) :=
  match s.spot name follow with
  | .error cause => .error cause
  | .ok spot => if spot.found then .ok spot.place else .error .missing

/-- What a name leads to. -/
def lookup (s : State) (name : String) (follow : Bool) : Except Refusal Node :=
  match s.placeOf name follow with
  | .error cause => .error cause
  | .ok place =>
    match s.tree.top.at? place with
    | some n => .ok n
    | none => .error .missing

end State

namespace Run

def setTree (tree : Tree) : Run Unit := modify fun s => s.withTree tree

/-- What a name leads to, if it leads anywhere. -/
def node? (name : String) : Run (Option Node) := do return ((← get).lookup name true).toOption

end Run
end BundleForge.Shell
