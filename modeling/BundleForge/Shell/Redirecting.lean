import BundleForge.Shell.Expansion.Word

/-!
Where the streams of a command lead. The streams that redirections change are kept under other numbers
meanwhile, and lead again where they led when the command has ended. Main statement: without redirections
nothing is kept.
-/

namespace BundleForge.Shell

/-- The streams that were changed, each with the one under which what it led to is kept. -/
abbrev Kept := List (Nat × Option Nat)

namespace Opening

def reads : Opening → Bool
  | .reading | .both => true
  | _ => false

def writes : Opening → Bool
  | .reading => false
  | _ => true

def clears : Opening → Bool
  | .anew | .regardless => true
  | _ => false

end Opening

/-- What is said of a file that cannot be opened. -/
def openingFault (opening : Opening) (name : String) (cause : String) : String :=
  "cannot " ++ (if opening.writes then "create " else "open ") ++ name ++ ": " ++ cause

/-- Why a file cannot be opened, in the words of a shell. -/
def refusalOnOpening (opening : Opening) : Refusal → String
  | .missing | .notDirectory => if opening.writes then "Directory nonexistent" else "No such file"
  | cause => cause.wording

namespace Run

/-- No number of a stream stands where one has to. That is told of the line that the reading has come to. -/
def failOnStream {α : Type} : Run α := do
  modify fun s => { s with line := s.reached.headD 1 }
  fail "Syntax error: Bad fd number"

/-- The words of redirections become known. -/
def routes : List Redirection → Run (List Route)
  | [] => return []
  | r :: rest => do
    let first ← match r with
      | .file stream opening name => do pure (Route.file stream opening (← textFor name))
      | .join stream other => pure (Route.join stream other)
      | .document stream number => pure (Route.document stream number)
      | .joinNamed stream name => do
        let other ← textFor name
        match other.toList with
        | ['-'] => pure (Route.join stream none)
        | [d] =>
          if d.isDigit then pure (Route.join stream (some (d.toNat - '0'.toNat)))
          else failOnStream
        | _ => failOnStream
    return first :: (← routes rest)

theorem routes_nil : routes [] = pure [] := rfl

/-- Adds an open file, and gives its number. -/
def added (f : OpenFile) : Run Nat := modifyGet fun s =>
  let (file, world) := s.world.addFile f
  (file, { s with world })

/-- Opens what a name leads to. -/
def openNamed (opening : Opening) (name : String) : Run Nat := do
  let s ← get
  let refuse (cause : String) : Run Nat := fail (openingFault opening name cause)
  let plain (lead : Lead) : OpenFile := {
    lead, reads := opening.reads, writes := opening.writes, behind := opening = .behind }
  match s.spot (Octets.toText name) true with
  | .error cause => refuse (refusalOnOpening opening cause)
  | .ok spot =>
    let place := spot.place
    let fresh (tree : Tree) : Run Nat := do
      setTree tree
      modifyWorld fun w => w.stamped place
      added (plain (.file place))
    match deviceAt? place with
    | some .nothing => added (plain .nothing)
    | some .zeros => added (plain .zeros)
    | some .full => added (plain .full)
    | some .terminal => refuse "No such device or address"
    | some (.stream n) =>
      match s.world.openFile? s.pid n with
      | none => refuse (refusalOnOpening opening .missing)
      | some f => do
        if let .file place := f.lead then
          if opening.clears then setTree (s.tree.setAt place (.file []))
        added { plain f.lead with held := f.held }
    | none =>
      match s.tree.top.at? place with
      | some (.dir _) =>
        if opening.writes then refuse Refusal.isDirectory.wording else added (plain (.directory place))
      | some (.file content) =>
        if opening = .anew && s.manners.sparesFiles then refuse "File exists"
        else if opening.clears then fresh (s.tree.setAt place (.file []))
        else added { plain (.file place) with held := content }
      | some (.link _) => refuse (refusalOnOpening opening .missing)
      | none =>
        if !opening.writes then refuse (refusalOnOpening opening .missing)
        else if name.toList.getLast? = some '/' then refuse Refusal.isDirectory.wording
        else do
          modifyWorld fun w =>
            let w := w.forget place
            if s.mask = 0o022 then w
            else { w with modes := (place, 0o666 &&& (0o777 ^^^ s.mask)) :: w.modes }
          fresh (s.tree.setAt place (.file []))

/-- Keeps what a stream leads to, unless that was done already. -/
def keep (kept : Kept) (stream : Nat) : Run Kept := do
  if (kept.lookup stream).isSome then return kept
  modifyGet fun s =>
    let w := s.world
    match w.fileOf? s.pid stream with
    | none => ((stream, none) :: kept, s)
    | some file =>
      let spare := w.spareStream s.pid
      ((stream, some spare) :: kept, { s with world := w.connect s.pid spare file })

/-- Makes a stream lead to an open file. -/
def lead (stream file : Nat) : Run Unit := modify fun s =>
  { s with world := s.world.connect s.pid stream file }

def closeStream (stream : Nat) : Run Unit := modify fun s =>
  { s with world := s.world.close s.pid stream }

/-- Makes the stream of a route lead where it is to. -/
def follow_ (r : Route) : Run Unit := do
  match r with
  | .file stream opening name => do lead stream (← openNamed opening name)
  | .join stream none => closeStream stream
  | .join stream (some other) => do
    if other ≠ stream then
      match ← file? other with
      | some file => lead stream file
      | none => fail (toString other ++ ": " ++ StreamFault.notOpen.wording)
  | .document stream number => do
    let s ← get
    let text ← match s.documents.lookup number with
      | some d => documentText d
      | none => pure ""
    let file ← modifyGet fun s =>
      let (pipe, w) := s.world.addPipe (Pipe.put (Octets.toBytes text) { bounded := false })
      let (file, w) := w.addFile { lead := .pipe pipe, reads := true, writes := false }
      (file, { s with world := w })
    lead stream file

/-- Whether a route joins a stream to itself, and whether it joins it to another one. -/
def joins : Route → Bool × Bool
  | .join stream (some other) => (stream = other, stream ≠ other)
  | _ => (false, false)

/-- Follows routes in turn, up to the first that leads nowhere, and gives what was kept with what came of
it. A stream that is joined to another one leads nowhere once it is kept. -/
def followKeeping (kept : Kept) : List Route → Run (Kept × Except Halt Unit)
  | [] => return (kept, .ok ())
  | r :: rest => do
    let (toItself, toOther) := joins r
    let isNew := (kept.lookup r.stream).isNone
    let kept ← if toItself then pure kept else keep kept r.stream
    if isNew && toOther then closeStream r.stream
    match ← attempt (follow_ r) with
    | .ok () => followKeeping kept rest
    | .error h => return (kept, .error h)

/-- Makes streams lead again where they led. -/
def giveBackStreams (kept : Kept) (s : State) : State :=
  kept.foldl (fun s (stream, spare) =>
    match spare with
    | none => { s with world := s.world.close s.pid stream }
    | some spare => { s with world := (s.world.share s.pid spare s.pid stream).close s.pid spare }) s

/-- Forgets what was kept. -/
def dropKept (kept : Kept) (s : State) : State :=
  kept.foldl (fun s (_, spare) =>
    match spare with
    | none => s
    | some spare => { s with world := s.world.close s.pid spare }) s

theorem giveBackStreams_nil (s : State) : giveBackStreams [] s = s := rfl

end Run
end BundleForge.Shell
