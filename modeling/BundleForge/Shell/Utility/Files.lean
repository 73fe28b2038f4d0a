import BundleForge.Shell.Expansion.Pattern
import BundleForge.Shell.Utility.Input

/-!
The commands that change the file tree, or tell what is in it.
-/

namespace BundleForge.Shell.Run

/-- A command for each of its arguments: the worst status counts. -/
def forNames (command : String → Run Nat) : List String → Run Nat
  | [] => return 0
  | name :: rest => do
    let status ← command name
    return max status (← forNames command rest)

theorem forNames_nil (command : String → Run Nat) (s : State) :
    forNames command [] s = .done (.ok 0) s := rfl

/-- What is said where nothing was named. -/
def noOperand (command what : String) : Run Nat := misused command ("missing " ++ what) 1

/-- The place that a name stands for, its last part not followed where it is a link. It may be a new
one. -/
def placeNamed (s : State) (name : String) : Except Refusal (List String) :=
  (s.spot name false).map Tree.Spot.place

/-- The shortest front of a name that leads to no directory. -/
def firstFile (s : State) (path : Path) (name : String) : String :=
  let given := (Path.ofString name).parts.length
  let fronts := (List.range (given + 1)).map fun n => path.parts.take (path.parts.length - given + n)
  let stops (parts : List String) : Bool :=
    match s.tree.node ⟨path.anchor, parts⟩ with
    | .ok n => !n.isDirNode
    | .error _ => false
  match fronts.findIdx? stops with
  | some n => (Path.mk (Path.ofString name).anchor ((Path.ofString name).parts.take n)).text
  | none => name

/-- Makes one directory; with its parents, it may be there already. -/
def makeDirectory (parents : Bool) (name : String) : Run Nat := do
  let s ← get
  let path := s.here / name
  let refuse (cause : String) : Run Nat := do
    complain ("mkdir: cannot create directory ‘" ++ name ++ "’: " ++ cause)
    return 1
  match s.tree.spot path with
  | .error cause =>
    if parents && cause = .missing && name ≠ "" then
      setTree (s.tree.makeDirs path)
      return 0
    else if parents && cause = .notDirectory then
      complain ("mkdir: cannot create directory ‘" ++ firstFile s path name ++ "’: " ++ cause.wording)
      return 1
    else refuse cause.wording
  | .ok spot =>
    if name = "" then refuse Refusal.missing.wording
    else if spot.found then
      if parents && (s.tree.top.at? spot.place).any Node.isDirNode then return 0
      else refuse "File exists"
    else
      setTree (s.tree.setAt spot.place (.dir []))
      return 0

/-- Takes away what stands at a place. -/
def takeAway (place : List String) : Run Unit := modify fun s =>
  { s with world := { s.world with
    tree := { s.tree with top := Node.removeAt place s.tree.top } }.forget place }

/-- Takes an empty directory away. -/
def removeDirectory (name : String) : Run Nat := do
  let s ← get
  let refuse (cause : String) : Run Nat := do
    complain ("rmdir: failed to remove '" ++ name ++ "': " ++ cause)
    return 1
  match placeNamed s name with
  | .error cause => refuse cause.wording
  | .ok place =>
    match s.tree.top.at? place with
    | none => refuse Refusal.missing.wording
    | some (.dir []) => do
      takeAway place
      return 0
    | some (.dir _) => refuse "Directory not empty"
    | some _ => refuse Refusal.notDirectory.wording

/-- Takes a file away, or a directory with all that is in it. -/
def remove (deep forced : Bool) (name : String) : Run Nat := do
  let s ← get
  let refuse (cause : String) : Run Nat := do
    complain ("rm: cannot remove '" ++ name ++ "': " ++ cause)
    return 1
  match placeNamed s name with
  | .error cause => if forced && cause.isAbsence then return 0 else refuse cause.wording
  | .ok place =>
    match s.tree.top.at? place with
    | none => if forced then return 0 else refuse Refusal.missing.wording
    | some n =>
      if n.isDirNode && !deep then refuse Refusal.isDirectory.wording
      else
        takeAway place
        return 0

/-- Makes an empty file where none is. -/
def touch (name : String) : Run Nat := do
  let s ← get
  match s.tree.spot (s.here / name) with
  | .ok spot => do
    unless spot.found do setTree (s.tree.setAt spot.place (.file []))
    return 0
  | .error cause => do
    complain ("touch: cannot touch '" ++ name ++ "': " ++ cause.wording)
    return 1

/-- The name that something goes by in a target: its own where the target is a directory. -/
def inTarget (source target : String) : Run String := do
  match ← node? target with
  | some (.dir _) =>
    let stem := String.ofList ((target.toList.reverse.dropWhile (· = '/')).reverse)
    return stem ++ "/" ++ (Path.ofString source).name
  | _ => return target

/-- Copies, or moves, one file or directory to another name or into a directory. -/
def transferOne (command : String) (moved deep : Bool) (target source : String) : Run Nat := do
  let target ← inTarget source target
  let s ← get
  match s.tree.node (s.here / source), s.tree.spot (s.here / target) with
  | .ok node, .ok spot => do
    if node.isDirNode && !moved && !deep then
      complain (command ++ ": -r not specified; omitting directory '" ++ source ++ "'")
      return 1
    let place := (placeNamed s source).toOption
    if place = some spot.place then
      complain (command ++ ": '" ++ source ++ "' and '" ++ target ++ "' are the same file")
      return 1
    let kept := if moved then (place.bind s.tree.top.at?).getD node else node
    let target := if moved then ((placeNamed s target).toOption).getD spot.place else spot.place
    setTree (s.tree.setAt target kept)
    if moved then remove true true source else return 0
  | .error cause, _ => do
    complain (command ++ ": cannot stat '" ++ source ++ "': " ++ cause.wording)
    return 1
  | _, .error cause => do
    complain (if moved then
        command ++ ": cannot move '" ++ source ++ "' to '" ++ target ++ "': " ++ cause.wording
      else command ++ ": cannot create regular file '" ++ target ++ "': " ++ cause.wording)
    return 1

/-- Copies, or moves, what is named in front to what is named last. -/
def transfer (command : String) (moved deep : Bool) (names : List String) : Run Nat := do
  match names.reverse with
  | [] => noOperand command "file operand"
  | [only] => misused command ("missing destination file operand after '" ++ only ++ "'") 1
  | target :: first :: others => do
    if !others.isEmpty && !((← node? target).any Node.isDirNode) then
      complain (command ++ ": target '" ++ target ++ "': " ++
        (if (← node? target).isSome then Refusal.notDirectory else Refusal.missing).wording)
      return 1
    forNames (transferOne command moved deep target) (first :: others).reverse

/-- Makes a name for a file: one that leads to a path, or one of the same content. -/
def linkOne (soft forced : Bool) (target source : String) : Run Nat := do
  let name ← inTarget source target
  let s ← get
  let kind := if soft then "symbolic" else "hard"
  let refuse (cause : String) : Run Nat := do
    complain ("ln: failed to create " ++ kind ++ " link '" ++ name ++ "': " ++ cause)
    return 1
  match placeNamed s name with
  | .error cause => refuse cause.wording
  | .ok place =>
    if (s.tree.top.at? place).isSome && !forced then refuse "File exists"
    else if soft then
      setTree (s.tree.setAt place (.link source))
      return 0
    else match s.tree.node (s.here / source) with
      | .ok (.file content) => do
        setTree (s.tree.setAt place (.file content))
        return 0
      | .ok _ => do
        complain ("ln: " ++ source ++ ": hard link not allowed for directory")
        return 1
      | .error cause => do
        complain ("ln: failed to access '" ++ source ++ "': " ++ cause.wording)
        return 1

def link (soft forced : Bool) (names : List String) : Run Nat := do
  match names.reverse with
  | [] => noOperand "ln" "file operand"
  | [only] => linkOne soft forced "." only
  | target :: first :: others => forNames (linkOne soft forced target) (first :: others).reverse

/-- Tells where links lead. With `whole` a path is followed to its end. -/
def readLink (whole : Bool) (name : String) : Run Nat := do
  let s ← get
  if whole then
    match s.tree.spot (s.here / name) with
    | .ok spot => do
      print ((Path.mk .root spot.place).text ++ "\n")
      return 0
    | .error _ => return 1
  else
    match (placeNamed s name).toOption.bind s.tree.top.at? with
    | some (.link target) => do
      print (target ++ "\n")
      return 0
    | _ => return 1

def sortNames (names : List String) : List String := names.mergeSort fun a b => decide (a ≤ b)

/-- How names are listed: hidden ones too, with the two points or without, directories by their names,
and backwards. -/
structure Listing where
  all : Bool
  almostAll : Bool
  itself : Bool
  backwards : Bool

/-- The names in a directory that are shown. -/
def Listing.names (l : Listing) (entries : List (String × Node)) : List String :=
  let names := (entries.map Prod.fst).filter fun n =>
    l.all || l.almostAll || n.toList.head? ≠ some '.'
  let names := sortNames (if l.all then [".", ".."] ++ names else names)
  if l.backwards then names.reverse else names

/-- Lists files, and then directories with what is in them. -/
def list (l : Listing) (names : List String) : Run Nat := do
  let names := if names.isEmpty then ["."] else names
  let mut status := 0
  let mut plain : List String := []
  let mut deep : List (String × List String) := []
  for name in names do
    match ← node? name with
    | some (.dir entries) =>
      if l.itself then plain := plain ++ [name] else deep := deep ++ [(name, l.names entries)]
    | some _ => plain := plain ++ [name]
    | none =>
      complain ("ls: cannot access '" ++ name ++ "': No such file or directory")
      status := 2
  let ordered (names : List String) : List String :=
    if l.backwards then (sortNames names).reverse else sortNames names
  let opened := deep
  let sections := (ordered (opened.map Prod.fst)).map fun name =>
    (if names.length ≤ 1 then "" else name ++ ":\n") ++ lineEnds ((opened.lookup name).getD [])
  let first := if plain.isEmpty then [] else [lineEnds (ordered plain)]
  print ("\n".intercalate (first ++ sections))
  return status

/-- What is found below a path: the path itself, and what is in it, by name. -/
structure Finding where
  name : Option String
  kind : Option String
  deepest : Option Nat
  shallowest : Nat

def Finding.accepts (f : Finding) (depth : Nat) (path : String) (n : Node) : Bool :=
  let name := if (Path.ofString path).name = "" then path else (Path.ofString path).name
  f.shallowest ≤ depth &&
    f.name.all (fun pattern => globMatches (glyphs (patternChars pattern.toList)) name.toList) &&
    match f.kind with
    | some "f" => n.isFileNode
    | some "d" => n.isDirNode
    | some "l" => n.isLinkNode
    | _ => true

mutual

/-- The paths below and with a node that are found. -/
def findIn (f : Finding) (depth : Nat) (path : String) : Node → List String
  | .dir entries =>
    (if f.accepts depth path (.dir entries) then [path] else []) ++
      if f.deepest.all (depth < ·) then findEntries f (depth + 1) path entries else []
  | n => if f.accepts depth path n then [path] else []

def findEntries (f : Finding) (depth : Nat) (path : String) : List (String × Node) → List String
  | [] => []
  | (name, n) :: rest =>
    findIn f depth (if path.toList.getLast? = some '/' then path ++ name else path ++ "/" ++ name) n ++
      findEntries f depth path rest

end

/-- Reads what is to be found, behind the paths. -/
def finding (f : Finding) : List String → Except String Finding
  | [] => .ok f
  | "-name" :: pattern :: rest => finding { f with name := some pattern } rest
  | "-type" :: kind :: rest => finding { f with kind := some kind } rest
  | "-maxdepth" :: n :: rest => finding { f with deepest := n.toNat? } rest
  | "-mindepth" :: n :: rest => finding { f with shallowest := n.toNat?.getD 0 } rest
  | "-print" :: rest => finding f rest
  | word :: _ => .error ("find: unknown predicate \x60" ++ word ++ "'")

def find (arguments : List String) : Run Nat := do
  let isPath (a : String) : Bool := a.toList.head? ≠ some '-'
  let paths := arguments.takeWhile isPath
  match finding ⟨none, none, none, 0⟩ (arguments.drop paths.length) with
  | .error text => do
    complain text
    return 1
  | .ok f =>
    forNames (fun path => do
      let s ← get
      match (placeNamed s path).toOption.bind s.tree.top.at?, ← node? path with
      | some (.link target), _ => do
        print (lineEnds (findIn f 0 path (.link target)))
        return 0
      | _, some n => do
        print (lineEnds (findIn f 0 path n))
        return 0
      | _, none => do
        complain ("find: ‘" ++ path ++ "’: No such file or directory")
        return 1) (if paths.isEmpty then ["."] else paths)

/-- The last part of a path, without an ending that is not all of it. -/
def baseNameOf (path ending : String) : String :=
  let cs := (path.toList.reverse.dropWhile (· = '/')).reverse
  if cs.isEmpty then if path = "" then "" else "/"
  else
    let name := (cs.reverse.takeWhile (· ≠ '/')).reverse
    let ending := ending.toList
    if ending.isSuffixOf name && ending.length < name.length then
      String.ofList (name.take (name.length - ending.length))
    else String.ofList name

/-- A path without its last part. -/
def directoryOf (path : String) : String :=
  let cs := (path.toList.reverse.dropWhile (· = '/')).reverse
  if cs.isEmpty then if path = "" then "." else "/"
  else
    let front := (cs.reverse.dropWhile (· ≠ '/')).dropWhile (· = '/')
    if front.isEmpty then if cs.head? = some '/' then "/" else "."
    else String.ofList front.reverse

def nameOnly (arguments : List String) : Run Nat := do
  match arguments with
  | [] => noOperand "basename" "operand"
  | "-a" :: names => do
    print (lineEnds (names.map (baseNameOf · "")))
    return 0
  | "-s" :: ending :: names => do
    print (lineEnds (names.map (baseNameOf · ending)))
    return 0
  | [path] => do
    print (baseNameOf path "" ++ "\n")
    return 0
  | path :: ending :: _ => do
    print (baseNameOf path ending ++ "\n")
    return 0

def directoryOnly (names : List String) : Run Nat := do
  if names.isEmpty then noOperand "dirname" "operand"
  else
    print (lineEnds (names.map directoryOf))
    return 0

end BundleForge.Shell.Run
