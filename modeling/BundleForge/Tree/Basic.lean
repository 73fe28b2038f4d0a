import BundleForge.Entries
import BundleForge.Path
import BundleForge.Text.Newline
import BundleForge.Tree.Fault

/-!
A file tree as a value: files, directories and symbolic links. A path is followed part by part from
the top, links included, and more than forty links are too many.
-/

namespace BundleForge

/-- A file, a directory or a symbolic link. -/
inductive Node
  | file (content : List UInt8)
  | dir (entries : List (String × Node))
  | link (target : String)
deriving Inhabited

namespace Node

/-- The entry of a directory under a name. -/
def child? : Node → String → Option Node
  | .dir entries, name => entries.lookup name
  | _, _ => none

/-- The node at a place, links on the way not followed. -/
def at? (n : Node) : List String → Option Node
  | [] => some n
  | name :: rest =>
    match n.child? name with
    | some c => c.at? rest
    | none => none

/-- The tree with a node put at a place; directories that are missing on the way are made. -/
def setAt (new : Node) : List String → Node → Node
  | [], _ => new
  | name :: rest, .dir entries =>
    .dir (Entries.put name (setAt new rest ((entries.lookup name).getD (.dir []))) entries)
  | _ :: _, n => n

/-- The tree without what stands at a place. -/
def removeAt : List String → Node → Node
  | [], n => n
  | [name], .dir entries => .dir (Entries.drop name entries)
  | name :: rest, .dir entries =>
    match entries.lookup name with
    | some c => .dir (Entries.put name (removeAt rest c) entries)
    | none => .dir entries
  | _ :: _, n => n

def isDirNode : Node → Bool
  | .dir _ => true
  | _ => false

def isFileNode : Node → Bool
  | .file _ => true
  | _ => false

def isLinkNode : Node → Bool
  | .link _ => true
  | _ => false

end Node

/-- A file tree, and the paths at which a listing is denied. -/
structure Tree where
  top : Node
  locked : Path → Bool := fun _ => false
deriving Inhabited

namespace Tree

/-- The most links that one path may lead through. -/
def linkLimit : Nat := 40

/-- The most bytes of one name. -/
def nameLimit : Nat := 255

/-- The first number of bytes that is too many for a whole path. -/
def pathLimit : Nat := 4096

/-- Where a path leads: a place, links resolved, and whether something stands there. Only the last
part may be absent. -/
structure Spot where
  place : List String
  found : Bool
deriving DecidableEq, Repr

/-- Follows names from a place. Each link costs one of the links still allowed. -/
def walk (top : Node) (links : Nat) (here : List String) (names : List String) :
    Except Refusal Spot :=
  match names with
  | [] => .ok ⟨here, true⟩
  | name :: rest =>
    match top.at? here with
    | some (.dir entries) =>
      if name = "" || name = "." then walk top links here rest
      else if name = ".." then walk top links here.dropLast rest
      else if nameLimit < name.utf8ByteSize then .error .nameTooLong
      else match entries.lookup name with
        | none => if rest.isEmpty then .ok ⟨here ++ [name], false⟩ else .error .missing
        | some (.link target) =>
          match links with
          | 0 => .error .tooManyLinks
          | links + 1 =>
            let start := if target.toList.head? = some '/' then [] else here
            walk top links start (Text.pieces '/' target ++ rest)
        | some _ => walk top links (here ++ [name]) rest
    | _ => .error .notDirectory
termination_by (links, names.length)

/-- Where an absolute path leads. -/
def spot (t : Tree) (p : Path) : Except Refusal Spot :=
  if pathLimit ≤ p.text.utf8ByteSize then .error .nameTooLong
  else walk t.top linkLimit [] p.parts

/-- The place, free of links, of what stands at a path. -/
def realPlace (t : Tree) (p : Path) : Except Refusal (List String) :=
  match t.spot p with
  | .error cause => .error cause
  | .ok s => if s.found then .ok s.place else .error .missing

/-- What stands at a path, links followed. -/
def node (t : Tree) (p : Path) : Except Refusal Node :=
  match t.realPlace p with
  | .error cause => .error cause
  | .ok place =>
    match t.top.at? place with
    | some n => .ok n
    | none => .error .missing

def hasNull (p : Path) : Bool := p.text.toList.contains (Char.ofNat 0)

/-- Asks a question about what stands at a path. Where nothing can stand the answer is no. -/
def ask (t : Tree) (question : Node → Bool) (p : Path) : Except SystemFault Bool :=
  if hasNull p then .ok false
  else match t.node p with
    | .ok n => .ok (question n)
    | .error cause =>
      if cause.isAbsence then .ok false else .error (.refused cause (some p.text))

def isFile (t : Tree) (p : Path) : Except SystemFault Bool := t.ask Node.isFileNode p

def isDir (t : Tree) (p : Path) : Except SystemFault Bool := t.ask Node.isDirNode p

/-- The directory at a path, by its path free of links. -/
def enter (t : Tree) (p : Path) : Except SystemFault Path :=
  match t.realPlace p with
  | .error cause => .error (.refused cause (some p.text))
  | .ok place =>
    if (t.top.at? place).any Node.isDirNode then .ok ⟨.root, place⟩
    else .error (.refused .notDirectory (some p.text))

/-- The bytes of the file at a path. -/
def readBytes (t : Tree) (p : Path) : Except FileFault (List UInt8) :=
  if hasNull p then .error .nullInPath
  else match t.node p with
    | .ok (.file content) => .ok content
    | .ok _ => .error (.system (.refused .isDirectory (some p.text)))
    | .error cause => .error (.system (.refused cause (some p.text)))

/-- Bytes as text, every line end a line feed. -/
def decodeText (bytes : List UInt8) : Except FileFault String :=
  match Text.Utf8.decode bytes with
  | .ok s => .ok (Text.unifyNewlines s)
  | .error refusal => .error (.undecodable refusal)

def readText (t : Tree) (p : Path) : Except FileFault String :=
  match t.readBytes p with
  | .ok bytes => decodeText bytes
  | .error fault => .error fault

/-- The names in the directory at a path. -/
def list (t : Tree) (p : Path) : Except FileFault (List String) :=
  if hasNull p then .error .nullInPath
  else if t.locked p then .error (.system (.refused .denied (some p.text)))
  else match t.node p with
    | .ok (.dir entries) => .ok (entries.map Prod.fst)
    | .ok _ => .error (.system (.refused .notDirectory (some p.text)))
    | .error cause => .error (.system (.refused cause (some p.text)))

/-- The tree with a node put at a place. -/
def setAt (t : Tree) (place : List String) (n : Node) : Tree := { t with top := Node.setAt n place t.top }

/-- Writes a file: the one that stands at the path, or a new one in a directory that is there. -/
def write (t : Tree) (p : Path) (content : List UInt8) : Except FileFault Tree :=
  if hasNull p then .error .nullInPath
  else match t.spot p with
    | .error cause => .error (.system (.refused cause (some p.text)))
    | .ok s =>
      if (t.top.at? s.place).any Node.isDirNode then
        .error (.system (.refused .isDirectory (some p.text)))
      else .ok (t.setAt s.place (.file content))

def writeText (t : Tree) (p : Path) (text : String) : Except FileFault Tree :=
  t.write p (Text.Utf8.encode text)

/-- Makes the directories of a path that are missing. -/
def makeDirs (t : Tree) (p : Path) : Tree :=
  p.selfAndAncestors.reverse.foldl (fun t q =>
    match t.spot q with
    | .ok s => if s.found then t else t.setAt s.place (.dir [])
    | .error _ => t) t

/-- Puts a node at a path whose directories are made as needed. -/
def install (t : Tree) (p : Path) (n : Node) : Tree :=
  let t := t.makeDirs ⟨p.anchor, p.parts.dropLast⟩
  match t.spot p with
  | .ok s => t.setAt s.place n
  | .error _ => t

/-- Puts several nodes at paths: directories are made, links come last. -/
def installAll (t : Tree) (nodes : List (Path × Node)) : Tree :=
  let put (t : Tree) (entry : Path × Node) : Tree :=
    match entry.2 with
    | .dir _ => t.makeDirs entry.1
    | n => t.install entry.1 n
  let t := (nodes.filter fun entry => !entry.2.isLinkNode).foldl put t
  (nodes.filter fun entry => entry.2.isLinkNode).foldl put t

/-- Takes away the directory at a path with everything in it. -/
def removeDir (t : Tree) (p : Path) : Tree :=
  match t.realPlace p with
  | .ok place =>
    if (t.top.at? place).any Node.isDirNode then { t with top := Node.removeAt place t.top } else t
  | .error _ => t

end Tree
end BundleForge
