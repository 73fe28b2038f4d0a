import BundleForge.Action
import BundleForge.Hardening.Obfuscator

/-!
The hardening of a target's output: every script below a directory is replaced by its obfuscated
self, in the order of names. A script that cannot be hardened stays as it is and is reported; a
directory that cannot be listed ends the pass, and what was done before it stays done.
-/

namespace BundleForge.Hardening

/-- What became of one script. -/
structure Result where
  path : Path
  fault : Option Fault
deriving DecidableEq, Repr

def Result.succeeded (r : Result) : Bool := r.fault.isNone

/-- Why a pass ended before its time. The last of them stands for a tree deeper than any path can
reach. -/
inductive WalkFault
  | refused (fault : SystemFault)
  | nullInPath
  | bottomless
deriving DecidableEq, Repr

def WalkFault.message : WalkFault → String
  | .refused fault => fault.message
  | .nullInPath => FileFault.nullInPath.message
  | .bottomless => Refusal.nameTooLong.wording

/-- What a pass works with. Its root is where displayed paths are seen from. -/
structure Pass where
  hardener : Hardener
  level : Level
  label : String
  root : Path

/-- What a pass changes: the file tree, how often something was hardened, and the results so far. -/
structure Progress where
  tree : Tree
  calls : Nat := 0
  results : List Result := []

/-- The end of the names of scripts. -/
def scriptSuffix : String := ".js"

def isScript (name : String) : Bool := scriptSuffix.toList.isSuffixOf name.toList

namespace Pass

def display (pass : Pass) (p : Path) : String :=
  match p.relativeTo? pass.root with
  | some rest => rest.text
  | none => p.text

def say {ε : Type} (pass : Pass) (severity : Severity) (text : String) : Action ε Progress Unit :=
  .emit (pass.level.log severity ("[" ++ pass.label ++ "]: " ++ text))

def record {ε : Type} (result : Result) : Action ε Progress Unit :=
  fun s => ⟨.ok (), { s with results := s.results ++ [result] }, []⟩

/-- A step that may fail on a file. -/
def onFile {α : Type} (x : Except FileFault α) : Action Fault Progress α :=
  .ofExcept (match x with
    | .ok a => .ok a
    | .error fault => .error (.file fault))

def setTree {ε : Type} (t : Tree) : Action ε Progress Unit := fun s => ⟨.ok (), { s with tree := t }, []⟩

/-- Hands a source to the hardener. -/
def harden (pass : Pass) (source : String) : Action Fault Progress String := fun s =>
  ⟨pass.hardener.harden s.calls source, { s with calls := s.calls + 1 }, [pass.hardener.event source]⟩

/-- Replaces a script by its obfuscated self. -/
def replaceScript (pass : Pass) (p : Path) : Action Fault Progress Unit := do
  let s ← .state
  let source ← onFile (s.tree.readText p)
  let hardened ← pass.harden source
  let t ← onFile (s.tree.writeText p hardened)
  setTree t

/-- Hardens one script and keeps the result. A path that no file can have ends the pass. -/
def hardenFile (pass : Pass) (p : Path) : Action WalkFault Progress Unit := do
  match ← .attempt (pass.replaceScript p) with
  | .ok () => do
    pass.say .info ("Obfuscated " ++ pass.display p)
    record ⟨p, none⟩
  | .error (.file .nullInPath) => .fail .nullInPath
  | .error fault => do
    pass.say .error ("Failed to obfuscate " ++ p.text ++ ": " ++ fault.message)
    record ⟨p, some fault⟩

/-- The entries of a directory in the order of their names. -/
def entriesOf (t : Tree) (directory : Path) : Except WalkFault (List Path) :=
  match t.list directory with
  | .ok names => .ok ((names.mergeSort (· ≤ ·)).map (directory / ·))
  | .error (.system fault) => .error (.refused fault)
  | .error _ => .error .nullInPath

def asks (question : Tree → Path → Except SystemFault Bool) (p : Path) :
    Action WalkFault Progress Bool := fun s =>
  match question s.tree p with
  | .ok b => ⟨.ok b, s, []⟩
  | .error fault => ⟨.error (.refused fault), s, []⟩

/-- Deals with one entry: directories are walked, scripts hardened, and all else is left alone. -/
def visit (pass : Pass) (descend : Path → Action WalkFault Progress Unit) (entry : Path) :
    Action WalkFault Progress Unit := do
  if ← asks Tree.isDir entry then descend entry
  else if ← asks Tree.isFile entry then
    if isScript entry.name then pass.hardenFile entry

/-- Walks a directory, at most so many directories deep. -/
def walk (pass : Pass) : Nat → Path → Action WalkFault Progress Unit
  | 0, _ => .fail .bottomless
  | depth + 1, directory => do
    let s ← .state
    let entries ← .ofExcept (entriesOf s.tree directory)
    .each (pass.visit (pass.walk depth)) entries

/-- Hardens everything below a directory. No path goes deeper than its length allows. -/
def run (pass : Pass) (directory : Path) (t : Tree) (calls : Nat) : Done WalkFault Progress Unit :=
  (pass.walk Tree.pathLimit directory).run { tree := t, calls }

end Pass
end BundleForge.Hardening
