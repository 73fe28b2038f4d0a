import BundleForge.Json.Reader
import BundleForge.Misfit
import BundleForge.Resolution.Builtin
import BundleForge.Tree.Basic

/-!
Finding installed packages. From a directory upwards, the first one that holds the package and in
it a file for the specifier gives the answer: the real path of that file.
-/

namespace BundleForge.Resolution

/-- Why no file was found for a specifier. -/
inductive LocateFault
  | notFound (specifier directory : String)
  | name (fault : Path.NameFault)
  | system (fault : SystemFault)
  | tooDeep
deriving DecidableEq, Repr

def LocateFault.message : LocateFault → String
  | .notFound specifier directory => "Cannot find module '" ++ specifier ++ "' from '" ++ directory ++ "'"
  | .name fault => fault.message
  | .system fault => fault.message
  | .tooDeep => Misfit.message .tooDeep

/-- The name of the package that a specifier lies in: two parts in a scope, else one. -/
def packageName (specifier : String) : String :=
  let parts := Text.pieces '/' specifier
  if specifier.toList.head? = some '@' && 1 < parts.length then "/".intercalate (parts.take 2)
  else parts.headD ""

/-- What may be left out at the end of a file's name. -/
def fileSuffixes : List String := ["", ".js", ".json", ".node"]

/-- The files that stand for a directory. -/
def indexNames : List String := ["index.js", "index.json", "index.node"]

def asks (t : Tree) (question : Tree → Path → Except SystemFault Bool) (p : Path) :
    Except LocateFault Bool :=
  match question t p with
  | .ok b => .ok b
  | .error fault => .error (.system fault)

/-- The first of several candidates that is a file. -/
def firstFile (t : Tree) : List Path → Except LocateFault (Option Path)
  | [] => .ok none
  | p :: rest => do
    if ← asks t Tree.isFile p then return some p else firstFile t rest

/-- The file at a path, its suffix left out or not. The candidates are formed one by one. -/
def loadAsFile (t : Tree) (p : Path) : List String → Except LocateFault (Option Path)
  | [] => .ok none
  | suffix :: rest =>
    match p.withName (p.name ++ suffix) with
    | .error fault => .error (.name fault)
    | .ok candidate => do
      if ← asks t Tree.isFile candidate then return some candidate else loadAsFile t p rest

def loadIndex (t : Tree) (p : Path) : Except LocateFault (Option Path) :=
  firstFile t (indexNames.map (p / ·))

/-- The entry file that a package names in its manifest; a manifest that cannot be read names none,
unless it is too deep. -/
def mainOf (t : Tree) (p : Path) : Except LocateFault (Option String) :=
  match t.readText (p / "package.json") with
  | .error _ => .ok none
  | .ok text =>
    match Json.read text with
    | .error .tooDeep => .error .tooDeep
    | .ok (.obj members) =>
      match members.lookup "main" with
      | some (.str main) => .ok (if main = "" then none else some main)
      | _ => .ok none
    | _ => .ok none

/-- The first answer that is there, asked for in turn. -/
def orElse (first : Except LocateFault (Option Path)) (second : Unit → Except LocateFault (Option Path)) :
    Except LocateFault (Option Path) :=
  match first with
  | .ok none => second ()
  | answer => answer

def loadAsDirectory (t : Tree) (p : Path) : Except LocateFault (Option Path) := do
  if ← asks t Tree.isDir p then
    match ← mainOf t p with
    | some main =>
      orElse (loadAsFile t (p / main) fileSuffixes) fun _ =>
        orElse (loadIndex t (p / main)) fun _ => loadIndex t p
    | none => loadIndex t p
  else return none

def load (t : Tree) (p : Path) : Except LocateFault (Option Path) :=
  orElse (loadAsFile t p fileSuffixes) fun _ => loadAsDirectory t p

/-- The file for a specifier among the packages installed in one directory. -/
def locateIn (t : Tree) (specifier : String) (directory : Path) : Except LocateFault (Option Path) := do
  let modules := directory / "node_modules"
  if ← asks t Tree.isDir (modules / packageName specifier) then
    load t (modules.joinAll (Text.pieces '/' specifier))
  else return none

/-- The first directory that has a file for the specifier. -/
def locateAmong (t : Tree) (specifier : String) : List Path → Except LocateFault (Option Path)
  | [] => .ok none
  | directory :: rest => orElse (locateIn t specifier directory) fun _ => locateAmong t specifier rest

/-- The text of a place that is free of links. -/
def placeText (place : List String) : String := "/" ++ "/".intercalate place

/-- The real path of the file for a specifier, or the specifier itself for a module of the
runtime. -/
def locate (t : Tree) (cwd : Path) (specifier : String) : Except LocateFault String :=
  if isBuiltin specifier then .ok specifier
  else do
    match ← locateAmong t specifier cwd.selfAndAncestors with
    | none => throw (.notFound specifier cwd.text)
    | some found =>
      match t.realPlace found with
      | .ok place => return placeText place
      | .error cause => throw (.system (.refused cause (some found.text)))

end BundleForge.Resolution
