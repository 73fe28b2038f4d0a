import BundleForge.CommandLine.Run

/-!
The program at a terminal. It reads the configuration from disk, runs on the tree that holds it, and
prints what the run prints. It starts no process: a bundler is refused as by a system that has none
left, so a target is reported as failed, and arguments and configuration are checked in full.
-/

namespace BundleForge.CommandLine

/-- The configuration files that a run in a directory may read. -/
def configurationPaths (workspace : Path) (words : List String) : List Path :=
  let asked := match Arguments.ofTexts words with
    | .ok arguments => (askedFile arguments).toList.map workspace.join
    | .error _ => []
  asked ++ Configuration.formats.map fun format => workspace / (Configuration.stem ++ format.1)

/-- The tree that holds the files of some paths that can be read. -/
def readTree (workspace : Path) (paths : List Path) : IO Tree := do
  let mut tree : Tree := Tree.makeDirs { top := .dir [] } workspace
  for path in paths do
    match ← (IO.FS.readBinFile path.text).toBaseIO with
    | .ok content => tree := tree.install path (.file content.toList)
    | .error _ => pure ()
  return tree

/-- Shows an event at the terminal. Only what is printed shows. -/
def show_ (event : Event) : IO Unit :=
  match event with
  | .printed .output text => IO.println text
  | .printed .errors text => IO.eprintln text
  | _ => pure ()

/-- What is said of a run that broke down. -/
def Crash.message : Crash → String
  | .load fault => fault.message
  | .build (.bridge fault) => fault.message
  | .build (.report fault) => fault.message
  | .build (.walk fault) => fault.message

/-- The exit code of a run that broke down. -/
def crashCode : UInt32 := 1

/-- Runs the program in a directory. -/
def runIn (workspace : Path) (words : List String) : IO UInt32 := do
  let tree ← readTree workspace (configurationPaths workspace words)
  let environment : Environment := {
    workspace
    tool := fun _ _ => .silent
    scratch := Path.ofString "/tmp"
    bridge := (workspace / "esbuild-bridge.js").text }
  let done := (run environment words).run { tree }
  for event in done.events do show_ event
  match done.result with
  | .ok exit => return exit.code.toUInt32
  | .error crash => do
    IO.eprintln crash.message
    return crashCode

end BundleForge.CommandLine

def main (words : List String) : IO UInt32 := do
  let directory := (← IO.currentDir).toString
  BundleForge.CommandLine.runIn (BundleForge.Path.ofString directory) words
