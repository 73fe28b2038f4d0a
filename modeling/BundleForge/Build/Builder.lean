import BundleForge.Bridge.Engine
import BundleForge.Hardening.Pass
import BundleForge.Report.Basic
import BundleForge.Target.Basic

/-!
Builds of all targets in their order. A target that fails does not keep the others from being built.
Production builds are reported, and hardened where the target wants it; failures of either are told
and passed over.
-/

namespace BundleForge.Build

/-- What became of one target. -/
structure TargetResult where
  name : String
  outcome : Option Bridge.Outcome := none
  error : Option String := none
  report : Option String := none
  hardening : List Hardening.Result := []
  hardeningError : Option String := none

def TargetResult.succeeded (r : TargetResult) : Bool := r.outcome.isSome && r.error.isNone

def TargetResult.hardeningFailures (r : TargetResult) : List Hardening.Result :=
  r.hardening.filter fun result => !result.succeeded

/-- A fault that no build recovers from. -/
inductive Crash
  | bridge (fault : Bridge.Fault)
  | report (fault : Misfit)
  | walk (fault : Hardening.WalkFault)
deriving Repr

/-- What builds are run with: a bundling engine, a hardener, and where things are. -/
structure Builder where
  bundle : Bridge.Job → Action Bridge.Fault Bridge.Running Bridge.Outcome
  hardener : Hardening.Hardener
  level : Level
  workspace : Path
  outDir : Path
  rules : Resolution.Rules := {}

abbrev Task (α : Type) := Action Crash Bridge.Running α

/-- The directory below a workspace that holds the output when nothing else is said. -/
def defaultOutDir (workspace : Path) : Path := workspace / "dist"

namespace Builder

def outputDirectory (b : Builder) (t : Target) : Path := b.outDir / t.name

/-- The output directory as the bundler is told: seen from the workspace, if it lies in there. -/
def outDirText (b : Builder) (t : Target) : String :=
  match (b.outputDirectory t).relativeTo? b.workspace with
  | some rest => rest.text
  | none => (b.outputDirectory t).text

/-- The bundler's options for a target. What is not minified keeps its unused exports too. -/
def options (b : Builder) (t : Target) (flags : ModeFlags) : Bridge.Options where
  entryPoints := [t.entryModule]
  platform := t.platform.text
  format := t.format.text
  target := t.baseline
  outDir := b.outDirText t
  minify := flags.production && !t.suppressMinify
  treeShaking := if t.suppressMinify then some false else none
  sourcemap := !flags.production
  define := t.define
  watch := flags.watch

def lines (b : Builder) (t : Target) (severity : Severity) (text : String) : List Event :=
  b.level.log severity ("[" ++ t.name ++ "]: " ++ text)

def say {ε σ : Type} (b : Builder) (t : Target) (severity : Severity) (text : String) :
    Action ε σ Unit :=
  .emit (b.lines t severity text)

/-- What is printed after a rebuild. -/
def onRebuild (b : Builder) (t : Target) (r : Rebuild) : List Event :=
  if r.succeeded then
    b.lines t .info ("Rebuild succeeded, warnings: " ++ toString r.warnings.length)
  else b.lines t .error ("Rebuild failed: " ++ (Json.arr r.errors).display)

def job (b : Builder) (t : Target) (flags : ModeFlags) : Bridge.Job where
  options := b.options t flags
  label := t.name
  policy := if t.usesPolicy then some ⟨b.workspace, b.rules⟩ else none
  onRebuild := if flags.watch then b.onRebuild t else fun _ => []

/-- The report of an outcome, printed. A metafile that cannot be analysed has none. -/
def printReport (b : Builder) (t : Target) (o : Bridge.Outcome) : Task (Option String) := do
  match Report.render true o.metafile with
  | .ok report => do
    .emit (b.level.log .report report)
    return some report
  | .error fault =>
    if fault.sort = .range ∨ fault.sort = .depth then .fail (.report fault)
    else do
      b.say t .error ("Could not analyze metafile: " ++ fault.message)
      return none

def pass (b : Builder) (t : Target) : Hardening.Pass where
  hardener := b.hardener
  level := b.level
  label := t.name
  root := b.workspace

/-- Carries out a hardening pass; how it ended is its value. -/
def runPass (b : Builder) (t : Target) :
    Task (Except Hardening.WalkFault Unit × List Hardening.Result) := fun r =>
  let done := (b.pass t).run (b.outputDirectory t) r.tree r.hardenings
  ⟨.ok (done.result, done.state.results),
    { r with tree := done.state.tree, hardenings := done.state.calls }, done.events⟩

/-- Hardens the output of a target. -/
def harden (b : Builder) (t : Target) (result : TargetResult) : Task TargetResult := do
  let (ended, results) ← b.runPass t
  match ended with
  | .ok () => return { result with hardening := results }
  | .error .nullInPath => .fail (.walk .nullInPath)
  | .error fault => do
    b.say t .error ("Obfuscation failed: " ++ fault.message)
    return { result with hardening := results, hardeningError := some fault.message }

/-- What follows a build that succeeded. -/
def afterBuild (b : Builder) (t : Target) (flags : ModeFlags) (o : Bridge.Outcome) :
    Task TargetResult := do
  let result : TargetResult := { name := t.name, outcome := some o }
  b.say t .info ("Build succeeded (" ++ toString o.emitted.length ++ " file(s))")
  if flags.production then
    let report ← b.printReport t o
    let result := { result with report }
    if t.harden then b.harden t result
    else do
      b.say t .info "Hardening skipped"
      return result
  else return result

/-- A build that failed, or a fault that is none of its own. -/
def afterFault (b : Builder) (t : Target) (fault : Bridge.Fault) : Task TargetResult :=
  let failed : Task TargetResult := do
    b.say t .error ("Build failed: " ++ fault.message)
    return { name := t.name, error := some fault.message }
  match fault with
  | .bundler .. | .unresolved _ | .system _ => failed
  | fault => .fail (.bridge fault)

/-- Builds one target. -/
def runTarget (b : Builder) (flags : ModeFlags) (t : Target) : Task TargetResult := do
  let job := b.job t flags
  b.say t .info ("Building " ++ t.entryModule ++ " (" ++ job.options.platform ++ ", " ++
    job.options.format ++ ")")
  match ← .attempt (b.bundle job) with
  | .ok outcome => b.afterBuild t flags outcome
  | .error fault => b.afterFault t fault

/-- Builds targets in turn. -/
def run (b : Builder) (flags : ModeFlags) : List Target → Task (List TargetResult)
  | [] => return []
  | t :: rest => do
    let result ← b.runTarget flags t
    let others ← b.run flags rest
    return result :: others

theorem join_outDirText (b : Builder) (t : Target) (rest : Path)
    (h : (b.outputDirectory t).relativeTo? b.workspace = some rest) :
    b.workspace.join rest = b.outputDirectory t :=
  Path.join_relativeTo? h

end Builder
end BundleForge.Build
