import BundleForge.Build.Builder
import BundleForge.CommandLine.Usage
import BundleForge.Configuration.File
import BundleForge.Target.Flags

/-!
One run of the program: read the arguments and the configuration, build all targets, and watch them
where that is asked for. Nothing is started before arguments, configuration and log level are found
to be in order; after that, targets that fail do not change the exit code.
-/

namespace BundleForge.CommandLine

/-- What a run works with: the directory it runs in, free of links, how the obfuscator answers and where its files
are kept, the bundler's script, and whether the user interrupts the watching. -/
structure Environment where
  workspace : Path
  tool : Hardening.Tool
  scratch : Path
  bridge : String
  interrupted : Bool := false

/-- A fault that ends a run without an exit code of its own. -/
inductive Crash
  | load (fault : LoadFault)
  | build (crash : Build.Crash)

/-- The exit code, and the faults that listeners were lost to. -/
structure Exit where
  code : Nat
  lost : List Bridge.Fault := []

abbrev Task (α : Type) := Action Crash Bridge.Running α

/-- A configuration that is wrong is told to the user. Only faults of the system, values too deep
inside others, and values that are no values of their kind at all, go further. -/
def isTold : LoadFault → Bool
  | .configuration _ | .number _ | .moment _ => true
  | .tooDeep | .file (.system _) => false
  | .file _ => true
  | .scalar (.notTruth _) | .scalar .notTimestamp | .scalar .noCharacters => false
  | .scalar .realTooLarge | .scalar .codeTooLarge | .scalar .notText | .scalar .endless => false
  | .scalar _ => true

/-- The configuration, and the level at which the console prints. -/
structure Prepared where
  configuration : Configuration
  level : Level

/-- What keeps a run from starting: something to tell the user, or a crash. -/
inductive Obstacle
  | told (text : String)
  | crash (fault : LoadFault)

/-- The level asked for, or else the configured one. -/
def levelOf (a : Arguments) (c : Configuration) : Except Obstacle Level :=
  match a.logLevel with
  | some level => .ok level
  | none =>
    match Level.ofName? c.settings.logLevel with
    | some level => .ok level
    | none => .error (.told (Level.unknownMessage c.settings.logLevel))

/-- The configuration file that is asked for. An empty name asks for none. -/
def askedFile (a : Arguments) : Option Path := (a.config.filter (· ≠ "")).map Path.ofString

def prepare (e : Environment) (t : Tree) (a : Arguments) : Except Obstacle Prepared :=
  match Configuration.load t e.workspace (askedFile a) with
  | .error fault => .error (if isTold fault then .told fault.message else .crash fault)
  | .ok configuration =>
    match levelOf a configuration with
    | .ok level => .ok ⟨configuration, level⟩
    | .error obstacle => .error obstacle

/-- The builder for a configuration. -/
def builderOf (e : Environment) (p : Prepared) : Build.Builder :=
  let settings := p.configuration.settings
  let engine : Bridge.Engine := {
    level := p.level, cwd := e.workspace, node := settings.node, bridge := e.bridge }
  let obfuscator : Hardening.Obfuscator := {
    command := settings.obfuscator, scratch := e.scratch, tool := e.tool }
  { bundle := engine.build
    hardener := obfuscator.hardener
    level := p.level
    workspace := e.workspace
    outDir := p.configuration.outDir }

def failedNames (results : List Build.TargetResult) : List String :=
  (results.filter fun r => !r.succeeded).map Build.TargetResult.name

/-- The line that names the targets that failed, if there are any. -/
def failureLines (l : Level) (results : List Build.TargetResult) : List Event :=
  let names := failedNames results
  if names.isEmpty then [] else l.log .error ("Failed target(s): " ++ ", ".intercalate names)

/-- Watches until there is nothing more to watch or the user interrupts; then ends all processes. -/
def watch (e : Environment) (l : Level) : Task (List Bridge.Fault) := do
  .emit (l.log .info "Watching for changes...")
  let lost ← if e.interrupted then pure [] else Bridge.Engine.wait
  Bridge.Engine.close
  return lost

def crashing {α : Type} (a : Action Build.Crash Bridge.Running α) : Task α := do
  match ← .attempt a with
  | .ok x => return x
  | .error crash => .fail (.build crash)

/-- Builds what was prepared. -/
def build (e : Environment) (p : Prepared) (flags : ModeFlags) : Task Exit := do
  let results ← crashing ((builderOf e p).run flags p.configuration.targets)
  .emit (failureLines p.level results)
  if flags.watch then
    let lost ← watch e p.level
    return { code := 0, lost }
  else return { code := 0 }

/-- Runs the program on a list of arguments. -/
def run (e : Environment) (words : List String) : Task Exit := do
  match Arguments.ofTexts words with
  | .error stop => do
    .emit [.printed (if stop = .help then .output else .errors) stop.text]
    return { code := stop.exitCode }
  | .ok arguments => do
    let running ← .state
    match prepare e running.tree arguments with
    | .error (.told text) => do
      .emit [.printed .errors ("Error: " ++ text)]
      return { code := 2 }
    | .error (.crash fault) => .fail (.load fault)
    | .ok prepared => build e prepared (ModeFlags.ofArguments words)

end BundleForge.CommandLine
