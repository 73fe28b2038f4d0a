import BundleForge.CommandLine.Run
import BundleForge.Proofs.Bridge.Upkeep
import BundleForge.Proofs.Build.Attempt
import BundleForge.Proofs.Build.Kept
import BundleForge.Proofs.Configuration.Settled

/-!
How a run of the program ends. Main statement: a run whose configuration or level is wrong says so and does
nothing; a run whose builds come to their end has the exit code zero however many targets failed, names those
that did, and leaves no process behind.
-/

namespace BundleForge

/-- A configuration that is wrong, and values in its file that are wrong for their kind. What the system
refuses, what is too large or too deep, and what has the wrong kind is something else. -/
inductive LoadFault.IsWrong : LoadFault → Prop
  | configuration (fault : ConfigurationFault) : IsWrong (.configuration fault)
  | number (fault : Number.IntegerFault) : IsWrong (.number fault)
  | moment (fault : MomentFault) : IsWrong (.moment fault)
  | undecodable (refusal : Text.Utf8.Refusal) : IsWrong (.file (.undecodable refusal))
  | nullInPath : IsWrong (.file .nullInPath)
  | notReal (text : String) : IsWrong (.scalar (.notReal text))
  | notInteger (base : Nat) (text : String) : IsWrong (.scalar (.notInteger base text))
  | characterTooLarge : IsWrong (.scalar .characterTooLarge)

namespace Configuration

/-- A configuration that is loaded was made of some table. -/
theorem settled_of_load {t : Tree} {root : Path} {asked : Option Path} {c : Configuration}
    (h : load t root asked = .ok c) : ∃ data, Settled data c := by
  unfold load at h
  obtain ⟨source, -, h⟩ := bind_eq_ok.mp h
  cases source with
  | none =>
    exact ⟨_, ((reads_ofTable root [] none).settled c h).1.2.2⟩
  | some p =>
    obtain ⟨data, -, h⟩ := bind_eq_ok.mp h
    exact ⟨data, ((reads_ofTable root data (some p)).settled c h).1.2.2⟩

end Configuration

namespace CommandLine

open Bridge

theorem isTold_iff (fault : LoadFault) : isTold fault = true ↔ fault.IsWrong := by
  constructor
  · intro told
    cases fault with
    | configuration fault => exact .configuration fault
    | number fault => exact .number fault
    | moment fault => exact .moment fault
    | tooDeep => cases told
    | file fault =>
      cases fault with
      | system => cases told
      | undecodable refusal => exact .undecodable refusal
      | nullInPath => exact .nullInPath
    | scalar fault =>
      cases fault with
      | notReal text => exact .notReal text
      | notInteger base text => exact .notInteger base text
      | characterTooLarge => exact .characterTooLarge
      | _ => cases told
  · intro wrong
    cases wrong <;> rfl

/-- What is told to the user of a run that does not start: what is wrong with the configuration, or that
there is no level of the name that it gives, where the arguments ask for none. -/
inductive Refused (e : Environment) (t : Tree) (a : Arguments) : String → Prop
  | load {fault : LoadFault} (failed : Configuration.load t e.workspace (askedFile a) = .error fault)
      (wrong : fault.IsWrong) : Refused e t a fault.message
  | level {c : Configuration} (loaded : Configuration.load t e.workspace (askedFile a) = .ok c)
      (unasked : a.logLevel = none) (unknown : ∀ l : Level, l.name ≠ c.settings.logLevel) :
      Refused e t a (Level.unknownMessage c.settings.logLevel)

/-- A run that starts, with a configuration and the level that is asked for or configured. -/
structure Starts (e : Environment) (t : Tree) (a : Arguments) (c : Configuration) (l : Level) : Prop where
  loaded : Configuration.load t e.workspace (askedFile a) = .ok c
  level : a.logLevel = some l ∨ a.logLevel = none ∧ l.name = c.settings.logLevel

theorem ofName?_eq_none {name : String} (unknown : ∀ l : Level, l.name ≠ name) : Level.ofName? name = none :=
  List.find?_eq_none.mpr fun l _ => by simpa using unknown l

theorem Starts.prepare {e : Environment} {t : Tree} {a : Arguments} {c : Configuration} {l : Level}
    (h : Starts e t a c l) : prepare e t a = .ok ⟨c, l⟩ := by
  have level : levelOf a c = .ok l := by
    rcases h.level with asked | ⟨unasked, named⟩
    · simp only [levelOf, asked]
    · simp only [levelOf, unasked, ← named, Level.ofName?_name]
  simp only [CommandLine.prepare, h.loaded, level]

theorem Refused.prepare {e : Environment} {t : Tree} {a : Arguments} {text : String}
    (h : Refused e t a text) : prepare e t a = .error (.told text) := by
  cases h with
  | load failed wrong => simp only [CommandLine.prepare, failed, (isTold_iff _).mpr wrong, if_true]
  | level loaded unasked unknown =>
    simp only [CommandLine.prepare, loaded, levelOf, unasked, ofName?_eq_none unknown]

/-- What holds of the processes from build to build: all are accounted for, and without watching none is
watched. -/
def Tended (flags : ModeFlags) (r : Running) : Prop :=
  r.Accounted ∧ (flags.watch = false → r.watchers = [])

theorem tended_of_fresh (flags : ModeFlags) (t : Tree) (scripts : List Script) :
    Tended flags { tree := t, scripts } :=
  ⟨Running.accounted_of_fresh t scripts, fun _ => rfl⟩

theorem keeping_builderOf (e : Environment) (p : Prepared) (flags : ModeFlags) :
    (builderOf e p).Keeping flags (Tended flags) where
  built job same := by
    refine ⟨fun r holds => ?_, fun _ _ _ _ => trivial⟩
    have handling := Engine.build_handling
      { level := p.level, cwd := e.workspace, node := p.configuration.settings.node, bridge := e.bridge } job r
    refine ⟨handling.accounted holds.1, fun unwatched => ?_⟩
    cases handling with
    | idle _ _ _ watchers => exact watchers.trans (holds.2 unwatched)
    | ends _ _ _ _ _ _ watchers => exact watchers.trans (holds.2 unwatched)
    | watches _ _ opened =>
      rw [same, unwatched] at opened
      cases opened.1
  files r holds tree hardenings := ⟨⟨holds.1.coded, holds.1.covered, holds.1.known⟩, holds.2⟩

theorem run_crashing {α : Type} {a : Action Build.Crash Running α} {r r' : Running} {x : α}
    {events : List Event} (h : a.run r = ⟨.ok x, r', events⟩) : (crashing a).run r = ⟨.ok x, r', events⟩ := by
  have tried : (Action.attempt a : Task (Except Build.Crash α)).run r = ⟨.ok (.ok x), r', events⟩ := by
    rw [Action.run_attempt, h]
  unfold crashing
  rw [Action.run_bind_ok tried]
  simp

/-- Every process that was started has ended, with a code. -/
def AllEnded (r : Running) : Prop := ∀ n < r.started, ∃ p ∈ r.ended, p.number = n ∧ p.code.isSome = true

theorem allEnded_of_unwatched {r : Running} (h : r.Accounted) (unwatched : r.watchers = []) : AllEnded r := by
  intro n below
  by_contra absent
  have alive : r.Alive n := ⟨below, fun p among number => absent ⟨p, among, number, h.coded p among⟩⟩
  obtain ⟨w, among, -⟩ := h.covered n alive
  rw [unwatched] at among
  cases among

/-- The closing ends every process. -/
theorem run_close_eq_ok {ε : Type} {r : Running} (h : r.Accounted) :
    ∃ r' events, (Engine.close : Action ε Running Unit).run r = ⟨.ok (), r', events⟩ ∧ AllEnded r' := by
  obtain ⟨kept, none, -⟩ := Engine.accounted_close (ε := ε) h
  obtain ⟨events, closed⟩ := Engine.run_close (ε := ε) r
  rw [closed] at kept none
  exact ⟨_, events, closed, allEnded_of_unwatched kept none⟩

/-- The watching has no fault of its own and leaves no process behind. -/
theorem run_watch (e : Environment) (l : Level) {r : Running} (h : r.Accounted) :
    ∃ lost r' events, (watch e l).run r = ⟨.ok lost, r', events⟩ ∧ AllEnded r' := by
  have last (lost : List Bridge.Fault) {r : Running} (h : r.Accounted) :
      ∃ r' events, (do Engine.close; return lost : Task (List Bridge.Fault)).run r = ⟨.ok lost, r', events⟩ ∧
        AllEnded r' := by
    obtain ⟨r', events, closed, ended⟩ := run_close_eq_ok (ε := Crash) h
    rw [Action.run_bind_ok closed]
    exact ⟨r', _, rfl, ended⟩
  have told : (Action.emit (l.log .info "Watching for changes...") : Task Unit).run r =
      ⟨.ok (), r, l.log .info "Watching for changes..."⟩ := rfl
  unfold watch
  rw [Action.run_bind_ok told]
  dsimp only
  split
  · obtain ⟨r', events, closed, ended⟩ := last [] h
    have nothing : (pure [] : Task (List Bridge.Fault)).run r = ⟨.ok [], r, []⟩ := rfl
    rw [Action.run_bind_ok nothing, closed]
    exact ⟨[], r', _, rfl, ended⟩
  · have kept := Engine.accounted_wait (ε := Crash) h
    obtain ⟨watchers, lost, events₁, waited, -⟩ := Engine.run_wait_eq_ok (ε := Crash) r
    rw [waited] at kept
    obtain ⟨r', events, closed, ended⟩ := last lost kept
    rw [Action.run_bind_ok waited, closed]
    exact ⟨lost, r', _, rfl, ended⟩

/-- How a run ends whose builds came to their end: with the exit code zero, one line for the targets that
failed, in their order, and none where there are none, and no process left behind. What else it does is what
the builds and the watching do. -/
structure Finished (e : Environment) (l : Level) (flags : ModeFlags)
    (built : Done Build.Crash Running (List Build.TargetResult)) (results : List Build.TargetResult)
    (done : Done Crash Running Exit) : Prop where
  code : ∃ lost, done.result = .ok { code := 0, lost }
  names : results.map Build.TargetResult.name = ["client", "server", "shared"]
  events : ∃ failures, done.events = built.events ++ failures ++
      (if flags.watch then ((watch e l).run built.state).events else []) ∧
    ((∀ result ∈ results, result.succeeded = true) → failures = []) ∧
    ((∃ result ∈ results, result.succeeded = false) → failures = l.log .error ("Failed target(s): " ++
      ", ".intercalate ((results.filter fun result => !result.succeeded).map Build.TargetResult.name)))
  ended : AllEnded done.state

theorem failureLines_eq (l : Level) (results : List Build.TargetResult) :
    ((∀ result ∈ results, result.succeeded = true) → failureLines l results = []) ∧
    ((∃ result ∈ results, result.succeeded = false) → failureLines l results = l.log .error
      ("Failed target(s): " ++
        ", ".intercalate ((results.filter fun result => !result.succeeded).map Build.TargetResult.name))) := by
  constructor
  · intro all
    have none : (results.filter fun result => !result.succeeded) = [] := by simpa using all
    simp [failureLines, failedNames, none]
  · rintro ⟨result, among, failed⟩
    have some : (results.filter fun result => !result.succeeded) ≠ [] := by
      simpa using ⟨result, among, failed⟩
    simp [failureLines, failedNames, some]

theorem build_finished (e : Environment) (p : Prepared) (flags : ModeFlags) (t : Tree) (scripts : List Script)
    (names : p.configuration.targets.map Target.name = ["client", "server", "shared"])
    {results : List Build.TargetResult}
    (came : (((builderOf e p).run flags p.configuration.targets).run { tree := t, scripts }).result =
      .ok results) :
    Finished e p.level flags (((builderOf e p).run flags p.configuration.targets).run { tree := t, scripts })
      results ((build e p flags).run { tree := t, scripts }) := by
  have ensured := Build.Builder.ensures_run (keeping_builderOf e p flags) p.configuration.targets
  have tended := ensured.keeps _ (tended_of_fresh flags t scripts)
  have named := ensured.gives _ (tended_of_fresh flags t scripts) results came
  generalize ran : ((builderOf e p).run flags p.configuration.targets).run { tree := t, scripts } = built at *
  obtain ⟨result, r, events⟩ := built
  obtain rfl : result = .ok results := came
  have told : (Action.emit (failureLines p.level results) : Task Unit).run r =
      ⟨.ok (), r, failureLines p.level results⟩ := rfl
  obtain ⟨quiet, loud⟩ := failureLines_eq p.level results
  unfold build
  rw [Action.run_bind_ok (run_crashing ran), Action.run_bind_ok told]
  cases watches : flags.watch with
  | true =>
    obtain ⟨lost, r', watching, watched, ended⟩ := run_watch e p.level tended.1
    rw [if_pos rfl, Action.run_bind_ok watched]
    exact ⟨⟨lost, rfl⟩, named.trans names, ⟨_, by simp [watches, watched], quiet, loud⟩, ended⟩
  | false =>
    rw [if_neg Bool.false_ne_true]
    exact ⟨⟨[], rfl⟩, named.trans names, ⟨_, by simp [watches], quiet, loud⟩,
      allEnded_of_unwatched tended.1 (tended.2 watches)⟩

/-- What a run does whose arguments are accepted. -/
def following (e : Environment) (words : List String) : Except Obstacle Prepared → Task Exit
  | .error (.told text) => do
    .emit [.printed .errors ("Error: " ++ text)]
    return { code := 2 }
  | .error (.crash fault) => .fail (.load fault)
  | .ok prepared => build e prepared (ModeFlags.ofArguments words)

theorem run_eq_following {words : List String} {a : Arguments} (accepted : Arguments.ofTexts words = .ok a)
    (e : Environment) (r : Running) :
    (run e words).run r = (following e words (prepare e r.tree a)).run r := by
  unfold run
  rw [accepted]
  dsimp only
  rw [Action.run_bind_ok (Action.run_state r)]
  unfold following
  rcases prepare e r.tree a with (text | fault) | prepared <;> simp

/-- A workspace without a configuration. -/
def bareEnvironment : Environment where
  workspace := .ofString "/app"
  tool := fun _ _ => .silent
  scratch := .ofString "/tmp"
  bridge := "/app/bridge.js"

def bareConfiguration : Configuration where
  root := .ofString "/app"
  settings := {}
  targets := Target.defaults
  source := none

/-- No process can be had but one, which comes to a result and does not end by itself. -/
def onceBuilt : Running where
  tree := { top := .dir [] }
  scripts := [{ items := [.line "\x7b\"type\":\"result\",\"outputFiles\":[]\x7d"], hangs := true }]

/-- Nothing stands below the top of an empty tree. -/
theorem isFile_bare {p : Path} (parts : ∃ name, p.parts = ["app", name])
    (short : p.text.utf8ByteSize < Tree.pathLimit) : onceBuilt.tree.isFile p = .ok false := by
  obtain ⟨name, parts⟩ := parts
  have fits : ¬ Tree.nameLimit < "app".utf8ByteSize := by decide
  have walked : Tree.walk (.dir []) Tree.linkLimit [] ["app", name] = .error .missing := by
    rw [Tree.walk]
    simp [Node.at?, fits]
  have absent : onceBuilt.tree.node p = .error .missing := by
    simp [Tree.node, Tree.realPlace, Tree.spot, parts, onceBuilt, Nat.not_le.mpr short, walked]
  unfold Tree.isFile Tree.ask
  split
  · rfl
  · simp [absent, Refusal.isAbsence]

theorem load_missing :
    Configuration.load onceBuilt.tree bareEnvironment.workspace (askedFile { config := some "missing.toml" }) =
      .error (.configuration (.notFound "/app/missing.toml")) := by
  have asked : askedFile { config := some "missing.toml" } = some (.ofString "missing.toml") := by
    decide +kernel
  have path : (bareEnvironment.workspace.join (.ofString "missing.toml")).text = "/app/missing.toml" := by
    decide +kernel
  have absent : onceBuilt.tree.isFile (bareEnvironment.workspace.join (.ofString "missing.toml")) = .ok false :=
    isFile_bare ⟨"missing.toml", by decide +kernel⟩ (by decide +kernel)
  rw [asked]
  simp only [Configuration.load, Configuration.sourceOf, absent, path]
  rfl

theorem load_bare :
    Configuration.load onceBuilt.tree bareEnvironment.workspace none = .ok bareConfiguration := by
  have absent : ∀ suffix ∈ [".toml", ".json", ".yaml", ".yml"],
      onceBuilt.tree.isFile (bareEnvironment.workspace / (Configuration.stem ++ suffix)) = .ok false := by
    have each : ∀ suffix ∈ [".toml", ".json", ".yaml", ".yml"],
        let p : Path := bareEnvironment.workspace / (Configuration.stem ++ suffix)
        p.parts = ["app", Configuration.stem ++ suffix] ∧ p.text.utf8ByteSize < Tree.pathLimit := by
      decide +kernel
    exact fun suffix among => isFile_bare ⟨_, (each suffix among).1⟩ (each suffix among).2
  simp only [List.forall_mem_cons] at absent
  obtain ⟨toml, json, yaml, yml, -⟩ := absent
  have none : Configuration.find onceBuilt.tree bareEnvironment.workspace = .ok none := by
    simp only [Configuration.find, Configuration.formats, List.map_cons, List.map_nil, Configuration.filesAmong,
      toml, json, yaml, yml]
    rfl
  simp only [Configuration.load, Configuration.sourceOf, none]
  rfl

end CommandLine
end BundleForge
