import BundleForge.Build.Builder
import BundleForge.Proofs.Bridge.Levels
import BundleForge.Proofs.Bridge.Upkeep

/-!
Whole runs at two levels. Main statement: a run over targets, with the listening of its watch sessions and the
closing, does and comes to the same at every level, and of its lines the lower level shows those that are
allowed at it.
-/

namespace BundleForge

open BundleForge.Action

variable {low : Level}

namespace Hardening

/-- A hardener that prints nothing. -/
def Hardener.Silent (h : Hardener) : Prop := ∀ source, (h.event source).severity? = none

def Pass.dimmed (low : Level) (pass : Pass) : Pass := { pass with level := low }

namespace Pass

variable {pass : Pass}

theorem dims_say {ε : Type} (le : low.rank ≤ pass.level.rank) {severity : Severity}
    (tagged : severity ≠ .report) (text : String) :
    Dims low Eq Eq ((pass.dimmed low).say severity text : Action ε Progress Unit) (pass.say severity text) :=
  .log le fun report => absurd report tagged

theorem dims_record {ε : Type} (result : Result) :
    Dims low Eq Eq (record result : Action ε Progress Unit) (record result) :=
  .of_silent fun _ _ member => nomatch member

theorem dims_replaceScript (silent : pass.hardener.Silent) (p : Path) :
    Dims low Eq Eq ((pass.dimmed low).replaceScript p) (pass.replaceScript p) := by
  have hardens (source : String) : Emits (fun e => e.severity? = none) (pass.harden source) := by
    intro s e member
    rw [List.mem_singleton.mp member]
    exact silent source
  exact .of_silent (emits_state.bind fun s => (emits_ofExcept _).bind fun source =>
    (hardens source).bind fun hardened => (emits_ofExcept _).bind fun t => fun _ _ member => nomatch member)

theorem dims_hardenFile (le : low.rank ≤ pass.level.rank) (silent : pass.hardener.Silent) (p : Path) :
    Dims low Eq Eq ((pass.dimmed low).hardenFile p) (pass.hardenFile p) := by
  refine (dims_replaceScript silent p).attempt.follow fun replaced => ?_
  split
  · exact (dims_say le (by simp) _).follow fun _ => dims_record _
  · exact .fail _
  · exact (dims_say le (by simp) _).follow fun _ => dims_record _

theorem dims_asks (question : Tree → Path → Except SystemFault Bool) (p : Path) :
    Dims low Eq Eq (asks question p) (asks question p) := by
  refine .of_silent fun s e member => ?_
  have nothing : ((asks question p).run s).events = [] := by
    simp only [asks, Action.run]
    split <;> rfl
  rw [nothing] at member
  cases member

theorem dims_visit (le : low.rank ≤ pass.level.rank) (silent : pass.hardener.Silent)
    {descend descend' : Path → Action WalkFault Progress Unit}
    (below : ∀ p, Dims low Eq Eq (descend p) (descend' p))
    (entry : Path) : Dims low Eq Eq ((pass.dimmed low).visit descend entry) (pass.visit descend' entry) := by
  refine (dims_asks _ entry).follow fun isDir => ?_
  split
  · exact below entry
  · refine (dims_asks _ entry).follow fun isFile => ?_
    split
    · split
      · exact dims_hardenFile le silent entry
      · exact .pure rfl
    · exact .pure rfl

/-- Induction on the depth of the walk. -/
theorem dims_walk (le : low.rank ≤ pass.level.rank) (silent : pass.hardener.Silent) (depth : Nat)
    (directory : Path) :
    Dims low Eq Eq ((pass.dimmed low).walk depth directory) (pass.walk depth directory) := by
  induction depth generalizing directory with
  | zero => exact .fail _
  | succ depth ih =>
    refine Dims.state.bind ?_
    rintro s _ rfl
    exact (Dims.ofExcept _).follow fun entries => .each fun entry _ => dims_visit le silent ih entry

theorem dimmed_run (le : low.rank ≤ pass.level.rank) (silent : pass.hardener.Silent) (directory : Path)
    (t : Tree) (calls : Nat) : Dimmed low Eq Eq ((pass.dimmed low).run directory t calls) (pass.run directory t calls) :=
  dims_walk le silent _ directory _ _ rfl

end Pass
end Hardening

namespace Build

open Bridge (Dusk Running)

namespace Builder

/-- The builder at a lower level, with a bundler for that level. -/
def dimmed (low : Level) (bundle : Bridge.Job → Action Bridge.Fault Running Bridge.Outcome) (b : Builder) :
    Builder := { b with level := low, bundle }

/-- A builder and a bundler that does at a lower level what the builder's own does. -/
structure Quieter (low : Level) (bundle : Bridge.Job → Action Bridge.Fault Running Bridge.Outcome)
    (b : Builder) : Prop where
  level : low.rank ≤ b.level.rank
  silent : b.hardener.Silent
  bundles : ∀ job, Dims low (Dusk low) Eq (bundle (job.dimmed low)) (b.bundle job)

variable {b : Builder} {bundle : Bridge.Job → Action Bridge.Fault Running Bridge.Outcome} {flags : ModeFlags}
  {t : Target}

theorem dims_say {ε σ : Type} {R : σ → σ → Prop} (le : low.rank ≤ b.level.rank) {severity : Severity}
    (tagged : severity ≠ .report) (text : String) :
    Dims low R Eq ((b.dimmed low bundle).say t severity text : Action ε σ Unit) (b.say t severity text) :=
  .log le fun report => absurd report tagged

theorem onRebuild_dimmed (le : low.rank ≤ b.level.rank) (rebuild : Rebuild) :
    (b.dimmed low bundle).onRebuild t rebuild = (b.onRebuild t rebuild).filter low.shows := by
  unfold onRebuild
  split
  · exact log_eq_filter le (by simp)
  · exact log_eq_filter le (by simp)

theorem job_dimmed (le : low.rank ≤ b.level.rank) :
    (b.dimmed low bundle).job t flags = (b.job t flags).dimmed low := by
  have rebuilds : (b.dimmed low bundle).onRebuild t = fun rebuild => (b.onRebuild t rebuild).filter low.shows :=
    funext (onRebuild_dimmed le)
  unfold job Bridge.Job.dimmed
  cases flags.watch with
  | false => rfl
  | true =>
    simp only [if_true, rebuilds]
    rfl

theorem dims_printReport (le : low.rank ≤ b.level.rank) (o : Bridge.Outcome) :
    Dims low (Dusk low) Eq ((b.dimmed low bundle).printReport t o) (b.printReport t o) := by
  unfold printReport
  split
  · rename_i report rendered
    exact (Dims.log le fun _ => isUntagged_render rendered).follow fun _ => .pure rfl
  · split
    · exact .fail _
    · exact (dims_say le (by simp) _).follow fun _ => .pure rfl

theorem pass_dimmed : (b.dimmed low bundle).pass t = (b.pass t).dimmed low := rfl

theorem outputDirectory_dimmed : (b.dimmed low bundle).outputDirectory t = b.outputDirectory t := rfl

theorem dims_runPass (le : low.rank ≤ b.level.rank) (silent : b.hardener.Silent) :
    Dims low (Dusk low) Eq ((b.dimmed low bundle).runPass t) (b.runPass t) := by
  rintro _ r' ⟨rfl, loud⟩
  let pass := b.pass t
  have done := pass.dimmed_run le silent (b.outputDirectory t) r'.tree r'.hardenings
  unfold runPass
  dsimp only [Action.run]
  rw [pass_dimmed, outputDirectory_dimmed, done.result.eq, done.state, done.events]
  -- the walk is as deep as a path is long, so it is not to be opened from here on
  generalize (b.pass t).run (b.outputDirectory t) r'.tree r'.hardenings = made
  exact ⟨.ok rfl, ⟨rfl, loud⟩, rfl⟩

theorem dims_harden (le : low.rank ≤ b.level.rank) (silent : b.hardener.Silent) (result : TargetResult) :
    Dims low (Dusk low) Eq ((b.dimmed low bundle).harden t result) (b.harden t result) := by
  refine (dims_runPass le silent).follow fun passed => ?_
  obtain ⟨ended, results⟩ := passed
  cases ended with
  | ok => exact .pure rfl
  | error fault =>
    cases fault with
    | nullInPath => exact .fail _
    | refused | bottomless => exact (dims_say le (by simp) _).follow fun _ => .pure rfl

theorem dims_afterBuild (le : low.rank ≤ b.level.rank) (silent : b.hardener.Silent) (o : Bridge.Outcome) :
    Dims low (Dusk low) Eq ((b.dimmed low bundle).afterBuild t flags o) (b.afterBuild t flags o) := by
  refine (dims_say le (by simp) _).follow fun _ => ?_
  split
  · refine (dims_printReport le o).follow fun report => ?_
    dsimp only
    split
    · exact dims_harden le silent _
    · exact (dims_say le (by simp) _).follow fun _ => .pure rfl
  · exact .pure rfl

theorem dims_afterFault (le : low.rank ≤ b.level.rank) (fault : Bridge.Fault) :
    Dims low (Dusk low) Eq ((b.dimmed low bundle).afterFault t fault) (b.afterFault t fault) := by
  unfold afterFault
  dsimp only
  split
  · exact (dims_say le (by simp) _).follow fun _ => .pure rfl
  · exact (dims_say le (by simp) _).follow fun _ => .pure rfl
  · exact (dims_say le (by simp) _).follow fun _ => .pure rfl
  · exact .fail _

theorem dims_runTarget (quieter : b.Quieter low bundle) (t : Target) :
    Dims low (Dusk low) Eq ((b.dimmed low bundle).runTarget flags t) (b.runTarget flags t) := by
  have built := quieter.bundles (b.job t flags)
  rw [← job_dimmed quieter.level] at built
  refine (dims_say quieter.level (by simp) _).follow fun _ => built.attempt.follow fun came => ?_
  cases came with
  | ok outcome => exact dims_afterBuild quieter.level quieter.silent outcome
  | error fault => exact dims_afterFault quieter.level fault

/-- Induction on the targets. -/
theorem dims_run (quieter : b.Quieter low bundle) (targets : List Target) :
    Dims low (Dusk low) Eq ((b.dimmed low bundle).run flags targets) (b.run flags targets) := by
  induction targets with
  | nil => exact .pure rfl
  | cons t rest ih =>
    exact (dims_runTarget quieter t).follow fun result => ih.follow fun others => .pure rfl

/-- A whole run: the targets are built, the watch sessions listened to, and all processes ended. After a
crash nothing is listened to. -/
def course (b : Builder) (flags : ModeFlags) (targets : List Target) :
    Task (List TargetResult × List Bridge.Fault) := do
  match ← .attempt (b.run flags targets) with
  | .ok results => do
    let lost ← Bridge.Engine.wait
    Bridge.Engine.close
    return (results, lost)
  | .error crash => do
    Bridge.Engine.close
    .fail crash

/-- No watch session is left open. -/
theorem watchers_course (b : Builder) (flags : ModeFlags) (targets : List Target) (r : Running) :
    ((b.course flags targets).run r).state.watchers = [] := by
  generalize ran : (b.run flags targets).run r = done
  obtain ⟨came, r', events⟩ := done
  have tried : (Action.attempt (b.run flags targets) : Task (Except Crash (List TargetResult))).run r =
      ⟨.ok came, r', events⟩ := by rw [run_attempt, ran]
  unfold course
  rw [run_bind_ok tried]
  cases came with
  | ok results =>
    obtain ⟨watchers, lost, heard, waited, -⟩ := Bridge.Engine.run_wait_eq_ok (ε := Crash) r'
    obtain ⟨ending, closed⟩ := Bridge.Engine.run_close (ε := Crash) { r' with watchers }
    dsimp only
    rw [run_bind_ok waited, run_bind_ok closed]
    rfl
  | error crash =>
    obtain ⟨ending, closed⟩ := Bridge.Engine.run_close (ε := Crash) r'
    dsimp only
    rw [run_bind_ok closed]
    rfl

theorem dims_course (quieter : b.Quieter low bundle) (targets : List Target) :
    Dims low (Dusk low) Eq ((b.dimmed low bundle).course flags targets) (b.course flags targets) := by
  refine (dims_run quieter targets).attempt.follow fun came => ?_
  cases came with
  | ok results =>
    exact Bridge.Engine.dims_wait.follow fun lost => Bridge.Engine.dims_close.follow fun _ => .pure rfl
  | error crash => exact Bridge.Engine.dims_close.follow fun _ => .fail crash

end Builder

/-- What a run is made with, but for the level of its console. -/
structure Equipment where
  engine : Bridge.Engine
  obfuscator : Hardening.Obfuscator
  workspace : Path
  outDir : Path
  rules : Resolution.Rules := {}

/-- The builder at a level. -/
def Equipment.builder (q : Equipment) (l : Level) : Builder where
  bundle := (q.engine.dimmed l).build
  hardener := q.obfuscator.hardener
  level := l
  workspace := q.workspace
  outDir := q.outDir
  rules := q.rules

theorem Equipment.quieter (q : Equipment) {low high : Level} (le : low.rank ≤ high.rank) :
    (q.builder high).Quieter low (q.engine.dimmed low).build where
  level := le
  silent _ := rfl
  bundles job := Bridge.Engine.dims_build (e := q.engine.dimmed high) le job

def siteEquipment : Equipment where
  engine := { level := .info, cwd := .ofString "/site", bridge := "/site/bridge.js" }
  obfuscator := { scratch := .ofString "/tmp/scratch", tool := .ofRules "/*h*/" [] }
  workspace := .ofString "/site"
  outDir := .ofString "/site/dist"

/-- A bundler that has something to say that is not known, and rebuilds; one that breaks off; and one that does
not start. -/
def siteScripts : List Bridge.Script := [
  { items := [
      .line "\x7b\"type\":\"progress\"\x7d",
      .line "\x7b\"type\":\"result\",\"outputFiles\":[]\x7d",
      .line "\x7b\"type\":\"rebuild\"\x7d",
      .line "\x7b\"type\":\"rebuild\",\"errors\":[\"lost\"]\x7d"]
    hangs := true },
  { items := [.line "no message"], hangs := true },
  { startFault := some (.refused .noRoom none) }]

end Build
end BundleForge
