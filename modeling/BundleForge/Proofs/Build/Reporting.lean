import BundleForge.Proofs.Build.Attempt
import BundleForge.Proofs.Report.Sizes

/-!
What a report does to a run. Main statement: the report of a target that was built is printed, or told
to be none and passed over, and the run goes on with the hardening and the other targets; only over a
size that no double comes near it breaks off.
-/

namespace BundleForge.Build

/-- A report that was settled: printed, or told to be none. -/
def Settles (b : Builder) (t : Target) (o : Bridge.Outcome) (report : Option String)
    (lines : List Event) : Prop :=
  (∃ text, Report.render true o.metafile = .ok text ∧ report = some text ∧
    lines = b.level.log .report text) ∨
  ∃ misfit, Report.render true o.metafile = .error misfit ∧ misfit.sort ≠ .range ∧ report = none ∧
    lines = b.lines t .error ("Could not analyze metafile: " ++ misfit.message)

namespace Builder

variable {b : Builder} {flags : ModeFlags} {t : Target} {r : Bridge.Running} {o : Bridge.Outcome}

/-- The line that tells of a build that succeeded. -/
def successLines (b : Builder) (t : Target) (o : Bridge.Outcome) : List Event :=
  b.lines t .info ("Build succeeded (" ++ toString o.emitted.length ++ " file(s))")

theorem run_printReport_of_ok {text : String} (h : Report.render true o.metafile = .ok text) :
    (b.printReport t o).run r = ⟨.ok (some text), r, b.level.log .report text⟩ := by
  have printed : (Action.emit (b.level.log .report text) : Task Unit).run r = _ := rfl
  unfold printReport
  rw [h]
  dsimp only
  rw [Action.run_bind_ok printed]
  simp

/-- Misfits are passed over with one line, but for those out of range. -/
theorem run_printReport_of_error {misfit : Misfit} (h : Report.render true o.metafile = .error misfit) :
    (b.printReport t o).run r =
      if misfit.sort = .range then ⟨.error (.report misfit), r, []⟩
      else ⟨.ok none, r, b.lines t .error ("Could not analyze metafile: " ++ misfit.message)⟩ := by
  have shallow := (Report.rangeOnly_render true o.metafile misfit h).1
  unfold printReport
  simp only [h, shallow, or_false]
  split
  · rfl
  · rw [Action.run_bind_ok (run_say b t .error _ r)]
    simp

/-- The report of every metafile is settled, unless it tells of a huge size. -/
theorem settles_or_huge (b : Builder) (t : Target) (o : Bridge.Outcome) :
    (∃ report lines, Settles b t o report lines ∧
      ∀ r, (b.printReport t o).run r = ⟨.ok report, r, lines⟩) ∨
    ∃ misfit, Report.render true o.metafile = .error misfit ∧ misfit.sort = .range ∧
      (∃ size ∈ Report.sizesOf o.metafile, size.isHuge) ∧
      ∀ r, (b.printReport t o).run r = ⟨.error (.report misfit), r, []⟩ := by
  cases h : Report.render true o.metafile with
  | ok text => exact .inl ⟨some text, _, .inl ⟨text, h, rfl, rfl⟩, fun r => run_printReport_of_ok h⟩
  | error misfit =>
    by_cases far : misfit.sort = .range
    · have huge := (Report.rangeOnly_render true o.metafile misfit h).2 far
      exact .inr ⟨misfit, rfl, far, huge, fun r => by rw [run_printReport_of_error h, if_pos far]⟩
    · exact .inl ⟨none, _, .inr ⟨misfit, h, far, rfl, rfl⟩,
        fun r => by rw [run_printReport_of_error h, if_neg far]⟩

/-- What follows a build starts with its success, and in a production build the report comes next. -/
theorem run_afterBuild_of_report (prod : flags.production = true) {report : Option String}
    {lines : List Event} (h : ∀ r, (b.printReport t o).run r = ⟨.ok report, r, lines⟩) :
    ∃ others, ((b.afterBuild t flags o).run r).events = b.successLines t o ++ lines ++ others := by
  unfold afterBuild
  dsimp only
  rw [Action.run_bind_ok (run_say b t .info _ r)]
  simp only [prod, if_true]
  rw [Action.run_bind_ok (h r)]
  exact ⟨_, (List.append_assoc ..).symm⟩

theorem run_afterBuild_of_crash (prod : flags.production = true) {crash : Crash}
    (h : (b.printReport t o).run r = ⟨.error crash, r, []⟩) :
    (b.afterBuild t flags o).run r = ⟨.error crash, r, b.successLines t o⟩ := by
  unfold afterBuild
  dsimp only
  rw [Action.run_bind_ok (run_say b t .info _ r)]
  simp only [prod, if_true]
  rw [Action.run_bind_error h]
  simp [successLines]

/-- An outcome that tells of an output of infinite size. -/
def boundless : Bridge.Outcome where
  metafile := .obj [("outputs", .obj [("a.js", .obj [("bytes", .real (.infinite false))])])]
  emitted := []
  warnings := []

/-- A builder whose bundler comes to such an outcome, with a hardener that never fails. -/
def boundlessBuilder : Builder where
  bundle _ := pure boundless
  hardener := { harden := fun _ source => .ok source, event := fun source => .obfuscated source [] }
  level := .info
  workspace := .ofString "/app"
  outDir := .ofString "/app/dist"

end Builder
end BundleForge.Build
