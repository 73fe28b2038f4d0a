import BundleForge.Build.Builder
import BundleForge.Proofs.Action

/-!
What a run over targets keeps. Main statement: what every build keeps of the processes holds after the whole
run, which has one result for each target, in their order.
-/

namespace BundleForge.Build.Builder

open BundleForge.Action

variable {inv : Bridge.Running → Prop} {b : Builder} {flags : ModeFlags} {t : Target}

/-- What is kept by every build, and does not depend on the files and on how often something was hardened. -/
structure Keeping (b : Builder) (flags : ModeFlags) (inv : Bridge.Running → Prop) : Prop where
  built : ∀ job, job.options.watch = flags.watch → Ensures inv (fun _ => True) (b.bundle job)
  files : ∀ r, inv r → ∀ tree hardenings, inv { r with tree, hardenings }

theorem ensures_printReport (t : Target) (o : Bridge.Outcome) :
    Ensures inv (fun _ => True) (b.printReport t o) := by
  unfold printReport
  split
  · exact (Ensures.emit _).bind fun _ _ => .pure trivial
  · split
    · exact .fail _
    · exact (Ensures.emit _).bind fun _ _ => .pure trivial

theorem ensures_afterFault (fault : Bridge.Fault) :
    Ensures inv (fun result => result.name = t.name) (b.afterFault t fault) := by
  unfold afterFault
  dsimp only
  split
  · exact (Ensures.emit _).bind fun _ _ => .pure rfl
  · exact (Ensures.emit _).bind fun _ _ => .pure rfl
  · exact (Ensures.emit _).bind fun _ _ => .pure rfl
  · exact .fail _

section

variable (files : ∀ r, inv r → ∀ tree hardenings, inv { r with tree, hardenings })

include files

theorem ensures_runPass (t : Target) : Ensures inv (fun _ => True) (b.runPass t) :=
  ⟨fun r holds => files r holds _ _, fun _ _ _ _ => trivial⟩

theorem ensures_harden (t : Target) (result : TargetResult) :
    Ensures inv (fun hardened => hardened.name = result.name) (b.harden t result) := by
  refine (ensures_runPass files t).bind fun passed _ => ?_
  obtain ⟨ended, results⟩ := passed
  cases ended with
  | ok => exact .pure rfl
  | error fault =>
    cases fault with
    | nullInPath => exact .fail _
    | refused | bottomless => exact (Ensures.emit _).bind fun _ _ => .pure rfl

theorem ensures_afterBuild (o : Bridge.Outcome) :
    Ensures inv (fun result => result.name = t.name) (b.afterBuild t flags o) := by
  refine (Ensures.emit _).bind fun _ _ => ?_
  split
  · refine (ensures_printReport t o).bind fun report _ => ?_
    dsimp only
    split
    · exact ensures_harden files t { name := t.name, outcome := some o, report := report }
    · exact (Ensures.emit _).bind fun _ _ => .pure rfl
  · exact .pure rfl

theorem ensures_runTarget (built : Ensures inv (fun _ => True) (b.bundle (b.job t flags))) :
    Ensures inv (fun result => result.name = t.name) (b.runTarget flags t) := by
  refine (Ensures.emit _).bind fun _ _ => built.attempt.bind fun came _ => ?_
  cases came with
  | ok outcome => exact ensures_afterBuild files outcome
  | error fault => exact ensures_afterFault fault

/-- Induction on the targets: each leaves a state from which the others are built. -/
theorem ensures_run_of {targets : List Target}
    (built : ∀ t ∈ targets, Ensures inv (fun _ => True) (b.bundle (b.job t flags))) :
    Ensures inv (fun results => results.map TargetResult.name = targets.map Target.name)
      (b.run flags targets) := by
  induction targets with
  | nil => exact .pure rfl
  | cons t rest ih =>
    have first := ensures_runTarget files (built t (by simp))
    have later := ih fun other among => built other (by simp [among])
    refine first.bind fun result named => later.bind fun others names => ?_
    exact .pure (by rw [List.map_cons, List.map_cons, named, names])

end

theorem ensures_run (keeping : b.Keeping flags inv) (targets : List Target) :
    Ensures inv (fun results => results.map TargetResult.name = targets.map Target.name)
      (b.run flags targets) :=
  ensures_run_of keeping.files fun _ _ => keeping.built _ rfl

end BundleForge.Build.Builder
