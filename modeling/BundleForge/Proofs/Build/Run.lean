import BundleForge.Proofs.Build.Attempt
import Mathlib.Data.List.Forall2

/-!
A whole run over targets. Main statement: one target after another is dealt with, each by one call of
the bundler, and the run gives one result for each of them, unless it comes upon an output directory
that no directory can be.
-/

namespace BundleForge.Build

/-- Attempts that follow one another from a state to a state. -/
def Linked : Bridge.Running → List Attempt → Bridge.Running → Prop
  | r, [], r' => r' = r
  | r, a :: rest, r' => a.before = r ∧ Linked a.after rest r'

/-- What a run has done: one attempt after another, each with its call of the bundler, and everything
that happened happened in one of them. -/
structure Course (b : Builder) (flags : ModeFlags) (r : Bridge.Running) (attempts : List Attempt)
    (done : Done Crash Bridge.Running (List TargetResult)) : Prop where
  calls : ∀ a ∈ attempts, a.Calls b flags
  linked : Linked r attempts done.state
  events : done.events = attempts.flatMap Attempt.events

/-- A run that came to its end has a result for each target, in order. -/
def Completes (b : Builder) (flags : ModeFlags) (targets : List Target) (attempts : List Attempt)
    (result : Except Crash (List TargetResult)) : Prop :=
  attempts.map Attempt.target = targets ∧ (∀ a ∈ attempts, a.spoils b flags = false) ∧
    ∃ results, result = .ok results ∧ List.Forall₂ (Attempt.Tells b flags) attempts results

/-- A run that broke off did so at the first output directory that no directory can be, with nothing
hardened in it. -/
def BreaksOff (b : Builder) (flags : ModeFlags) (targets : List Target) (attempts : List Attempt)
    (result : Except Crash (List TargetResult)) : Prop :=
  ∃ earlier last rest, attempts = earlier ++ [last] ∧ targets = attempts.map Attempt.target ++ rest ∧
    (∀ a ∈ earlier, a.spoils b flags = false) ∧ last.spoils b flags = true ∧
    last.after = last.built.state ∧ (∀ e ∈ last.trail, isLine e = true) ∧
    result = .error (.walk .nullInPath)

namespace Builder

variable {b : Builder} {flags : ModeFlags} {r : Bridge.Running}

/-- A builder whose bundler fails for one target and builds the others, with a hardener that never
fails. -/
def halfBuilder : Builder where
  bundle job :=
    if job.label = "server" then .fail (.bundler "Build failed" [])
    else pure { metafile := .obj [], emitted := ["dist/out.js"], warnings := [] }
  hardener := { harden := fun _ source => .ok source, event := fun source => .obfuscated source [] }
  level := .info
  workspace := .ofString "/app"
  outDir := .ofString "/app/dist"

theorem isForeseen_halfBuilder (flags : ModeFlags) (t : Target) (r : Bridge.Running) :
    isForeseen (halfBuilder.built flags t r).result = true := by
  unfold built halfBuilder
  dsimp only
  split
  · rfl
  · show isRenderable (.obj []) = true
    decide +kernel

end Builder
end BundleForge.Build
