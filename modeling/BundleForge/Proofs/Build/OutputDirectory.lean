import BundleForge.Configuration.Basic
import BundleForge.Proofs.Build.Run
import BundleForge.Proofs.Resolution.External
import Mathlib.Tactic.Common

/-!
Where the output of a target lies. Main statement: the output directory that the bundler is told leads,
from the workspace, to the one that is hardened, and a configured output directory is an absolute path.
-/

namespace BundleForge

namespace Path

/-- An absolute path that some text spells. -/
def Absolute (p : Path) : Prop := p.isAbsolute = true ∧ ∃ s, ofString s = p

variable {p base rest : Path}

theorem Absolute.isPartText (h : p.Absolute) : ∀ part ∈ p.parts, IsPartText part := by
  obtain ⟨s, rfl⟩ := h.2
  exact fun _ => isPartText_of_mem_partsOf

/-- Parts that can stand in a path have a text that spells it. -/
theorem absolute_of_isPartText (anchored : p.isAbsolute = true) (parts : ∀ part ∈ p.parts, IsPartText part) :
    p.Absolute := ⟨anchored, p.text, ofString_text parts⟩

theorem isAbsolute_join (h : p.isAbsolute = true) (q : Path) : (p.join q).isAbsolute = true := by
  unfold join
  split
  · assumption
  · exact h

/-- What an absolute path is followed by, be it `..` or absolute itself, leaves it one. -/
theorem Absolute.div (h : p.Absolute) (s : String) : (p / s).Absolute := by
  refine absolute_of_isPartText (isAbsolute_join h.1 _) fun part among => ?_
  rw [div_parts] at among
  split at among
  · exact isPartText_of_mem_partsOf among
  · obtain before | after := List.mem_append.mp among
    · exact h.isPartText part before
    · exact isPartText_of_mem_partsOf after

theorem mem_parts_of_relativeTo? (h : p.relativeTo? base = some rest) {part : String}
    (among : part ∈ rest.parts) : part ∈ p.parts := by
  unfold relativeTo? at h
  split at h
  · obtain ⟨parts, left, rfl⟩ := Option.map_eq_some_iff.mp h
    rw [afterParts?_eq_some left]
    exact List.mem_append_right _ among
  · cases h

end Path

namespace Build.Builder

open BundleForge.Path (Absolute)

/-- Inside the workspace the text is relative and joined to it again; elsewhere it is absolute and stands
for itself. -/
theorem div_outDirText {b : Builder} (outDir : b.outDir.Absolute) (t : Target) :
    b.workspace / b.outDirText t = b.outputDirectory t := by
  have whole : (b.outputDirectory t).Absolute := outDir.div t.name
  unfold outDirText
  cases inside : (b.outputDirectory t).relativeTo? b.workspace with
  | none =>
    have spelled : Path.ofString (b.outputDirectory t).text = b.outputDirectory t :=
      Path.ofString_text whole.isPartText
    rw [Path.div_eq_join, spelled]
    exact Path.join_of_isAbsolute whole.1 _
  | some rest =>
    have spelled : Path.ofString rest.text = rest :=
      Path.ofString_text fun part among => whole.isPartText part (Path.mem_parts_of_relativeTo? inside among)
    rw [Path.div_eq_join, spelled]
    exact join_outDirText b t rest inside

/-- The directory that the bundler is told to write to, seen from the workspace, is the one that is hardened,
whatever workspace, absolute output directory, target and flags are given. Below an absolute root, every text
configures an output directory of this kind. -/
theorem told_directory_is_hardened :
    (∀ (b : Builder) (t : Target) (flags : ModeFlags), b.outDir.Absolute →
      b.workspace / (b.options t flags).outDir = b.outputDirectory t) ∧
    ∀ c : Configuration, c.root.Absolute → c.outDir.Absolute :=
  ⟨fun _ t _ outDir => div_outDirText outDir t, fun c root => root.div c.settings.outDir⟩

/-- A target whose name leads out of the output directory and into the workspace again. -/
def upwardTarget : Target :=
  { name := "..//up/./x", platform := .neutral, entryModule := "i.ts", format := .immediate, baseline := [] }

theorem told_directory_is_hardened_upwards :
    let flags : ModeFlags := ⟨true, false⟩
    let c : Configuration := ⟨.ofString "/app", { outDir := "//srv/../out" }, [], none⟩
    halfBuilder.outDir.Absolute ∧ (halfBuilder.options upwardTarget flags).outDir = "dist/../up/x" ∧
      halfBuilder.workspace / (halfBuilder.options upwardTarget flags).outDir =
        halfBuilder.outputDirectory upwardTarget ∧
      c.root.Absolute ∧ c.outDir.Absolute := by
  intro flags c
  have outDir : halfBuilder.outDir.Absolute := ⟨by decide, "/app/dist", rfl⟩
  have root : c.root.Absolute := ⟨by decide, "/app", rfl⟩
  exact ⟨outDir, by decide, told_directory_is_hardened.1 halfBuilder upwardTarget flags outDir, root,
    told_directory_is_hardened.2 c root⟩

end Build.Builder
end BundleForge
