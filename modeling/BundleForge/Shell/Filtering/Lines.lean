import BundleForge.Shell.State

/-!
Texts as lines of bytes. Main statement: lines that are written with their ends are read as the same
lines.
-/

namespace BundleForge.Shell.Filtering

/-- The bytes of a line without its end. -/
abbrev Line := List UInt8

/-- The lines of some bytes. The last one needs no end. -/
def linesOf (bytes : List UInt8) : List Line :=
  match bytes with
  | [] => []
  | b :: rest =>
    let line := (b :: rest).takeWhile (· ≠ 10)
    line :: linesOf ((b :: rest).drop (line.length + 1))
termination_by bytes.length
decreasing_by simp only [List.length_drop, List.length_cons]; omega

/-- Lines with their ends. -/
def unlines (lines : List Line) : List UInt8 := lines.flatMap fun line => line ++ [10]

theorem linesOf_cons_line (line : Line) (rest : List UInt8) (h : (10 : UInt8) ∉ line) :
    linesOf (line ++ 10 :: rest) = line :: linesOf rest := by
  have e : (line ++ 10 :: rest).takeWhile (· ≠ 10) = line := by
    rw [List.takeWhile_append_of_pos]
    · simp
    · intro b hb
      simp only [decide_eq_true_eq]
      rintro rfl
      exact h hb
  have d : (line ++ 10 :: rest).drop (line.length + 1) = rest := by
    rw [List.drop_append]
    simp
  cases hl : line ++ 10 :: rest with
  | nil => simp at hl
  | cons b bs =>
    rw [hl] at e d
    rw [linesOf, e, d]

theorem linesOf_unlines (lines : List Line) (h : ∀ line ∈ lines, (10 : UInt8) ∉ line) :
    linesOf (unlines lines) = lines := by
  induction lines with
  | nil => simp [unlines, linesOf]
  | cons line lines ih =>
    have e : unlines (line :: lines) = line ++ 10 :: unlines lines := by simp [unlines]
    rw [e, linesOf_cons_line line _ (h line List.mem_cons_self),
      ih fun l hl => h l (List.mem_cons_of_mem _ hl)]

end BundleForge.Shell.Filtering
