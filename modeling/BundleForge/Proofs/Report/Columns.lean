import BundleForge.Proofs.Number.Nearest
import BundleForge.Report.Basic

/-!
The columns of a report and the lines that rows become. Main statements: a share of not much more than the whole
fits its column, rows as wide as their columns make lines of one length, and blocks of rows are set apart by single
empty lines.
-/

namespace BundleForge

namespace Text

theorem length_padRight {s : String} {width : Nat} (fits : s.length ≤ width) : (padRight s width).length = width := by
  simp [padRight, fits]

theorem length_padLeft {s : String} {width : Nat} (fits : s.length ≤ width) : (padLeft s width).length = width := by
  simp [padLeft, fits]

end Text

namespace Report

theorem quotient_natCast {num den m : Nat} {e : Int} (h : Binary64.nearest false num den = .finite false m e) :
    quotient num den = .ok (.finite false m e) := by
  have unsigned (n : Nat) : ((n : Int) < 0 : Bool) = false := by simp
  rw [quotient, unsigned, unsigned, Int.natAbs_natCast, Int.natAbs_natCast, bne_self_eq_false, h]

theorem exists_inUnits {size unitSize : Nat} (pos : 0 < unitSize) (unit : String)
    (fits : size < Binary64.rangeEnd) : ∃ s, inUnits size unitSize unit = .ok s := by
  obtain ⟨m, e, finite⟩ := Binary64.nearest_finite false (Nat.lt_of_lt_of_le fits (Nat.le_mul_of_pos_left _ pos))
  rw [inUnits, quotient_natCast finite]
  exact ⟨_, rfl⟩

-- for any limit, so that no power of this size is ever computed
theorem lt_pow_of_lt {size limit : Nat} (few : size < 1024) (far : 4 ≤ limit) : size < Nat.pow 10 limit :=
  Nat.lt_of_lt_of_le (by omega) (Nat.pow_le_pow_right (by omega) far)

theorem formatSize_of_few {size : Nat} (few : size < 1024) : formatSize size = .ok (toString (size : Int) ++ "b") :=
  formatSize_of_lt (by omega) (lt_pow_of_lt few (by decide))

theorem exists_formatSize {size : Nat} (small : size < 2 ^ 64) : ∃ s, formatSize size = .ok s := by
  have fits : size < Binary64.rangeEnd := by
    calc size
      _ < 2 ^ 64 := small
      _ ≤ 2 ^ Binary64.halfStep := Nat.pow_le_pow_right (by omega) (by decide)
      _ ≤ Binary64.rangeEnd := Nat.le_mul_of_pos_right _ (by decide)
  by_cases few : size < 1024
  · exact ⟨_, formatSize_of_few few⟩
  · rw [formatSize, if_neg (by omega)]
    split
    · exact exists_inUnits (by decide) "kb" fits
    · exact exists_inUnits (by decide) "mb" fits

/-- A share of at most 9.9 times the whole is written with at most three digits before the point. -/
theorem exists_share {size total : Nat} (part : 10 * size ≤ 99 * total) :
    ∃ s, share size total = .ok s ∧ s.length ≤ 6 := by
  unfold share
  split
  · exact ⟨_, rfl, by decide⟩
  -- 10138 / 2 ^ 10 is the first double with ten places that is not below 9.9
  have bound : size * 2 ^ 10 ≤ total * 10138 := by omega
  obtain ⟨m, k, ratio, least⟩ := Binary64.nearest_le false (by omega) (by decide) bound
  obtain ⟨m', k', percent, least'⟩ := Binary64.mul_le (n := 100) (j := 46) (by omega) (by decide) least
  have hundred : Binary64.ofInt 100 = .finite false (100 * 2 ^ 46) (-(46 : Nat)) := by decide +kernel
  have digits : m' * 10 ^ 1 ≤ 2 ^ k' * (10 ^ (3 + 1) - 1) := by omega
  have short := Binary64.length_fixed_le (by omega) digits
  refine ⟨(Binary64.finite false m' (-(k' : Int))).fixed 1 ++ "%", ?_, ?_⟩
  · rw [quotient_natCast ratio, Except.map, hundred, percent]
  · rw [String.length_append]
    exact Nat.add_le_add_right short 1

/-- A row is no wider than its columns. -/
structure Row.Fits (w : Widths) (r : Row) : Prop where
  label : r.label.length ≤ w.label
  size : r.size.length ≤ w.size
  share : r.share.length ≤ 6

theorem le_foldl_max {n : Nat} {ns : List Nat} (h : n ∈ ns) : n ≤ ns.foldl max 0 := by
  have greatest := List.le_max?_get_of_mem h
  rw [@Option.get_eq_getD _ 0] at greatest
  rw [List.foldl_max]
  exact Nat.le_trans greatest (Nat.le_max_right ..)

theorem fits_widthsOf {rows : List Row} {r : Row} (h : r ∈ rows) (short : r.share.length ≤ 6) :
    r.Fits (widthsOf rows) where
  label := le_foldl_max (List.mem_map.mpr ⟨r, h, rfl⟩)
  size := le_foldl_max (List.mem_map.mpr ⟨r, h, rfl⟩)
  share := short

variable {w : Widths} {r : Row}

theorem length_rowLine (h : r.Fits w) : (rowLine w r).length = w.label + w.size + 12 := by
  have label := Text.length_padRight h.label
  have size := Text.length_padLeft h.size
  have share := Text.length_padLeft h.share
  have gap : "  ".length = 2 := rfl
  simp only [rowLine, String.length_append, label, size, share, gap]
  omega

/-- The sizes end at one place of their lines. -/
theorem size_suffix_rowLine (h : r.Fits w) :
    r.size.toList <:+ (rowLine w r).toList.take (w.label + w.size + 4) := by
  let front := "  " ++ Text.padRight r.label w.label ++ "  " ++ Text.padLeft r.size w.size
  have width : front.toList.length = w.label + w.size + 4 := by
    have gap : "  ".length = 2 := rfl
    simp only [front, String.length_toList, String.length_append, Text.length_padRight h.label,
      Text.length_padLeft h.size, gap]
    omega
  have parts : rowLine w r = front ++ ("  " ++ Text.padLeft r.share 6) := String.append_assoc
  rw [parts, String.toList_append, ← width, List.take_left]
  simp only [front, Text.padLeft, String.toList_append, ← List.append_assoc]
  exact List.suffix_append ..

/-- A row that starts a block and others that do not, and no chain below any of them. -/
inductive IsBlock : List Row → Prop
  | rows {first : Row} {rest : List Row} (starts : startsBlock first = true)
      (inside : ∀ r ∈ rest, startsBlock r = false) (plain : ∀ r ∈ first :: rest, r.chain = []) :
      IsBlock (first :: rest)

variable {rows others : List Row} {blocks : List (List Row)}

theorem rowLines_inside (inside : ∀ r ∈ rows, startsBlock r = false) (plain : ∀ r ∈ rows, r.chain = []) :
    rowLines w false (rows ++ others) = rows.map (rowLine w) ++ rowLines w false others := by
  induction rows with
  | nil => rfl
  | cons r rest ih =>
    rw [List.forall_mem_cons] at inside plain
    rw [List.cons_append, rowLines, inside.1, plain.1, ih inside.2 plain.2]
    rfl

theorem rowLines_block (h : IsBlock rows) :
    rowLines w true (rows ++ others) = rows.map (rowLine w) ++ rowLines w false others := by
  obtain ⟨starts, inside, plain⟩ := h
  rw [List.forall_mem_cons] at plain
  rw [List.cons_append, rowLines, starts, plain.1, rowLines_inside inside plain.2]
  rfl

/-- Only what stands before a block tells whether it is the first. -/
theorem rowLines_later (h : IsBlock rows) :
    rowLines w false (rows ++ others) = "" :: rowLines w true (rows ++ others) := by
  obtain ⟨starts, -, -⟩ := h
  rw [List.cons_append, rowLines, rowLines, starts]
  rfl

theorem rowLines_blocks (h : ∀ rows ∈ blocks, IsBlock rows) :
    rowLines w true blocks.flatten = [""].intercalate (blocks.map fun rows => rows.map (rowLine w)) := by
  induction blocks with
  | nil => rfl
  | cons rows rest ih =>
    rw [List.forall_mem_cons] at h
    rw [List.flatten_cons, rowLines_block h.1]
    cases rest with
    | nil => simp [rowLines, List.intercalate_singleton]
    | cons next rest =>
      rw [List.flatten_cons, rowLines_later (h.2 next (by simp)), ← List.flatten_cons, ih h.2]
      simp only [List.map_cons, List.intercalate_cons_cons, List.append_assoc, List.singleton_append]

/-- Blocks are set apart by empty lines, one between each two, one before them and one after. -/
theorem layOut_blocks (h : ∀ rows ∈ blocks, IsBlock rows) (nonempty : blocks ≠ []) :
    layOut blocks.flatten = "\n".intercalate
      ([""] ++ [""].intercalate (blocks.map fun rows => rows.map (rowLine (widthsOf blocks.flatten))) ++ [""]) := by
  have filled : blocks.flatten.isEmpty = false := by
    obtain ⟨rows, rest, rfl⟩ := List.exists_cons_of_ne_nil nonempty
    obtain ⟨-, -, -⟩ := h rows (by simp)
    rfl
  rw [layOut, filled, rowLines_blocks h]
  rfl

example : layOut [⟨"a.js", "2.0kb", "100.0%", []⟩, ⟨" ├ x.ts", "900b", "43.9%", []⟩,
      ⟨" └ y.ts", "900b", "43.9%", []⟩, ⟨"b.js", "10b", "100.0%", []⟩] = "
  a.js     2.0kb  100.0%
   ├ x.ts   900b   43.9%
   └ y.ts   900b   43.9%

  b.js       10b  100.0%
" := by
  decide +kernel

end Report
end BundleForge
