import BundleForge.Path
import BundleForge.Proofs.Text.Pieces
import Mathlib.Tactic.Common

/-!
The last part of a joined path. Main statement: a joined path ends as what was joined to it ends, or as it
ended before; it loses its name only to an anchor that stands alone.
-/

namespace BundleForge

namespace Path

/-- A text that can be a part of a path: it says something, and no slash is in it. -/
def IsPartText (s : String) : Prop := isPart s = true ∧ '/' ∉ s.toList

theorem isPartText_of_mem_partsOf {s part : String} (h : part ∈ partsOf s) : IsPartText part := by
  obtain ⟨among, part⟩ := List.mem_filter.mp h
  refine ⟨part, fun slash => ?_⟩
  obtain ⟨piece, hp, rfl⟩ := List.mem_map.mp among
  rw [String.toList_ofList] at slash
  simpa using Text.not_of_mem_piecesWhere hp _ slash

/-- A path without a last part, or with a last part that can be one. -/
def Proper (p : Path) : Prop := ∀ last ∈ p.parts.getLast?, IsPartText last

variable {p : Path}

theorem div_parts (p : Path) (s : String) :
    (p / s).parts = if (ofString s).isAbsolute then partsOf s else p.parts ++ partsOf s := by
  rw [div_eq_join, join]
  split <;> rfl

theorem getLast?_div {s last : String} (h : last ∈ (p / s).parts.getLast?) :
    last ∈ partsOf s ∨ last ∈ p.parts.getLast? := by
  rw [div_parts] at h
  split at h
  · exact .inl (List.mem_of_getLast? h)
  · rw [List.getLast?_append, Option.mem_def, Option.or_eq_some_iff] at h
    obtain h | ⟨-, h⟩ := h
    · exact .inl (List.mem_of_getLast? h)
    · exact .inr h

theorem Proper.div (h : p.Proper) (s : String) : (p / s).Proper := fun _ hl =>
  (getLast?_div hl).elim isPartText_of_mem_partsOf (h _)

/-- What a path ends with is proper where it comes from a text. -/
theorem proper_div {s : String} (more : partsOf s ≠ []) (p : Path) : (p / s).Proper := by
  intro last hl
  rw [div_parts] at hl
  split at hl
  · exact isPartText_of_mem_partsOf (List.mem_of_getLast? hl)
  · rw [List.getLast?_append, List.getLast?_eq_some_getLast more, Option.some_or] at hl
    obtain rfl := Option.some.inj hl
    exact isPartText_of_mem_partsOf (List.getLast_mem more)

theorem Proper.joinAll (h : p.Proper) (texts : List String) : (p.joinAll texts).Proper := by
  induction texts generalizing p with
  | nil => exact h
  | cons s texts ih => exact ih (h.div s)

theorem Proper.name_ne (h : p.Proper) (there : p.parts ≠ []) : p.name ≠ "" := by
  rw [name, List.getLast?_eq_some_getLast there, Option.getD_some]
  rintro empty
  have part := (h _ (List.getLast?_eq_some_getLast there)).1
  simp [empty, isPart] at part

theorem Proper.isPartText_name (h : p.Proper) (named : p.name ≠ "") : IsPartText p.name := by
  unfold name at named ⊢
  cases hl : p.parts.getLast? with
  | none => simp [hl] at named
  | some last => exact h last hl

theorem parts_ne_of_name_ne (h : p.name ≠ "") : p.parts ≠ [] := by
  rintro empty
  simp [name, empty] at h

/-- A path stays named unless an anchor alone is joined to it. -/
theorem name_div_ne (h : p.Proper) (named : p.name ≠ "") {s : String}
    (more : (ofString s).isAbsolute = true → partsOf s ≠ []) : (p / s).name ≠ "" := by
  apply (h.div s).name_ne
  rw [div_parts]
  split
  · rename_i absolute
    exact more absolute
  · exact List.append_ne_nil_of_left_ne_nil (parts_ne_of_name_ne named) _

/-- What stands between slashes starts with none. -/
theorem not_isAbsolute_of_mem_pieces {s piece : String} (h : piece ∈ Text.pieces '/' s) :
    (ofString piece).isAbsolute = false := by
  obtain ⟨cs, hc, rfl⟩ := List.mem_map.mp h
  have flat := Text.not_of_mem_piecesWhere hc
  have bare : cs.takeWhile (· == '/') = [] := by
    cases cs with
    | nil => rfl
    | cons c cs => simp [flat c List.mem_cons_self]
  simp [isAbsolute, ofString, anchorOf, bare]

theorem joinAll_parts_ne (there : p.parts ≠ []) {texts : List String}
    (relative : ∀ s ∈ texts, (ofString s).isAbsolute = false) : (p.joinAll texts).parts ≠ [] := by
  induction texts generalizing p with
  | nil => exact there
  | cons s texts ih =>
    simp only [List.mem_cons, forall_eq_or_imp] at relative
    refine ih ?_ relative.2
    rw [div_parts, if_neg (by simp [relative.1])]
    exact List.append_ne_nil_of_left_ne_nil there _

/-- The path with a suffix at the end of its last part. -/
def beside (p : Path) (suffix : String) : Path := ⟨p.anchor, p.parts.dropLast ++ [p.name ++ suffix]⟩

theorem beside_empty (there : p.parts ≠ []) : p.beside "" = p := by
  have last : p.name = p.parts.getLast there := by
    rw [name, List.getLast?_eq_some_getLast there, Option.getD_some]
  rw [beside, last, String.append_empty, List.dropLast_concat_getLast]

theorem withName_of_noName (h : p.name = "") (name : String) : p.withName name = .error (.noName p) :=
  if_pos h

/-- A suffix can be added to a name that is there. -/
theorem Proper.withName_beside (h : p.Proper) (named : p.name ≠ "") {suffix : String}
    (plain : '/' ∉ suffix.toList) : p.withName (p.name ++ suffix) = .ok (p.beside suffix) := by
  obtain ⟨part, flat⟩ := h.isPartText_name named
  have there : p.name ++ suffix ≠ "" := by simp [named]
  have noPoint : p.name ++ suffix ≠ "." := by
    intro point
    have sizes := congrArg String.length point
    have : p.name.length ≠ 0 := by simpa using named
    obtain rfl : suffix = "" := by
      rw [← String.length_eq_zero_iff]
      rw [String.length_append, show ".".length = 1 from rfl] at sizes
      omega
    rw [String.append_empty] at point
    simp [point, isPart] at part
  simp [withName, named, flat, plain, isPart, noPoint, beside]

end Path
end BundleForge
