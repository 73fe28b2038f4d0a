import BundleForge.Text.Blank
import Mathlib.Tactic.Common

/-!
Text that is cut at separators. Main statement: texts in which nothing separates are what their text is cut
into when they are put together with one separator between each two.
-/

namespace BundleForge.Text

theorem piecesWhere_eq_splitOnP (p : Char → Bool) (cs : List Char) :
    piecesWhere p cs = cs.splitOnP p := by
  induction cs with
  | nil => rfl
  | cons c cs ih =>
    rw [piecesWhere, ih, List.splitOnP_cons_eq_if_modifyHead]
    cases hs : cs.splitOnP p with
    | nil => exact absurd hs (List.splitOnP_ne_nil p cs)
    | cons piece pieces => rfl

theorem not_of_mem_piecesWhere {p : Char → Bool} {cs piece : List Char}
    (h : piece ∈ piecesWhere p cs) : ∀ c ∈ piece, p c = false := by
  induction cs generalizing piece with
  | nil => simp_all [piecesWhere]
  | cons c cs ih =>
    cases separates : p c with
    | true =>
      simp only [piecesWhere, separates, if_true, List.mem_cons] at h
      obtain rfl | h := h
      · simp
      · exact ih h
    | false =>
      simp only [piecesWhere, separates, Bool.false_eq_true, if_false] at h
      split at h
      · rename_i none
        exact absurd none (piecesWhere_ne_nil p cs)
      · rename_i first rest hp
        simp only [hp, List.mem_cons, forall_eq_or_imp] at h ih
        obtain rfl | h := h
        · simpa [separates] using ih.1
        · exact ih.2 _ h

theorem piecesWhere_intercalate {p : Char → Bool} {separator : Char} (separates : p separator = true)
    {stretches : List (List Char)} (nonempty : stretches ≠ [])
    (whole : ∀ cs ∈ stretches, ∀ c ∈ cs, p c = false) :
    piecesWhere p ([separator].intercalate stretches) = stretches := by
  rw [piecesWhere_eq_splitOnP]
  induction stretches with
  | nil => exact absurd rfl nonempty
  | cons cs rest ih =>
    rw [List.forall_mem_cons] at whole
    cases rest with
    | nil =>
      rw [List.intercalate_singleton]
      exact List.splitOnP_eq_singleton whole.1
    | cons next rest =>
      rw [List.intercalate_cons_cons, List.append_assoc, List.singleton_append,
        List.splitOnP_append_cons_of_forall_mem whole.1 separator separates, ih (by simp) whole.2]

/-- No text at all is put together to one empty text, so there has to be one. -/
theorem piecesWhere_join {p : Char → Bool} {separator : String} {c : Char} (single : separator.toList = [c])
    (separates : p c = true) {texts : List String} (nonempty : texts ≠ [])
    (whole : ∀ s ∈ texts, ∀ c ∈ s.toList, p c = false) :
    piecesWhere p (separator.intercalate texts).toList = texts.map String.toList := by
  rw [String.toList_intercalate, single]
  refine piecesWhere_intercalate separates (by simpa using nonempty) fun cs among => ?_
  obtain ⟨s, hs, rfl⟩ := List.mem_map.mp among
  exact whole s hs

theorem pieces_join {texts : List String} (nonempty : texts ≠ []) (whole : ∀ s ∈ texts, ',' ∉ s.toList) :
    pieces ',' (",".intercalate texts) = texts := by
  have cut : piecesWhere (· == ',') (",".intercalate texts).toList = texts.map String.toList :=
    piecesWhere_join (c := ',') rfl rfl nonempty fun s hs c inside =>
      beq_false_of_ne fun comma => whole s hs (comma ▸ inside)
  rw [pieces, cut, List.map_map]
  simp [Function.comp_def]

/-- A text that is a word by itself. -/
def IsWord (s : String) : Prop := s ≠ "" ∧ ∀ c ∈ s.toList, isBlank c = false

instance : DecidablePred IsWord := fun s =>
  decidable_of_iff (s ≠ "" ∧ s.toList.all (!isBlank ·)) (by simp [IsWord])

theorem words_join {texts : List String} (nonempty : texts ≠ []) (whole : ∀ s ∈ texts, IsWord s) :
    words (" ".intercalate texts) = texts := by
  have cut : piecesWhere isBlank (" ".intercalate texts).toList = texts.map String.toList :=
    piecesWhere_join (c := ' ') rfl rfl nonempty fun s hs => (whole s hs).2
  have kept : (texts.map String.toList).filter (!·.isEmpty) = texts.map String.toList := by
    refine List.filter_eq_self.mpr fun cs among => ?_
    obtain ⟨s, hs, rfl⟩ := List.mem_map.mp among
    simpa using (whole s hs).1
  rw [words, cut, kept, List.map_map]
  simp [Function.comp_def]

end BundleForge.Text
