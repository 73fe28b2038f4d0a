import BundleForge.Proofs.Target.Legal
import BundleForge.Proofs.Text.Pieces

/-!
Settings that can be given as one text or as a sequence of texts. Main statement: both spellings come to the same
entries or words, and entries that are given once more stay what they are.
-/

namespace BundleForge

/-- A sequence of strings, with the texts they hold. -/
def Setting.Enumerates (value : Setting) (texts : List String) : Prop :=
  ∃ items, value.items? = some items ∧ List.Forall₂ Spells items texts

theorem Setting.enumerates_list (texts : List String) : Enumerates (.list (texts.map .str)) texts := by
  refine ⟨_, rfl, ?_⟩
  rw [List.forall₂_map_left_iff, List.forall₂_same]
  exact fun s _ => .str s

section

variable {texts : List String} {joined listed : Setting}

theorem trimmedEntries_of_isStripped (stripped : ∀ s ∈ texts, Text.IsStripped s) : trimmedEntries texts = texts := by
  have trimmed : texts.map Text.trim = texts := by
    conv_rhs => rw [← List.map_id texts]
    exact List.map_congr_left fun s among => (stripped s among).2
  rw [trimmedEntries, trimmed, List.filter_eq_self]
  exact fun s among => decide_eq_true (stripped s among).1

theorem baselineOf_of_enumerates (h : listed.Enumerates texts) : baselineOf listed = .ok (trimmedEntries texts) := by
  obtain ⟨items, opened, strings⟩ := h
  exact baselineOf_eq_ok_iff.mpr ⟨texts, .sequence opened strings, rfl⟩

/-- No entries and one empty entry have one spelling, but an empty entry is left out. -/
theorem baselineOf_of_joined (spelled : joined.Spells (",".intercalate texts))
    (whole : ∀ s ∈ texts, ',' ∉ s.toList) : baselineOf joined = .ok (trimmedEntries texts) := by
  refine baselineOf_eq_ok_iff.mpr ⟨_, .commas spelled, ?_⟩
  by_cases none : texts = []
  · subst none
    decide +kernel
  · rw [Text.pieces_join none whole]

theorem commandOf_of_enumerates (setting : String) (nonempty : texts ≠ []) (h : listed.Enumerates texts) :
    commandOf setting listed = .ok texts := by
  obtain ⟨items, opened, strings⟩ := h
  have read := Setting.texts?_eq_some_iff.mpr strings
  unfold commandOf
  split
  · cases opened
  · cases opened
  · simp [opened, read, nonempty]

theorem commandOf_of_joined (setting : String) (nonempty : texts ≠ []) (whole : ∀ s ∈ texts, Text.IsWord s)
    (spelled : joined.Spells (" ".intercalate texts)) : commandOf setting joined = .ok texts := by
  have words := Text.words_join nonempty whole
  generalize " ".intercalate texts = s at spelled words
  cases spelled <;> simp [commandOf, words, nonempty]

end

/-- Entries with commas between them are those of a list, whatever blanks are in them; entries that were read are
not empty, have no blanks at their ends, and are read again as they are; words with spaces between them are those of a
list. -/
theorem spellings_agree :
    (∀ (texts : List String) (joined listed : Setting), (∀ s ∈ texts, ',' ∉ s.toList) →
      joined.Spells (",".intercalate texts) → listed.Enumerates texts →
      baselineOf joined = .ok (trimmedEntries texts) ∧ baselineOf listed = .ok (trimmedEntries texts)) ∧
    (∀ (value : Setting) (entries : List String), baselineOf value = .ok entries →
      (∀ entry ∈ entries, Text.IsStripped entry) ∧
      ∀ again : Setting, again.Enumerates entries → baselineOf again = .ok entries) ∧
    ∀ (setting : String) (texts : List String) (joined listed : Setting), texts ≠ [] →
      (∀ s ∈ texts, Text.IsWord s) → joined.Spells (" ".intercalate texts) → listed.Enumerates texts →
      commandOf setting joined = .ok texts ∧ commandOf setting listed = .ok texts := by
  refine ⟨fun texts joined listed whole spelled listing => ?_, fun value entries made => ?_,
    fun setting texts joined listed nonempty whole spelled listing => ?_⟩
  · exact ⟨baselineOf_of_joined spelled whole, baselineOf_of_enumerates listing⟩
  · have stripped := isStripped_of_baselineOf made
    refine ⟨stripped, fun again listing => ?_⟩
    rw [baselineOf_of_enumerates listing, trimmedEntries_of_isStripped stripped]
  · exact ⟨commandOf_of_joined setting nonempty whole spelled, commandOf_of_enumerates setting nonempty listing⟩

/-- Entries with a no-break space and an em space around them, an empty one and one with a blank inside. -/
theorem spellings_agree_spaced :
    let texts := ["\u00a0chrome93 ", "", "\u2003node 16\t"]
    let entries := ["chrome93", "node 16"]
    let command := ["npx", "javascript-obfuscator"]
    (∀ s ∈ texts, ',' ∉ s.toList) ∧ (∀ s ∈ command, Text.IsWord s) ∧
    baselineOf (.str "\u00a0chrome93 ,,\u2003node 16\t") = .ok entries ∧
    baselineOf (.list (texts.map .str)) = .ok entries ∧
    baselineOf (.list (entries.map .str)) = .ok entries ∧
    commandOf "global.obfuscator" (.str "npx javascript-obfuscator") = .ok command ∧
    commandOf "global.obfuscator" (.list (command.map .str)) = .ok command := by
  intro texts entries command
  have whole : ∀ s ∈ texts, ',' ∉ s.toList := by decide +kernel
  have words : ∀ s ∈ command, Text.IsWord s := by decide +kernel
  have trimmed : trimmedEntries texts = entries := by decide +kernel
  have commas : ",".intercalate texts = "\u00a0chrome93 ,,\u2003node 16\t" := by decide +kernel
  have spaces : " ".intercalate command = "npx javascript-obfuscator" := by decide +kernel
  obtain ⟨joined, listed⟩ := spellings_agree.1 texts _ _ whole (.str _) (Setting.enumerates_list texts)
  obtain ⟨joined', listed'⟩ := spellings_agree.2.2 "global.obfuscator" command _ _ (by simp [command]) words (.str _)
    (Setting.enumerates_list command)
  rw [commas, trimmed] at joined
  rw [trimmed] at listed
  rw [spaces] at joined'
  exact ⟨whole, words, joined, listed,
    (spellings_agree.2.1 _ _ listed).2 _ (Setting.enumerates_list entries), joined', listed'⟩

end BundleForge
