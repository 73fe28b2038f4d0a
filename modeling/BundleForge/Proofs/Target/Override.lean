import BundleForge.Target.Override
import BundleForge.Proofs.Except
import BundleForge.Proofs.Setting.Display
import Mathlib.Data.List.DropRight
import Mathlib.Data.List.TakeWhile
import Mathlib.Tactic.Common

/-!
What overrides make of targets. Main statements: a target keeps everything but the five fields that can be
overridden, each of these is as it was or made of a value given for it, and a refusal is a complaint
about the overrides unless a value that is made a text is too deep.
-/

namespace BundleForge

namespace Setting

/-- The first value of a name is in the first entry or among the others. -/
theorem get?_cons (name : String) (entry : Setting × Setting) (rest : Table) :
    get? name (entry :: rest) = (get? name [entry]).or (get? name rest) := by
  obtain ⟨key, value⟩ := entry
  cases key with
  | str key => by_cases same : key = name <;> simp [get?, same]
  | _ => rfl

theorem get?_of_ne {name : String} {key : Setting} (value : Setting) (other : key ≠ .str name) :
    get? name [(key, value)] = none := by
  cases key with
  | str key => simp [get?, show key ≠ name from fun same => other (congrArg Setting.str same)]
  | _ => rfl

theorem mem_of_get? {name : String} {entries : Table} {value : Setting} (h : get? name entries = some value) :
    (.str name, value) ∈ entries := by
  induction entries with
  | nil => cases h
  | cons entry rest ih =>
    obtain ⟨key, first⟩ := entry
    rw [get?_cons] at h
    by_cases same : key = .str name
    · simp only [same, get?, if_true, Option.some_or, Option.some.injEq] at h
      rw [same, h]
      exact List.mem_cons_self
    · rw [get?_of_ne first same, Option.none_or] at h
      exact List.mem_cons_of_mem _ (ih h)

/-- The table under a name, empty where no table stands there. -/
def tableIn (name : String) (entries : Table) : Table := ((get? name entries).bind table?).getD []

end Setting

/-- Overrides are wrong by a complaint that is no misfit. -/
def OverrideFault.refusals : Refusals OverrideFault where
  tooDeep := .misfit .tooDeep
  isOwn fault := ∀ misfit, fault ≠ .misfit misfit

theorem textOf_eq (value : Setting) :
    textOf value = value.text.mapError fun
      | .number fault => .number fault
      | .tooDeep => .misfit .tooDeep := by
  unfold textOf
  cases value.text with
  | ok s => rfl
  | error fault => cases fault <;> rfl

theorem reads_textOf (value : Setting) :
    Reads OverrideFault.refusals [value] (fun s => value.text = .ok s) (textOf value) := by
  rw [textOf_eq]
  exact (reads_text value).mapError (fun _ impossible => impossible.elim) fun _ _ => rfl

namespace Text

/-- What is left when the end is trimmed too still starts with what is no blank. -/
theorem trimLeftChars_trimChars (cs : List Char) : trimLeftChars (trimChars cs) = trimChars cs := by
  refine List.dropWhile_eq_self_iff.mpr fun nonempty => ?_
  have start : trimChars cs <+: trimLeftChars cs := List.rdropWhile_prefix isBlank _
  rw [start.getElem nonempty]
  exact List.dropWhile_get_zero_not isBlank cs (Nat.lt_of_lt_of_le nonempty start.length_le)

theorem trim_trim (s : String) : trim (trim s) = trim s := by
  simp only [trim, String.toList_ofList]
  have right : trimRightChars (trimChars s.toList) = trimChars s.toList := List.rdropWhile_idempotent isBlank _
  rw [trimChars, trimLeftChars_trimChars, right]

/-- A text that is not empty and has no blanks at its ends. -/
def IsStripped (s : String) : Prop := s ≠ "" ∧ trim s = s

instance : DecidablePred IsStripped := fun s => inferInstanceAs (Decidable (s ≠ "" ∧ trim s = s))

end Text

theorem isStripped_of_mem_trimmedEntries {texts : List String} {entry : String}
    (h : entry ∈ trimmedEntries texts) : Text.IsStripped entry := by
  obtain ⟨member, nonempty⟩ := List.mem_filter.mp h
  obtain ⟨s, -, rfl⟩ := List.mem_map.mp member
  exact ⟨of_decide_eq_true nonempty, Text.trim_trim s⟩

theorem isStripped_of_baselineOf {value : Setting} {entries : List String}
    (made : baselineOf value = .ok entries) : ∀ entry ∈ entries, Text.IsStripped entry := by
  unfold baselineOf at made
  split at made
  · cases made
    exact fun _ => isStripped_of_mem_trimmedEntries
  · cases made
    exact fun _ => isStripped_of_mem_trimmedEntries
  · split at made
    · cases made
    · split at made
      · cases made
        exact fun _ => isStripped_of_mem_trimmedEntries
      · cases made

/-- The values of which definitions are made. -/
def definitionTexts (entries : Setting.Table) : List Setting := entries.flatMap fun entry => [entry.1, entry.2]

theorem reads_definitions (entries : Setting.Table) :
    Reads OverrideFault.refusals (definitionTexts entries) (fun pairs => definitions entries = .ok pairs)
      (definitions entries) := by
  suffices made : Reads OverrideFault.refusals (definitionTexts entries) (fun _ => True) (definitions entries)
    from made.itself
  induction entries with
  | nil => exact .ok trivial
  | cons entry rest ih =>
    exact (reads_textOf entry.1).bind fun _ _ => (reads_textOf entry.2).bind fun _ _ =>
      ih.map fun _ _ => trivial

/-- What becomes of a field under overrides: it is as it was where they do not name it, and else made of a
value that they give under its name. -/
def Replaces {α : Type} (name : String) (made : Setting → α → Prop) (entries : Setting.Table) (old new : α) :
    Prop :=
  (Setting.get? name entries = none ∧ new = old) ∨ ∃ value, (Setting.str name, value) ∈ entries ∧ made value new

namespace Replaces

variable {α : Type} {name : String} {made : Setting → α → Prop} {key value : Setting} {rest : Setting.Table}
  {old mid new : α}

theorem kept (other : key ≠ .str name) : Replaces name made [(key, value)] old old :=
  .inl ⟨Setting.get?_of_ne value other, rfl⟩

theorem taken (h : made value new) : Replaces name made [(.str name, value)] old new :=
  .inr ⟨value, by simp, h⟩

theorem cons {entry : Setting × Setting} (first : Replaces name made [entry] old mid)
    (others : Replaces name made rest mid new) : Replaces name made (entry :: rest) old new := by
  obtain ⟨absent, rfl⟩ | ⟨value, member, taken⟩ := others
  · obtain ⟨absent', rfl⟩ | ⟨value, member, taken⟩ := first
    · exact .inl ⟨by rw [Setting.get?_cons, absent', absent, Option.or_none], rfl⟩
    · exact .inr ⟨value, List.mem_cons.mpr (.inl (List.mem_singleton.mp member)), taken⟩
  · exact .inr ⟨value, List.mem_cons_of_mem _ member, taken⟩

end Replaces

namespace Target

/-- A target as the overrides of a table leave it. -/
structure Overridden (t : Target) (entries : Setting.Table) (t' : Target) : Prop where
  name : t'.name = t.name
  platform : t'.platform = t.platform
  format : t'.format = t.format
  usesPolicy : t'.usesPolicy = t.usesPolicy
  entryModule : Replaces "entry_module" (fun value s => value.text = .ok s) entries t.entryModule t'.entryModule
  baseline : Replaces "runtime_baseline" (fun value b => baselineOf value = .ok b) entries t.baseline t'.baseline
  suppressMinify : Replaces "suppress_minify" (fun value b => value = .bool b) entries
    t.suppressMinify t'.suppressMinify
  suppressHarden : Replaces "suppress_harden" (fun value s => ∃ b, value = .bool b ∧ s = some b) entries
    t.suppressHarden t'.suppressHarden
  define : Replaces "define" (fun value d => ∃ table, value.table? = some table ∧ definitions table = .ok d)
    entries t.define t'.define

namespace Overridden

theorem nil (t : Target) : Overridden t [] t :=
  ⟨rfl, rfl, rfl, rfl, .inl ⟨rfl, rfl⟩, .inl ⟨rfl, rfl⟩, .inl ⟨rfl, rfl⟩, .inl ⟨rfl, rfl⟩, .inl ⟨rfl, rfl⟩⟩

theorem cons {t mid t' : Target} {entry : Setting × Setting} {rest : Setting.Table}
    (first : Overridden t [entry] mid) (others : Overridden mid rest t') : Overridden t (entry :: rest) t' where
  name := others.name.trans first.name
  platform := others.platform.trans first.platform
  format := others.format.trans first.format
  usesPolicy := others.usesPolicy.trans first.usesPolicy
  entryModule := first.entryModule.cons others.entryModule
  baseline := first.baseline.cons others.baseline
  suppressMinify := first.suppressMinify.cons others.suppressMinify
  suppressHarden := first.suppressHarden.cons others.suppressHarden
  define := first.define.cons others.define

end Overridden

/-- The values that an override makes texts of: the new value of a text field, the definitions, and the
name of a field that is not known. -/
def overrideTexts (key value : Setting) : List Setting :=
  match key with
  | .str "entry_module" => [value]
  | .str "runtime_baseline" | .str "suppress_minify" | .str "suppress_harden" => []
  | .str "define" => definitionTexts (value.table?.getD [])
  | key => [key]

theorem reads_baselineOf (value : Setting) :
    Reads OverrideFault.refusals [] (fun b => baselineOf value = .ok b) (baselineOf value) := by
  cases made : baselineOf value with
  | ok b => exact .ok rfl
  | error fault =>
    refine .own fun misfit same => ?_
    rw [same] at made
    unfold baselineOf at made
    split at made
    · cases made
    · cases made
    · split at made
      · cases made
      · split at made <;> cases made

theorem reads_booleanOf (target key : String) (value : Setting) :
    Reads OverrideFault.refusals [] (fun b => value = .bool b) (booleanOf target key value) := by
  cases value with
  | bool b => exact .ok rfl
  | _ => exact .own fun misfit same => by cases same

/-- Nothing but the field that is named changes. -/
theorem reads_override (t : Target) (key value : Setting) :
    Reads OverrideFault.refusals (overrideTexts key value) (Overridden t [(key, value)])
      (t.override key value) := by
  unfold override
  split
  · refine (reads_textOf value).map fun text shown => ?_
    exact ⟨rfl, rfl, rfl, rfl, .taken shown, .kept (by simp), .kept (by simp), .kept (by simp), .kept (by simp)⟩
  · refine (reads_baselineOf value).map fun entries made => ?_
    exact ⟨rfl, rfl, rfl, rfl, .kept (by simp), .taken made, .kept (by simp), .kept (by simp), .kept (by simp)⟩
  · refine (reads_booleanOf t.name _ value).map fun b same => ?_
    exact ⟨rfl, rfl, rfl, rfl, .kept (by simp), .kept (by simp), .taken same, .kept (by simp), .kept (by simp)⟩
  · refine (reads_booleanOf t.name _ value).map fun b same => ?_
    exact ⟨rfl, rfl, rfl, rfl, .kept (by simp), .kept (by simp), .kept (by simp), .taken ⟨b, same, rfl⟩,
      .kept (by simp)⟩
  · have texts : overrideTexts (.str "define") value = definitionTexts (value.table?.getD []) := rfl
    rw [texts]
    cases opened : value.table? with
    | none => exact .own fun misfit same => by cases same
    | some table =>
      refine (reads_definitions table).map fun pairs made => ?_
      exact ⟨rfl, rfl, rfl, rfl, .kept (by simp), .kept (by simp), .kept (by simp), .kept (by simp),
        .taken ⟨table, opened, made⟩⟩
  · have texts : overrideTexts key value = [key] := by rw [overrideTexts] <;> assumption
    rw [texts, ← List.append_nil [key]]
    exact (reads_textOf key).bind fun text _ => .own fun misfit same => by cases same

/-- The values that the overrides of a table make texts of. -/
def overridesTexts (entries : Setting.Table) : List Setting :=
  entries.flatMap fun entry => overrideTexts entry.1 entry.2

/-- Induction on the overrides: each leaves a target to which the others apply. -/
theorem reads_withOverrides (t : Target) (entries : Setting.Table) :
    Reads OverrideFault.refusals (overridesTexts entries) (Overridden t entries) (t.withOverrides entries) := by
  induction entries generalizing t with
  | nil => exact .ok (.nil t)
  | cons entry rest ih =>
    exact (reads_override t entry.1 entry.2).bind fun mid first => (ih mid).mono fun t' last => first.cons last

end Target

open Target

/-- The values that overrides of targets make texts of. -/
def overriddenTexts (overrides : Setting.Table) (targets : List Target) : List Setting :=
  targets.flatMap fun t => overridesTexts (Setting.tableIn t.name overrides)

/-- Targets, each as the overrides under its name leave it. -/
def AllOverridden (overrides : Setting.Table) (targets results : List Target) : Prop :=
  List.Forall₂ (fun t t' => Overridden t (Setting.tableIn t.name overrides) t') targets results

namespace AllOverridden

variable {overrides : Setting.Table} {targets results : List Target}

theorem names (h : AllOverridden overrides targets results) :
    results.map Target.name = targets.map Target.name := by
  induction h with
  | nil => rfl
  | cons first _ ih => rw [List.map_cons, List.map_cons, first.name, ih]

theorem exists_of_mem (h : AllOverridden overrides targets results) {t' : Target} (member : t' ∈ results) :
    ∃ t ∈ targets, Overridden t (Setting.tableIn t.name overrides) t' := by
  induction h with
  | nil => cases member
  | cons first _ ih =>
    rcases List.mem_cons.mp member with rfl | later
    · exact ⟨_, List.mem_cons_self, first⟩
    · obtain ⟨t, origin, changed⟩ := ih later
      exact ⟨t, List.mem_cons_of_mem _ origin, changed⟩

end AllOverridden

theorem overridesFor_table {overrides : Setting.Table} (tables : ∀ entry ∈ overrides, entry.2.table?.isSome)
    (name : String) : overridesFor (.table overrides) name = .ok (Setting.tableIn name overrides) := by
  have opened : (Setting.table overrides).table? = some overrides := rfl
  simp only [overridesFor, opened, Setting.tableIn]
  cases found : Setting.get? name overrides with
  | none => rfl
  | some value =>
    obtain ⟨table, same⟩ := Option.isSome_iff_exists.mp (tables _ (Setting.mem_of_get? found))
    simp only [Option.bind_some, same, Option.getD_some]

theorem reads_overrideEach {overrides : Setting.Table} (tables : ∀ entry ∈ overrides, entry.2.table?.isSome)
    (targets : List Target) :
    Reads OverrideFault.refusals (overriddenTexts overrides targets) (AllOverridden overrides targets)
      (overrideEach (.table overrides) targets) := by
  induction targets with
  | nil => exact .ok .nil
  | cons t rest ih =>
    simp only [overrideEach, overridesFor_table tables]
    exact (reads_withOverrides t _).bind fun t' first => ih.map fun others last => .cons first last

theorem reads_comesBefore (a b : Setting) :
    Reads OverrideFault.refusals [] (fun _ => True) (a.comesBefore b) := by
  unfold Setting.comesBefore
  split
  · exact .ok trivial
  · exact .ok trivial
  · exact .ok trivial
  · split
    · exact .ok trivial
    · exact .own fun misfit same => by cases same
  · exact .own fun misfit same => by cases same
  · exact .own fun misfit same => by cases same
  · split
    · exact .ok trivial
    · exact .ok trivial
    · exact .own fun misfit same => by cases same

theorem reads_least (first : Setting) (rest : List Setting) :
    Reads OverrideFault.refusals [] (fun _ => True) (rest.foldlM Setting.lesser first) := by
  induction rest generalizing first with
  | nil => exact .ok trivial
  | cons next rest ih =>
    rw [List.foldlM_cons]
    have lesser : Reads OverrideFault.refusals [] (fun _ => True) (first.lesser next) :=
      (reads_comesBefore next first).map fun _ _ => trivial
    exact lesser.bind fun least _ => ih least

/-- Names of different kinds have no order, and that is a complaint about the names. -/
theorem isOwn_unknownNames (unknown : List Setting) (known : List String) :
    OverrideFault.refusals.isOwn (unknownNames unknown known) := by
  intro misfit same
  unfold unknownNames at same
  split at same
  · cases same
  · cases same
  · rename_i first rest _
    split at same
    · cases same
    · rename_i fault found
      exact (reads_least first rest).isOwn found misfit same

theorem reads_applyOverrides {overrides : Setting.Table} (tables : ∀ entry ∈ overrides, entry.2.table?.isSome)
    (targets : List Target) :
    Reads OverrideFault.refusals (overriddenTexts overrides targets) (AllOverridden overrides targets)
      (applyOverrides targets (.table overrides)) := by
  have names : namesIn (.table overrides) = .ok (overrides.map Prod.fst) := rfl
  simp only [applyOverrides, names, bind, Except.bind]
  split
  · exact reads_overrideEach tables targets
  · exact .own (isOwn_unknownNames _ _)

end BundleForge
