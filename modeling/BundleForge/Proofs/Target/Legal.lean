import BundleForge.Proofs.Configuration.Settled
import BundleForge.Proofs.Target.Override
import Mathlib.Data.List.Forall2

/-!
Which overrides go through, and what they make of targets. Main statement: they go through exactly when every
name is that of a target, every entry gives a field a value that the field can take, and the values that are
made texts have one; then each field that is named holds the normal form of its value, and nothing else changes.
-/

namespace BundleForge

theorem exists_map_eq_ok {ε α β : Type} {x : Except ε α} {f : α → β} :
    (∃ b, (x >>= fun a => pure (f a)) = .ok b) ↔ ∃ a, x = .ok a := by
  cases x with
  | ok a => exact iff_of_true ⟨f a, rfl⟩ ⟨a, rfl⟩
  | error fault => exact iff_of_false (fun ⟨_, made⟩ => nomatch made) fun ⟨_, made⟩ => nomatch made

namespace Setting

/-- A string and the text it holds. -/
inductive Spells : Setting → String → Prop
  | str (s : String) : Spells (.str s) s
  | halved (codes : List Text.Code) : Spells (.halved codes) (Text.Spelled.halved codes).text

/-- The names that a value lists: a string those between its commas, a sequence of strings those in it. -/
inductive Lists : Setting → List String → Prop
  | commas {value : Setting} {s : String} (h : value.Spells s) : Lists value (Text.pieces ',' s)
  | sequence {value : Setting} {items : List Setting} {names : List String} (opened : value.items? = some items)
      (strings : List.Forall₂ Spells items names) : Lists value names

/-- What a value makes of itself as a text. -/
def HasText (value : Setting) : Prop := ∃ s, value.text = .ok s

/-- A name and its replacement as texts. -/
def Defines (entry : Setting × Setting) (pair : String × String) : Prop :=
  entry.1.text = .ok pair.1 ∧ entry.2.text = .ok pair.2

theorem texts?_eq_some_iff {items : List Setting} {names : List String} :
    texts? items = some names ↔ List.Forall₂ Spells items names := by
  induction items generalizing names with
  | nil => simp [texts?, eq_comm]
  | cons item rest ih =>
    constructor
    · intro h
      cases item with
      | str s =>
        obtain ⟨others, spelled, rfl⟩ := Option.map_eq_some_iff.mp h
        exact .cons (.str s) (ih.mp spelled)
      | halved codes =>
        obtain ⟨others, spelled, rfl⟩ := Option.map_eq_some_iff.mp h
        exact .cons (.halved codes) (ih.mp spelled)
      | _ => cases h
    · intro h
      cases h with
      | cons first others => cases first <;> simp [texts?, ih.mpr others]

theorem lists_of_spells {value : Setting} {s : String} (spells : value.Spells s) {names : List String} :
    value.Lists names ↔ names = Text.pieces ',' s := by
  constructor
  · intro lists
    cases lists with
    | commas spells' => cases spells <;> cases spells' <;> rfl
    | sequence opened => cases spells <;> cases opened
  · rintro rfl
    exact .commas spells

theorem lists_of_not_spells {value : Setting} (noText : ∀ s, ¬ value.Spells s) {names : List String} :
    value.Lists names ↔ ∃ items, value.items? = some items ∧ texts? items = some names := by
  simp only [texts?_eq_some_iff]
  constructor
  · intro lists
    cases lists with
    | commas spells => exact (noText _ spells).elim
    | sequence opened strings => exact ⟨_, opened, strings⟩
  · rintro ⟨items, opened, strings⟩
    exact .sequence opened strings

/-- Where the numbers can be written, only the room for the values inside a value decides. -/
theorem hasText_iff {value : Setting} (writable : value.isWritable = true) :
    value.HasText ↔ value.height ≤ textRoom := by
  constructor
  · rintro ⟨s, made⟩
    exact value.shows_text.fits s made
  · intro fits
    cases made : value.text with
    | ok s => exact ⟨s, made⟩
    | error fault => exact absurd fits (Nat.not_le.mpr (value.shows_text.refused writable fault made).2)

end Setting

theorem textOf_eq_ok_iff {value : Setting} {s : String} : textOf value = .ok s ↔ value.text = .ok s := by
  rw [textOf_eq]
  cases value.text <;> simp [Except.mapError]

theorem baselineOf_eq_ok_iff {value : Setting} {entries : List String} :
    baselineOf value = .ok entries ↔ ∃ names, value.Lists names ∧ entries = trimmedEntries names := by
  unfold baselineOf
  split
  · rename_i s
    simp [Setting.lists_of_spells (.str s), eq_comm]
  · rename_i codes
    simp [Setting.lists_of_spells (.halved codes), eq_comm]
  · rename_i notStr notHalved
    have noText (s : String) : ¬ value.Spells s := by
      rintro (_ | _)
      · exact notStr _ rfl
      · exact notHalved _ rfl
    simp only [Setting.lists_of_not_spells noText]
    cases value.items? with
    | none => simp
    | some items =>
      cases read : Setting.texts? items with
      | none => simp [read]
      | some texts => simp [read, eq_comm]

theorem definitions_eq_ok_iff {entries : Setting.Table} {pairs : List (String × String)} :
    definitions entries = .ok pairs ↔ List.Forall₂ Setting.Defines entries pairs := by
  induction entries generalizing pairs with
  | nil => simp [definitions, eq_comm]
  | cons entry rest ih =>
    obtain ⟨key, value⟩ := entry
    simp only [definitions, bind_eq_ok, textOf_eq_ok_iff, ih, List.forall₂_cons_left_iff, Setting.Defines,
      pure, Except.pure, Except.ok.injEq]
    constructor
    · rintro ⟨name, shown, replacement, shown', others, defined, rfl⟩
      exact ⟨(name, replacement), others, ⟨shown, shown'⟩, defined, rfl⟩
    · rintro ⟨⟨name, replacement⟩, others, ⟨shown, shown'⟩, defined, rfl⟩
      exact ⟨name, shown, replacement, shown', others, defined, rfl⟩

/-- A table is made definitions where all its names and values have texts. -/
theorem exists_definitions_iff {entries : Setting.Table} :
    (∃ pairs, definitions entries = .ok pairs) ↔ ∀ value ∈ definitionTexts entries, value.HasText := by
  induction entries with
  | nil => simp [definitions, definitionTexts]
  | cons entry rest ih =>
    have split : definitionTexts (entry :: rest) = entry.1 :: entry.2 :: definitionTexts rest := rfl
    rw [split, List.forall_mem_cons, List.forall_mem_cons, ← ih]
    simp only [definitions_eq_ok_iff, List.forall₂_cons_left_iff, Setting.Defines, Setting.HasText]
    constructor
    · rintro ⟨-, pair, others, ⟨shown, shown'⟩, defined, rfl⟩
      exact ⟨⟨pair.1, shown⟩, ⟨pair.2, shown'⟩, others, defined⟩
    · rintro ⟨⟨name, shown⟩, ⟨replacement, shown'⟩, others, defined⟩
      exact ⟨_, (name, replacement), others, ⟨shown, shown'⟩, defined, rfl⟩

namespace Target

/-- The fields that can be overridden. -/
inductive Field
  | entryModule
  | baseline
  | suppressMinify
  | suppressHarden
  | define
deriving DecidableEq

def Field.name : Field → String
  | .entryModule => "entry_module"
  | .baseline => "runtime_baseline"
  | .suppressMinify => "suppress_minify"
  | .suppressHarden => "suppress_harden"
  | .define => "define"

/-- Which values a field can take. -/
def Field.Takes (value : Setting) : Field → Prop
  | .entryModule => True
  | .baseline => ∃ names, value.Lists names
  | .suppressMinify | .suppressHarden => ∃ b, value = .bool b
  | .define => ∃ table, value.table? = some table

/-- A value is given for a field that can take it. -/
def Legal (key value : Setting) : Prop := ∃ field : Field, key = .str field.name ∧ field.Takes value

/-- A legal override whose texts can be made. -/
def Admits (entry : Setting × Setting) : Prop :=
  Legal entry.1 entry.2 ∧ ∀ value ∈ overrideTexts entry.1 entry.2, value.HasText

theorem Field.name_injective : Function.Injective Field.name := by
  intro a b same
  cases a <;> cases b <;> simp_all [Field.name]

theorem legal_name_iff (field : Field) {value : Setting} : Legal (.str field.name) value ↔ field.Takes value := by
  constructor
  · rintro ⟨other, same, takes⟩
    obtain rfl := Field.name_injective (Setting.str.inj same)
    exact takes
  · exact fun takes => ⟨field, rfl, takes⟩

theorem exists_booleanOf_iff {target key : String} {value : Setting} :
    (∃ b, booleanOf target key value = .ok b) ↔ ∃ b, value = .bool b := by
  cases value <;> simp [booleanOf]

/-- Whether an override goes through is settled by the override, whatever the target is. -/
theorem exists_override_iff (t : Target) (key value : Setting) :
    (∃ t', t.override key value = .ok t') ↔ Admits (key, value) := by
  unfold override Admits
  split
  · have legal : Legal (.str "entry_module") value := ⟨.entryModule, rfl, trivial⟩
    simp only [exists_map_eq_ok, textOf_eq_ok_iff, legal, overrideTexts, List.forall_mem_singleton, true_and,
      Setting.HasText]
  · have legal : Legal (.str "runtime_baseline") value ↔ _ := legal_name_iff .baseline
    rw [exists_map_eq_ok, legal]
    simp [baselineOf_eq_ok_iff, overrideTexts, Field.Takes]
  · have legal : Legal (.str "suppress_minify") value ↔ _ := legal_name_iff .suppressMinify
    rw [exists_map_eq_ok, legal, exists_booleanOf_iff]
    simp [overrideTexts, Field.Takes]
  · have legal : Legal (.str "suppress_harden") value ↔ _ := legal_name_iff .suppressHarden
    rw [exists_map_eq_ok, legal, exists_booleanOf_iff]
    simp [overrideTexts, Field.Takes]
  · have legal : Legal (.str "define") value ↔ _ := legal_name_iff .define
    rw [legal]
    cases opened : value.table? with
    | none =>
      refine iff_of_false ?_ (by simp [Field.Takes, opened])
      rintro ⟨t', made⟩
      cases made
    | some table =>
      simp only [exists_map_eq_ok, exists_definitions_iff, overrideTexts, Field.Takes, opened, Option.getD_some,
        Option.some.injEq, exists_eq', true_and]
  · refine iff_of_false ?_ ?_
    · rintro ⟨t', made⟩
      obtain ⟨text, -, thrown⟩ := bind_eq_ok.mp made
      cases thrown
    · rintro ⟨⟨field, rfl, -⟩, -⟩
      cases field <;> simp_all [Field.name]

/-- Induction on the table: what an override makes of a target does not matter to the others. -/
theorem exists_withOverrides_iff (t : Target) (entries : Setting.Table) :
    (∃ t', t.withOverrides entries = .ok t') ↔ ∀ entry ∈ entries, Admits entry := by
  induction entries generalizing t with
  | nil => simp [withOverrides]
  | cons entry rest ih =>
    rw [List.forall_mem_cons]
    simp only [withOverrides, bind_eq_ok]
    constructor
    · rintro ⟨t', mid, first, others⟩
      exact ⟨(exists_override_iff t ..).mp ⟨mid, first⟩, (ih mid).mp ⟨t', others⟩⟩
    · rintro ⟨first, others⟩
      obtain ⟨mid, first⟩ := (exists_override_iff t ..).mpr first
      obtain ⟨t', made⟩ := (ih mid).mpr others
      exact ⟨t', mid, first, made⟩

end Target

namespace Setting

/-- Only a text is the same key as that text. -/
theorem beq_str_iff {key : Setting} {name : String} : (key == .str name) = true ↔ key = .str name := by
  show sameKey key (.str name) = true ↔ key = .str name
  cases key with
  | str s => simp [sameKey]
  | bool b => cases b <;> simp [sameKey, integer?]
  | real x => cases hx : x.toInt? <;> simp [sameKey, integer?, number?, hx]
  | _ => simp [sameKey, integer?, number?]

/-- Where no name stands twice, the value of a name is the one it stands with. -/
theorem get?_eq_some_iff {entries : Table} (distinct : (entries.map Prod.fst).Nodup) {name : String}
    {value : Setting} : get? name entries = some value ↔ (.str name, value) ∈ entries := by
  refine ⟨mem_of_get?, fun among => ?_⟩
  induction entries with
  | nil => cases among
  | cons entry rest ih =>
    rw [List.map_cons, List.nodup_cons] at distinct
    rw [get?_cons]
    obtain rfl | later := List.mem_cons.mp among
    · simp [get?]
    · have other : entry.1 ≠ .str name := fun same =>
        distinct.1 (same ▸ List.mem_map_of_mem (f := Prod.fst) later)
      rw [get?_of_ne entry.2 other, Option.none_or]
      exact ih distinct.2 later

/-- Overrides of targets: a table of tables, in none of which a name stands twice. -/
structure IsOverrides (overrides : Table) : Prop where
  names : (overrides.map Prod.fst).Nodup
  tables : ∀ entry ∈ overrides, ∃ table, entry.2.table? = some table ∧ (table.map Prod.fst).Nodup

/-- What a table makes of a field: the normal form of the value under its name, and what it was where none
stands there. -/
def Makes {α : Type} (name : String) (normal : Setting → α → Prop) (entries : Table) (old new : α) : Prop :=
  match get? name entries with
  | none => new = old
  | some value => normal value new

variable {overrides : Table}

theorem IsOverrides.isTable (h : IsOverrides overrides) : ∀ entry ∈ overrides, entry.2.table?.isSome := by
  intro entry among
  obtain ⟨table, opened, -⟩ := h.tables entry among
  simp [opened]

theorem IsOverrides.tableIn_eq (h : IsOverrides overrides) {name : String} {value : Setting} {table : Table}
    (among : (.str name, value) ∈ overrides) (opened : value.table? = some table) :
    tableIn name overrides = table := by
  simp [tableIn, (get?_eq_some_iff h.names).mpr among, opened]

theorem IsOverrides.distinct_tableIn (h : IsOverrides overrides) (name : String) :
    ((tableIn name overrides).map Prod.fst).Nodup := by
  unfold tableIn
  cases found : get? name overrides with
  | none => simp
  | some value =>
    obtain ⟨table, opened, distinct⟩ := h.tables _ (mem_of_get? found)
    simpa [opened] using distinct

end Setting

namespace Target

open Setting (Makes tableIn get?)

/-- A target as a table of overrides leaves it. -/
structure Retouched (entries : Setting.Table) (t t' : Target) : Prop where
  name : t'.name = t.name
  platform : t'.platform = t.platform
  format : t'.format = t.format
  usesPolicy : t'.usesPolicy = t.usesPolicy
  entryModule : Makes "entry_module" (fun value s => value.text = .ok s) entries t.entryModule t'.entryModule
  baseline : Makes "runtime_baseline"
    (fun value kept => ∃ names, value.Lists names ∧ kept = (names.map Text.trim).filter (· ≠ ""))
    entries t.baseline t'.baseline
  suppressMinify : Makes "suppress_minify" (fun value b => value = .bool b) entries
    t.suppressMinify t'.suppressMinify
  suppressHarden : Makes "suppress_harden" (fun value s => ∃ b, value = .bool b ∧ s = some b) entries
    t.suppressHarden t'.suppressHarden
  define : Makes "define"
    (fun value pairs => ∃ table, value.table? = some table ∧ List.Forall₂ Setting.Defines table pairs)
    entries t.define t'.define

theorem makes_of_replaces {α : Type} {name : String} {made normal : Setting → α → Prop} {entries : Setting.Table}
    {old new : α} (distinct : (entries.map Prod.fst).Nodup) (same : ∀ value a, made value a → normal value a)
    (h : Replaces name made entries old new) : Makes name normal entries old new := by
  unfold Makes
  obtain ⟨absent, rfl⟩ | ⟨value, among, taken⟩ := h
  · rw [absent]
  · rw [(Setting.get?_eq_some_iff distinct).mpr among]
    exact same value new taken

theorem Overridden.retouched {entries : Setting.Table} {t t' : Target} (h : Overridden t entries t')
    (distinct : (entries.map Prod.fst).Nodup) : Retouched entries t t' where
  name := h.name
  platform := h.platform
  format := h.format
  usesPolicy := h.usesPolicy
  entryModule := makes_of_replaces distinct (fun _ _ => id) h.entryModule
  baseline := makes_of_replaces distinct (fun _ _ => baselineOf_eq_ok_iff.mp) h.baseline
  suppressMinify := makes_of_replaces distinct (fun _ _ => id) h.suppressMinify
  suppressHarden := makes_of_replaces distinct (fun _ _ => id) h.suppressHarden
  define := makes_of_replaces distinct
    (fun _ _ ⟨table, opened, made⟩ => ⟨table, opened, definitions_eq_ok_iff.mp made⟩) h.define

theorem Retouched.eq_of_nil {t t' : Target} (h : Retouched [] t t') : t' = t := by
  obtain ⟨_, _, _, _, _, _, _, _, _⟩ := t
  obtain ⟨_, _, _, _, _, _, _, _, _⟩ := t'
  obtain ⟨name, platform, format, usesPolicy, entryModule, baseline, minify, harden, define⟩ := h
  simp only [Makes, get?] at *
  simp [*]

end Target

open Target

/-- Every name is that of a target. -/
def Target.Known (targets : List Target) (overrides : Setting.Table) : Prop :=
  ∀ entry ∈ overrides, ∃ t ∈ targets, entry.1 = .str t.name

/-- Every name is that of a target, and every value is given for a field that can take it. -/
structure Target.Admissible (targets : List Target) (overrides : Setting.Table) : Prop where
  known : Known targets overrides
  legal : ∀ entry ∈ overrides, ∀ table, entry.2.table? = some table → ∀ field ∈ table, Legal field.1 field.2

theorem exists_overrideEach_iff {overrides : Setting.Table} (tables : ∀ entry ∈ overrides, entry.2.table?.isSome)
    (targets : List Target) :
    (∃ results, overrideEach (.table overrides) targets = .ok results) ↔
      ∀ t ∈ targets, ∀ entry ∈ Setting.tableIn t.name overrides, Admits entry := by
  induction targets with
  | nil => simp [overrideEach]
  | cons t rest ih =>
    rw [List.forall_mem_cons, ← ih, ← exists_withOverrides_iff t]
    simp only [overrideEach, overridesFor_table tables, bind_eq_ok, Except.ok.injEq, exists_eq_left', pure,
      Except.pure]
    constructor
    · rintro ⟨results, t', first, others, made, rfl⟩
      exact ⟨⟨t', first⟩, others, made⟩
    · rintro ⟨⟨t', first⟩, others, made⟩
      exact ⟨_, t', first, others, made, rfl⟩

theorem applyOverrides_eq_ok_iff {targets results : List Target} {overrides : Setting.Table} :
    applyOverrides targets (.table overrides) = .ok results ↔
      Known targets overrides ∧ overrideEach (.table overrides) targets = .ok results := by
  have names : namesIn (.table overrides) = .ok (overrides.map Prod.fst) := rfl
  have known : ((overrides.map Prod.fst).filter fun key =>
      !((targets.map Target.name).any fun n => key == .str n)).isEmpty = true ↔ Known targets overrides := by
    simp only [List.isEmpty_iff, List.filter_eq_nil_iff, Bool.not_eq_true', Bool.not_eq_false, List.any_eq_true,
      List.mem_map, exists_exists_and_eq_and, Setting.beq_str_iff]
    constructor
    · exact fun all entry among => all _ ⟨entry, among, rfl⟩
    · rintro all _ ⟨entry, among, rfl⟩
      exact all entry among
  simp only [applyOverrides, names, bind, Except.bind]
  split
  · rename_i empty
    simp [known.mp empty]
  · rename_i some
    simp [mt known.mpr some]

theorem exists_applyOverrides_iff {overrides : Setting.Table} (tables : ∀ entry ∈ overrides, entry.2.table?.isSome)
    (targets : List Target) :
    (∃ results, applyOverrides targets (.table overrides) = .ok results) ↔
      Known targets overrides ∧ ∀ t ∈ targets, ∀ entry ∈ Setting.tableIn t.name overrides, Admits entry := by
  simp only [applyOverrides_eq_ok_iff, exists_and_left, exists_overrideEach_iff tables]

open Setting (IsOverrides tableIn get? HasText)

variable {overrides : Setting.Table}

/-- Overrides that stand under the name of a target are met there, and under no other name there are any. -/
theorem admits_each_iff (h : IsOverrides overrides) {targets : List Target} (known : Known targets overrides) :
    (∀ t ∈ targets, ∀ entry ∈ tableIn t.name overrides, Admits entry) ↔
      Admissible targets overrides ∧ ∀ value ∈ overriddenTexts overrides targets, HasText value := by
  constructor
  · intro each
    refine ⟨⟨known, fun entry among table opened field member => ?_⟩, fun value member => ?_⟩
    · obtain ⟨name, value⟩ := entry
      obtain ⟨t, target, same⟩ := known _ among
      obtain rfl : name = .str t.name := same
      rw [← h.tableIn_eq among opened] at member
      exact (each t target field member).1
    · obtain ⟨t, target, member⟩ := List.mem_flatMap.mp member
      obtain ⟨entry, among, member⟩ := List.mem_flatMap.mp member
      exact (each t target entry among).2 value member
  · rintro ⟨admissible, texts⟩ t target field member
    refine ⟨?_, fun value made => texts value ?_⟩
    · unfold tableIn at member
      cases found : get? t.name overrides with
      | none => simp [found] at member
      | some value =>
        obtain ⟨table, opened, -⟩ := h.tables _ (Setting.mem_of_get? found)
        simp only [found, Option.bind_some, opened, Option.getD_some] at member
        exact admissible.legal _ (Setting.mem_of_get? found) table opened field member
    · exact List.mem_flatMap.mpr ⟨t, target, List.mem_flatMap.mpr ⟨field, member, made⟩⟩

theorem retouched_of_applyOverrides (h : IsOverrides overrides) {targets results : List Target}
    (made : applyOverrides targets (.table overrides) = .ok results) :
    List.Forall₂ (fun t t' => Retouched (tableIn t.name overrides) t t') targets results :=
  ((reads_applyOverrides h.isTable targets).settled results made).1.imp fun _ _ overridden =>
    overridden.retouched (h.distinct_tableIn _)

example : applyOverrides [Target.defaults[1]] (.table [(.str "server", .table [
      (.str "define", .table [(.str "A", .bool true), (.int 1, .null)]), (.str "entry_module", .int 5),
      (.str "runtime_baseline", .str " node18 ,, es2022"), (.str "suppress_harden", .bool false)])]) =
    .ok [{ Target.defaults[1] with
      define := [("A", "True"), ("1", "None")]
      entryModule := "5"
      baseline := ["node18", "es2022"]
      suppressHarden := some false }] := by
  decide +kernel

end BundleForge
