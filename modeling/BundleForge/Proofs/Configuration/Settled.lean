import BundleForge.Configuration.Basic
import BundleForge.Proofs.Target.Override

/-!
What a table of configuration values settles. Main statement: a table whose numbers can be written gives a
configuration of the three targets, overridden in their five fields only, or a complaint about itself, unless
a value that is made a text is too deep.
-/

namespace BundleForge

def ConfigurationFault.refusals : Refusals ConfigurationFault where
  tooDeep := .override (.misfit .tooDeep)
  isOwn fault := ∀ misfit, fault ≠ .override (.misfit misfit)

/-- A table is refused by a complaint about the configuration. -/
def LoadFault.refusals : Refusals LoadFault where
  tooDeep := .tooDeep
  isOwn fault := ∃ own, fault = .configuration own ∧ ConfigurationFault.refusals.isOwn own

theorem Setting.loadedText_eq (value : Setting) :
    value.loadedText = value.text.mapError fun
      | .number fault => .number fault
      | .tooDeep => .tooDeep := by
  unfold Setting.loadedText
  cases value.text with
  | ok s => rfl
  | error fault => cases fault <;> rfl

theorem reads_loadedText (value : Setting) :
    Reads LoadFault.refusals [value] (fun _ => True) value.loadedText := by
  rw [value.loadedText_eq]
  exact ((reads_text value).mapError (fun _ impossible => impossible.elim) fun _ _ => rfl).mono
    fun _ _ => trivial

theorem reads_commandOf (setting : String) (value : Setting) :
    Reads ConfigurationFault.refusals [] (· ≠ []) (commandOf setting value) := by
  have checked (words : List String) : Reads ConfigurationFault.refusals [] (· ≠ [])
      (if words.isEmpty then .error (.commandEmpty setting) else .ok words) := by
    split
    · exact .own fun misfit same => by cases same
    · rename_i nonempty
      exact .ok fun none => nonempty (by rw [none]; rfl)
  unfold commandOf
  split
  · exact checked _
  · exact checked _
  · split
    · exact .own fun misfit same => by cases same
    · split
      · exact checked _
      · exact .own fun misfit same => by cases same

theorem reads_textSetting (name default : String) (section_ : Setting.Table) :
    Reads LoadFault.refusals (given? name section_).toList (fun _ => True)
      (textSetting name default section_) := by
  unfold textSetting
  cases given? name section_ with
  | none => exact .ok trivial
  | some value => exact reads_loadedText value

theorem reads_levelSetting (default : String) (section_ : Setting.Table) :
    Reads LoadFault.refusals (given? "log_level" section_).toList (fun _ => True)
      (levelSetting default section_) := by
  unfold levelSetting
  cases given? "log_level" section_ with
  | none => exact .ok trivial
  | some value => exact (reads_loadedText value).map fun _ _ => trivial

theorem reads_obfuscatorSetting {default : List String} (nonempty : default ≠ []) (section_ : Setting.Table) :
    Reads LoadFault.refusals [] (· ≠ []) (obfuscatorSetting default section_) := by
  unfold obfuscatorSetting
  split
  · exact .ok nonempty
  · exact .ok nonempty
  · exact (reads_commandOf ..).mapError (fun fault own => ⟨fault, rfl, own⟩) (by simp)

/-- The values of the global section that are made texts. -/
def globalTexts (section_ : Setting.Table) : List Setting :=
  ["out_dir", "log_level", "node"].flatMap fun name => (given? name section_).toList

namespace GlobalSettings

theorem reads_ofSection (section_ : Setting.Table) :
    Reads LoadFault.refusals (globalTexts section_) (fun settings => settings.obfuscator ≠ [])
      (ofSection section_) := by
  unfold ofSection
  exact (reads_textSetting _ _ section_).bind fun outDir _ =>
    (reads_levelSetting _ section_).bind fun logLevel _ =>
      (reads_textSetting _ _ section_).bind fun node _ =>
        (reads_obfuscatorSetting (by simp) section_).map fun obfuscator nonempty => nonempty

theorem reads_ofTable (data : Setting.Table) :
    Reads LoadFault.refusals (globalTexts (Setting.tableIn "global" data))
      (fun settings => settings.obfuscator ≠ []) (ofTable data) := by
  unfold ofTable Setting.tableIn
  cases Setting.get? "global" data with
  | none => exact .ok (by simp)
  | some value =>
    cases opened : value.table? with
    | none =>
      simp only [opened]
      exact .own ⟨_, rfl, fun misfit same => by cases same⟩
    | some section_ => simpa only [opened, Option.bind_some, Option.getD_some] using reads_ofSection section_

end GlobalSettings

namespace Target

theorem reads_validateFrom (taken : List String) (targets : List Target) :
    Reads ConfigurationFault.refusals [] (fun _ => ∀ t ∈ targets, t.entryModule ≠ "")
      ((validateFrom taken targets).mapError .target) := by
  induction targets generalizing taken with
  | nil => exact .ok (by simp)
  | cons t rest ih =>
    unfold validateFrom
    split
    · exact .own fun misfit same => by cases same
    · split
      · exact .own fun misfit same => by cases same
      · split
        · exact .own fun misfit same => by cases same
        · rename_i nonempty
          exact (ih _).mono fun _ others => List.forall_mem_cons.mpr ⟨nonempty, others⟩

theorem isStripped_defaults : ∀ t ∈ defaults, ∀ entry ∈ t.baseline, Text.IsStripped entry := by decide

end Target

namespace Configuration

theorem tableIn_of_getD {name : String} {data entries : Setting.Table}
    (h : ((Setting.get? name data).getD (.table [])).table? = some entries) :
    Setting.tableIn name data = entries := by
  unfold Setting.tableIn
  cases found : Setting.get? name data with
  | none =>
    rw [found] at h
    exact Option.some.inj h
  | some value =>
    rw [found] at h
    rw [Option.bind_some, show value.table? = some entries from h, Option.getD_some]

theorem reads_targetsOf (data : Setting.Table) :
    Reads ConfigurationFault.refusals (overriddenTexts (Setting.tableIn "targets" data) Target.defaults)
      (fun targets => AllOverridden (Setting.tableIn "targets" data) Target.defaults targets ∧
        ∀ t ∈ targets, t.entryModule ≠ "") (targetsOf data) := by
  unfold targetsOf
  split
  · exact .own fun misfit same => by cases same
  · rename_i overrides opened
    split
    · exact .own fun misfit same => by cases same
    · rename_i tables
      have tables : ∀ entry ∈ overrides, entry.2.table?.isSome := by
        simpa [Option.isSome_iff_ne_none] using tables
      rw [tableIn_of_getD opened]
      have applied : Reads ConfigurationFault.refusals (overriddenTexts overrides Target.defaults)
          (AllOverridden overrides Target.defaults)
          ((applyOverrides Target.defaults (.table overrides)).mapError .override) :=
        (reads_applyOverrides tables Target.defaults).mapError
          (fun fault own misfit same => own misfit (ConfigurationFault.override.inj same)) fun _ _ => rfl
      rw [← List.append_nil (overriddenTexts ..)]
      exact applied.bind fun targets overridden =>
        (Target.reads_validateFrom [] targets).map fun _ given => ⟨overridden, given⟩

/-- The values of a table that are made texts. -/
def textsIn (data : Setting.Table) : List Setting :=
  globalTexts (Setting.tableIn "global" data) ++
    overriddenTexts (Setting.tableIn "targets" data) Target.defaults

/-- What a configuration has that was made of a table. -/
structure Settled (data : Setting.Table) (c : Configuration) : Prop where
  targets : AllOverridden (Setting.tableIn "targets" data) Target.defaults c.targets
  names : c.targets.map Target.name = ["client", "server", "shared"]
  entryModules : ∀ t ∈ c.targets, t.entryModule ≠ ""
  baselines : ∀ t ∈ c.targets, ∀ entry ∈ t.baseline, Text.IsStripped entry
  obfuscator : c.settings.obfuscator ≠ []

theorem settled_of_overridden {root : Path} {source : Option Path} {data : Setting.Table}
    {settings : GlobalSettings} {targets : List Target} (command : settings.obfuscator ≠ [])
    (overridden : AllOverridden (Setting.tableIn "targets" data) Target.defaults targets)
    (given : ∀ t ∈ targets, t.entryModule ≠ "") : Settled data ⟨root, settings, targets, source⟩ where
  targets := overridden
  names := overridden.names
  entryModules := given
  baselines t member := by
    obtain ⟨origin, default, changed⟩ := overridden.exists_of_mem member
    obtain ⟨-, same⟩ | ⟨value, -, made⟩ := changed.baseline
    · rw [same]
      exact Target.isStripped_defaults origin default
    · exact isStripped_of_baselineOf made
  obfuscator := command

theorem faultOf_of_isOwn {fault : ConfigurationFault} (own : ConfigurationFault.refusals.isOwn fault) :
    faultOf fault = .configuration fault := by
  unfold faultOf
  split
  · exact absurd rfl (own .tooDeep)
  · rfl

theorem reads_ofTable (root : Path) (data : Setting.Table) (source : Option Path) :
    Reads LoadFault.refusals (textsIn data)
      (fun c => c.root = root ∧ c.source = source ∧ Settled data c) (ofTable root data source) := by
  have targets : Reads LoadFault.refusals _ _ ((targetsOf data).mapError faultOf) :=
    (reads_targetsOf data).mapError (fun fault own => ⟨fault, faultOf_of_isOwn own, own⟩) fun _ _ => rfl
  exact (GlobalSettings.reads_ofTable data).bind fun settings command =>
    targets.map fun targets made => ⟨rfl, rfl, settled_of_overridden command made.1 made.2⟩

end Configuration

namespace Setting

theorem entriesWritable_iff {entries : Table} :
    entriesWritable entries = true ↔
      ∀ entry ∈ entries, entry.1.isWritable = true ∧ entry.2.isWritable = true := by
  induction entries with
  | nil => simp [entriesWritable]
  | cons entry rest ih => simp [entriesWritable, ih, and_assoc]

theorem entriesWritable_of_table? {value : Setting} {entries : Table} (writable : value.isWritable = true)
    (h : value.table? = some entries) : entriesWritable entries = true := by
  cases value with
  | table => cases h; exact writable
  | looped => cases writable
  | _ => cases h

theorem entriesWritable_tableIn {entries : Table} (writable : entriesWritable entries = true) (name : String) :
    entriesWritable (tableIn name entries) = true := by
  unfold tableIn
  cases found : get? name entries with
  | none => rfl
  | some value =>
    cases opened : value.table? with
    | none => simp only [Option.bind_some, opened]; rfl
    | some table =>
      simp only [Option.bind_some, opened, Option.getD_some]
      exact entriesWritable_of_table? (entriesWritable_iff.mp writable _ (mem_of_get? found)).2 opened

end Setting

theorem isWritable_of_mem_overrideTexts {key value v : Setting}
    (writable : key.isWritable = true ∧ value.isWritable = true) (h : v ∈ Target.overrideTexts key value) :
    v.isWritable = true := by
  unfold Target.overrideTexts at h
  split at h
  · rw [List.mem_singleton.mp h]
    exact writable.2
  · cases h
  · cases h
  · cases h
  · cases opened : value.table? with
    | none =>
      rw [opened] at h
      cases h
    | some table =>
      rw [opened] at h
      obtain ⟨entry, among, member⟩ := List.mem_flatMap.mp h
      have all := Setting.entriesWritable_iff.mp (Setting.entriesWritable_of_table? writable.2 opened)
      have both := all entry among
      rcases List.mem_pair.mp member with rfl | rfl
      · exact both.1
      · exact both.2
  · rw [List.mem_singleton.mp h]
    exact writable.1

namespace Configuration

theorem isWritable_of_mem_textsIn {data : Setting.Table} (writable : Setting.entriesWritable data = true) :
    ∀ value ∈ textsIn data, value.isWritable = true := by
  have below (name : String) : ∀ entry ∈ Setting.tableIn name data, _ :=
    Setting.entriesWritable_iff.mp (Setting.entriesWritable_tableIn writable name)
  refine List.forall_mem_append.mpr ⟨fun value member => ?_, fun value member => ?_⟩
  · obtain ⟨name, -, member⟩ := List.mem_flatMap.mp member
    obtain ⟨found, -⟩ := Option.filter_eq_some_iff.mp (Option.mem_toList.mp member)
    exact (below "global" _ (Setting.mem_of_get? found)).2
  · obtain ⟨t, -, member⟩ := List.mem_flatMap.mp member
    obtain ⟨entry, among, member⟩ := List.mem_flatMap.mp member
    have table := Setting.entriesWritable_tableIn (Setting.entriesWritable_tableIn writable "targets") t.name
    exact isWritable_of_mem_overrideTexts (Setting.entriesWritable_iff.mp table entry among) member

/-- Lists one inside the other around an empty one. -/
def nested : Nat → Setting
  | 0 => .list []
  | n + 1 => .list [nested n]

theorem height_nested (n : Nat) : (nested n).height = n + 1 := by
  induction n with
  | zero => rfl
  | succ n ih => rw [nested, Setting.height, Setting.heights, Setting.heights, ih, Nat.max_zero]

theorem isWritable_nested (n : Nat) : (nested n).isWritable = true := by
  induction n with
  | zero => rfl
  | succ n ih => rw [nested, Setting.isWritable, Setting.allWritable, Setting.allWritable, ih, Bool.and_true]

/-- An output directory that is a nested list. -/
def nestedOutDir (n : Nat) : Setting.Table := [(.str "global", .table [(.str "out_dir", nested n)])]

end Configuration
end BundleForge
