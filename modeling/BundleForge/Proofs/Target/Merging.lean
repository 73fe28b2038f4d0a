import BundleForge.Proofs.Matching
import BundleForge.Proofs.Target.Legal

/-!
Overrides one after the other. Main statements: two overrides in turn do what the first does once the second is
put into it table by table, the second does nothing when it is repeated, and the order in which names and
fields stand does not matter.
-/

namespace BundleForge

namespace Entries

variable {κ α : Type} [BEq κ] {name : κ} {value : α} {entries : List (κ × α)}

theorem collect_concat (entries : List (κ × α)) (entry : κ × α) :
    collect (entries ++ [entry]) = put entry.1 entry.2 (collect entries) :=
  List.foldl_concat ..

/-- A name takes its place at the end unless one stands there that counts as the same. -/
theorem map_fst_put (name : κ) (value : α) (entries : List (κ × α)) :
    (put name value entries).map Prod.fst =
      if entries.any (fun entry => entry.1 == name) then entries.map Prod.fst else entries.map Prod.fst ++ [name] := by
  induction entries with
  | nil => rfl
  | cons entry rest ih =>
    cases same : entry.1 == name with
    | true => simp [put, same]
    | false =>
      simp only [put, same, List.map_cons, ih, List.any_cons, Bool.false_or, Bool.false_eq_true, if_false]
      split <;> rfl

theorem nodup_put (same : (name == name) = true) (distinct : (entries.map Prod.fst).Nodup) :
    ((put name value entries).map Prod.fst).Nodup := by
  rw [map_fst_put]
  split
  · exact distinct
  · rename_i new
    refine List.nodup_append.mpr ⟨distinct, List.pairwise_singleton .., fun other among _ last => ?_⟩
    obtain rfl := List.mem_singleton.mp last
    obtain ⟨entry, member, rfl⟩ := List.mem_map.mp among
    rintro rfl
    exact new (List.any_eq_true.mpr ⟨entry, member, same⟩)

theorem nodup_collect (same : ∀ entry ∈ entries, (entry.1 == entry.1) = true) :
    ((collect entries).map Prod.fst).Nodup := by
  induction entries using List.reverseRecOn with
  | nil => exact List.nodup_nil
  | append_singleton rest entry ih =>
    rw [collect_concat]
    exact nodup_put (same entry (by simp)) (ih fun other among => same other (by simp [among]))

theorem mem_of_mem_put (lawful : ∀ other, (other == name) = true → other = name) {entry : κ × α}
    (h : entry ∈ put name value entries) : entry = (name, value) ∨ entry ∈ entries := by
  induction entries with
  | nil => exact .inl (List.mem_singleton.mp h)
  | cons first rest ih =>
    unfold put at h
    split at h
    · rename_i same
      obtain rfl | later := List.mem_cons.mp h
      · exact .inl (Prod.ext (lawful _ same) rfl)
      · exact .inr (List.mem_cons_of_mem _ later)
    · obtain rfl | later := List.mem_cons.mp h
      · exact .inr List.mem_cons_self
      · exact (ih later).imp_right (List.mem_cons_of_mem _)

theorem mem_of_mem_collect (lawful : ∀ entry ∈ entries, ∀ other, (other == entry.1) = true → other = entry.1)
    {entry : κ × α} (h : entry ∈ collect entries) : entry ∈ entries := by
  induction entries using List.reverseRecOn with
  | nil => cases h
  | append_singleton rest last ih =>
    rw [collect_concat] at h
    obtain rfl | earlier := mem_of_mem_put (lawful last (by simp)) h
    · simp
    · have among := ih (fun other member => lawful other (by simp [member])) earlier
      simp [among]

end Entries

namespace Setting

variable {a b : Table}

theorem str_beq_iff {key : Setting} {name : String} : (Setting.str name == key) = true ↔ key = .str name := by
  show sameKey (.str name) key = true ↔ key = .str name
  cases key with
  | str s => simp [sameKey, @eq_comm _ name]
  | bool b => cases b <;> simp [sameKey, integer?]
  | real x => cases hx : x.toInt? <;> simp [sameKey, integer?, number?, hx]
  | _ => simp [sameKey, integer?, number?]

theorem get?_append (name : String) (a b : Table) : get? name (a ++ b) = (get? name a).or (get? name b) := by
  induction a with
  | nil => rfl
  | cons entry rest ih =>
    rw [List.cons_append, get?_cons, ih, get?_cons name entry rest, Option.or_assoc]

theorem get?_put_self (name : String) (value : Setting) (entries : Table) :
    get? name (Entries.put (.str name) value entries) = some value := by
  induction entries with
  | nil => simp [Entries.put, get?]
  | cons entry rest ih =>
    unfold Entries.put
    split
    · rename_i same
      simp [beq_str_iff.mp same, get?]
    · rename_i other
      rw [get?_cons, ih, get?_of_ne _ (mt beq_str_iff.mpr other), Option.none_or]

theorem get?_put_of_ne {name : String} {key : Setting} (other : key ≠ .str name) (value : Setting)
    (entries : Table) : get? name (Entries.put key value entries) = get? name entries := by
  induction entries with
  | nil => exact get?_of_ne value other
  | cons entry rest ih =>
    obtain ⟨first, old⟩ := entry
    unfold Entries.put
    split
    · rename_i same
      have different : first ≠ .str name := by
        rintro rfl
        exact other (str_beq_iff.mp same)
      rw [get?_cons, get?_cons name (first, old), get?_of_ne _ different, get?_of_ne _ different]
    · rw [get?_cons, ih, ← get?_cons]

/-- The value that came last is found. -/
theorem get?_collect (name : String) (entries : Table) :
    get? name (Entries.collect entries) = get? name entries.reverse := by
  induction entries using List.reverseRecOn with
  | nil => rfl
  | append_singleton rest entry ih =>
    obtain ⟨key, value⟩ := entry
    rw [Entries.collect_concat, List.reverse_append, List.reverse_singleton, List.singleton_append, get?_cons]
    by_cases same : key = .str name
    · simp [same, get?_put_self, get?]
    · rw [get?_put_of_ne same, ih, get?_of_ne value same, Option.none_or]

/-- Entries in which no name stands twice may stand in any order. -/
theorem get?_perm (same : a.Perm b) (distinct : (a.map Prod.fst).Nodup) (name : String) :
    get? name a = get? name b := by
  have distinct' : (b.map Prod.fst).Nodup := (same.map Prod.fst).nodup distinct
  ext value
  rw [get?_eq_some_iff distinct, get?_eq_some_iff distinct', same.mem_iff]

/-- In a table that is put into another, the values of the table count. -/
theorem get?_collect_append (distinct : (a.map Prod.fst).Nodup) (distinct' : (b.map Prod.fst).Nodup) (name : String) :
    get? name (Entries.collect (a ++ b)) = (get? name b).or (get? name a) := by
  have first := get?_perm a.reverse_perm.symm distinct name
  have second := get?_perm b.reverse_perm.symm distinct' name
  rw [get?_collect, List.reverse_append, get?_append, first, second]

/-- The table under a name of any kind, empty where no table stands there. -/
def tableUnder (name : Setting) (entries : Table) : Table := ((entries.lookup name).bind table?).getD []

/-- Overrides with others put into them, table by table. -/
def merged (a b : Table) : Table :=
  Entries.collect ((a ++ b).map fun entry =>
    (entry.1, .table (Entries.collect (tableUnder entry.1 a ++ tableUnder entry.1 b))))

theorem tableUnder_str (name : String) (entries : Table) : tableUnder (.str name) entries = tableIn name entries := by
  suffices found : entries.lookup (.str name) = get? name entries by rw [tableUnder, tableIn, found]
  induction entries with
  | nil => rfl
  | cons entry rest ih =>
    obtain ⟨key, value⟩ := entry
    rw [List.lookup_cons, get?_cons]
    by_cases same : key = .str name
    · rw [str_beq_iff.mpr same, same]
      simp [get?]
    · have different : (Setting.str name == key) = false := by simpa using mt str_beq_iff.mp same
      rw [different, ih, get?_of_ne value same, Option.none_or]

theorem get?_eq_none_iff {name : String} {entries : Table} :
    get? name entries = none ↔ ∀ entry ∈ entries, entry.1 ≠ .str name := by
  induction entries with
  | nil => simp [get?]
  | cons entry rest ih =>
    rw [get?_cons, Option.or_eq_none_iff, ih, List.forall_mem_cons]
    refine and_congr_left' ⟨fun absent same => ?_, get?_of_ne entry.2⟩
    obtain ⟨key, value⟩ := entry
    simp [show key = .str name from same, get?] at absent

theorem get?_map {name : String} (make : Setting → Setting) (entries : Table) :
    get? name (entries.map fun entry => (entry.1, make entry.1)) =
      (get? name entries).map fun _ => make (.str name) := by
  induction entries with
  | nil => rfl
  | cons entry rest ih =>
    obtain ⟨key, value⟩ := entry
    rw [List.map_cons, get?_cons, ih, get?_cons name (key, value)]
    by_cases same : key = .str name
    · simp [same, get?]
    · simp [get?_of_ne _ same]

/-- Under each name the table of the first has the table of the second put into it. -/
theorem tableIn_merged (name : String) (a b : Table) :
    tableIn name (merged a b) = Entries.collect (tableIn name a ++ tableIn name b) := by
  have found : get? name (merged a b) = (get? name (a ++ b).reverse).map fun _ =>
      .table (Entries.collect (tableIn name a ++ tableIn name b)) := by
    rw [merged, get?_collect, ← List.map_reverse,
      get?_map (fun key => .table (Entries.collect (tableUnder key a ++ tableUnder key b)))]
    simp only [tableUnder_str]
  cases named : get? name (a ++ b).reverse with
  | some value =>
    rw [named] at found
    simp [tableIn, found, table?, opened]
  | none =>
    rw [named] at found
    rw [get?_eq_none_iff] at named
    have absent : get? name a = none := get?_eq_none_iff.mpr fun entry among => named entry (by simp [among])
    have absent' : get? name b = none := get?_eq_none_iff.mpr fun entry among => named entry (by simp [among])
    simp [tableIn, found, absent, absent', Entries.collect]

/-- Overrides of the same targets by the same tables, the targets and the fields in each table in some other order. -/
def Rearranged (a b : Table) : Prop :=
  ∃ c, a.Perm c ∧ List.Forall₂ (fun entry other => entry.1 = other.1 ∧
    ∃ table table', entry.2.table? = some table ∧ other.2.table? = some table' ∧ table.Perm table') c b

theorem tableIn_congr {name : String} (same : get? name a = get? name b) : tableIn name a = tableIn name b := by
  rw [tableIn, same, tableIn]

theorem Rearranged.names (h : Rearranged a b) : (a.map Prod.fst).Perm (b.map Prod.fst) := by
  obtain ⟨c, moved, matched⟩ := h
  have same : c.map Prod.fst = b.map Prod.fst := map_eq_of_matched matched fun _ _ same => same.1
  exact same ▸ moved.map Prod.fst

theorem Rearranged.isOverrides (same : Rearranged a b) (h : IsOverrides a) : IsOverrides b := by
  refine ⟨same.names.nodup h.names, ?_⟩
  obtain ⟨c, moved, matched⟩ := same
  refine forall_mem_of_matched matched ?_ fun entry member => h.tables entry (moved.mem_iff.mpr member)
  rintro entry other ⟨-, table, table', opened, opened', moved'⟩ ⟨_, opened'', distinct⟩
  cases opened.symm.trans opened''
  exact ⟨table', opened', (moved'.map Prod.fst).nodup distinct⟩

theorem Rearranged.tableIn_perm (same : Rearranged a b) (h : IsOverrides a) (name : String) :
    (tableIn name a).Perm (tableIn name b) := by
  obtain ⟨c, moved, matched⟩ := same
  rw [tableIn_congr (get?_perm moved h.names name)]
  clear moved
  induction matched with
  | nil => exact .rfl
  | @cons entry other rest rest' first _ ih =>
    obtain ⟨named, table, table', opened, opened', moved'⟩ := first
    obtain ⟨key, value⟩ := entry
    obtain ⟨_, value'⟩ := other
    subst named
    unfold tableIn at ih ⊢
    rw [get?_cons, get?_cons name (key, value')]
    by_cases is : key = .str name
    · simpa [is, get?, opened, opened'] using moved'
    · rwa [get?_of_ne value is, get?_of_ne value' is, Option.none_or, Option.none_or]

/-- Every name is a text. -/
def Named (entries : Table) : Prop := ∀ entry ∈ entries, ∃ name, entry.1 = .str name

theorem Named.nodup_collect {entries : Table} (h : Named entries) :
    ((Entries.collect entries).map Prod.fst).Nodup := by
  refine Entries.nodup_collect fun entry among => ?_
  obtain ⟨name, named⟩ := h entry among
  exact named ▸ beq_str_iff.mpr rfl

theorem Named.mem_of_mem_collect {entries : Table} (h : Named entries) {entry : Setting × Setting}
    (among : entry ∈ Entries.collect entries) : entry ∈ entries := by
  refine Entries.mem_of_mem_collect (fun first member other same => ?_) among
  obtain ⟨name, named⟩ := h first member
  rw [named] at same ⊢
  exact beq_str_iff.mp same

namespace Makes

variable {α : Type} {name : String} {normal : Setting → α → Prop} {entries entries' : Table} {old mid new new' : α}

theorem unique (functional : ∀ value x y, normal value x → normal value y → x = y)
    (h : Makes name normal entries old new) (h' : Makes name normal entries old new') : new = new' := by
  unfold Makes at h h'
  cases found : get? name entries with
  | none =>
    rw [found] at h h'
    exact Eq.trans h h'.symm
  | some value =>
    rw [found] at h h'
    exact functional value new new' h h'

theorem congr (same : get? name entries = get? name entries') (h : Makes name normal entries old new) :
    Makes name normal entries' old new := by
  unfold Makes at h ⊢
  rwa [same] at h

/-- What a table makes does not depend on what was there, unless the table leaves it there. -/
theorem again (h : Makes name normal entries old new) : Makes name normal entries new new := by
  unfold Makes at h ⊢
  split at h
  · rfl
  · exact h

theorem trans (distinct : (a.map Prod.fst).Nodup) (distinct' : (b.map Prod.fst).Nodup)
    (h : Makes name normal a old mid) (h' : Makes name normal b mid new) :
    Makes name normal (Entries.collect (a ++ b)) old new := by
  unfold Makes at h h' ⊢
  rw [get?_collect_append distinct distinct']
  cases found : get? name b with
  | none =>
    rw [found] at h'
    obtain rfl : new = mid := h'
    exact h
  | some value =>
    rw [found] at h'
    exact h'

end Makes
end Setting

open Setting (IsOverrides Makes Rearranged Table get? merged tableIn)

namespace Target

variable {entries entries' a b : Table} {t mid t' t'' : Target}

theorem Retouched.unique (h : Retouched entries t t') (h' : Retouched entries t t'') : t' = t'' := by
  have name := h.name.trans h'.name.symm
  have platform := h.platform.trans h'.platform.symm
  have format := h.format.trans h'.format.symm
  have usesPolicy := h.usesPolicy.trans h'.usesPolicy.symm
  have entryModule := h.entryModule.unique (fun _ _ _ made made' => Except.ok.inj (made.symm.trans made'))
    h'.entryModule
  have baseline := h.baseline.unique (fun _ _ _ ⟨_, lists, same⟩ ⟨_, lists', same'⟩ =>
    Except.ok.inj ((baselineOf_eq_ok_iff.mpr ⟨_, lists, same⟩).symm.trans
      (baselineOf_eq_ok_iff.mpr ⟨_, lists', same'⟩))) h'.baseline
  have minify := h.suppressMinify.unique (fun _ _ _ made made' => Setting.bool.inj (made.symm.trans made'))
    h'.suppressMinify
  have harden := h.suppressHarden.unique (fun _ _ _ ⟨_, made, same⟩ ⟨_, made', same'⟩ => by
    cases made.symm.trans made'
    exact same.trans same'.symm) h'.suppressHarden
  have define := h.define.unique (fun _ _ _ ⟨_, opened, made⟩ ⟨_, opened', made'⟩ => by
    cases opened.symm.trans opened'
    exact Except.ok.inj ((definitions_eq_ok_iff.mpr made).symm.trans (definitions_eq_ok_iff.mpr made')))
    h'.define
  cases t'
  cases t''
  rw [Target.mk.injEq]
  exact ⟨name, platform, entryModule, format, baseline, minify, harden, usesPolicy, define⟩

theorem Retouched.congr (same : ∀ name, get? name entries = get? name entries') (h : Retouched entries t t') :
    Retouched entries' t t' :=
  { h with
    entryModule := h.entryModule.congr (same _)
    baseline := h.baseline.congr (same _)
    suppressMinify := h.suppressMinify.congr (same _)
    suppressHarden := h.suppressHarden.congr (same _)
    define := h.define.congr (same _) }

theorem Retouched.again (h : Retouched entries t t') : Retouched entries t' t' where
  name := rfl
  platform := rfl
  format := rfl
  usesPolicy := rfl
  entryModule := h.entryModule.again
  baseline := h.baseline.again
  suppressMinify := h.suppressMinify.again
  suppressHarden := h.suppressHarden.again
  define := h.define.again

theorem Retouched.trans (distinct : (a.map Prod.fst).Nodup) (distinct' : (b.map Prod.fst).Nodup)
    (h : Retouched a t mid) (h' : Retouched b mid t') : Retouched (Entries.collect (a ++ b)) t t' where
  name := h'.name.trans h.name
  platform := h'.platform.trans h.platform
  format := h'.format.trans h.format
  usesPolicy := h'.usesPolicy.trans h.usesPolicy
  entryModule := h.entryModule.trans distinct distinct' h'.entryModule
  baseline := h.baseline.trans distinct distinct' h'.baseline
  suppressMinify := h.suppressMinify.trans distinct distinct' h'.suppressMinify
  suppressHarden := h.suppressHarden.trans distinct distinct' h'.suppressHarden
  define := h.define.trans distinct distinct' h'.define

theorem Admits.named {entry : Setting × Setting} (h : Admits entry) : ∃ name, entry.1 = .str name := by
  obtain ⟨⟨field, named, -⟩, -⟩ := h
  exact ⟨field.name, named⟩

end Target

open Target

variable {overrides overrides' a b : Table} {targets mid results : List Target}

theorem map_name_of_applyOverrides (h : IsOverrides overrides)
    (made : applyOverrides targets (.table overrides) = .ok results) :
    targets.map Target.name = results.map Target.name :=
  map_eq_of_matched (retouched_of_applyOverrides h made) fun _ _ retouched => retouched.name.symm

/-- Whether overrides go through depends on the names of the targets alone. -/
theorem exists_applyOverrides_congr (tables : ∀ entry ∈ overrides, entry.2.table?.isSome)
    (same : targets.map Target.name = mid.map Target.name) :
    (∃ results, applyOverrides targets (.table overrides) = .ok results) ↔
      ∃ results, applyOverrides mid (.table overrides) = .ok results := by
  have known (ts : List Target) :
      Known ts overrides ↔ ∀ entry ∈ overrides, ∃ name ∈ ts.map Target.name, entry.1 = .str name := by
    simp [Known]
  have each (ts : List Target) : (∀ t ∈ ts, ∀ entry ∈ tableIn t.name overrides, Admits entry) ↔
      ∀ name ∈ ts.map Target.name, ∀ entry ∈ tableIn name overrides, Admits entry := by
    rw [List.forall_mem_map]
  rw [exists_applyOverrides_iff tables, exists_applyOverrides_iff tables, known, each, known mid, each mid, same]

/-- Overrides that go through retouch targets in one way. -/
theorem applyOverrides_eq_of_retouched (h : IsOverrides overrides)
    (through : ∃ results, applyOverrides targets (.table overrides) = .ok results)
    (retouched : List.Forall₂ (fun t t' => Retouched (tableIn t.name overrides) t t') targets results) :
    applyOverrides targets (.table overrides) = .ok results := by
  obtain ⟨results', made⟩ := through
  have unique : Relator.RightUnique fun t t' => Retouched (tableIn t.name overrides) t t' :=
    fun _ _ _ => Retouched.unique
  rw [made, List.right_unique_forall₂' unique (retouched_of_applyOverrides h made) retouched]

/-- Two overrides of which each goes through go through together. -/
theorem merged_goesThrough (h : IsOverrides a) (h' : IsOverrides b)
    (through : ∃ results, applyOverrides targets (.table a) = .ok results)
    (through' : ∃ results, applyOverrides targets (.table b) = .ok results) :
    IsOverrides (merged a b) ∧ ∃ results, applyOverrides targets (.table (merged a b)) = .ok results := by
  obtain ⟨known, each⟩ := (exists_applyOverrides_iff h.isTable targets).mp through
  obtain ⟨known', each'⟩ := (exists_applyOverrides_iff h'.isTable targets).mp through'
  have outer : Setting.Named ((a ++ b).map fun entry =>
      (entry.1, .table (Entries.collect (Setting.tableUnder entry.1 a ++ Setting.tableUnder entry.1 b)))) := by
    intro entry member
    obtain ⟨first, among, rfl⟩ := List.mem_map.mp member
    obtain ⟨t, -, named⟩ := (List.mem_append.mp among).elim (known first) (known' first)
    exact ⟨t.name, named⟩
  have inner (t : Target) (among : t ∈ targets) : Setting.Named (tableIn t.name a ++ tableIn t.name b) :=
    fun entry member => ((List.mem_append.mp member).elim (each t among entry) (each' t among entry)).named
  have parts : ∀ entry ∈ merged a b, ∃ t ∈ targets, entry.1 = .str t.name ∧
      entry.2.table? = some (Entries.collect (tableIn t.name a ++ tableIn t.name b)) := by
    intro entry member
    obtain ⟨first, among, rfl⟩ := List.mem_map.mp (outer.mem_of_mem_collect member)
    obtain ⟨t, target, named⟩ := (List.mem_append.mp among).elim (known first) (known' first)
    refine ⟨t, target, named, ?_⟩
    simp only [named, Setting.tableUnder_str, Setting.table?, Setting.opened]
  have shape : IsOverrides (merged a b) := by
    refine ⟨outer.nodup_collect, fun entry member => ?_⟩
    obtain ⟨t, target, -, opened⟩ := parts entry member
    exact ⟨_, opened, (inner t target).nodup_collect⟩
  refine ⟨shape, (exists_applyOverrides_iff shape.isTable targets).mpr ⟨fun entry member => ?_, ?_⟩⟩
  · obtain ⟨t, target, named, -⟩ := parts entry member
    exact ⟨t, target, named⟩
  · intro t target entry member
    rw [Setting.tableIn_merged] at member
    exact (List.mem_append.mp ((inner t target).mem_of_mem_collect member)).elim
      (each t target entry) (each' t target entry)

/-- Overrides that go through one after the other do at once what they do in turn. -/
theorem applyOverrides_merged (h : IsOverrides a) (h' : IsOverrides b)
    (made : applyOverrides targets (.table a) = .ok mid) (made' : applyOverrides mid (.table b) = .ok results) :
    applyOverrides targets (.table (merged a b)) = .ok results := by
  have same := map_name_of_applyOverrides h made
  obtain ⟨shape, through⟩ := merged_goesThrough h h' ⟨mid, made⟩
    ((exists_applyOverrides_congr h'.isTable same).mpr ⟨results, made'⟩)
  refine applyOverrides_eq_of_retouched shape through (matched_trans (retouched_of_applyOverrides h made)
    (retouched_of_applyOverrides h' made') fun t mid t' first second => ?_)
  rw [first.name] at second
  rw [Setting.tableIn_merged]
  exact first.trans (h.distinct_tableIn _) (h'.distinct_tableIn _) second

/-- Overrides leave nothing to do when they are repeated. -/
theorem applyOverrides_again (h : IsOverrides overrides)
    (made : applyOverrides targets (.table overrides) = .ok results) :
    applyOverrides results (.table overrides) = .ok results := by
  have same := map_name_of_applyOverrides h made
  refine applyOverrides_eq_of_retouched h ((exists_applyOverrides_congr h.isTable same).mp ⟨results, made⟩)
    (List.forall₂_same.mpr (forall_mem_of_matched (P := fun _ => True) (retouched_of_applyOverrides h made) ?_
      fun _ _ => trivial))
  intro t t' retouched _
  rw [retouched.name]
  exact retouched.again

theorem applyOverrides_rearranged (h : IsOverrides overrides) (same : Rearranged overrides overrides')
    (made : applyOverrides targets (.table overrides) = .ok results) :
    applyOverrides targets (.table overrides') = .ok results := by
  have h' := same.isOverrides h
  have tables (t : Target) := same.tableIn_perm h t.name
  obtain ⟨known, each⟩ := (exists_applyOverrides_iff h.isTable targets).mp ⟨results, made⟩
  have through : ∃ results, applyOverrides targets (.table overrides') = .ok results := by
    refine (exists_applyOverrides_iff h'.isTable targets).mpr ⟨fun entry member => ?_, ?_⟩
    · obtain ⟨first, among, named⟩ :=
        List.mem_map.mp (same.names.mem_iff.mpr (List.mem_map_of_mem (f := Prod.fst) member))
      exact named ▸ known first among
    · exact fun t target entry member => each t target entry ((tables t).mem_iff.mpr member)
  refine applyOverrides_eq_of_retouched h' through ((retouched_of_applyOverrides h made).imp fun t t' retouched => ?_)
  exact retouched.congr (Setting.get?_perm (tables t) (h.distinct_tableIn t.name))

/-- Overrides that go through one after the other go through at once when the second is put into the first table
by table, with the same targets; the second changes nothing when it is repeated; and the order in which overrides
name targets and fields does not matter. -/
theorem applyOverrides_compose :
    (∀ (a b : Table) (targets mid results : List Target), IsOverrides a → IsOverrides b →
      applyOverrides targets (.table a) = .ok mid → applyOverrides mid (.table b) = .ok results →
        applyOverrides targets (.table (merged a b)) = .ok results ∧
        applyOverrides results (.table b) = .ok results) ∧
    ∀ (overrides overrides' : Table) (targets results : List Target), IsOverrides overrides →
      Rearranged overrides overrides' → applyOverrides targets (.table overrides) = .ok results →
        applyOverrides targets (.table overrides') = .ok results := by
  constructor
  · intro a b targets mid results h h' made made'
    exact ⟨applyOverrides_merged h h' made made', applyOverrides_again h' made'⟩
  · intro overrides overrides' targets results h same made
    exact applyOverrides_rearranged h same made

/-- The client is overridden twice: the entry module that came last counts, and the rest of the first table stays. -/
theorem applyOverrides_compose_clientTwice :
    let a : Table := [
      (.str "client", .table [(.str "entry_module", .str "a.ts"), (.str "suppress_minify", .bool true)]),
      (.str "shared", .table [(.str "runtime_baseline", .str "es2022, es2023")])]
    let moved : Table := [
      (.str "shared", .table [(.str "runtime_baseline", .str "es2022, es2023")]),
      (.str "client", .table [(.str "suppress_minify", .bool true), (.str "entry_module", .str "a.ts")])]
    let b : Table := [
      (.str "client", .table [(.str "suppress_harden", .bool false), (.str "entry_module", .int 5)])]
    let client := { Target.defaults[0] with entryModule := "a.ts", suppressMinify := true }
    let shared := { Target.defaults[2] with baseline := ["es2022", "es2023"] }
    let mid := [client, Target.defaults[1], shared]
    let results := [{ client with entryModule := "5", suppressHarden := some false }, Target.defaults[1], shared]
    (IsOverrides a ∧ IsOverrides b ∧ Rearranged a moved) ∧
      applyOverrides Target.defaults (.table a) = .ok mid ∧ applyOverrides mid (.table b) = .ok results ∧
      applyOverrides Target.defaults (.table (merged a b)) = .ok results ∧
      applyOverrides results (.table b) = .ok results ∧
      applyOverrides Target.defaults (.table moved) = .ok mid := by
  intro a moved b client shared mid results
  have h : IsOverrides a := ⟨by simp [a], by simp [a, Setting.table?, Setting.opened]⟩
  have h' : IsOverrides b := ⟨by simp [b], by simp [b, Setting.table?, Setting.opened]⟩
  have made : applyOverrides Target.defaults (.table a) = .ok mid := by decide +kernel
  have made' : applyOverrides mid (.table b) = .ok results := by decide +kernel
  have same : Rearranged a moved := by
    refine ⟨a.reverse, a.reverse_perm.symm, .cons ⟨rfl, _, _, rfl, rfl, .rfl⟩ (.cons ⟨rfl, _, _, rfl, rfl, ?_⟩ .nil)⟩
    exact .swap ..
  obtain ⟨compose, rearrange⟩ := applyOverrides_compose
  obtain ⟨together, again⟩ := compose a b _ _ _ h h' made made'
  exact ⟨⟨h, h', same⟩, made, made', together, again, rearrange a moved _ _ h same made⟩

end BundleForge
