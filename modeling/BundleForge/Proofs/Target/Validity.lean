import BundleForge.Target.Basic
import Mathlib.Data.List.Induction
import Mathlib.Data.List.Nodup
import Mathlib.Tactic.Common

/-!
When a list of targets is valid. Main statement: the check passes a list exactly when names are given and distinct and
every target has an entry module; otherwise it tells of the earliest target that is at fault, and where that target has
several faults, of the one that is looked for first.
-/

namespace BundleForge.Target

/-- What is wrong with a target that comes after others. It can have several faults at once. -/
inductive HasFault (earlier : List Target) (t : Target) : Fault → Prop
  | emptyName (nameless : t.name = "") : HasFault earlier t .emptyName
  | duplicateName (repeated : t.name ∈ earlier.map name) : HasFault earlier t (.duplicateName t.name)
  | noEntryModule (missing : t.entryModule = "") : HasFault earlier t (.noEntryModule t.name)

/-- Which of the faults of one target is told: those with a lower rank come first. -/
def Fault.rank : Fault → Nat
  | .emptyName => 0
  | .duplicateName _ => 1
  | .noEntryModule _ => 2

/-- A fault of a target that none of its other faults comes before. -/
structure FirstFault (earlier : List Target) (t : Target) (fault : Fault) : Prop where
  has : HasFault earlier t fault
  first : ∀ other, HasFault earlier t other → fault.rank ≤ other.rank

/-- No target has a fault where it stands. -/
def Faultless (targets : List Target) : Prop :=
  ∀ earlier t later, targets = earlier ++ t :: later → ∀ fault, ¬ HasFault earlier t fault

variable {earlier later targets : List Target} {t : Target} {fault : Fault}

theorem not_hasFault_iff : (∀ fault, ¬ HasFault earlier t fault) ↔
    t.name ≠ "" ∧ t.name ∉ earlier.map name ∧ t.entryModule ≠ "" := by
  constructor
  · intro none
    exact ⟨fun h => none _ (.emptyName h), fun h => none _ (.duplicateName h), fun h => none _ (.noEntryModule h)⟩
  · rintro ⟨named, fresh, given⟩ _ (nameless | repeated | missing)
    · exact named nameless
    · exact fresh repeated
    · exact given missing

theorem exists_firstFault (earlier : List Target) (t : Target) :
    (∀ fault, ¬ HasFault earlier t fault) ∨ ∃ fault, FirstFault earlier t fault := by
  by_cases nameless : t.name = ""
  · exact .inr ⟨_, .emptyName nameless, fun _ _ => Nat.zero_le _⟩
  by_cases repeated : t.name ∈ earlier.map name
  · refine .inr ⟨_, .duplicateName repeated, ?_⟩
    rintro _ (h | _ | _)
    · exact absurd h nameless
    · exact Nat.le_refl _
    · exact Nat.le_succ _
  by_cases missing : t.entryModule = ""
  · refine .inr ⟨_, .noEntryModule missing, ?_⟩
    rintro _ (h | h | _)
    · exact absurd h nameless
    · exact absurd h repeated
    · exact Nat.le_refl _
  · exact .inl (not_hasFault_iff.mpr ⟨nameless, repeated, missing⟩)

theorem faultless_nil : Faultless [] := by
  intro earlier t later split
  cases earlier <;> cases split

theorem faultless_concat :
    Faultless (earlier ++ [t]) ↔ Faultless earlier ∧ ∀ fault, ¬ HasFault earlier t fault := by
  constructor
  · intro h
    refine ⟨fun before u after split => h before u (after ++ [t]) ?_, h earlier t [] rfl⟩
    rw [split, List.append_assoc, List.cons_append]
  · rintro ⟨others, last⟩ before u after split
    obtain rfl | ⟨after', x, rfl⟩ := after.eq_nil_or_concat'
    · obtain ⟨rfl, same⟩ := List.append_inj' split rfl
      cases same
      exact last
    · rw [← List.cons_append, ← List.append_assoc] at split
      exact others before u after' (List.append_inj' split rfl).1

/-- A list without faults, told without the places of its targets. -/
theorem faultless_iff (targets : List Target) : Faultless targets ↔
    (∀ t ∈ targets, t.name ≠ "") ∧ (targets.map name).Nodup ∧ ∀ t ∈ targets, t.entryModule ≠ "" := by
  induction targets using List.reverseRecOn with
  | nil => simp [faultless_nil]
  | append_singleton earlier t ih =>
    have distinct : ((earlier ++ [t]).map name).Nodup ↔ t.name ∉ earlier.map name ∧ (earlier.map name).Nodup := by
      rw [List.map_append, List.map_singleton, ← List.concat_eq_append, List.nodup_concat]
    rw [faultless_concat, ih, not_hasFault_iff, distinct, List.forall_mem_append, List.forall_mem_append,
      List.forall_mem_singleton, List.forall_mem_singleton]
    tauto

/-- Targets are checked one after the other, each with the names of all before it taken. -/
theorem validateFrom_append (taken : List String) (earlier later : List Target) :
    validateFrom taken (earlier ++ later) =
      (validateFrom taken earlier >>= fun _ => validateFrom ((earlier.map name).reverse ++ taken) later) := by
  induction earlier generalizing taken with
  | nil => rfl
  | cons t rest ih =>
    rw [List.cons_append, validateFrom, validateFrom, ih]
    split
    · rfl
    split
    · rfl
    split
    · rfl
    · simp

theorem validate_append (earlier later : List Target) :
    validate (earlier ++ later) = (validate earlier >>= fun _ => validateFrom (earlier.map name).reverse later) := by
  rw [validate, validateFrom_append, List.append_nil, validate]

theorem validateFrom_of_firstFault (h : FirstFault earlier t fault) :
    validateFrom (earlier.map name).reverse (t :: later) = .error fault := by
  obtain ⟨nameless | repeated | missing, first⟩ := h
  · rw [validateFrom, if_pos nameless]
  · have named : t.name ≠ "" := fun nameless => Nat.not_lt.mpr (first _ (.emptyName nameless)) Nat.one_pos
    rw [validateFrom, if_neg named, if_pos (List.mem_reverse.mpr repeated)]
  · have named : t.name ≠ "" := fun nameless => Nat.not_lt.mpr (first _ (.emptyName nameless)) Nat.two_pos
    have fresh : t.name ∉ (earlier.map name).reverse := fun repeated =>
      Nat.not_lt.mpr (first _ (.duplicateName (List.mem_reverse.mp repeated))) Nat.one_lt_two
    rw [validateFrom, if_neg named, if_neg fresh, if_pos missing]

theorem validateFrom_of_not_hasFault (h : ∀ fault, ¬ HasFault earlier t fault) :
    validateFrom (earlier.map name).reverse [t] = .ok () := by
  obtain ⟨named, fresh, given⟩ := not_hasFault_iff.mp h
  rw [validateFrom, if_neg named, if_neg (List.mem_reverse.not.mpr fresh), if_neg given]
  rfl

theorem validate_of_faultless (h : Faultless targets) : validate targets = .ok () := by
  induction targets using List.reverseRecOn with
  | nil => rfl
  | append_singleton earlier t ih =>
    obtain ⟨others, last⟩ := faultless_concat.mp h
    rw [validate_append, ih others]
    exact validateFrom_of_not_hasFault last

theorem validate_of_firstFault (before : Faultless earlier) (h : FirstFault earlier t fault) :
    validate (earlier ++ t :: later) = .error fault := by
  rw [validate_append, validate_of_faultless before]
  exact validateFrom_of_firstFault h

/-- Every list is without faults or has an earliest target that is at fault. -/
theorem faultless_or_exists_firstFault (targets : List Target) : Faultless targets ∨
    ∃ earlier t later fault, targets = earlier ++ t :: later ∧ Faultless earlier ∧ FirstFault earlier t fault := by
  induction targets using List.reverseRecOn with
  | nil => exact .inl faultless_nil
  | append_singleton init last ih =>
    obtain sound | ⟨earlier, t, later, fault, rfl, before, first⟩ := ih
    · obtain none | ⟨fault, first⟩ := exists_firstFault init last
      · exact .inl (faultless_concat.mpr ⟨sound, none⟩)
      · exact .inr ⟨init, last, [], fault, rfl, sound, first⟩
    · exact .inr ⟨earlier, t, later ++ [last], fault, by simp, before, first⟩

/-- The eighth character of a message, which tells the sort of its fault. -/
def Fault.eighth : Fault → Char
  | .emptyName => 'n'
  | .duplicateName _ => 't'
  | .noEntryModule _ => '\x27'

theorem Fault.eighth_message (fault : Fault) : fault.message.toList[7]? = some fault.eighth := by
  cases fault with
  | emptyName => decide +kernel
  | duplicateName name =>
    change ("Duplicate target name: " ++ name).toList[7]? = some 't'
    simp
  | noEntryModule name =>
    change ("Target '" ++ name ++ "' has no entry module").toList[7]? = some '\x27'
    simp

theorem Fault.message_injective : Function.Injective message := by
  intro a b same
  have sort : a.eighth = b.eighth := Option.some.inj (by rw [← eighth_message, same, eighth_message])
  cases a <;> cases b
  case emptyName.emptyName => rfl
  case duplicateName.duplicateName => exact congrArg _ ((String.append_right_inj _).mp same)
  case noEntryModule.noEntryModule =>
    exact congrArg _ ((String.append_right_inj _).mp ((String.append_left_inj _).mp same))
  all_goals simp [eighth] at sort

/-- A list passes exactly when all names are given, no two are equal, and all entry modules are given. What is told of
any other list is the first fault of the earliest target that has one, and different faults are told in different
words. -/
theorem validate_exact :
    (∀ targets, validate targets = .ok () ↔
      (∀ t ∈ targets, t.name ≠ "") ∧ (targets.map name).Nodup ∧ ∀ t ∈ targets, t.entryModule ≠ "") ∧
    (∀ targets fault, validate targets = .error fault ↔
      ∃ earlier t later, targets = earlier ++ t :: later ∧ Faultless earlier ∧ FirstFault earlier t fault) ∧
    Function.Injective Fault.message := by
  refine ⟨fun targets => ?_, fun targets fault => ⟨fun told => ?_, ?_⟩, Fault.message_injective⟩
  · rw [← faultless_iff]
    obtain sound | ⟨earlier, t, later, fault, rfl, before, first⟩ := faultless_or_exists_firstFault targets
    · exact iff_of_true (validate_of_faultless sound) sound
    · refine iff_of_false (fun passed => ?_) fun sound => sound earlier t later rfl fault first.has
      cases passed.symm.trans (validate_of_firstFault before first)
  · obtain sound | ⟨earlier, t, later, found, rfl, before, first⟩ := faultless_or_exists_firstFault targets
    · cases told.symm.trans (validate_of_faultless sound)
    · obtain rfl : found = fault := Except.error.inj ((validate_of_firstFault before first).symm.trans told)
      exact ⟨earlier, t, later, rfl, before, first⟩
  · rintro ⟨earlier, t, later, rfl, before, first⟩
    exact validate_of_firstFault before first

-- the second target repeats a name and has no entry module, and the third has no name
example :
    let client := Target.defaults[0]
    validate [client, { client with entryModule := "" }, { client with name := "" }] =
      .error (.duplicateName "client") := by
  decide

end BundleForge.Target
