import BundleForge.Proofs.Number.Range
import BundleForge.Report.Basic

/-!
The sizes that a metafile tells and what a report makes of them. Main statement: rendering a report
leaves the range of numbers only over a size that no double comes near, and never goes too deep; every
other misfit is one that the caller recovers from.
-/

namespace BundleForge

/-- Something that goes out of range only where something is huge, and never goes too deep. -/
def RangeOnly {α : Type} (huge : Prop) (x : Except Misfit α) : Prop :=
  ∀ misfit, x = .error misfit → misfit.sort ≠ .depth ∧ (misfit.sort = .range → huge)

namespace RangeOnly

variable {α β : Type} {huge : Prop} {x : Except Misfit α}

theorem ok (a : α) : RangeOnly huge (.ok a : Except Misfit α) := fun _ h => by cases h

theorem error {misfit : Misfit} (shallow : misfit.sort ≠ .depth) (near : misfit.sort ≠ .range) :
    RangeOnly huge (.error misfit : Except Misfit α) := by
  intro misfit' h
  cases h
  exact ⟨shallow, fun far => absurd far near⟩

theorem mono {huge' : Prop} (h : RangeOnly huge x) (weaker : huge → huge') : RangeOnly huge' x :=
  fun misfit hx => ⟨(h misfit hx).1, fun far => weaker ((h misfit hx).2 far)⟩

theorem bind {f : α → Except Misfit β} (first : RangeOnly huge x)
    (second : ∀ a, x = .ok a → RangeOnly huge (f a)) : RangeOnly huge (x >>= f) := by
  cases x with
  | error misfit =>
    intro misfit' h
    cases h
    exact first misfit rfl
  | ok a => exact second a rfl

theorem map (f : α → β) (h : RangeOnly huge x) : RangeOnly huge (x.map f) := by
  cases x with
  | error misfit =>
    intro misfit' h'
    cases h'
    exact h misfit rfl
  | ok a => exact .ok (f a)

theorem mapM {f : α → Except Misfit β} {items : List α} (h : ∀ a ∈ items, RangeOnly huge (f a)) :
    RangeOnly huge (items.mapM f) := by
  induction items with
  | nil => exact .ok []
  | cons item rest ih =>
    rw [List.mapM_cons]
    refine (h item (by simp)).bind fun b _ => ?_
    exact (ih fun a ha => h a (by simp [ha])).bind fun bs _ => .ok (b :: bs)

theorem foldlM {f : β → α → Except Misfit β} (h : ∀ b a, RangeOnly huge (f b a)) (b : β)
    (items : List α) : RangeOnly huge (items.foldlM f b) := by
  induction items generalizing b with
  | nil => exact .ok b
  | cons item rest ih =>
    rw [List.foldlM_cons]
    exact (h b item).bind fun b' _ => ih b'

end RangeOnly

namespace Json

variable {huge : Prop}

theorem rangeOnly_get (name : String) (j : Json) : RangeOnly huge (j.get name) := by
  cases j with
  | obj => exact .ok _
  | null | bool | int | real | str | halved | arr => exact .error (by simp [Misfit.sort]) (by simp [Misfit.sort])

theorem rangeOnly_getPresent (name : String) (j : Json) : RangeOnly huge (j.getPresent name) :=
  (rangeOnly_get name j).map _

theorem rangeOnly_entries (j : Json) : RangeOnly huge j.entries := by
  cases j with
  | obj => exact .ok _
  | null | bool | int | real | str | halved | arr => exact .error (by simp [Misfit.sort]) (by simp [Misfit.sort])

theorem rangeOnly_iterate (j : Json) : RangeOnly huge j.iterate := by
  cases j with
  | arr | obj | str | halved => exact .ok _
  | null | bool | int | real => exact .error (by simp [Misfit.sort]) (by simp [Misfit.sort])

/-- A size beyond all doubles: an infinity, or a whole number nearer to an infinity than to a double. -/
def isHuge (size : Json) : Prop :=
  (∃ negative, size = .real (.infinite negative)) ∨
    ∃ n, size.toInteger = .ok n ∧ Binary64.rangeEnd ≤ n.natAbs

/-- Only an infinity is too large for a whole number. -/
theorem rangeOnly_toInteger (j : Json) : RangeOnly (isHuge j) j.toInteger := by
  cases j with
  | bool | int => exact .ok _
  | real x =>
    cases x with
    | finite => exact .ok _
    | infinite negative =>
      exact fun misfit h => by cases h; exact ⟨by simp [Misfit.sort], fun _ => .inl ⟨negative, rfl⟩⟩
    | nan => exact .error (by simp [Misfit.sort]) (by simp [Misfit.sort])
  | str s =>
    unfold toInteger
    dsimp only
    split
    · exact .ok _
    · exact .error (by simp [Misfit.sort]) (by simp [Misfit.sort])
  | null | halved | arr | obj => exact .error (by simp [Misfit.sort]) (by simp [Misfit.sort])

end Json

namespace Report

/-- The members of an object that is itself a member. -/
def branches (name : String) : Json → List (String × Json)
  | .obj members =>
    match members.lookup name with
    | some (.obj inner) => inner
    | _ => []
  | _ => []

/-- The size that stands in a member of a value; none stands for zero. -/
def sizeIn (name : String) : Json → Json
  | .obj members => (members.lookup name).getD (.int 0)
  | _ => .int 0

/-- The sizes of an output and of the inputs it was made from. -/
def sizesOfOutput (output : Json) : List Json :=
  sizeIn "bytes" output :: (branches "inputs" output).map fun input => sizeIn "bytesInOutput" input.2

/-- The sizes that a metafile tells. -/
def sizesOf (metafile : Json) : List Json :=
  (branches "outputs" metafile).flatMap fun output => sizesOfOutput output.2

theorem sizeIn_of_get {name : String} {j : Json} {value : Option Json} (h : j.get name = .ok value) :
    sizeIn name j = value.getD (.int 0) := by
  cases j with
  | obj members =>
    cases h
    rfl
  | null | bool | int | real | str | halved | arr => cases h

theorem branches_of_getPresent {name : String} {j value : Json} {inner : List (String × Json)}
    (h : j.getPresent name = .ok (some value)) (he : value.entries = .ok inner) :
    branches name j = inner := by
  cases value with
  | obj members =>
    cases he
    cases j with
    | obj outer =>
      simp only [Json.getPresent, Json.get, Except.map, Except.ok.injEq] at h
      obtain ⟨found, hl, hp⟩ := Option.bind_eq_some_iff.mp h
      have same : found = .obj inner := by
        unfold Json.present? at hp
        split at hp <;> cases hp
        rfl
      simp [branches, hl, same]
    | null | bool | int | real | str | halved | arr => cases h
  | null | bool | int | real | str | halved | arr => cases he

/-- Who imports whom is told without any number. -/
theorem rangeOnly_importersOf {huge : Prop} (metafile : Json) : RangeOnly huge (importersOf metafile) := by
  unfold importersOf
  refine (Json.rangeOnly_getPresent "inputs" metafile).bind fun inputs _ => ?_
  cases inputs with
  | none => exact .ok []
  | some inputs =>
    refine (Json.rangeOnly_entries inputs).bind fun modules _ => ?_
    refine RangeOnly.foldlM (fun importers module_ => ?_) [] modules
    unfold creditModule
    refine (Json.rangeOnly_getPresent "imports" module_.2).bind fun imports _ => ?_
    cases imports with
    | none => exact .ok importers
    | some imports =>
      refine (Json.rangeOnly_iterate imports).bind fun imports _ => ?_
      refine RangeOnly.foldlM (fun importers entry => ?_) importers imports
      unfold creditEntry
      refine (Json.rangeOnly_getPresent "path" entry).bind fun path _ => ?_
      split
      · exact .ok _
      · exact .error (by simp [Misfit.sort]) (by simp [Misfit.sort])
      · exact .error (by simp [Misfit.sort]) (by simp [Misfit.sort])
      · exact .ok _

/-- A quotient is too large only where its numerator is huge against its denominator. -/
theorem rangeOnly_quotient {num den : Int} :
    RangeOnly (den.natAbs * Binary64.rangeEnd ≤ num.natAbs) (quotient num den) := by
  intro misfit h
  unfold quotient at h
  by_cases fits : num.natAbs < den.natAbs * Binary64.rangeEnd
  · obtain ⟨m, e, hn⟩ := Binary64.nearest_finite ((num < 0) != (den < 0)) fits
    simp [hn] at h
  · split at h
    · cases h
      exact ⟨by simp [Misfit.sort], fun _ => Nat.le_of_not_lt fits⟩
    · cases h

theorem rangeEnd_le_of_mul {n size : Nat} (pos : n ≠ 0) (h : n * Binary64.rangeEnd ≤ size) :
    Binary64.rangeEnd ≤ size :=
  Nat.le_trans (Nat.le_mul_of_pos_left _ (Nat.pos_of_ne_zero pos)) h

theorem rangeOnly_inUnits (size : Int) {unitSize : Nat} (pos : unitSize ≠ 0) (unit : String) :
    RangeOnly (Binary64.rangeEnd ≤ size.natAbs) (inUnits size unitSize unit) :=
  (rangeOnly_quotient.map _).mono (rangeEnd_le_of_mul (by simpa using pos))

theorem rangeOnly_formatSize (size : Int) :
    RangeOnly (Binary64.rangeEnd ≤ size.natAbs) (formatSize size) := by
  unfold formatSize
  split
  · split
    · exact .ok _
    · exact .error (by simp [Misfit.sort]) (by simp [Misfit.sort])
  · split
    · exact rangeOnly_inUnits size (by decide) "kb"
    · exact rangeOnly_inUnits size (by decide) "mb"

theorem rangeOnly_share (size total : Int) :
    RangeOnly (Binary64.rangeEnd ≤ size.natAbs) (share size total) := by
  unfold share
  split
  · exact .ok _
  · rename_i something
    exact (rangeOnly_quotient.map _).mono (rangeEnd_le_of_mul (Int.natAbs_ne_zero.mpr something))

/-- A weighed entry weighs as much as its size tells. -/
theorem toInteger_of_weigh {member : String} {entry : String × Json} {weighed : Int × String × Json}
    (h : weigh member entry = .ok weighed) :
    (sizeIn member entry.2).toInteger = .ok weighed.1 ∧ weighed.2 = entry := by
  unfold weigh at h
  cases hg : entry.2.get member with
  | error misfit =>
    rw [hg] at h
    cases h
  | ok value =>
    rw [hg] at h
    rw [sizeIn_of_get hg]
    cases hi : (value.getD (.int 0)).toInteger with
    | error misfit =>
      simp only [bind, Except.bind, hi] at h
      cases h
    | ok bytes =>
      simp only [bind, Except.bind, hi, pure, Except.pure, Except.ok.injEq] at h
      subst h
      exact ⟨rfl, rfl⟩

theorem rangeOnly_weigh (member : String) (entry : String × Json) :
    RangeOnly (Json.isHuge (sizeIn member entry.2)) (weigh member entry) := by
  unfold weigh
  refine (Json.rangeOnly_get member entry.2).bind fun value hv => ?_
  rw [sizeIn_of_get hv]
  exact (Json.rangeOnly_toInteger _).bind fun _ _ => .ok _

theorem exists_of_mapM {α β : Type} {f : α → Except Misfit β} {items : List α} {results : List β}
    (h : items.mapM f = .ok results) {b : β} (hb : b ∈ results) : ∃ a ∈ items, f a = .ok b := by
  induction items generalizing results with
  | nil =>
    cases h
    cases hb
  | cons item rest ih =>
    rw [List.mapM_cons] at h
    cases first : f item with
    | error misfit =>
      rw [first] at h
      cases h
    | ok b' =>
      rw [first] at h
      cases others : rest.mapM f with
      | error misfit =>
        simp only [bind, Except.bind, others] at h
        cases h
      | ok bs =>
        simp only [bind, Except.bind, others, pure, Except.pure, Except.ok.injEq] at h
        subst h
        rcases List.mem_cons.mp hb with rfl | hb
        · exact ⟨item, by simp, first⟩
        · obtain ⟨a, ha, hf⟩ := ih others hb
          exact ⟨a, by simp [ha], hf⟩

/-- Sorted entries are the entries, each with its weight. -/
theorem mem_of_sortedBy {member : String} {entries : List (String × Json)}
    {sorted : List (Int × String × Json)} (h : sortedBy member entries = .ok sorted)
    {weighed : Int × String × Json} (hw : weighed ∈ sorted) :
    weighed.2 ∈ entries ∧ (sizeIn member weighed.2.2).toInteger = .ok weighed.1 := by
  unfold sortedBy at h
  cases all : entries.mapM (weigh member) with
  | error misfit =>
    rw [all] at h
    cases h
  | ok found =>
    rw [all] at h
    cases h
    obtain ⟨entry, he, hf⟩ := exists_of_mapM all (List.mem_mergeSort.mp hw)
    obtain ⟨weight, rfl⟩ := toInteger_of_weigh hf
    exact ⟨he, weight⟩

theorem rangeOnly_sortedBy (member : String) (entries : List (String × Json)) :
    RangeOnly (∃ entry ∈ entries, Json.isHuge (sizeIn member entry.2)) (sortedBy member entries) :=
  (RangeOnly.mapM fun entry he => (rangeOnly_weigh member entry).mono fun huge => ⟨entry, he, huge⟩).map _

/-- The rows of inputs leave the range only over the size of an input. -/
theorem rangeOnly_inputRows (importers : Importers) (total : Int) (inputs : List (Int × String × Json)) :
    RangeOnly (∃ input ∈ inputs, Binary64.rangeEnd ≤ input.1.natAbs)
      (inputRows importers total inputs) := by
  induction inputs with
  | nil => exact .ok []
  | cons input rest ih =>
    obtain ⟨size, path, value⟩ := input
    have here {α : Type} {x : Except Misfit α} (h : RangeOnly (Binary64.rangeEnd ≤ size.natAbs) x) :
        RangeOnly (∃ input ∈ (size, path, value) :: rest, Binary64.rangeEnd ≤ input.1.natAbs) x :=
      h.mono fun huge => ⟨_, List.mem_cons_self .., huge⟩
    unfold inputRows
    refine (here (rangeOnly_share size total)).bind fun part _ => ?_
    refine (here (rangeOnly_formatSize size)).bind fun sizeText _ => ?_
    refine (ih.mono ?_).bind fun others _ => .ok _
    rintro ⟨input, hi, huge⟩
    exact ⟨input, List.mem_cons_of_mem _ hi, huge⟩

/-- What an output is made of is sorted and set out, out of range only over a size of that output. -/
theorem rangeOnly_contributions (importers : Importers) (total : Int) (first : Row) (output : Json)
    (inputs : List (String × Json)) (listed : ∀ input ∈ inputs, input ∈ branches "inputs" output) :
    RangeOnly (∃ size ∈ sizesOfOutput output, Json.isHuge size) (do
      let inputs ← sortedBy "bytesInOutput" inputs
      let rows ← inputRows importers total inputs
      return first :: rows) := by
  have among : ∀ input ∈ inputs, sizeIn "bytesInOutput" input.2 ∈ sizesOfOutput output :=
    fun input hm => List.mem_cons_of_mem _ (List.mem_map.mpr ⟨input, listed input hm, rfl⟩)
  refine ((rangeOnly_sortedBy "bytesInOutput" inputs).mono ?_).bind fun sorted hs => ?_
  · rintro ⟨input, hm, huge⟩
    exact ⟨_, among input hm, huge⟩
  refine ((rangeOnly_inputRows importers total sorted).mono ?_).bind fun rows _ => .ok _
  rintro ⟨input, hi, huge⟩
  obtain ⟨hm, weight⟩ := mem_of_sortedBy hs hi
  exact ⟨_, among _ hm, .inr ⟨input.1, weight, huge⟩⟩

/-- The rows of an output leave the range only over a size of that output. -/
theorem rangeOnly_outputRows (importers : Importers) {output : Int × String × Json}
    (weight : (sizeIn "bytes" output.2.2).toInteger = .ok output.1) :
    RangeOnly (∃ size ∈ sizesOfOutput output.2.2, Json.isHuge size) (outputRows importers output) := by
  obtain ⟨total, path, value⟩ := output
  unfold outputRows
  refine ((rangeOnly_formatSize total).mono ?_).bind fun sizeText _ => ?_
  · exact fun huge => ⟨_, List.mem_cons_self .., .inr ⟨total, weight, huge⟩⟩
  refine (Json.rangeOnly_getPresent "inputs" value).bind fun inputs hp => ?_
  cases inputs with
  | none => exact rangeOnly_contributions importers total _ value [] (by simp)
  | some inputs =>
    refine (Json.rangeOnly_entries inputs).bind fun entries he => ?_
    refine rangeOnly_contributions importers total _ value entries ?_
    rw [branches_of_getPresent hp he]
    exact fun _ => id

/-- Outputs are sorted and set out, out of range only over a size of the metafile. -/
theorem rangeOnly_outputs (importers : Importers) (metafile : Json) (outputs : List (String × Json))
    (listed : ∀ output ∈ outputs, output ∈ branches "outputs" metafile) :
    RangeOnly (∃ size ∈ sizesOf metafile, Json.isHuge size) (do
      let outputs ← sortedBy "bytes" outputs
      let blocks ← outputs.mapM (outputRows importers)
      return blocks.flatten) := by
  have among : ∀ output ∈ outputs, ∀ size ∈ sizesOfOutput output.2, size ∈ sizesOf metafile :=
    fun output hm size hs => List.mem_flatMap.mpr ⟨output, listed output hm, hs⟩
  refine ((rangeOnly_sortedBy "bytes" outputs).mono ?_).bind fun sorted hs => ?_
  · rintro ⟨output, hm, huge⟩
    exact ⟨_, among output hm _ (List.mem_cons_self ..), huge⟩
  refine (RangeOnly.mapM fun output ho => ?_).bind fun blocks _ => .ok _
  obtain ⟨hm, weight⟩ := mem_of_sortedBy hs ho
  refine (rangeOnly_outputRows importers weight).mono ?_
  rintro ⟨size, hsize, huge⟩
  exact ⟨size, among _ hm size hsize, huge⟩

theorem rangeOnly_rowsOf (verbose : Bool) (metafile : Json) :
    RangeOnly (∃ size ∈ sizesOf metafile, Json.isHuge size) (rowsOf verbose metafile) := by
  unfold rowsOf
  refine (Json.rangeOnly_getPresent "outputs" metafile).bind fun outputs hp => ?_
  cases outputs with
  | none =>
    have rest (importers : Importers) := rangeOnly_outputs importers metafile [] (by simp)
    cases verbose with
    | false => exact rest []
    | true => exact (rangeOnly_importersOf metafile).bind fun importers _ => rest importers
  | some outputs =>
    have rest (importers : Importers) := (Json.rangeOnly_entries outputs).bind fun entries he =>
      rangeOnly_outputs importers metafile entries (by
        rw [branches_of_getPresent hp he]
        exact fun _ => id)
    cases verbose with
    | false => exact rest []
    | true => exact (rangeOnly_importersOf metafile).bind fun importers _ => rest importers

/-- A report leaves the range of numbers only over a huge size, and never goes too deep. -/
theorem rangeOnly_render (verbose : Bool) (metafile : Json) :
    RangeOnly (∃ size ∈ sizesOf metafile, Json.isHuge size) (render verbose metafile) :=
  (rangeOnly_rowsOf verbose metafile).map _

end Report
end BundleForge
