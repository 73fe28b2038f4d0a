import BundleForge.Proofs.Except
import BundleForge.Proofs.Matching
import BundleForge.Proofs.Report.Columns
import Mathlib.Data.List.Perm.Basic

/-!
The order of a report. Main statement: a report shows every output of a metafile once, with every input once, by
decreasing bytes and then by path, in lines of one length, whatever order the metafile names them in.
-/

namespace BundleForge.Report

/-- An output of a bundle with the bytes that each input puts into it. -/
structure Output where
  path : String
  bytes : Nat
  inputs : List (String × Nat)

/-- A value is an object, and a member of it tells a number of bytes; none tells zero. -/
def TellsBytes (member : String) (value : Json) (bytes : Nat) : Prop :=
  ∃ found, value.get member = .ok found ∧ found.getD (.int 0) = .int bytes

/-- The members of an object that is a member itself; there are none where it is missing or empty. -/
def membersIn (name : String) (value : Json) : Except Misfit (List (String × Json)) := do
  match ← value.getPresent name with
  | some inner => inner.entries
  | none => pure []

/-- An entry of the outputs tells of an output. -/
structure TellsOutput (entry : String × Json) (output : Output) : Prop where
  path : entry.1 = output.path
  bytes : TellsBytes "bytes" entry.2 output.bytes
  inputs : ∃ entries, membersIn "inputs" entry.2 = .ok entries ∧
    List.Forall₂ (fun entry input => entry.1 = input.1 ∧ TellsBytes "bytesInOutput" entry.2 input.2)
      entries output.inputs

/-- A metafile tells of outputs, in their order. -/
def Tells (metafile : Json) (outputs : List Output) : Prop :=
  ∃ entries, membersIn "outputs" metafile = .ok entries ∧ List.Forall₂ TellsOutput entries outputs

/-- An output that a report keeps in its columns: its path does not look like the row of an input, and no share is
of four digits. An input stands in it once. -/
structure Output.IsRegular (o : Output) : Prop where
  label : o.path.toList.head? ≠ some ' '
  total : o.bytes < 2 ^ 53
  parts : ∀ input ∈ o.inputs, 10 * input.2 ≤ 99 * o.bytes
  names : (o.inputs.map Prod.fst).Nodup

/-- The same output, its inputs in some order. -/
def Output.Same (o o' : Output) : Prop := o.path = o'.path ∧ o.bytes = o'.bytes ∧ o.inputs.Perm o'.inputs

/-- The same outputs in some order, each with the same inputs in some order. -/
def Reordered (a b : List Output) : Prop := ∃ c, a.Perm c ∧ List.Forall₂ Output.Same c b

/-- Heavier, or as heavy with the smaller name. -/
def Before (a b : String × Nat) : Prop := b.2 < a.2 ∨ a.2 = b.2 ∧ a.1 < b.1

/-- Outputs in the order of a report, each with its inputs in that order. -/
structure Ranked (page : List Output) : Prop where
  outputs : page.Pairwise fun a b => Before (a.path, a.bytes) (b.path, b.bytes)
  inputs : ∀ o ∈ page, o.inputs.Pairwise Before

/-- The row of an input. -/
structure IsInputRow (glyph : String) (total : Nat) (input : String × Nat) (r : Row) : Prop where
  label : r.label = " " ++ glyph ++ " " ++ input.1
  size : formatSize input.2 = .ok r.size
  share : share input.2 total = .ok r.share
  chain : r.chain = []

/-- Rows of inputs in their order, the last of which closes the branch. -/
inductive Branch (total : Nat) : List (String × Nat) → List Row → Prop
  | none : Branch total [] []
  | last {input : String × Nat} {r : Row} (row : IsInputRow "└" total input r) : Branch total [input] [r]
  | more {input next : String × Nat} {rest : List (String × Nat)} {r : Row} {rows : List Row}
      (row : IsInputRow "├" total input r) (others : Branch total (next :: rest) rows) :
      Branch total (input :: next :: rest) (r :: rows)

/-- The row of an output and the rows of its inputs. -/
inductive Block (o : Output) : List Row → Prop
  | rows {size : String} {rows : List Row} (written : formatSize o.bytes = .ok size)
      (branch : Branch o.bytes o.inputs rows) : Block o (⟨o.path, size, "100.0%", []⟩ :: rows)

/-- A text is the report of outputs: an empty line, the blocks of all of them, ranked, with an empty line between
each two, and an empty line. All lines of rows are of one length, and the sizes end in one column. -/
structure IsReport (outputs page : List Output) (blocks : List (List Row)) (text : String) : Prop where
  complete : Reordered outputs page
  ranked : Ranked page
  shown : List.Forall₂ Block page blocks
  lines : text = "\n".intercalate
    ([""] ++ [""].intercalate (blocks.map fun rows => rows.map (rowLine (widthsOf blocks.flatten))) ++ [""])
  aligned : ∀ rows ∈ blocks, ∀ r ∈ rows,
    (rowLine (widthsOf blocks.flatten) r).length =
      (widthsOf blocks.flatten).label + (widthsOf blocks.flatten).size + 12 ∧
    r.size.toList <:+ (rowLine (widthsOf blocks.flatten) r).toList.take
      ((widthsOf blocks.flatten).label + (widthsOf blocks.flatten).size + 4)

theorem heavier_iff {a b : Int × String × Json} : heavier a b = true ↔ b.1 < a.1 ∨ a.1 = b.1 ∧ a.2.1 ≤ b.2.1 := by
  simp [heavier]

theorem heavier_trans (a b c : Int × String × Json) (h : heavier a b = true) (h' : heavier b c = true) :
    heavier a c = true := by
  rw [heavier_iff] at h h' ⊢
  obtain above | ⟨same, first⟩ := h <;> obtain above' | ⟨same', first'⟩ := h'
  · exact .inl (by omega)
  · exact .inl (by omega)
  · exact .inl (by omega)
  · exact .inr ⟨by omega, String.le_trans first first'⟩

theorem heavier_total (a b : Int × String × Json) : (heavier a b || heavier b a) = true := by
  rw [Bool.or_eq_true, heavier_iff, heavier_iff]
  obtain below | same | above := Int.lt_trichotomy a.1 b.1
  · exact .inr (.inl below)
  · exact (String.le_total a.2.1 b.2.1).imp (fun first => .inr ⟨same, first⟩) fun first => .inr ⟨same.symm, first⟩
  · exact .inl (.inl above)

theorem weigh_of_tellsBytes {member : String} {entry : String × Json} {bytes : Nat}
    (h : TellsBytes member entry.2 bytes) : weigh member entry = .ok (bytes, entry) := by
  obtain ⟨found, member, told⟩ := h
  simp only [weigh, member, bind, Except.bind, told, Json.toInteger_int]
  rfl

section Sorting

variable {α : Type} {member : String} {weight : α → Nat} {R : String × Json → α → Prop}
  {entries : List (String × Json)} {items : List α}

theorem exists_weighed (weighs : ∀ entry a, R entry a → TellsBytes member entry.2 (weight a))
    (told : List.Forall₂ R entries items) :
    ∃ weighed, entries.mapM (weigh member) = .ok weighed ∧
      List.Forall₂ (fun w a => w.1 = (weight a : Int) ∧ R w.2 a) weighed items := by
  induction told with
  | nil => exact ⟨[], rfl, .nil⟩
  | @cons entry a rest others first _ ih =>
    obtain ⟨weighed, made, matched⟩ := ih
    refine ⟨(weight a, entry) :: weighed, ?_, .cons ⟨rfl, first⟩ matched⟩
    rw [List.mapM_cons, weigh_of_tellsBytes (weighs entry a first), made]
    rfl

/-- What is told in some order is sorted in another. -/
theorem exists_sortedBy (weight : α → Nat) (weighs : ∀ entry a, R entry a → TellsBytes member entry.2 (weight a))
    (told : List.Forall₂ R entries items) :
    ∃ sorted items', sortedBy member entries = .ok sorted ∧ items.Perm items' ∧
      List.Forall₂ (fun w a => w.1 = (weight a : Int) ∧ R w.2 a) sorted items' ∧
      sorted.Pairwise fun a b => heavier a b = true := by
  obtain ⟨weighed, made, matched⟩ := exists_weighed weighs told
  obtain ⟨items', matched', moved⟩ := List.perm_comp_forall₂ (List.mergeSort_perm weighed heavier) matched
  refine ⟨weighed.mergeSort heavier, items', ?_, moved.symm, matched',
    List.pairwise_mergeSort heavier_trans heavier_total weighed⟩
  rw [sortedBy, made]
  rfl

/-- Where no name stands twice, the order is strict. -/
theorem pairwise_before {name : α → String} {sorted : List (Int × String × Json)}
    (matched : List.Forall₂ (fun w a => w.1 = (weight a : Int) ∧ w.2.1 = name a) sorted items)
    (ordered : sorted.Pairwise fun a b => heavier a b = true) (distinct : (items.map name).Nodup) :
    items.Pairwise fun a b => Before (name a, weight a) (name b, weight b) := by
  have same : sorted.map (fun w => (w.1, w.2.1)) = items.map fun a => ((weight a : Int), name a) :=
    map_eq_of_matched matched fun w a ⟨weighs, named⟩ => Prod.ext weighs named
  have keys : (sorted.map fun w => (w.1, w.2.1)).Pairwise
      fun a b => b.1 < a.1 ∨ a.1 = b.1 ∧ a.2 ≤ b.2 :=
    List.pairwise_map.mpr (ordered.imp heavier_iff.mp)
  rw [same, List.pairwise_map] at keys
  refine (keys.and (List.pairwise_map.mp distinct)).imp ?_
  rintro a b ⟨above | ⟨level, first⟩, other⟩
  · exact .inl (by simpa using above)
  · refine .inr ⟨by simpa using level, Decidable.byContradiction fun later => ?_⟩
    exact other (String.le_antisymm first (String.not_lt.mp later))

end Sorting

theorem outputRows_of_membersIn {importers : Importers} {total : Int} {path : String} {value : Json}
    {entries : List (String × Json)} {sorted : List (Int × String × Json)} {size : String} {rows : List Row}
    (inputs : membersIn "inputs" value = .ok entries) (order : sortedBy "bytesInOutput" entries = .ok sorted)
    (written : formatSize total = .ok size) (branch : inputRows importers total sorted = .ok rows) :
    outputRows importers (total, path, value) = .ok (⟨path, size, "100.0%", []⟩ :: rows) := by
  obtain ⟨found, present, opened⟩ := bind_eq_ok.mp inputs
  simp only [outputRows, written, present, bind, Except.bind]
  cases found with
  | none =>
    cases opened
    simp only [pure, Except.pure, order, branch]
  | some inner => simp only [show inner.entries = .ok entries from opened, order, branch, pure, Except.pure]

theorem rowsOf_of_membersIn {metafile : Json} {entries : List (String × Json)}
    {sorted : List (Int × String × Json)} {blocks : List (List Row)}
    (outputs : membersIn "outputs" metafile = .ok entries) (order : sortedBy "bytes" entries = .ok sorted)
    (made : sorted.mapM (outputRows []) = .ok blocks) : rowsOf false metafile = .ok blocks.flatten := by
  obtain ⟨found, present, opened⟩ := bind_eq_ok.mp outputs
  simp only [rowsOf, present, bind, Except.bind, pure, Except.pure, Bool.false_eq_true, if_false]
  cases found with
  | none =>
    cases opened
    simp only [order, made]
  | some inner => simp only [show inner.entries = .ok entries from opened, order, made]

theorem exists_isInputRow {size total : Nat} (small : total < 2 ^ 53) (part : 10 * size ≤ 99 * total)
    (glyph path : String) : ∃ r, IsInputRow glyph total (path, size) r := by
  obtain ⟨text, written⟩ := exists_formatSize (show size < 2 ^ 64 by omega)
  obtain ⟨percent, made, -⟩ := exists_share part
  exact ⟨⟨" " ++ glyph ++ " " ++ path, text, percent, []⟩, rfl, written, made, rfl⟩

theorem inputRows_cons {total : Nat} {input : String × Nat} {w : Int × String × Json} {r : Row} {rows : List Row}
    {rest : List (Int × String × Json)} (told : w.1 = input.2 ∧ w.2.1 = input.1)
    (row : IsInputRow (if rest.isEmpty then "└" else "├") total input r) (others : inputRows [] total rest = .ok rows) :
    inputRows [] total (w :: rest) = .ok (r :: rows) := by
  obtain ⟨_, _, _⟩ := w
  obtain ⟨rfl, rfl⟩ := told
  obtain ⟨_, _, _, _⟩ := r
  obtain ⟨rfl, size, share, rfl⟩ := row
  simp only at size share
  simp only [inputRows, share, size, others, bind, Except.bind]
  rfl

/-- The rows of inputs in their order come out, each with its own glyph. -/
theorem exists_branch {total : Nat} {sorted : List (Int × String × Json)} {inputs : List (String × Nat)}
    (small : total < 2 ^ 53) (parts : ∀ input ∈ inputs, 10 * input.2 ≤ 99 * total)
    (matched : List.Forall₂ (fun w input => w.1 = (input.2 : Int) ∧ w.2.1 = input.1) sorted inputs) :
    ∃ rows, inputRows [] total sorted = .ok rows ∧ Branch total inputs rows := by
  induction matched with
  | nil => exact ⟨[], rfl, .none⟩
  | @cons w input rest others told matched ih =>
    rw [List.forall_mem_cons] at parts
    obtain ⟨rows, made, branch⟩ := ih parts.2
    obtain ⟨r, row⟩ := exists_isInputRow small parts.1 (if rest.isEmpty then "└" else "├") input.1
    refine ⟨r :: rows, inputRows_cons told row made, ?_⟩
    cases matched with
    | nil =>
      cases branch
      exact .last row
    | cons => exact .more row branch

theorem Branch.rows_of_mem {total : Nat} {inputs : List (String × Nat)} {rows : List Row}
    (h : Branch total inputs rows) : ∀ r ∈ rows, ∃ glyph, ∃ input ∈ inputs, IsInputRow glyph total input r := by
  induction h with
  | none => nofun
  | last row => exact List.forall_mem_singleton.mpr ⟨_, _, List.mem_cons_self, row⟩
  | more row _ ih =>
    refine List.forall_mem_cons.mpr ⟨⟨_, _, List.mem_cons_self, row⟩, fun r among => ?_⟩
    obtain ⟨glyph, input, member, row⟩ := ih r among
    exact ⟨glyph, input, List.mem_cons_of_mem _ member, row⟩

theorem IsInputRow.startsBlock_eq {glyph : String} {total : Nat} {input : String × Nat} {r : Row}
    (h : IsInputRow glyph total input r) : startsBlock r = false := by
  rw [startsBlock, h.label]
  simp [String.toList_append]

theorem Block.isBlock {o : Output} {rows : List Row} (h : Block o rows) (label : o.path.toList.head? ≠ some ' ') :
    IsBlock rows := by
  obtain ⟨written, branch⟩ := h
  refine .rows (by simpa [startsBlock] using label) (fun r among => ?_)
    (List.forall_mem_cons.mpr ⟨rfl, fun r among => ?_⟩)
  · obtain ⟨_, _, _, row⟩ := branch.rows_of_mem r among
    exact row.startsBlock_eq
  · obtain ⟨_, _, _, row⟩ := branch.rows_of_mem r among
    exact row.chain

theorem Block.length_share {o : Output} {rows : List Row} (h : Block o rows)
    (parts : ∀ input ∈ o.inputs, 10 * input.2 ≤ 99 * o.bytes) : ∀ r ∈ rows, r.share.length ≤ 6 := by
  obtain ⟨written, branch⟩ := h
  refine List.forall_mem_cons.mpr ⟨(by decide : "100.0%".length ≤ 6), fun r among => ?_⟩
  obtain ⟨glyph, input, member, row⟩ := branch.rows_of_mem r among
  obtain ⟨percent, made, short⟩ := exists_share (parts input member)
  cases made.symm.trans row.share
  exact short

theorem exists_block {entry : String × Json} {o : Output} (told : TellsOutput entry o) (regular : o.IsRegular) :
    ∃ o' rows, outputRows [] (o.bytes, entry) = .ok rows ∧ o.Same o' ∧ o'.inputs.Pairwise Before ∧ Block o' rows := by
  obtain ⟨path, value⟩ := entry
  obtain ⟨rfl, bytes, entries, opened, inputs⟩ := told
  obtain ⟨sorted, inputs', order, moved, matched, ordered⟩ :=
    exists_sortedBy Prod.snd (fun _ _ told => told.2) inputs
  have matched : List.Forall₂ (fun w input => w.1 = (input.2 : Int) ∧ w.2.1 = input.1) sorted inputs' :=
    matched.imp fun _ _ ⟨weighs, named, _⟩ => ⟨weighs, named⟩
  have ranked := pairwise_before matched ordered ((moved.map Prod.fst).nodup regular.names)
  obtain ⟨rows, made, branch⟩ :=
    exists_branch regular.total (fun input among => regular.parts input (moved.mem_iff.mpr among)) matched
  obtain ⟨size, written⟩ := exists_formatSize (show o.bytes < 2 ^ 64 from Nat.lt_trans regular.total (by decide))
  exact ⟨{ o with inputs := inputs' }, _, outputRows_of_membersIn opened order written made,
    ⟨rfl, rfl, moved⟩, ranked, .rows written branch⟩

/-- The blocks of outputs in their order come out. -/
theorem exists_blocks {sorted : List (Int × String × Json)} {outputs : List Output}
    (matched : List.Forall₂ (fun w o => w.1 = (o.bytes : Int) ∧ TellsOutput w.2 o) sorted outputs)
    (regular : ∀ o ∈ outputs, o.IsRegular) :
    ∃ page blocks, sorted.mapM (outputRows []) = .ok blocks ∧ List.Forall₂ Output.Same outputs page ∧
      (∀ o ∈ page, o.inputs.Pairwise Before) ∧ List.Forall₂ Block page blocks := by
  induction matched with
  | nil => exact ⟨[], [], rfl, .nil, nofun, .nil⟩
  | @cons w o rest outputs told _ ih =>
    rw [List.forall_mem_cons] at regular
    obtain ⟨page, blocks, made, same, ranked, shown⟩ := ih regular.2
    obtain ⟨o', rows, made', same', ranked', shown'⟩ := exists_block told.2 regular.1
    refine ⟨o' :: page, rows :: blocks, ?_, .cons same' same, List.forall_mem_cons.mpr ⟨ranked', ranked⟩,
      .cons shown' shown⟩
    obtain ⟨_, _⟩ := w
    obtain rfl := told.1
    rw [List.mapM_cons, made', made]
    rfl

theorem IsInputRow.unique {glyph : String} {total : Nat} {input : String × Nat} {r r' : Row}
    (h : IsInputRow glyph total input r) (h' : IsInputRow glyph total input r') : r = r' := by
  obtain ⟨_, _, _, _⟩ := r
  obtain ⟨_, _, _, _⟩ := r'
  obtain ⟨rfl, size, share, rfl⟩ := h
  obtain ⟨rfl, size', share', rfl⟩ := h'
  cases size.symm.trans size'
  cases share.symm.trans share'
  rfl

theorem Branch.unique {total : Nat} {inputs : List (String × Nat)} {rows rows' : List Row}
    (h : Branch total inputs rows) (h' : Branch total inputs rows') : rows = rows' := by
  induction h generalizing rows' with
  | none =>
    cases h'
    rfl
  | last row =>
    cases h' with
    | last row' => rw [row.unique row']
  | more row _ ih =>
    cases h' with
    | more row' others => rw [row.unique row', ih others]

theorem Block.unique {o : Output} {rows rows' : List Row} (h : Block o rows) (h' : Block o rows') :
    rows = rows' := by
  obtain ⟨written, branch⟩ := h
  obtain ⟨written', branch'⟩ := h'
  cases written.symm.trans written'
  rw [branch.unique branch']

theorem Output.Same.symm {o o' : Output} (h : o.Same o') : o'.Same o := ⟨h.1.symm, h.2.1.symm, h.2.2.symm⟩

theorem Output.Same.trans {o o' o'' : Output} (h : o.Same o') (h' : o'.Same o'') : o.Same o'' :=
  ⟨h.1.trans h'.1, h.2.1.trans h'.2.1, h.2.2.trans h'.2.2⟩

theorem Output.Same.isRegular {o o' : Output} (h : o.Same o') (regular : o.IsRegular) : o'.IsRegular where
  label := h.1 ▸ regular.label
  total := h.2.1 ▸ regular.total
  parts input among := h.2.1 ▸ regular.parts input (h.2.2.mem_iff.mpr among)
  names := (h.2.2.map Prod.fst).nodup regular.names

theorem Before.asymm {x y : String × Nat} (h : Before x y) : ¬ Before y x := by
  rintro (above' | ⟨level', first'⟩) <;> obtain above | ⟨level, first⟩ := h
  · omega
  · omega
  · omega
  · exact String.lt_asymm first first'

/-- What is ranked is in the one order that there is. -/
theorem Output.Same.eq_of_ranked {o o' : Output} (h : o.Same o') (ranked : o.inputs.Pairwise Before)
    (ranked' : o'.inputs.Pairwise Before) : o = o' := by
  obtain ⟨path, bytes, moved⟩ := h
  have inputs := moved.eq_of_pairwise (fun _ _ _ _ first later => (first.asymm later).elim) ranked ranked'
  cases o
  cases o'
  rw [Output.mk.injEq]
  exact ⟨path, bytes, inputs⟩

variable {a b c : List Output}

theorem same_symm (h : List.Forall₂ Output.Same a b) : List.Forall₂ Output.Same b a :=
  h.flip.imp fun _ _ => Output.Same.symm

/-- The order of outputs does not depend on that of their inputs. -/
theorem pairwise_of_same (same : List.Forall₂ Output.Same a b)
    (ordered : a.Pairwise fun o o' => Before (o.path, o.bytes) (o'.path, o'.bytes)) :
    b.Pairwise fun o o' => Before (o.path, o.bytes) (o'.path, o'.bytes) := by
  have keys : a.map (fun o => (o.path, o.bytes)) = b.map fun o => (o.path, o.bytes) :=
    map_eq_of_matched same fun _ _ same => Prod.ext same.1 same.2.1
  have ordered : (a.map fun o => (o.path, o.bytes)).Pairwise Before := List.pairwise_map.mpr ordered
  rw [keys] at ordered
  exact List.pairwise_map.mp ordered

theorem Reordered.symm (h : Reordered a b) : Reordered b a := by
  obtain ⟨c, moved, same⟩ := h
  obtain ⟨d, same', moved'⟩ := List.perm_comp_forall₂ moved same
  exact ⟨d, moved'.symm, same_symm same'⟩

theorem Reordered.trans (h : Reordered a b) (h' : Reordered b c) : Reordered a c := by
  obtain ⟨d, moved, same⟩ := h
  obtain ⟨e, moved', same'⟩ := h'
  obtain ⟨f, same'', moved''⟩ := List.perm_comp_forall₂ moved'.symm (same_symm same)
  exact ⟨f, moved.trans moved''.symm, matched_trans (same_symm same'') same' fun _ _ _ => Output.Same.trans⟩

theorem Reordered.names (h : Reordered a b) : (a.map Output.path).Perm (b.map Output.path) := by
  obtain ⟨c, moved, same⟩ := h
  have named : c.map Output.path = b.map Output.path := map_eq_of_matched same fun _ _ same => same.1
  exact named ▸ moved.map Output.path

theorem Reordered.isRegular (h : Reordered a b) (regular : ∀ o ∈ a, o.IsRegular) : ∀ o ∈ b, o.IsRegular := by
  obtain ⟨c, moved, same⟩ := h
  exact forall_mem_of_matched same (fun _ _ => Output.Same.isRegular) fun o among =>
    regular o (moved.mem_iff.mpr among)

theorem Reordered.eq_of_ranked (h : Reordered a b) (ranked : Ranked a) (ranked' : Ranked b) : a = b := by
  obtain ⟨c, moved, same⟩ := h
  have ordered := pairwise_of_same (same_symm same) ranked'.outputs
  obtain rfl := moved.eq_of_pairwise (fun _ _ _ _ first later => (first.asymm later).elim) ranked.outputs ordered
  rw [← List.forall₂_eq_eq_eq]
  have inputs := ranked.inputs
  have inputs' := ranked'.inputs
  clear moved ordered ranked ranked'
  induction same with
  | nil => exact .nil
  | cons first _ ih =>
    rw [List.forall_mem_cons] at inputs inputs'
    exact .cons (first.eq_of_ranked inputs.1 inputs'.1) (ih inputs.2 inputs'.2)

variable {metafile : Json} {outputs : List Output}

/-- The outputs of a metafile are ranked, and their blocks come out in this order. -/
theorem exists_page (told : Tells metafile outputs) (distinct : (outputs.map Output.path).Nodup)
    (regular : ∀ o ∈ outputs, o.IsRegular) :
    ∃ page blocks, Reordered outputs page ∧ Ranked page ∧ List.Forall₂ Block page blocks ∧
      rowsOf false metafile = .ok blocks.flatten := by
  obtain ⟨entries, opened, told⟩ := told
  obtain ⟨sorted, moved, order, perm, matched, ordered⟩ :=
    exists_sortedBy Output.bytes (fun _ _ told => told.bytes) told
  obtain ⟨page, blocks, made, same, inputs, shown⟩ :=
    exists_blocks matched fun o among => regular o (perm.mem_iff.mpr among)
  have ranked := pairwise_before (matched.imp fun _ _ ⟨weighs, told⟩ => ⟨weighs, told.path⟩) ordered
    ((perm.map Output.path).nodup distinct)
  exact ⟨page, blocks, ⟨moved, perm, same⟩, ⟨pairwise_of_same same ranked, inputs⟩, shown,
    rowsOf_of_membersIn opened order made⟩

/-- A metafile that tells of outputs, each with its own path and at least one of them, has their report, and so has
every metafile that tells of them in some other order. -/
theorem render_ranked (told : Tells metafile outputs) (nonempty : outputs ≠ [])
    (distinct : (outputs.map Output.path).Nodup) (regular : ∀ o ∈ outputs, o.IsRegular) :
    ∃ page blocks text, render false metafile = .ok text ∧ IsReport outputs page blocks text ∧
      ∀ metafile' outputs', Tells metafile' outputs' → Reordered outputs outputs' →
        render false metafile' = .ok text := by
  obtain ⟨page, blocks, complete, ranked, shown, made⟩ := exists_page told distinct regular
  have regularPage := complete.isRegular regular
  have areBlocks : ∀ rows ∈ blocks, IsBlock rows :=
    forall_mem_of_matched shown (fun _ _ block regular => block.isBlock regular.label) regularPage
  have shares : ∀ rows ∈ blocks, ∀ r ∈ rows, r.share.length ≤ 6 :=
    forall_mem_of_matched shown (fun _ _ block regular => block.length_share regular.parts) regularPage
  have fits : ∀ rows ∈ blocks, ∀ r ∈ rows, r.Fits (widthsOf blocks.flatten) := fun rows block r row =>
    fits_widthsOf (List.mem_flatten.mpr ⟨rows, block, row⟩) (shares rows block r row)
  have filled : blocks ≠ [] := by
    rintro rfl
    cases shown
    exact nonempty (List.map_eq_nil_iff.mp complete.names.eq_nil)
  have rendered : render false metafile = .ok (layOut blocks.flatten) := by rw [render, made, Except.map]
  refine ⟨page, blocks, _, rendered, ⟨complete, ranked, shown,
    layOut_blocks areBlocks filled, fun rows block r row => ?_⟩, fun metafile' outputs' told' same => ?_⟩
  · exact ⟨length_rowLine (fits rows block r row), size_suffix_rowLine (fits rows block r row)⟩
  · obtain ⟨page', blocks', complete', ranked', shown', made'⟩ :=
      exists_page told' (same.names.nodup distinct) (same.isRegular regular)
    obtain rfl := ((complete.symm.trans same).trans complete').eq_of_ranked ranked ranked'
    have unique : Relator.RightUnique Block := fun _ _ _ => Block.unique
    rw [render, made', List.right_unique_forall₂' unique shown shown', Except.map]

/-- Two outputs, the second as heavy as the first and with two inputs of one size. -/
theorem render_ranked_level :
    let metafile : Json := .obj [("outputs", .obj [
      ("b.js", .obj [("inputs", .null), ("bytes", .int 2048)]),
      ("a.js", .obj [("bytes", .int 2048), ("inputs", .obj [
        ("y.ts", .obj [("bytesInOutput", .int 900)]), ("x.ts", .obj [("bytesInOutput", .int 900)])])])])]
    let outputs : List Output := [⟨"b.js", 2048, []⟩, ⟨"a.js", 2048, [("y.ts", 900), ("x.ts", 900)]⟩]
    Tells metafile outputs ∧ (∀ o ∈ outputs, o.IsRegular) ∧ ∃ page blocks text,
      render false metafile = .ok text ∧ IsReport outputs page blocks text := by
  intro metafile outputs
  have told : Tells metafile outputs := by
    refine ⟨_, rfl, .cons ⟨rfl, ⟨_, rfl, rfl⟩, _, rfl, .nil⟩ (.cons ⟨rfl, ⟨_, rfl, rfl⟩, _, rfl, ?_⟩ .nil)⟩
    exact .cons ⟨rfl, _, rfl, rfl⟩ (.cons ⟨rfl, _, rfl, rfl⟩ .nil)
  have regular : ∀ o ∈ outputs, o.IsRegular := by
    simp only [outputs, List.forall_mem_cons, List.not_mem_nil, false_implies, implies_true, and_true]
    exact ⟨⟨by decide, by decide, by decide, by decide⟩, ⟨by decide, by decide, by decide, by decide⟩⟩
  obtain ⟨page, blocks, text, rendered, report, -⟩ := render_ranked told (by decide) (by decide) regular
  exact ⟨told, regular, page, blocks, text, rendered, report⟩

end BundleForge.Report
