import BundleForge.Proofs.Hardening.Script
import BundleForge.Proofs.Tree.Links

/-!
The way of a pass through a tree without links. What stands below its directory is taken in the order of
the names that lead to it, compared name by name; the first obstacle ends the way. Main statement: a
walk settles exactly the scripts before the first obstacle, in that order, each of them once.
-/

namespace BundleForge

theorem lt_of_siblings {names q r : List String} {a b : String} (h : a < b) (hq : names ++ [a] <+: q)
    (hr : names ++ [b] <+: r) : q < r := by
  obtain ⟨q', rfl⟩ := hq
  obtain ⟨r', rfl⟩ := hr
  simp only [List.append_assoc, List.singleton_append]
  induction names with
  | nil => exact List.Lex.rel h
  | cons name rest ih => exact List.Lex.cons ih

theorem not_lt_of_isPrefix {p q : List String} (h : p <+: q) : ¬ q < p := by
  obtain ⟨rest, rfl⟩ := h
  induction p with
  | nil => simp
  | cons name p ih => simpa [List.cons_lt_cons_iff] using ih

theorem pairwise_lt_mergeSort {names : List String} (nodup : names.Nodup) :
    (names.mergeSort (· ≤ ·)).Pairwise (· < ·) := by
  have ordered := @List.pairwise_mergeSort _ (fun a b : String => decide (a ≤ b))
    (by intro a b c; simpa using String.le_trans) (by intro a b; simpa using String.le_total a b) names
  have distinct : (names.mergeSort (· ≤ ·)).Nodup := (List.mergeSort_perm names _).nodup_iff.mpr nodup
  refine (ordered.and distinct).imp ?_
  rintro a b ⟨hle, hne⟩
  have hle : a ≤ b := by simpa using hle
  by_contra hlt
  exact hne (String.le_antisymm hle (String.not_lt.mp hlt))

namespace Tree

/-- What stands below a directory, the bytes of a file left out. -/
def outlineBelow (t : Tree) (d : Path) (names : List String) : Option Outline :=
  match t.realPlace d with
  | .ok base => t.top.outlineAt (base ++ names)
  | .error _ => none

/-- The bytes of a file below a directory. -/
def contentBelow (t : Tree) (d : Path) (names : List String) : Option (List UInt8) :=
  match t.realPlace d with
  | .ok base => t.top.contentAt (base ++ names)
  | .error _ => none

end Tree

namespace Hardening

/-- The entries of a directory that could be listed: names below it, in their order, each once. -/
theorem Pass.entriesOf_eq_ok {t : Tree} (proper : t.top.Proper) {p : Path} {paths : List Path}
    (h : entriesOf t p = .ok paths) :
    ∃ entries : List String, entries.Pairwise (· < ·) ∧ (∀ entry ∈ entries, isName entry = true) ∧
      paths = entries.map fun entry => p.below [entry] := by
  unfold entriesOf at h
  cases hl : t.list p with
  | error fault => cases fault <;> simp [hl] at h
  | ok names =>
    obtain rfl : (names.mergeSort (· ≤ ·)).map (p / ·) = paths := by simpa [hl] using h
    obtain ⟨nodup, named⟩ := Tree.names_of_list proper hl
    have named' : ∀ entry ∈ names.mergeSort (· ≤ ·), isName entry = true := fun entry he =>
      named entry ((List.mergeSort_perm names _).mem_iff.mp he)
    exact ⟨_, pairwise_lt_mergeSort nodup, named',
      List.map_congr_left fun entry he => Tree.div_of_isName (named' entry he) p⟩

/-- A script of a tree, below a directory. -/
def Script.StandsIn (t : Tree) (d : Path) (x : Script) : Prop :=
  isScript (x.names.getLast?.getD "") = true ∧ t.contentBelow d x.names = some x.content

/-- What ends a pass: the directory itself cannot be listed, something below it has a path with too many
bytes, or a directory below it is locked. -/
inductive Obstacle (t : Tree) (d : Path) : List String → Refusal → Prop
  | start {cause : Refusal} (refused : t.list d = .error (.system (.refused cause (some d.text)))) :
      Obstacle t d [] cause
  | long {names : List String} {o : Outline} (there : t.outlineBelow d names = some o)
      (inside : names ≠ []) (long : Tree.pathLimit ≤ (d.below names).text.utf8ByteSize) :
      Obstacle t d names .nameTooLong
  | locked {names entries : List String} (there : t.outlineBelow d names = some (.dir entries))
      (inside : names ≠ []) (short : (d.below names).text.utf8ByteSize < Tree.pathLimit)
      (locked : t.locked (d.below names) = true) : Obstacle t d names .denied

def WalkFault.at (d : Path) (names : List String) (cause : Refusal) : WalkFault :=
  .refused (.refused cause (some (d.below names).text))

/-- What a part of a walk has done, the part that deals with the names of a region: it settled the
scripts of the region before its first obstacle, in order. -/
structure Swept (o : Obfuscator) (t : Tree) (d : Path) (base : List String) (region : List String → Prop)
    (s : Progress) (xs : List Script) (done : Done WalkFault Progress Unit) : Prop where
  state : done.state = xs.foldl (Progress.settle o d base) s
  ordered : (xs.map Script.names).Pairwise (· < ·)
  mem_iff : ∀ x, x ∈ xs ↔ region x.names ∧ x.StandsIn t d ∧
    ∀ p cause, region p → Obstacle t d p cause → x.names < p
  ends : (done.result = .ok () ∧ ∀ p cause, region p → ¬ Obstacle t d p cause) ∨
    ∃ p cause, region p ∧ Obstacle t d p cause ∧
      (∀ p' cause', region p' → Obstacle t d p' cause' → ¬ p' < p) ∧
      done.result = .error (.at d p cause)

namespace Swept

variable {o : Obfuscator} {t : Tree} {d : Path} {base : List String} {region later : List String → Prop}
  {s : Progress} {xs ys : List Script} {done : Done WalkFault Progress Unit} {events : List Event}

/-- Nothing to settle, and nothing in the way. -/
theorem idle (scripts : ∀ x : Script, region x.names → ¬ x.StandsIn t d)
    (free : ∀ p cause, region p → ¬ Obstacle t d p cause) :
    Swept o t d base region s [] ⟨.ok (), s, events⟩ := by
  refine ⟨rfl, by simp, ?_, .inl ⟨rfl, free⟩⟩
  intro x
  constructor
  · simp
  · rintro ⟨inside, stands, -⟩
    exact absurd stands (scripts x inside)

/-- An obstacle right at the start. -/
theorem blocked {p : List String} {cause : Refusal} (inside : region p) (obstacle : Obstacle t d p cause)
    (first : ∀ q, region q → ¬ q < p) :
    Swept o t d base region s [] ⟨.error (.at d p cause), s, events⟩ := by
  refine ⟨rfl, by simp, ?_, .inr ⟨p, cause, inside, obstacle, fun q _ hq _ => first q hq, rfl⟩⟩
  intro x
  constructor
  · simp
  · rintro ⟨hx, -, before⟩
    exact absurd (before p cause inside obstacle) (first _ hx)

/-- A single script. -/
theorem single {x : Script} (inside : region x.names) (stands : x.StandsIn t d)
    (only : ∀ y : Script, region y.names → y.StandsIn t d → y = x)
    (free : ∀ p cause, region p → ¬ Obstacle t d p cause) :
    Swept o t d base region s [x] ⟨.ok (), s.settle o d base x, events⟩ := by
  refine ⟨rfl, by simp, ?_, .inl ⟨rfl, free⟩⟩
  intro y
  rw [List.mem_singleton]
  constructor
  · rintro rfl
    exact ⟨inside, stands, fun p cause hp h => absurd h (free p cause hp)⟩
  · rintro ⟨hy, hs, -⟩
    exact only y hy hs

/-- Only names count at which there is a script or an obstacle. -/
theorem congr (h : Swept o t d base region s xs done)
    (scripts : ∀ x : Script, x.StandsIn t d → (region x.names ↔ later x.names))
    (obstacles : ∀ p cause, Obstacle t d p cause → (region p ↔ later p)) :
    Swept o t d base later s xs done := by
  refine ⟨h.state, h.ordered, ?_, ?_⟩
  · intro x
    rw [h.mem_iff]
    constructor
    · rintro ⟨hx, hs, before⟩
      exact ⟨(scripts x hs).mp hx, hs, fun p cause hp ho => before p cause ((obstacles p cause ho).mpr hp) ho⟩
    · rintro ⟨hx, hs, before⟩
      exact ⟨(scripts x hs).mpr hx, hs, fun p cause hp ho => before p cause ((obstacles p cause ho).mp hp) ho⟩
  · rcases h.ends with ⟨hr, free⟩ | ⟨p, cause, hp, ho, least, hr⟩
    · exact .inl ⟨hr, fun p cause hp ho => free p cause ((obstacles p cause ho).mpr hp) ho⟩
    · exact .inr ⟨p, cause, (obstacles p cause ho).mp hp, ho,
        fun q cause' hq hq' => least q cause' ((obstacles q cause' hq').mpr hq) hq', hr⟩

/-- One region after another, if all of the second come after the first. -/
theorem andThen {a b : Action WalkFault Progress Unit} (first : Swept o t d base region s xs (a.run s))
    (before : ∀ q r, region q → later r → q < r)
    (second : (a.run s).result = .ok () →
      ∃ ys, Swept o t d base later (a.run s).state ys (b.run (a.run s).state)) :
    ∃ zs, Swept o t d base (fun q => region q ∨ later q) s zs ((a >>= fun _ => b).run s) := by
  obtain ⟨state, ordered, mem_iff, ends⟩ := first
  generalize hd : a.run s = done at state ends second
  obtain ⟨result, mid, events⟩ := done
  dsimp only at state ends second
  rcases ends with ⟨hr, free⟩ | ⟨p, cause, hp, ho, least, hr⟩
  · obtain rfl : result = .ok () := hr
    obtain ⟨ys, state', ordered', mem_iff', ends'⟩ := second rfl
    rw [Action.run_bind_ok hd]
    refine ⟨xs ++ ys, ?_, ?_, ?_, ?_⟩
    · rw [List.foldl_append, ← state]
      exact state'
    · rw [List.map_append, List.pairwise_append]
      refine ⟨ordered, ordered', ?_⟩
      intro q hq r hr
      obtain ⟨x, hx, rfl⟩ := List.mem_map.mp hq
      obtain ⟨y, hy, rfl⟩ := List.mem_map.mp hr
      exact before _ _ ((mem_iff x).mp hx).1 ((mem_iff' y).mp hy).1
    · intro x
      rw [List.mem_append, mem_iff, mem_iff']
      constructor
      · rintro (⟨hx, hs, -⟩ | ⟨hx, hs, all⟩)
        · refine ⟨.inl hx, hs, ?_⟩
          rintro p cause (hp | hp) ho
          · exact absurd ho (free p cause hp)
          · exact before _ _ hx hp
        · refine ⟨.inr hx, hs, ?_⟩
          rintro p cause (hp | hp) ho
          · exact absurd ho (free p cause hp)
          · exact all p cause hp ho
      · rintro ⟨hx | hx, hs, all⟩
        · exact .inl ⟨hx, hs, fun p cause hp ho => absurd ho (free p cause hp)⟩
        · exact .inr ⟨hx, hs, fun p cause hp ho => all p cause (.inr hp) ho⟩
    · rcases ends' with ⟨hr, free'⟩ | ⟨p, cause, hp, ho, least, hr⟩
      · refine .inl ⟨hr, ?_⟩
        rintro p cause (hp | hp)
        · exact free p cause hp
        · exact free' p cause hp
      · refine .inr ⟨p, cause, .inr hp, ho, ?_, hr⟩
        rintro q cause' (hq | hq) hq'
        · exact absurd hq' (free q cause' hq)
        · exact least q cause' hq hq'
  · obtain rfl : result = .error (.at d p cause) := hr
    rw [Action.run_bind_error hd]
    refine ⟨xs, state, ordered, ?_, ?_⟩
    · intro x
      rw [mem_iff]
      constructor
      · rintro ⟨hx, hs, all⟩
        refine ⟨.inl hx, hs, ?_⟩
        rintro q cause' (hq | hq) hq'
        · exact all q cause' hq hq'
        · exact before _ _ hx hq
      · rintro ⟨hx | hx, hs, all⟩
        · exact ⟨hx, hs, fun q cause' hq hq' => all q cause' (.inl hq) hq'⟩
        · -- a script of the second region would stand before the obstacle of the first
          exact absurd (all p cause (.inl hp) ho) (List.lt_asymm (before _ _ hp hx))
    · refine .inr ⟨p, cause, .inl hp, ho, ?_, rfl⟩
      rintro q cause' (hq | hq) hq'
      · exact least q cause' hq hq'
      · exact List.lt_asymm (before _ _ hp hq)

end Swept
end Hardening
end BundleForge
