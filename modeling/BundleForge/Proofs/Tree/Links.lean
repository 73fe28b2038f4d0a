import BundleForge.Proofs.Tree.Place

/-!
Trees in which links may stand anywhere. Main statements: names below a directory lead to the place that
they spell, unless their way goes through a link; and for the number of links that a path may lead through, no
names lead anywhere that are more than a tree has within reach.
-/

namespace BundleForge

/-- No two entries of one name. -/
def Outline.isProper : Outline → Bool
  | .dir names => decide names.Nodup && names.all isName
  | .file | .link _ => true

/-- A tree in which every entry has a name of its own. -/
def Node.Proper (n : Node) : Prop :=
  ∀ place outline, n.outlineAt place = some outline → outline.isProper = true

theorem Node.Plain.proper {n : Node} (plain : n.Plain) : n.Proper := by
  intro place outline h
  have := plain place outline h
  cases outline with
  | dir | file => exact this
  | link => rfl

theorem Node.proper_link (target : String) : (Node.link target).Proper := by
  intro place outline h
  cases place with
  | nil =>
    obtain rfl : Outline.link target = outline := by simpa [outlineAt, Node.outline] using h
    rfl
  | cons name rest => simp [outlineAt_cons, child?] at h

theorem Node.proper_dir {entries : List (String × Node)}
    (names : (Outline.dir (entries.map Prod.fst)).isProper = true)
    (nodes : ∀ entry ∈ entries, entry.2.Proper) : (Node.dir entries).Proper :=
  Node.outlines_dir names nodes

namespace Node

mutual

/-- How many names lead to the deepest node that stands in one. -/
def height : Node → Nat
  | .dir entries => heights entries
  | .file _ | .link _ => 0

def heights : List (String × Node) → Nat
  | [] => 0
  | (_, n) :: rest => max (height n + 1) (heights rest)

end

theorem height_lt_of_lookup {entries : List (String × Node)} {name : String} {c : Node}
    (h : entries.lookup name = some c) : c.height < heights entries := by
  induction entries with
  | nil => cases h
  | cons entry rest ih =>
    obtain ⟨other, n⟩ := entry
    rw [heights]
    rw [List.lookup_cons] at h
    split at h
    · cases h
      omega
    · have := ih h
      omega

/-- No place is longer than the tree is high. -/
theorem length_le_height {n : Node} {place : List String} {o : Outline} (h : n.outlineAt place = some o) :
    place.length ≤ n.height := by
  induction place generalizing n with
  | nil => exact Nat.zero_le _
  | cons name rest ih =>
    rw [outlineAt_cons] at h
    obtain ⟨c, child, below⟩ := Option.bind_eq_some_iff.mp h
    cases n with
    | dir entries =>
      have := ih below
      have := height_lt_of_lookup (show entries.lookup name = some c from child)
      rw [height, List.length_cons]
      omega
    | file | link => cases child

end Node

namespace Tree

/-- Names whose way from a place goes through a link. -/
def LinkOnWay (top : Node) (here names : List String) : Prop :=
  ∃ front target, front <+: names ∧ top.outlineAt (here ++ front) = some (.link target)

theorem LinkOnWay.cons {top : Node} {here names : List String} {name : String}
    (h : LinkOnWay top (here ++ [name]) names) : LinkOnWay top here (name :: names) := by
  obtain ⟨front, target, hf, hl⟩ := h
  exact ⟨name :: front, target, List.cons_prefix_cons.mpr ⟨rfl, hf⟩, by simpa using hl⟩

/-- Names lead to the place that they spell, unless a link stands on their way. -/
theorem walk_straight {top : Node} {links : Nat} {here names place : List String}
    (named : ∀ name ∈ names, isName name = true) (straight : ¬ LinkOnWay top here names)
    (h : walk top links here names = .ok ⟨place, true⟩) : place = here ++ names := by
  induction names generalizing here with
  | nil =>
    obtain rfl : here = place := by simpa [walk] using h
    simp
  | cons name rest ih =>
    obtain ⟨entries, hd⟩ : ∃ entries, top.outlineAt here = some (.dir entries) := by
      rw [walk_cons] at h
      split at h
      · exact ⟨_, ‹_›⟩
      · cases h
    rw [walk_name (named name (by simp)) hd] at h
    cases hc : top.outlineAt (here ++ [name]) with
    | none =>
      simp only [hc] at h
      split at h <;> simp at h
    | some o =>
      cases o with
      | link target => exact absurd ⟨[name], target, List.prefix_append [name] rest, hc⟩ straight
      | file | dir =>
        simp only [hc] at h
        have := ih (fun other ho => named other (by simp [ho])) (fun way => straight way.cons) h
        simpa using this

/-- A path below a directory leads below the place of that directory, unless a link stands on its way
from there. -/
theorem realPlace_straight {t : Tree} {d : Path} {base names place : List String}
    (root : t.realPlace d = .ok base) (named : ∀ name ∈ names, isName name = true)
    (straight : ¬ LinkOnWay t.top base names) (leads : t.realPlace (d.below names) = .ok place) :
    place = base ++ names := by
  obtain ⟨-, start⟩ := spot_of_realPlace root
  obtain ⟨-, whole⟩ := spot_of_realPlace leads
  obtain ⟨left, onwards⟩ := walk_append start names
  rw [Path.below, onwards] at whole
  exact walk_straight named straight whole

/-- What is listed in a directory stands in the tree under names of its own. -/
theorem names_of_list {t : Tree} (proper : t.top.Proper) {p : Path} {entries : List String}
    (h : t.list p = .ok entries) : entries.Nodup ∧ ∀ entry ∈ entries, isName entry = true := by
  have clean : hasNull p = false := by
    unfold list at h
    cases hn : hasNull p with
    | false => rfl
    | true => simp [hn] at h
  rcases list_cases t clean with ⟨cause, refused⟩ | ⟨base, listed, -, there, hl, -⟩
  · rw [refused] at h
    cases h
  · rw [hl] at h
    cases h
    simpa [Outline.isProper] using proper _ _ there

/-- The most names that lead on from a place with so many links left: between two links there are no more of them
than the tree is high. -/
def reachWith (links : Nat) (top : Node) : Nat := links * (top.height + 1) + top.height

/-- The names at the end of a path that leads anywhere are within reach, fewer of them where the path starts with
them some way down. The links left grow fewer, or the place grows longer. -/
theorem length_le_of_walk {top : Node} {links : Nat} {here parts place : List String}
    (low : here.length ≤ top.height) (h : walk top links here parts = .ok ⟨place, true⟩) {front names : List String}
    (split : parts = front ++ names) (named : ∀ name ∈ names, isName name = true) :
    names.length ≤ reachWith links top ∧ (front = [] → here.length + names.length ≤ reachWith links top) := by
  fun_induction walk top links here parts generalizing front names with
  | case1 links here =>
    obtain ⟨rfl, rfl⟩ := List.append_eq_nil_iff.mp split.symm
    simp only [reachWith, List.length_nil]
    omega
  | case2 links here name rest entries hd skip ih =>
    cases front with
    | nil =>
      subst split
      have part := (isName_iff.mp (named name List.mem_cons_self)).1
      obtain rfl | rfl : name = "" ∨ name = "." := by simpa using skip
      · cases part
      · cases part
    | cons first front =>
      cases split
      exact ⟨(ih low h rfl named).1, by simp⟩
  | case3 links here rest entries hd skip ih =>
    cases front with
    | nil =>
      subst split
      have := isName_iff.mp (named ".." List.mem_cons_self)
      simp at this
    | cons first front =>
      cases split
      exact ⟨(ih (by rw [List.length_dropLast]; omega) h rfl named).1, by simp⟩
  | case4 | case5 | case6 | case7 | case10 => cases h
  | case8 here name rest entries hd skip up long target hl links start ih =>
    have low' : start.length ≤ top.height := by
      unfold start
      split
      · exact Nat.zero_le _
      · exact low
    have step : reachWith links.succ top = reachWith links top + (top.height + 1) := by
      rw [reachWith, reachWith, Nat.succ_mul]
      omega
    cases front with
    | nil =>
      subst split
      have := (ih low' h rfl fun other among => named other (List.mem_cons_of_mem _ among)).1
      simp only [List.length_cons]
      omega
    | cons first front =>
      cases split
      have := (ih low' h (List.append_assoc ..).symm named).1
      exact ⟨by omega, by simp⟩
  | case9 links here name rest entries hd skip up long child plain hl ih =>
    have there : top.outlineAt (here ++ [name]) = some child.outline := by
      rw [Node.outlineAt_child_of_dir hd, hl]
      rfl
    have low' := Node.length_le_height there
    cases front with
    | nil =>
      subst split
      have := (ih low' h rfl fun other among => named other (List.mem_cons_of_mem _ among)).2 rfl
      simp only [List.length_cons, List.length_append, List.length_nil] at this ⊢
      omega
    | cons first front =>
      cases split
      exact ⟨(ih low' h rfl named).1, by simp⟩

/-- The most names below a directory that lead anywhere. -/
def reach (t : Tree) : Nat := reachWith linkLimit t.top

theorem length_le_reach {t : Tree} {d : Path} {names place : List String}
    (named : ∀ name ∈ names, isName name = true) (leads : t.realPlace (d.below names) = .ok place) :
    names.length ≤ t.reach :=
  (length_le_of_walk (Nat.zero_le _) (spot_of_realPlace leads).2 rfl named).1

end Tree
end BundleForge
