import BundleForge.Proofs.Tree.Alike

/-!
Changes to a tree that stay below one place. Main statements: directories that are made, nodes that are
put and directories that are taken away at paths below a place change nothing else, and what stands
elsewhere, a directory on the way to it included, makes no difference to them.
-/

namespace BundleForge

namespace Path

theorem initsDescending_concat (parts : List String) (name : String) :
    initsDescending (parts ++ [name]) = (parts ++ [name]) :: initsDescending parts := by
  induction parts with
  | nil => rfl
  | cons part rest ih => simp [initsDescending, ih]

theorem size_intercalate_le (parts : List String) (name : String) :
    ("/".intercalate parts).utf8ByteSize ≤ ("/".intercalate (parts ++ [name])).utf8ByteSize := by
  induction parts with
  | nil => simp
  | cons part rest ih =>
    rw [List.cons_append, String.intercalate_cons_of_ne_nil (by simp : rest ++ [name] ≠ [])]
    by_cases hr : rest = []
    · subst hr
      simp only [String.intercalate_singleton, String.utf8ByteSize_append]
      omega
    · rw [String.intercalate_cons_of_ne_nil hr]
      simp only [String.utf8ByteSize_append]
      omega

/-- A path has no more bytes than one that goes on from it. -/
theorem size_le_concat (anchor : Anchor) (parts : List String) {name : String} (named : isName name = true) :
    (Path.mk anchor parts).text.utf8ByteSize ≤ (Path.mk anchor (parts ++ [name])).text.utf8ByteSize := by
  have joined := size_intercalate_le parts name
  have long : (Path.mk anchor (parts ++ [name])).text = anchor.text ++ "/".intercalate (parts ++ [name]) := by
    simp [text]
  rw [long, String.utf8ByteSize_append]
  unfold text
  split
  · rename_i h
    simp only [Bool.and_eq_true, List.isEmpty_iff] at h
    have size := Tree.length_le_sum_of_isName (show ∀ part ∈ [name], isName part = true by simpa using named)
    have one : ("." : String).utf8ByteSize = 1 := rfl
    simp only [h.2, List.nil_append, String.intercalate_singleton, List.length_singleton, List.map_cons,
      List.map_nil, List.sum_cons, List.sum_nil] at size ⊢
    omega
  · rw [String.utf8ByteSize_append]
    exact Nat.add_le_add_left joined _

end Path

namespace Node

theorem absent_of_orphan {n : Node} {here : List String} (orphan : n.isDirAt here = false) (name : String) :
    n.outlineAt (here ++ [name]) = none := by
  by_contra some
  obtain ⟨o, ho⟩ := Option.ne_none_iff_exists'.mp some
  rw [Bool.eq_false_iff] at orphan
  exact orphan (isDirAt_iff.mpr (dir_above ho))

theorem plain_emptyDir : (Node.dir []).Plain := plain_dir rfl (by simp)

end Node

namespace Tree

variable {t a b : Tree} {p : Path} {area own here : List String} {name : String} {n : Node}

theorem spot_of_orphan (plain : t.top.Plain) (concat : p.parts = here ++ [name])
    (named : ∀ part ∈ p.parts, isName part = true) (orphan : t.top.isDirAt here = false) :
    ∃ cause, t.spot p = .error cause := by
  rcases Nat.lt_or_ge p.text.utf8ByteSize pathLimit with short | long
  · rw [spot_of_named plain named short, concat]
    simp [Node.spotAt, orphan, Node.absent_of_orphan orphan]
  · exact ⟨_, spot_of_long long⟩

theorem spot_of_parent (plain : t.top.Plain) (concat : p.parts = here ++ [name])
    (named : ∀ part ∈ p.parts, isName part = true) (short : p.text.utf8ByteSize < pathLimit)
    (parent : t.top.isDirAt here = true) :
    t.spot p = .ok ⟨here ++ [name], (t.top.outlineAt (here ++ [name])).isSome⟩ := by
  rw [spot_of_named plain named short, concat]
  unfold Node.spotAt
  cases t.top.outlineAt (here ++ [name]) <;> simp [parent]

theorem spot_of_top (top : p.parts = []) (short : p.text.utf8ByteSize < pathLimit) :
    t.spot p = .ok ⟨[], true⟩ := by
  simp [spot, Nat.not_le.mpr short, top, walk]

/-- Makes the directory at a path, if only that is missing. -/
def makeDir (t : Tree) (p : Path) : Tree :=
  match t.spot p with
  | .ok s => if s.found then t else t.setAt s.place (.dir [])
  | .error _ => t

/-- Puts a node at a path, if only that is missing. -/
def putAt (t : Tree) (p : Path) (n : Node) : Tree :=
  match t.spot p with
  | .ok s => t.setAt s.place n
  | .error _ => t

theorem makeDirs_nil (t : Tree) (anchor : Anchor) : t.makeDirs ⟨anchor, []⟩ = t.makeDir ⟨anchor, []⟩ := rfl

theorem makeDirs_concat (t : Tree) (anchor : Anchor) (parts : List String) (name : String) :
    t.makeDirs ⟨anchor, parts ++ [name]⟩ = (t.makeDirs ⟨anchor, parts⟩).makeDir ⟨anchor, parts ++ [name]⟩ := by
  have step (p : Path) : t.makeDirs p = p.selfAndAncestors.reverse.foldl makeDir t := rfl
  simp [step, Path.selfAndAncestors, Path.initsDescending_concat]

theorem install_eq (t : Tree) (p : Path) (n : Node) :
    t.install p n = (t.makeDirs ⟨p.anchor, p.parts.dropLast⟩).putAt p n := rfl

theorem makeDir_of_long (long : pathLimit ≤ p.text.utf8ByteSize) : t.makeDir p = t := by
  simp [makeDir, spot_of_long long]

theorem makeDir_of_top (top : p.parts = []) : t.makeDir p = t := by
  rcases Nat.lt_or_ge p.text.utf8ByteSize pathLimit with short | long
  · simp [makeDir, spot_of_top top short]
  · exact makeDir_of_long long

theorem makeDir_of_orphan (plain : t.top.Plain) (concat : p.parts = here ++ [name])
    (named : ∀ part ∈ p.parts, isName part = true) (orphan : t.top.isDirAt here = false) :
    t.makeDir p = t := by
  obtain ⟨cause, hs⟩ := spot_of_orphan plain concat named orphan
  simp [makeDir, hs]

theorem makeDir_of_parent (plain : t.top.Plain) (concat : p.parts = here ++ [name])
    (named : ∀ part ∈ p.parts, isName part = true) (short : p.text.utf8ByteSize < pathLimit)
    (parent : t.top.isDirAt here = true) :
    t.makeDir p =
      if (t.top.outlineAt (here ++ [name])).isSome then t else t.setAt (here ++ [name]) (.dir []) := by
  simp [makeDir, spot_of_parent plain concat named short parent]

/-- A node that is put into a directory that is there. -/
theorem edited_of_parent (parent : t.top.isDirAt here = true) (name : String) (n : Node) :
    t.top.Edited here name (some n) (t.setAt (here ++ [name]) n).top := by
  obtain ⟨names, hd⟩ := Node.isDirAt_iff.mp parent
  exact Node.edited_setAt hd name n

/-- Once its directory is there, something stands at a path. -/
theorem outlineAt_makeDir (plain : t.top.Plain) (concat : p.parts = here ++ [name])
    (named : ∀ part ∈ p.parts, isName part = true) (short : p.text.utf8ByteSize < pathLimit)
    (parent : t.top.isDirAt here = true) :
    ∃ o, (t.makeDir p).top.outlineAt (here ++ [name]) = some o := by
  rw [makeDir_of_parent plain concat named short parent]
  split
  · rename_i there
    exact Option.isSome_iff_exists.mp there
  · exact ⟨_, (edited_of_parent parent name (.dir [])).outline_inside []⟩

namespace Spares

/-- A directory that is made on the way to a place, or below it. -/
theorem of_makeDir (plain : t.top.Plain) (named : ∀ part ∈ p.parts, isName part = true)
    (comparable : p.parts <+: own ∨ own <+: p.parts) : Spares own t (t.makeDir p) := by
  rcases List.eq_nil_or_concat p.parts with top | ⟨here, name, concat⟩
  · rw [makeDir_of_top top]
    exact .refl plain
  rw [List.concat_eq_append] at concat
  cases parent : t.top.isDirAt here with
  | false =>
    rw [makeDir_of_orphan plain concat named parent]
    exact .refl plain
  | true =>
    rcases Nat.lt_or_ge p.text.utf8ByteSize pathLimit with short | long
    · rw [makeDir_of_parent plain concat named short parent]
      split
      · exact .refl plain
      · rename_i absent
        have edited := edited_of_parent parent name (.dir [])
        have plain' := edited.plain plain (named name (by simp [concat])) (by simpa using Node.plain_emptyDir)
        rw [concat] at comparable
        rcases comparable with above | below
        · exact .of_dirMade plain edited plain' (by simpa using absent) above
        · exact .of_edited plain edited plain' below
    · rw [makeDir_of_long long]
      exact .refl plain

theorem of_makeDirs (plain : t.top.Plain) (anchor : Anchor) {parts : List String}
    (named : ∀ part ∈ parts, isName part = true) (comparable : parts <+: own ∨ own <+: parts) :
    Spares own t (t.makeDirs ⟨anchor, parts⟩) := by
  induction parts using List.reverseRecOn with
  | nil =>
    rw [makeDirs_nil]
    exact of_makeDir plain named comparable
  | append_singleton parts name ih =>
    have earlier := ih (fun part hp => named part (by simp [hp])) (by
      rcases comparable with above | below
      · exact .inl ((List.prefix_append ..).trans above)
      · rcases List.prefix_concat_iff.mp below with rfl | below
        · exact .inl (List.prefix_append ..)
        · exact .inr below)
    rw [makeDirs_concat]
    exact earlier.trans (of_makeDir earlier.plain' named comparable)

end Spares

namespace Alike

/-- A directory that is made in both, from a state in which its own directory is there in both or in
neither, unless its path is too long anyway. -/
theorem makeDir_both (h : Alike area a b) (concat : p.parts = here ++ [name])
    (named : ∀ part ∈ p.parts, isName part = true) (outside : ¬ area <+: p.parts)
    (level : p.text.utf8ByteSize < pathLimit → a.top.isDirAt here = b.top.isDirAt here) :
    Alike area (a.makeDir p) (b.makeDir p) ∧
      (p.text.utf8ByteSize < pathLimit →
        (a.makeDir p).top.isDirAt p.parts = (b.makeDir p).top.isDirAt p.parts) := by
  rcases Nat.lt_or_ge p.text.utf8ByteSize pathLimit with short | long
  swap
  · rw [makeDir_of_long long, makeDir_of_long long]
    exact ⟨h, fun short => absurd short (Nat.not_lt.mpr long)⟩
  have parents := level short
  cases parent : a.top.isDirAt here with
  | false =>
    have parent' := parents.symm.trans parent
    rw [makeDir_of_orphan h.plain concat named parent, makeDir_of_orphan h.plain' concat named parent']
    refine ⟨h, fun _ => ?_⟩
    rw [concat, Node.isDirAt, Node.isDirAt, Node.absent_of_orphan parent, Node.absent_of_orphan parent']
  | true =>
    have parent' := parents.symm.trans parent
    by_cases above : p.parts <+: area
    · have first := Spares.of_makeDir h.plain named (.inl above)
      have second := Spares.of_makeDir h.plain' named (.inl above)
      have after := first.toAlike.symm.trans (h.trans second.toAlike)
      refine ⟨after, fun _ => ?_⟩
      obtain ⟨o, ho⟩ := outlineAt_makeDir h.plain concat named short parent
      obtain ⟨o', ho'⟩ := outlineAt_makeDir h.plain' concat named short parent'
      rw [concat] at outside ⊢
      rw [after.plain.isDirAt_of_some ho, after.plain'.isDirAt_of_some ho', after.contents _ outside]
    · have apart : Apart area p.parts := ⟨outside, above⟩
      have after : Alike area (a.makeDir p) (b.makeDir p) := by
        rw [makeDir_of_parent h.plain concat named short parent,
          makeDir_of_parent h.plain' concat named short parent', ← h.outlines _ (concat ▸ apart)]
        split
        · exact h
        · have edited := edited_of_parent parent name (.dir [])
          have edited' := edited_of_parent parent' name (.dir [])
          have last := named name (by simp [concat])
          exact h.edited_both edited edited' (edited.plain h.plain last (by simpa using Node.plain_emptyDir))
            (edited'.plain h.plain' last (by simpa using Node.plain_emptyDir))
      exact ⟨after, fun _ => after.isDirAt_eq apart⟩

theorem makeDirs_both (h : Alike area a b) (anchor : Anchor) {parts : List String}
    (named : ∀ part ∈ parts, isName part = true) (outside : ¬ area <+: parts) :
    Alike area (a.makeDirs ⟨anchor, parts⟩) (b.makeDirs ⟨anchor, parts⟩) ∧
      ((Path.mk anchor parts).text.utf8ByteSize < pathLimit →
        (a.makeDirs ⟨anchor, parts⟩).top.isDirAt parts = (b.makeDirs ⟨anchor, parts⟩).top.isDirAt parts) := by
  induction parts using List.reverseRecOn with
  | nil =>
    rw [makeDirs_nil, makeDirs_nil, makeDir_of_top rfl, makeDir_of_top rfl]
    refine ⟨h, fun _ => ?_⟩
    rw [h.plain.isDirAt_of_some rfl, h.plain'.isDirAt_of_some rfl, h.contents _ outside]
  | append_singleton parts name ih =>
    obtain ⟨earlier, level⟩ := ih (fun part hp => named part (by simp [hp]))
      fun below => outside (below.trans (List.prefix_append ..))
    rw [makeDirs_concat, makeDirs_concat]
    exact earlier.makeDir_both rfl named outside fun short =>
      level (Nat.lt_of_le_of_lt (Path.size_le_concat anchor parts (named name (by simp))) short)

end Alike

/-- A change that stays below a place: nothing else is changed, and nothing else matters to it. -/
structure Within (own : List String) (f : Tree → Tree) : Prop where
  confined : ∀ t : Tree, t.top.Plain → Spares own t (f t)
  respects : ∀ {area : List String} {a b : Tree}, Apart area own → Alike area a b → Alike area (f a) (f b)

namespace Within

theorem none : Within own fun t => t := ⟨fun _ plain => .refl plain, fun _ same => same⟩

theorem comp {f g : Tree → Tree} (hf : Within own f) (hg : Within own g) : Within own fun t => g (f t) where
  confined t plain :=
    have first := hf.confined t plain
    first.trans (hg.confined _ first.plain')
  respects apart h := hg.respects apart (hf.respects apart h)

/-- Trees that are matched for a place apart from it stay so. -/
theorem matched {f : Tree → Tree} (h : Within own f) {turns : List (List String)} (apart : Apart area own)
    (same : Matched area turns a b) : Matched area turns (f a) (f b) :=
  same.spared_apart apart (h.respects apart same.toAlike) (h.confined a same.plain) (h.confined b same.plain')

theorem foldl {α : Type} {f : Tree → α → Tree} {xs : List α} (h : ∀ x ∈ xs, Within own fun t => f t x) :
    Within own fun t => xs.foldl f t := by
  induction xs with
  | nil => exact none
  | cons x xs ih => exact (h x (by simp)).comp (ih fun y hy => h y (by simp [hy]))

end Within

theorem within_makeDirs (named : ∀ part ∈ p.parts, isName part = true) (below : own <+: p.parts) :
    Within own fun t => t.makeDirs p where
  confined _ plain := Spares.of_makeDirs plain p.anchor named (.inr below)
  respects apart h := (h.makeDirs_both p.anchor named (apart.below below).1).1

theorem putAt_of_parent (plain : t.top.Plain) (concat : p.parts = here ++ [name])
    (named : ∀ part ∈ p.parts, isName part = true) (short : p.text.utf8ByteSize < pathLimit)
    (parent : t.top.isDirAt here = true) (n : Node) : t.putAt p n = t.setAt (here ++ [name]) n := by
  simp [putAt, spot_of_parent plain concat named short parent]

theorem putAt_of_orphan (plain : t.top.Plain) (concat : p.parts = here ++ [name])
    (named : ∀ part ∈ p.parts, isName part = true) (orphan : t.top.isDirAt here = false) (n : Node) :
    t.putAt p n = t := by
  obtain ⟨cause, hs⟩ := spot_of_orphan plain concat named orphan
  simp [putAt, hs]

theorem putAt_of_long (long : pathLimit ≤ p.text.utf8ByteSize) (n : Node) : t.putAt p n = t := by
  simp [putAt, spot_of_long long]

theorem Spares.of_putAt (plain : t.top.Plain) (named : ∀ part ∈ p.parts, isName part = true)
    (below : own <+: p.parts) (plain' : n.Plain) : Spares own t (t.putAt p n) := by
  rcases Nat.lt_or_ge p.text.utf8ByteSize pathLimit with short | long
  swap
  · rw [putAt_of_long long]
    exact .refl plain
  rcases List.eq_nil_or_concat p.parts with top | ⟨here, name, concat⟩
  · rw [top, List.prefix_nil] at below
    subst below
    simp only [putAt, spot_of_top top short]
    exact .of_top plain plain' rfl
  rw [List.concat_eq_append] at concat
  cases parent : t.top.isDirAt here with
  | false =>
    rw [putAt_of_orphan plain concat named parent]
    exact .refl plain
  | true =>
    rw [putAt_of_parent plain concat named short parent]
    have edited := edited_of_parent parent name n
    exact .of_edited plain edited (edited.plain plain (named name (by simp [concat])) (by simpa using plain'))
      (concat ▸ below)

theorem within_install (named : ∀ part ∈ p.parts, isName part = true) (below : own <+: p.parts)
    (plain : n.Plain) : Within own fun t => t.install p n where
  confined t ht := by
    have comparable : p.parts.dropLast <+: own ∨ own <+: p.parts.dropLast := by
      rcases List.eq_nil_or_concat p.parts with top | ⟨here, name, concat⟩
      · simp [top]
      · rw [concat, List.concat_eq_append] at below ⊢
        rw [List.dropLast_concat]
        rcases List.prefix_concat_iff.mp below with rfl | below
        · exact .inl (List.prefix_append ..)
        · exact .inr below
    have made := Spares.of_makeDirs ht p.anchor (fun part hp => named part (List.mem_of_mem_dropLast hp))
      comparable
    rw [install_eq]
    exact made.trans (.of_putAt made.plain' named below plain)
  respects {area a b} apart h := by
    have outside := apart.below below
    rcases List.eq_nil_or_concat p.parts with top | ⟨here, name, concat⟩
    · exact absurd (top ▸ List.nil_prefix) outside.2
    rw [List.concat_eq_append] at concat
    rw [install_eq, install_eq]
    rcases Nat.lt_or_ge p.text.utf8ByteSize pathLimit with short | long
    swap
    · rw [putAt_of_long long, putAt_of_long long]
      exact (h.makeDirs_both p.anchor (fun part hp => named part (List.mem_of_mem_dropLast hp))
        fun below => outside.1 (below.trans (List.dropLast_prefix _))).1
    obtain ⟨made, level⟩ := h.makeDirs_both p.anchor
      (fun part (hp : part ∈ here) => named part (by simp [concat, hp]))
      fun below => outside.1 (concat ▸ below.trans (List.prefix_append ..))
    have last := named name (by simp [concat])
    have path : p = ⟨p.anchor, here ++ [name]⟩ := by rw [← concat]
    have parents := level (Nat.lt_of_le_of_lt (Path.size_le_concat p.anchor here last) (path ▸ short))
    rw [concat, List.dropLast_concat]
    generalize a.makeDirs ⟨p.anchor, here⟩ = a' at made parents
    generalize b.makeDirs ⟨p.anchor, here⟩ = b' at made parents
    cases parent : a'.top.isDirAt here with
    | false =>
      rw [putAt_of_orphan made.plain concat named parent,
        putAt_of_orphan made.plain' concat named (parents.symm.trans parent)]
      exact made
    | true =>
      have parent' := parents.symm.trans parent
      rw [putAt_of_parent made.plain concat named short parent,
        putAt_of_parent made.plain' concat named short parent']
      have edited := edited_of_parent parent name n
      have edited' := edited_of_parent parent' name n
      exact made.edited_both edited edited' (edited.plain made.plain last (by simpa using plain))
        (edited'.plain made.plain' last (by simpa using plain))

theorem any_isDirNode (n : Node) (x : List String) : (n.at? x).any Node.isDirNode = n.isDirAt x := by
  unfold Node.isDirAt Node.outlineAt
  cases n.at? x with
  | none => rfl
  | some c => exact Node.isDirNode_eq c

theorem removeDir_eq (plain : t.top.Plain) (named : ∀ part ∈ p.parts, isName part = true) :
    t.removeDir p =
      if (t.realPlace p).isOk && t.top.isDirAt p.parts then { t with top := Node.removeAt p.parts t.top }
      else t := by
  unfold removeDir
  cases hr : t.realPlace p with
  | error cause => simp [Except.isOk, Except.toBool]
  | ok place =>
    obtain rfl := (eq_of_realPlace plain hr).trans (place_of_named named)
    simp [Except.isOk, Except.toBool, any_isDirNode]

/-- A directory that is taken away out of another. -/
theorem edited_of_dir (dir : t.top.isDirAt (here ++ [name]) = true) :
    t.top.Edited here name none (Node.removeAt (here ++ [name]) t.top) := by
  obtain ⟨names, hd⟩ := Node.isDirAt_iff.mp dir
  obtain ⟨siblings, -, parent, -, -⟩ := outlineAt_way hd
  exact Node.edited_removeAt parent name

theorem within_removeDir (named : ∀ part ∈ p.parts, isName part = true) (below : own <+: p.parts) :
    Within own fun t => t.removeDir p where
  confined t ht := by
    rw [removeDir_eq ht named]
    split
    · rename_i taken
      rcases List.eq_nil_or_concat p.parts with top | ⟨here, name, concat⟩
      · rw [top]
        exact .refl ht
      · rw [concat, List.concat_eq_append] at named below taken ⊢
        have edited := edited_of_dir ((Bool.and_eq_true ..).mp taken).2
        exact .of_edited ht edited (edited.plain ht (named name (by simp)) (by simp)) below
    · exact .refl ht
  respects {area a b} apart h := by
    have outside := apart.below below
    have leads : a.realPlace p = b.realPlace p :=
      h.matched.realPlace_eq (by simp [turns_of_named named]) (place_of_named named ▸ outside)
    rw [removeDir_eq h.plain named, removeDir_eq h.plain' named, ← leads, ← h.isDirAt_eq outside]
    split
    · rename_i taken
      have dir := ((Bool.and_eq_true ..).mp taken).2
      have dir' := (h.isDirAt_eq outside).symm.trans dir
      rcases List.eq_nil_or_concat p.parts with top | ⟨here, name, concat⟩
      · rw [top]
        exact h
      · rw [concat, List.concat_eq_append] at named dir dir' ⊢
        have edited := edited_of_dir dir
        have edited' := edited_of_dir dir'
        have last := named name (by simp)
        exact h.edited_both edited edited' (edited.plain h.plain last (by simp))
          (edited'.plain h.plain' last (by simp))
    · exact h

theorem within_installed {entry : Path × Node} (named : ∀ part ∈ entry.1.parts, isName part = true)
    (below : own <+: entry.1.parts) (plain : entry.2.Plain) :
    Within own fun t =>
      match entry.2 with
      | .dir _ => t.makeDirs entry.1
      | n => t.install entry.1 n := by
  obtain ⟨p, n⟩ := entry
  cases n with
  | dir entries => exact within_makeDirs named below
  | file | link => exact within_install named below plain

theorem within_installAll {nodes : List (Path × Node)}
    (inside : ∀ entry ∈ nodes, (∀ part ∈ entry.1.parts, isName part = true) ∧ own <+: entry.1.parts ∧
      entry.2.Plain) : Within own fun t => t.installAll nodes := by
  have put (entry : Path × Node) (he : entry ∈ nodes) :=
    within_installed (inside entry he).1 (inside entry he).2.1 (inside entry he).2.2
  exact (Within.foldl fun entry he => put entry (List.mem_of_mem_filter he)).comp
    (Within.foldl fun entry he => put entry (List.mem_of_mem_filter he))

end Tree
end BundleForge
