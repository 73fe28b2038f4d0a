import BundleForge.Proofs.Hardening.Sweep

/-!
The walk of a pass, directory by directory. What the walk has changed so far leaves the outline of the
tree alone and the bytes of all scripts still to come; so every directory is walked as it was found.
-/

namespace BundleForge.Hardening

/-- What a pass has left alone so far: the outline of the tree, its locks, and the bytes of the files
that belong to a region. -/
structure Kept (t : Tree) (base : List String) (region : List String → Prop) (s : Progress) : Prop where
  outline : ∀ place, s.tree.top.outlineAt place = t.top.outlineAt place
  locked : s.tree.locked = t.locked
  content : ∀ names, region names → s.tree.top.contentAt (base ++ names) = t.top.contentAt (base ++ names)

namespace Kept

variable {o : Obfuscator} {t : Tree} {d : Path} {base : List String} {region part : List String → Prop}
  {s : Progress}

theorem mono (h : Kept t base region s) (sub : ∀ names, part names → region names) :
    Kept t base part s :=
  ⟨h.outline, h.locked, fun names hn => h.content names (sub names hn)⟩

theorem plain (h : Kept t base region s) (plain : t.top.Plain) : s.tree.top.Plain := by
  intro place o ho
  rw [h.outline] at ho
  exact plain place o ho

theorem realPlace (h : Kept t base region s) (p : Path) : s.tree.realPlace p = t.realPlace p :=
  Tree.realPlace_eq_of_same h.outline p

theorem isDir (h : Kept t base region s) (p : Path) : s.tree.isDir p = t.isDir p :=
  Tree.ask_eq_of_outline (Tree.outline_node_of_same h.outline p) fun m n same => by
    rw [Node.isDirNode_eq, Node.isDirNode_eq, same]

theorem isFile (h : Kept t base region s) (p : Path) : s.tree.isFile p = t.isFile p :=
  Tree.ask_eq_of_outline (Tree.outline_node_of_same h.outline p) fun m n same => by
    rw [Node.isFileNode_eq, Node.isFileNode_eq, same]

theorem entriesOf (h : Kept t base region s) (p : Path) : Pass.entriesOf s.tree p = Pass.entriesOf t p := by
  rw [Pass.entriesOf, Pass.entriesOf, Tree.list_eq_of_outline (Tree.outline_node_of_same h.outline p) h.locked]

/-- A file outside a region is replaced without a change to what is in the region. -/
theorem replace (h : Kept t base region s) {hardener : Hardener} {p : Path} {place : List String}
    {content : List UInt8} (file : t.top.outlineAt place = some .file)
    (outside : ∀ names, region names → base ++ names ≠ place) :
    Kept t base region (s.replace hardener p place content) := by
  unfold Progress.replace
  cases hw : hardener.rewrite s.calls content with
  | error fault => exact ⟨h.outline, h.locked, h.content⟩
  | ok bytes =>
    obtain ⟨old, ho⟩ := Node.outlineAt_eq_file_iff.mp ((h.outline _).trans file)
    refine ⟨?_, h.locked, ?_⟩
    · intro other
      exact (Node.outlineAt_setAt ho bytes other).trans (h.outline other)
    · intro names hn
      have kept := Node.contentAt_setAt ho bytes (base ++ names)
      rw [if_neg (outside names hn)] at kept
      exact kept.trans (h.content names hn)

/-- A script outside a region is settled without a change to what is in the region. -/
theorem settle (h : Kept t base region s) {x : Script}
    (file : t.top.outlineAt (base ++ x.names) = some .file) (outside : ¬ region x.names) :
    Kept t base region (s.settle o d base x) := by
  have apart : ∀ names, region names → base ++ names ≠ base ++ x.names := by
    intro names hn same
    rw [List.append_cancel_left same] at hn
    exact outside hn
  have kept : Kept t base region
      (s.replace o.hardener (d.below x.names) (base ++ x.names) x.content) := h.replace file apart
  exact kept

theorem settle_all (h : Kept t base region s) {xs : List Script}
    (files : ∀ x ∈ xs, t.top.outlineAt (base ++ x.names) = some .file ∧ ¬ region x.names) :
    Kept t base region (xs.foldl (Progress.settle o d base) s) := by
  induction xs generalizing s with
  | nil => exact h
  | cons x xs ih =>
    obtain ⟨file, outside⟩ := files x (by simp)
    exact ih (h.settle file outside) fun y hy => files y (by simp [hy])

end Kept

/-- What every part of a walk works with. -/
structure Setting (pass : Pass) (o : Obfuscator) (d : Path) (base : List String) (t : Tree) : Prop where
  hardener : pass.hardener = o.hardener
  plain : t.top.Plain
  clean : Tree.hasNull d = false
  root : t.realPlace d = .ok base

namespace Setting

variable {pass : Pass} {o : Obfuscator} {t : Tree} {d : Path} {base names : List String}
  {s : Progress} {outline : Outline}

theorem outlineBelow (h : Setting pass o d base t) (names : List String) :
    t.outlineBelow d names = t.top.outlineAt (base ++ names) := by
  rw [Tree.outlineBelow, h.root]

theorem contentBelow (h : Setting pass o d base t) (names : List String) :
    t.contentBelow d names = t.top.contentAt (base ++ names) := by
  rw [Tree.contentBelow, h.root]

theorem isName (h : Setting pass o d base t) (there : t.top.outlineAt (base ++ names) = some outline) :
    ∀ name ∈ names, isName name = true :=
  Tree.isName_of_plain h.plain there

theorem hasNull_below (h : Setting pass o d base t)
    (there : t.top.outlineAt (base ++ names) = some outline) : Tree.hasNull (d.below names) = false :=
  Tree.hasNull_below h.clean (h.isName there)

/-- What stands below something that is no directory is that thing itself. -/
theorem eq_of_below (there : t.top.outlineAt (base ++ names) = some outline)
    (leaf : outline.isDir = false) {q : List String} {o' : Outline} (below : names <+: q)
    (ho : t.top.outlineAt (base ++ q) = some o') : q = names := by
  obtain ⟨rest, rfl⟩ := below
  cases rest with
  | nil => simp
  | cons name rest =>
    rw [← List.append_assoc] at ho
    obtain ⟨entries, -, hd, -, -⟩ := Tree.outlineAt_way ho
    obtain rfl := Option.some.inj (there.symm.trans hd)
    simp [Outline.isDir] at leaf

/-- What stands below a directory is the directory or stands below one of its entries. -/
theorem below_entry {entries : List String} (there : t.top.outlineAt (base ++ names) = some (.dir entries))
    {q : List String} {o' : Outline} (below : names <+: q) (ho : t.top.outlineAt (base ++ q) = some o') :
    q = names ∨ ∃ entry ∈ entries, names ++ [entry] <+: q := by
  obtain ⟨rest, rfl⟩ := below
  cases rest with
  | nil => exact .inl (by simp)
  | cons name rest =>
    rw [← List.append_assoc] at ho
    obtain ⟨siblings, -, hd, hm, -⟩ := Tree.outlineAt_way ho
    obtain rfl : entries = siblings := by
      have := Option.some.inj (there.symm.trans hd)
      simpa using this
    exact .inr ⟨name, hm, rest, by simp⟩

theorem outlineAt_of_standsIn (h : Setting pass o d base t) {x : Script} (hx : x.StandsIn t d) :
    t.top.outlineAt (base ++ x.names) = some .file := by
  rw [Node.outlineAt_eq_file_iff]
  exact ⟨x.content, (h.contentBelow _).symm.trans hx.2⟩

/-- An obstacle below the directory of the pass is something that is there. -/
theorem outlineAt_of_obstacle (h : Setting pass o d base t) {p : List String} {cause : Refusal}
    (ho : Obstacle t d p cause) (inside : p ≠ []) : ∃ o', t.top.outlineAt (base ++ p) = some o' := by
  cases ho with
  | start => exact absurd rfl inside
  | long there => exact ⟨_, (h.outlineBelow _).symm.trans there⟩
  | locked there => exact ⟨_, (h.outlineBelow _).symm.trans there⟩

end Setting

namespace Pass

variable {pass : Pass} {o : Obfuscator} {t : Tree} {d : Path} {base names : List String}
  {s : Progress} {outline : Outline}

theorem run_asks_ok {question : Tree → Path → Except SystemFault Bool} {p : Path} {b : Bool}
    (h : question s.tree p = .ok b) : (asks question p).run s = ⟨.ok b, s, []⟩ := by
  simp only [asks, Action.run, h]

theorem run_asks_error {question : Tree → Path → Except SystemFault Bool} {p : Path} {fault : SystemFault}
    (h : question s.tree p = .error fault) :
    (asks question p).run s = ⟨.error (.refused fault), s, []⟩ := by
  simp only [asks, Action.run, h]

theorem name_below (d : Path) (inside : names ≠ []) : (d.below names).name = names.getLast?.getD "" := by
  simp [Path.name, Path.below, List.getLast?_eq_some_getLast inside]

/-- Of what stands at names that no directory bears, only these names themselves can be an obstacle. -/
theorem not_obstacle_of_leaf (h : Setting pass o d base t) (inside : names ≠ [])
    (there : t.top.outlineAt (base ++ names) = some outline) (leaf : outline.isDir = false)
    (short : (d.below names).text.utf8ByteSize < Tree.pathLimit) (p : List String) (cause : Refusal)
    (below : names <+: p) : ¬ Obstacle t d p cause := by
  intro ho
  have hp : p ≠ [] := by
    rintro rfl
    exact inside (List.prefix_nil.mp below)
  obtain ⟨o', ho'⟩ := h.outlineAt_of_obstacle ho hp
  obtain rfl := Setting.eq_of_below there leaf below ho'
  cases ho with
  | start => exact inside rfl
  | long _ _ long => exact absurd long (Nat.not_le.mpr short)
  | locked entries =>
    rw [h.outlineBelow] at entries
    obtain rfl := Option.some.inj (there.symm.trans entries)
    simp [Outline.isDir] at leaf

/-- An entry is dealt with, whatever it is, if the directories in it are. -/
theorem visit_swept (h : Setting pass o d base t) {descend : Path → Action WalkFault Progress Unit}
    (inside : names ≠ []) (there : t.top.outlineAt (base ++ names) = some outline)
    (kept : Kept t base (names <+: ·) s)
    (descends : ∀ entries, outline = .dir entries →
      (d.below names).text.utf8ByteSize < Tree.pathLimit →
      ∃ xs, Swept o t d base (names <+: ·) s xs ((descend (d.below names)).run s)) :
    ∃ xs, Swept o t d base (names <+: ·) s xs ((pass.visit descend (d.below names)).run s) := by
  have clean := h.hasNull_below there
  have root : s.tree.realPlace d = .ok base := (kept.realPlace d).trans h.root
  have there' : s.tree.top.outlineAt (base ++ names) = some outline := (kept.outline _).trans there
  unfold visit
  by_cases long : Tree.pathLimit ≤ (d.below names).text.utf8ByteSize
  · have refused : s.tree.isDir (d.below names) = _ := Tree.ask_below_of_long _ clean long
    rw [Action.run_bind_error (run_asks_error refused)]
    exact ⟨[], .blocked (List.prefix_refl _) (.long ((h.outlineBelow _).trans there) inside long)
      fun q => not_lt_of_isPrefix⟩
  have short := Nat.not_le.mp long
  obtain ⟨hdir, hfile⟩ := Tree.ask_below (kept.plain h.plain) root clean there' short
  rw [Action.run_bind_ok (run_asks_ok hdir)]
  cases outline with
  | dir entries =>
    obtain ⟨xs, swept⟩ := descends entries rfl short
    exact ⟨xs, swept.state, swept.ordered, swept.mem_iff, swept.ends⟩
  | link target => exact absurd (h.plain _ _ there) (by simp [Outline.isPlain])
  | file =>
    have free := not_obstacle_of_leaf h inside there rfl short
    have only : ∀ y : Script, names <+: y.names → y.StandsIn t d → y.names = names := by
      intro y below stands
      exact Setting.eq_of_below there rfl below (h.outlineAt_of_standsIn stands)
    simp only [Outline.isDir, Bool.false_eq_true, if_false]
    rw [Action.run_bind_ok (run_asks_ok hfile)]
    simp only [Outline.isFile, if_true]
    rw [name_below d inside]
    by_cases script : isScript (names.getLast?.getD "") = true
    · obtain ⟨content, hc⟩ := Node.outlineAt_eq_file_iff.mp there
      have hc' := (kept.content names (List.prefix_refl _)).trans hc
      have leads := Tree.realPlace_below (kept.plain h.plain) root there' short
      have fails : pass.hardener.Fails := h.hardener ▸ o.hardener_fails
      obtain ⟨events, hr⟩ := run_hardenFile fails clean leads hc'
      rw [if_pos script, hr, h.hardener]
      refine ⟨[⟨names, content⟩], .single (List.prefix_refl _) ⟨script, ?_⟩ ?_ free⟩
      · exact (h.contentBelow names).trans hc
      · intro y below stands
        have hn := only y below stands
        obtain ⟨names', content'⟩ := y
        obtain rfl : names' = names := hn
        have same := stands.2.symm.trans ((h.contentBelow _).trans hc)
        simp_all
    · rw [if_neg script]
      refine ⟨[], .idle ?_ free⟩
      intro x below stands
      rw [← only x below stands] at script
      exact script stands.1

/-- The entries of a directory are dealt with one after another. -/
theorem each_swept (h : Setting pass o d base t) {visit : Path → Action WalkFault Progress Unit}
    {entries : List String} (ordered : entries.Pairwise (· < ·))
    (visits : ∀ entry ∈ entries, ∀ s, Kept t base (names ++ [entry] <+: ·) s →
      ∃ xs, Swept o t d base (names ++ [entry] <+: ·) s xs ((visit (d.below (names ++ [entry]))).run s))
    (kept : Kept t base (fun q => ∃ entry ∈ entries, names ++ [entry] <+: q) s) :
    ∃ xs, Swept o t d base (fun q => ∃ entry ∈ entries, names ++ [entry] <+: q) s xs
      ((Action.each visit (entries.map fun entry => d.below (names ++ [entry]))).run s) := by
  induction entries generalizing s with
  | nil => exact ⟨[], .idle (by simp) (by simp)⟩
  | cons entry rest ih =>
    rw [List.pairwise_cons] at ordered
    have before : ∀ q r, names ++ [entry] <+: q → (∃ other ∈ rest, names ++ [other] <+: r) → q < r := by
      rintro q r hq ⟨other, ho, hr⟩
      exact lt_of_siblings (ordered.1 other ho) hq hr
    obtain ⟨xs, first⟩ := visits entry (by simp) s (kept.mono fun q hq => ⟨entry, by simp, hq⟩)
    have files : ∀ x ∈ xs, t.top.outlineAt (base ++ x.names) = some .file ∧
        ¬ ∃ other ∈ rest, names ++ [other] <+: x.names := by
      intro x hx
      obtain ⟨inside, stands, -⟩ := (first.mem_iff x).mp hx
      exact ⟨h.outlineAt_of_standsIn stands, fun later => List.lt_irrefl _ (before _ _ inside later)⟩
    have kept' : Kept t base (fun q => ∃ other ∈ rest, names ++ [other] <+: q)
        ((visit (d.below (names ++ [entry]))).run s).state := by
      rw [first.state]
      exact (kept.mono fun q ⟨other, ho, hq⟩ => ⟨other, by simp [ho], hq⟩).settle_all files
    obtain ⟨zs, swept⟩ := first.andThen before fun _ =>
      ih ordered.2 (fun other ho => visits other (by simp [ho])) kept'
    exact ⟨zs, swept.congr (fun x _ => by simp) (fun p _ _ => by simp)⟩

/-- A walk goes no further where a directory cannot be listed. -/
theorem run_walk_of_refused {depth : Nat} {p : Path} {cause : Refusal}
    (refused : s.tree.list p = .error (.system (.refused cause (some p.text)))) :
    (pass.walk (depth + 1) p).run s = ⟨.error (.refused (.refused cause (some p.text))), s, []⟩ := by
  rw [walk, Action.run_bind_ok (Action.run_state s)]
  have unlisted : (Action.ofExcept (entriesOf s.tree p) : Action WalkFault Progress (List Path)).run s =
      ⟨.error (.refused (.refused cause (some p.text))), s, []⟩ := by
    simp [entriesOf, refused]
  rw [Action.run_bind_error unlisted]
  rfl

/-- A directory that can be listed holds no obstacle and no script but those of its entries. -/
theorem entry_of_obstacle (h : Setting pass o d base t) {entries : List String}
    (there : t.top.outlineAt (base ++ names) = some (.dir entries))
    (short : (d.below names).text.utf8ByteSize < Tree.pathLimit) (opened : t.locked (d.below names) = false)
    {p : List String} {cause : Refusal} (ho : Obstacle t d p cause) (below : names <+: p) :
    ∃ entry ∈ entries, names ++ [entry] <+: p := by
  by_cases hp : p = []
  · subst hp
    obtain rfl := List.prefix_nil.mp below
    have listed := Tree.list_below h.plain h.root (h.hasNull_below there) there short opened
    rw [Path.below_nil] at listed
    cases ho with
    | start refused => simp [listed] at refused
    | long _ inside => exact absurd rfl inside
    | locked _ inside => exact absurd rfl inside
  · obtain ⟨o', ho'⟩ := h.outlineAt_of_obstacle ho hp
    rcases Setting.below_entry there below ho' with rfl | entry
    · cases ho with
      | start => exact absurd rfl hp
      | long _ _ long => exact absurd long (Nat.not_le.mpr short)
      | locked _ _ _ locked => simp [opened] at locked
    · exact entry

/-- A directory that can be listed is walked to its end or to the first obstacle, since no names lead
deeper than the bytes of a path allow. -/
theorem walk_swept (h : Setting pass o d base t) (depth : Nat) {entries : List String}
    (there : t.top.outlineAt (base ++ names) = some (.dir entries))
    (short : (d.below names).text.utf8ByteSize < Tree.pathLimit)
    (deep : Tree.pathLimit ≤ depth + names.length) (opened : t.locked (d.below names) = false)
    (kept : Kept t base (names <+: ·) s) :
    ∃ xs, Swept o t d base (names <+: ·) s xs ((pass.walk depth (d.below names)).run s) := by
  induction depth generalizing names entries s with
  | zero =>
    have reach := Tree.length_le_size_below d (h.isName there)
    omega
  | succ depth ih =>
    have clean := h.hasNull_below there
    have root : s.tree.realPlace d = .ok base := (kept.realPlace d).trans h.root
    have there' := (kept.outline (base ++ names)).trans there
    have opened' : s.tree.locked (d.below names) = false := by rw [kept.locked, opened]
    have listed : s.tree.list (d.below names) = .ok entries :=
      Tree.list_below (kept.plain h.plain) root clean there' short opened'
    obtain ⟨nodup, named⟩ : entries.Nodup ∧ ∀ entry ∈ entries, isName entry = true := by
      simpa [Outline.isPlain] using h.plain _ _ there
    let sorted := entries.mergeSort (· ≤ ·)
    have hm : ∀ entry, entry ∈ sorted ↔ entry ∈ entries := fun entry =>
      (List.mergeSort_perm entries _).mem_iff
    have paths : entriesOf s.tree (d.below names) =
        .ok (sorted.map fun entry => d.below (names ++ [entry])) := by
      simp only [entriesOf, listed]
      refine congrArg Except.ok (List.map_congr_left fun entry he => ?_)
      rw [Tree.div_of_isName (named entry ((hm entry).mp he)), Path.below_below]
    rw [walk, Action.run_bind_ok (Action.run_state s), paths, Action.run_bind_ok (Action.run_ofExcept _ s)]
    have visits : ∀ entry ∈ sorted, ∀ s', Kept t base (names ++ [entry] <+: ·) s' →
        ∃ xs, Swept o t d base (names ++ [entry] <+: ·) s' xs
          ((pass.visit (pass.walk depth) (d.below (names ++ [entry]))).run s') := by
      intro entry he s' kept'
      obtain ⟨outline, hout⟩ := Tree.outlineAt_entry there ((hm entry).mp he)
      rw [List.append_assoc] at hout
      refine visit_swept h (by simp) hout kept' ?_
      rintro within rfl short'
      have reach := Tree.length_le_size_below d (h.isName hout)
      simp only [List.length_append, List.length_singleton] at reach deep
      cases hl : t.locked (d.below (names ++ [entry])) with
      | false => exact ih hout short' (by simp; omega) hl kept'
      | true =>
        obtain ⟨depth, rfl⟩ : ∃ k, depth = k + 1 := ⟨depth - 1, by omega⟩
        have refused := Tree.list_of_locked (h.hasNull_below hout) ((congrFun kept'.locked _).trans hl)
        rw [run_walk_of_refused refused]
        exact ⟨[], .blocked (List.prefix_refl _)
          (.locked ((h.outlineBelow _).trans hout) (by simp) short' hl) fun q => not_lt_of_isPrefix⟩
    have above : ∀ q : List String, (∃ entry ∈ sorted, names ++ [entry] <+: q) → names <+: q := by
      rintro q ⟨entry, -, hq⟩
      exact (List.prefix_append names [entry]).trans hq
    obtain ⟨xs, swept⟩ := each_swept h (pairwise_lt_mergeSort nodup) visits (kept.mono above)
    refine ⟨xs, Swept.congr ⟨swept.state, swept.ordered, swept.mem_iff, swept.ends⟩ ?_ ?_⟩
    · intro x stands
      refine ⟨above _, fun below => ?_⟩
      have file := h.outlineAt_of_standsIn stands
      rcases Setting.below_entry there below file with hx | ⟨entry, he, hx⟩
      · rw [hx, there] at file
        cases file
      · exact ⟨entry, (hm entry).mpr he, hx⟩
    · intro p cause ho
      refine ⟨above _, fun below => ?_⟩
      obtain ⟨entry, he, hp⟩ := entry_of_obstacle h there short opened ho below
      exact ⟨entry, (hm entry).mpr he, hp⟩

end Pass
end BundleForge.Hardening
