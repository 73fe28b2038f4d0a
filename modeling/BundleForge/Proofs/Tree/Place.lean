import BundleForge.Proofs.Tree.Outline
import Mathlib.Algebra.GroupWithZero.Nat

/-!
Where paths lead. Main statements: the rest of a path is followed from where its start leads; in a tree
without links a path below a directory leads to the place that it spells, unless it has too many bytes,
and what a listing and a question give there is told by the outline of the tree.
-/

namespace BundleForge

/-- The path of what stands below a directory. -/
def Path.below (d : Path) (names : List String) : Path := ⟨d.anchor, d.parts ++ names⟩

@[simp] theorem Path.below_nil (d : Path) : d.below [] = d := by simp [below]

theorem Path.below_below (d : Path) (names rest : List String) :
    (d.below names).below rest = d.below (names ++ rest) := by
  simp [below]

namespace Tree

/-- One step on the way of a path sees the outline of the tree only. -/
theorem walk_cons (top : Node) (links : Nat) (here : List String) (name : String) (rest : List String) :
    walk top links here (name :: rest) =
      match top.outlineAt here with
      | some (.dir _) =>
        if name = "" || name = "." then walk top links here rest
        else if name = ".." then walk top links here.dropLast rest
        else if nameLimit < name.utf8ByteSize then .error .nameTooLong
        else match top.outlineAt (here ++ [name]) with
          | none => if rest.isEmpty then .ok ⟨here ++ [name], false⟩ else .error .missing
          | some (.link target) =>
            match links with
            | 0 => .error .tooManyLinks
            | links + 1 =>
              let start := if target.toList.head? = some '/' then [] else here
              walk top links start (Text.pieces '/' target ++ rest)
          | some _ => walk top links (here ++ [name]) rest
      | _ => .error .notDirectory := by
  rw [walk.eq_def]
  cases hd : top.at? here with
  | none => simp [Node.outlineAt, hd]
  | some n =>
    cases n with
    | dir entries =>
      rw [Node.outlineAt_of_dir hd, Node.outlineAt_child_of_dir hd]
      cases hl : entries.lookup name with
      | none => simp only [hl, Option.map_none]
      | some c =>
        cases c with
        | link target =>
          cases links with
          | zero => simp only [hl, Option.map_some, Node.outline]
          | succ links => simp only [hl, Option.map_some, Node.outline]
        | file | dir => simp only [hl, Option.map_some, Node.outline]
    | file content => simp [Node.outlineAt, hd, Node.outline]
    | link target => simp [Node.outlineAt, hd, Node.outline]

theorem walk_eq_of_same {a b : Node} (same : ∀ place, a.outlineAt place = b.outlineAt place)
    (links : Nat) (here names : List String) :
    walk a links here names = walk b links here names := by
  fun_induction walk a links here names with
  | case1 => rw [walk]
  | case2 links here name rest entries hd skip ih =>
    rw [walk_cons, ← same, Node.outlineAt_of_dir hd, ih]
    simp [skip]
  | case3 links here rest entries hd skip ih =>
    rw [walk_cons, ← same, Node.outlineAt_of_dir hd, ih]
    simp
  | case4 links here name rest entries hd skip up long =>
    rw [walk_cons, ← same, Node.outlineAt_of_dir hd]
    simp [skip, up, long]
  | case5 links here name rest entries hd skip up long none last =>
    rw [walk_cons, ← same, ← same, Node.outlineAt_of_dir hd, Node.outlineAt_child_of_dir hd, none]
    simp [skip, up, long, last]
  | case6 links here name rest entries hd skip up long none last =>
    rw [walk_cons, ← same, ← same, Node.outlineAt_of_dir hd, Node.outlineAt_child_of_dir hd, none]
    simp [skip, up, long, last]
  | case7 here name rest entries hd skip up long target hl =>
    rw [walk_cons, ← same, ← same, Node.outlineAt_of_dir hd, Node.outlineAt_child_of_dir hd, hl]
    simp [skip, up, long, Node.outline]
  | case8 here name rest entries hd skip up long target hl links start ih =>
    rw [walk_cons, ← same, ← same, Node.outlineAt_of_dir hd, Node.outlineAt_child_of_dir hd, hl, ih]
    simp [skip, up, long, Node.outline, start]
  | case9 links here name rest entries hd skip up long child plain hl ih =>
    rw [walk_cons, ← same, ← same, Node.outlineAt_of_dir hd, Node.outlineAt_child_of_dir hd, hl, ih]
    cases child with
    | link target => exact absurd rfl (plain target)
    | file content => simp [skip, up, long, Node.outline]
    | dir entries => simp [skip, up, long, Node.outline]
  | case10 links here name rest other =>
    rw [walk_cons, ← same]
    cases hd : a.at? here with
    | none => simp [Node.outlineAt, hd]
    | some n =>
      cases n with
      | dir entries => exact absurd hd (other entries)
      | file | link => simp [Node.outlineAt, hd, Node.outline]

theorem piecesWhere_of_not_mem {c : Char} {cs : List Char} (h : c ∉ cs) :
    Text.piecesWhere (· == c) cs = [cs] := by
  induction cs with
  | nil => rfl
  | cons first rest ih =>
    simp only [List.mem_cons, not_or] at h
    simp [Text.piecesWhere, ih h.2, Ne.symm h.1]

theorem isName_iff {s : String} :
    isName s = true ↔ Path.isPart s = true ∧ s ≠ ".." ∧ '/' ∉ s.toList ∧ Char.ofNat 0 ∉ s.toList ∧
      s.utf8ByteSize ≤ nameLimit := by
  simp [isName, and_assoc]

/-- A name is followed to what stands under it. -/
theorem walk_name {top : Node} {here names : List String} {name : String} (named : isName name = true)
    (dir : top.outlineAt here = some (.dir names)) (links : Nat) (rest : List String) :
    walk top links here (name :: rest) =
      match top.outlineAt (here ++ [name]) with
      | none => if rest.isEmpty then .ok ⟨here ++ [name], false⟩ else .error .missing
      | some (.link target) =>
        match links with
        | 0 => .error .tooManyLinks
        | links + 1 =>
          let start := if target.toList.head? = some '/' then [] else here
          walk top links start (Text.pieces '/' target ++ rest)
      | some _ => walk top links (here ++ [name]) rest := by
  obtain ⟨part, up, -, -, short⟩ := isName_iff.mp named
  simp only [Path.isPart, ne_eq, decide_not, Bool.and_eq_true, Bool.not_eq_true',
    decide_eq_false_iff_not] at part
  rw [walk_cons, dir]
  simp only [part.1, part.2, decide_false, Bool.or_self, Bool.false_eq_true, up, if_false,
    Nat.not_lt.mpr short]

theorem walk_up {top : Node} {here names : List String} (dir : top.outlineAt here = some (.dir names))
    (links : Nat) (rest : List String) :
    walk top links here (".." :: rest) = walk top links here.dropLast rest := by
  rw [walk_cons, dir]
  simp

/-- A text without a slash is a path of one part, or of none where it says nothing. -/
theorem div_of_slashless {piece : String} (slashless : '/' ∉ piece.toList) (p : Path) :
    p / piece = p.below ([piece].filter Path.isPart) := by
  have relative : Path.anchorOf piece = .relative := by
    unfold Path.anchorOf
    cases hs : piece.toList with
    | nil => rfl
    | cons c cs =>
      have first : c ≠ '/' := by
        rintro rfl
        simp [hs] at slashless
      simp [first]
  have read : Path.ofString piece = ⟨.relative, [piece].filter Path.isPart⟩ := by
    simp [Path.ofString, relative, Path.partsOf, Text.pieces, piecesWhere_of_not_mem slashless]
  rw [Path.div_eq_join, read]
  rfl

/-- A name is a path of one part. -/
theorem div_of_isName {name : String} (h : isName name = true) (p : Path) : p / name = p.below [name] := by
  obtain ⟨part, -, slash, -, -⟩ := isName_iff.mp h
  rw [div_of_slashless slash, List.filter_cons_of_pos part, List.filter_nil]

theorem mem_intercalate {c : Char} {separator : List Char} (hc : c ∉ separator) {texts : List (List Char)} :
    c ∈ separator.intercalate texts ↔ ∃ text ∈ texts, c ∈ text := by
  induction texts with
  | nil => simp
  | cons text rest ih =>
    by_cases hr : rest = []
    · simp [hr]
    · rw [List.intercalate_cons_of_ne_nil hr]
      simp [hc, ih]

theorem hasNull_iff (p : Path) :
    hasNull p = true ↔ ∃ part ∈ p.parts, Char.ofNat 0 ∈ part.toList := by
  obtain ⟨anchor, parts⟩ := p
  have hs : Char.ofNat 0 ∉ "/".toList := by decide
  have ha : Char.ofNat 0 ∉ anchor.text.toList := by cases anchor <;> decide
  have joined : Char.ofNat 0 ∈ ("/".intercalate parts).toList ↔
      ∃ part ∈ parts, Char.ofNat 0 ∈ part.toList := by
    rw [String.toList_intercalate, mem_intercalate hs]
    simp
  unfold hasNull Path.text
  split
  · rename_i h
    simp only [Bool.and_eq_true, List.isEmpty_iff] at h
    rw [h.2]
    simp
  · rw [← joined]
    simp [ha]

/-- Names below a directory bring no null character into its path. -/
theorem hasNull_below {d : Path} (clean : hasNull d = false) {names : List String}
    (h : ∀ name ∈ names, isName name = true) : hasNull (d.below names) = false := by
  rw [Bool.eq_false_iff, ne_eq, hasNull_iff]
  rintro ⟨part, hp, null⟩
  rcases List.mem_append.mp hp with hp | hp
  · rw [Bool.eq_false_iff, ne_eq, hasNull_iff] at clean
    exact clean ⟨part, hp, null⟩
  · exact (isName_iff.mp (h part hp)).2.2.2.1 null

theorem sum_le_size_intercalate (parts : List String) :
    (parts.map String.utf8ByteSize).sum ≤ ("/".intercalate parts).utf8ByteSize := by
  induction parts with
  | nil => simp
  | cons part rest ih =>
    by_cases hr : rest = []
    · simp [hr]
    · rw [String.intercalate_cons_of_ne_nil hr]
      simp only [List.map_cons, List.sum_cons, String.utf8ByteSize_append]
      omega

theorem length_le_sum_of_isName {names : List String} (h : ∀ name ∈ names, isName name = true) :
    names.length ≤ (names.map String.utf8ByteSize).sum := by
  induction names with
  | nil => simp
  | cons name rest ih =>
    have part := (isName_iff.mp (h name (by simp))).1
    have hs : name.utf8ByteSize ≠ 0 := by
      rw [ne_eq, String.utf8ByteSize_eq_zero_iff]
      rintro rfl
      simp [Path.isPart] at part
    have later := ih fun other ho => h other (by simp [ho])
    simp only [List.length_cons, List.map_cons, List.sum_cons]
    omega

/-- Every name below a directory adds to the bytes of its path. -/
theorem length_le_size_below (d : Path) {names : List String} (h : ∀ name ∈ names, isName name = true) :
    names.length ≤ (d.below names).text.utf8ByteSize := by
  have joined := sum_le_size_intercalate (d.parts ++ names)
  have count := length_le_sum_of_isName h
  simp only [List.map_append, List.sum_append] at joined
  unfold Path.text
  split
  · rename_i hp
    simp only [Bool.and_eq_true, List.isEmpty_iff, Path.below, List.append_eq_nil_iff] at hp
    simp [hp.2.2]
  · simp only [Path.below, String.utf8ByteSize_append]
    omega

/-- What is below something stands in a directory, under one of its names. -/
theorem outlineAt_way {n : Node} {here rest : List String} {name : String} {o : Outline}
    (h : n.outlineAt (here ++ name :: rest) = some o) :
    ∃ names o', n.outlineAt here = some (.dir names) ∧ name ∈ names ∧
      n.outlineAt (here ++ [name]) = some o' := by
  rw [Node.outlineAt_append] at h
  cases ha : n.at? here with
  | none => simp [ha] at h
  | some c =>
    rw [ha, Option.bind_some, Node.outlineAt_cons] at h
    cases hc : c.child? name with
    | none => simp [hc] at h
    | some child =>
      cases c with
      | dir entries =>
        refine ⟨entries.map Prod.fst, child.outline, Node.outlineAt_of_dir ha, ?_, ?_⟩
        · rw [← Node.isSome_child?_iff (n := .dir entries) rfl, hc]
          rfl
        · rw [Node.outlineAt_child_of_dir ha]
          rw [show entries.lookup name = some child from hc]
          rfl
      | file | link => simp [Node.child?] at hc

/-- Under each of its names something stands in a directory. -/
theorem outlineAt_entry {n : Node} {here names : List String} {name : String}
    (h : n.outlineAt here = some (.dir names)) (hm : name ∈ names) :
    ∃ o, n.outlineAt (here ++ [name]) = some o := by
  obtain ⟨entries, ha, rfl⟩ := Node.at?_of_outlineAt_dir h
  rw [← Node.isSome_child?_iff (n := .dir entries) rfl, Option.isSome_iff_exists] at hm
  obtain ⟨child, hc⟩ := hm
  refine ⟨child.outline, ?_⟩
  rw [Node.outlineAt_child_of_dir ha, show entries.lookup name = some child from hc]
  rfl

theorem isName_of_plain {top : Node} (plain : top.Plain) {here names : List String} {o : Outline}
    (h : top.outlineAt (here ++ names) = some o) : ∀ name ∈ names, isName name = true := by
  induction names generalizing here with
  | nil => simp
  | cons name rest ih =>
    obtain ⟨siblings, -, hd, hm, -⟩ := outlineAt_way h
    have names := plain here _ hd
    simp only [Outline.isPlain, Bool.and_eq_true, List.all_eq_true] at names
    intro other ho
    rcases List.mem_cons.mp ho with rfl | ho
    · exact names.2 _ hm
    · exact @ih (here ++ [name]) (by simpa using h) other ho

/-- The rest of a path is followed from where its start leads, with the links that the start has left. -/
theorem walk_append {top : Node} {links : Nat} {here start place : List String}
    (h : walk top links here start = .ok ⟨place, true⟩) (rest : List String) :
    ∃ left, walk top links here (start ++ rest) = walk top left place rest := by
  fun_induction walk top links here start with
  | case1 links here =>
    obtain rfl : here = place := by simpa using h
    exact ⟨links, rfl⟩
  | case2 links here name later entries hd skip ih =>
    obtain ⟨left, hw⟩ := ih h
    refine ⟨left, ?_⟩
    rw [List.cons_append, walk_cons, Node.outlineAt_of_dir hd, ← hw]
    simp [skip]
  | case3 links here later entries hd skip ih =>
    obtain ⟨left, hw⟩ := ih h
    refine ⟨left, ?_⟩
    rw [List.cons_append, walk_cons, Node.outlineAt_of_dir hd, ← hw]
    simp
  | case8 here name later entries hd skip up long target hl links start ih =>
    obtain ⟨left, hw⟩ := ih h
    refine ⟨left, ?_⟩
    rw [List.cons_append, walk_cons, Node.outlineAt_of_dir hd, Node.outlineAt_child_of_dir hd, hl, ← hw]
    simp [skip, up, long, Node.outline, start]
  | case9 links here name later entries hd skip up long child plain hl ih =>
    obtain ⟨left, hw⟩ := ih h
    refine ⟨left, ?_⟩
    rw [List.cons_append, walk_cons, Node.outlineAt_of_dir hd, Node.outlineAt_child_of_dir hd, hl, ← hw]
    cases child with
    | link target => exact absurd rfl (plain target)
    | file content => simp [skip, up, long, Node.outline]
    | dir entries => simp [skip, up, long, Node.outline]
  | case4 | case5 | case6 | case7 | case10 => simp at h

/-- Names that stand below one another lead where they spell. -/
theorem walk_down {top : Node} (plain : top.Plain) (links : Nat) {here names : List String} {o : Outline}
    (h : top.outlineAt (here ++ names) = some o) :
    walk top links here names = .ok ⟨here ++ names, true⟩ := by
  induction names generalizing here with
  | nil => simp [walk]
  | cons name rest ih =>
    obtain ⟨siblings, o', hd, -, hc⟩ := outlineAt_way h
    have later := @ih (here ++ [name]) (by simpa using h)
    rw [walk_name (isName_of_plain plain h name (by simp)) hd, hc]
    cases o' with
    | link target => exact absurd (plain _ _ hc) (by simp [Outline.isPlain])
    | file | dir => simpa using later

section

variable {t : Tree} {p : Path} {place : List String} {content : List UInt8}

theorem spot_of_realPlace (h : t.realPlace p = .ok place) :
    p.text.utf8ByteSize < pathLimit ∧ walk t.top linkLimit [] p.parts = .ok ⟨place, true⟩ := by
  unfold realPlace spot at h
  split at h
  · simp at h
  · rename_i s hs
    split at hs
    · simp at hs
    · rename_i short
      split at h
      · rename_i found
        obtain ⟨led, there⟩ := s
        simp_all
      · simp at h

theorem realPlace_of_walk (short : p.text.utf8ByteSize < pathLimit)
    (h : walk t.top linkLimit [] p.parts = .ok ⟨place, true⟩) : t.realPlace p = .ok place := by
  simp [realPlace, spot, Nat.not_le.mpr short, h]

theorem node_of_realPlace (leads : t.realPlace p = .ok place) {n : Node} (h : t.top.at? place = some n) :
    t.node p = .ok n := by
  simp [node, leads, h]

theorem list_of_realPlace (clean : hasNull p = false) (leads : t.realPlace p = .ok place)
    {entries : List String} (h : t.top.outlineAt place = some (.dir entries))
    (opened : t.locked p = false) : t.list p = .ok entries := by
  obtain ⟨nodes, hn, rfl⟩ := Node.at?_of_outlineAt_dir h
  simp [list, clean, opened, node_of_realPlace leads hn]

theorem readText_of_realPlace (clean : hasNull p = false) (leads : t.realPlace p = .ok place)
    (h : t.top.contentAt place = some content) : t.readText p = decodeText content := by
  simp [readText, readBytes, clean, node_of_realPlace leads (Node.at?_of_contentAt h)]

theorem writeText_of_realPlace (clean : hasNull p = false) (leads : t.realPlace p = .ok place)
    (h : t.top.contentAt place = some content) (text : String) :
    t.writeText p text = .ok (t.setAt place (.file (Text.Utf8.encode text))) := by
  have hs : t.spot p = .ok ⟨place, true⟩ := by
    obtain ⟨short, hw⟩ := spot_of_realPlace leads
    rw [spot, if_neg (Nat.not_le.mpr short), hw]
  simp [writeText, write, clean, hs, Node.at?_of_contentAt h, Node.isDirNode]

end

section

variable {t : Tree} {d : Path} {base names : List String} {o : Outline}

/-- A path below a directory leads to the place that it spells, where anything stands there. -/
theorem spot_below (plain : t.top.Plain) (root : t.realPlace d = .ok base)
    (h : t.top.outlineAt (base ++ names) = some o)
    (short : (d.below names).text.utf8ByteSize < pathLimit) :
    t.spot (d.below names) = .ok ⟨base ++ names, true⟩ := by
  obtain ⟨-, hw⟩ := spot_of_realPlace root
  obtain ⟨left, onwards⟩ := walk_append hw names
  rw [spot, if_neg (Nat.not_le.mpr short), Path.below, onwards, walk_down plain left h]

theorem realPlace_below (plain : t.top.Plain) (root : t.realPlace d = .ok base)
    (h : t.top.outlineAt (base ++ names) = some o)
    (short : (d.below names).text.utf8ByteSize < pathLimit) :
    t.realPlace (d.below names) = .ok (base ++ names) := by
  simp [realPlace, spot_below plain root h short]

theorem node_below (plain : t.top.Plain) (root : t.realPlace d = .ok base) {n : Node}
    (h : t.top.at? (base ++ names) = some n)
    (short : (d.below names).text.utf8ByteSize < pathLimit) : t.node (d.below names) = .ok n := by
  have ho : t.top.outlineAt (base ++ names) = some n.outline := by simp [Node.outlineAt, h]
  simp [node, realPlace_below plain root ho short, h]

theorem node_below_of_long (long : pathLimit ≤ (d.below names).text.utf8ByteSize) :
    t.node (d.below names) = .error .nameTooLong := by
  simp [node, realPlace, spot, long]

theorem ask_below (plain : t.top.Plain) (root : t.realPlace d = .ok base)
    (clean : hasNull (d.below names) = false) (h : t.top.outlineAt (base ++ names) = some o)
    (short : (d.below names).text.utf8ByteSize < pathLimit) :
    t.isDir (d.below names) = .ok o.isDir ∧ t.isFile (d.below names) = .ok o.isFile := by
  obtain ⟨n, hn, rfl⟩ : ∃ n, t.top.at? (base ++ names) = some n ∧ n.outline = o := by
    simpa [Node.outlineAt] using h
  have hnode := node_below plain root hn short
  simp [isDir, isFile, ask, clean, hnode, Node.isDirNode_eq, Node.isFileNode_eq]

theorem ask_below_of_long (question : Node → Bool) (clean : hasNull (d.below names) = false)
    (long : pathLimit ≤ (d.below names).text.utf8ByteSize) :
    t.ask question (d.below names) = .error (.refused .nameTooLong (some (d.below names).text)) := by
  simp [ask, clean, node_below_of_long long, Refusal.isAbsence]

theorem list_below (plain : t.top.Plain) (root : t.realPlace d = .ok base)
    (clean : hasNull (d.below names) = false) {entries : List String}
    (h : t.top.outlineAt (base ++ names) = some (.dir entries))
    (short : (d.below names).text.utf8ByteSize < pathLimit) (opened : t.locked (d.below names) = false) :
    t.list (d.below names) = .ok entries :=
  list_of_realPlace clean (realPlace_below plain root h short) h opened

theorem list_of_locked {p : Path} (clean : hasNull p = false) (h : t.locked p = true) :
    t.list p = .error (.system (.refused .denied (some p.text))) := by
  simp [list, clean, h]

end

/-- A directory can be listed, or the listing is refused. -/
theorem list_cases (t : Tree) {d : Path} (clean : hasNull d = false) :
    (∃ cause, t.list d = .error (.system (.refused cause (some d.text)))) ∨
      ∃ base entries, t.realPlace d = .ok base ∧ t.top.outlineAt base = some (.dir entries) ∧
        t.list d = .ok entries ∧ t.locked d = false := by
  unfold list
  simp only [clean, Bool.false_eq_true, if_false]
  cases hl : t.locked d with
  | true => exact .inl ⟨.denied, rfl⟩
  | false =>
    simp only [Bool.false_eq_true, if_false]
    unfold node
    cases hr : t.realPlace d with
    | error cause => exact .inl ⟨cause, rfl⟩
    | ok base =>
      dsimp only
      cases ha : t.top.at? base with
      | none => exact .inl ⟨.missing, rfl⟩
      | some n =>
        cases n with
        | dir entries =>
          exact .inr ⟨base, entries.map Prod.fst, rfl, Node.outlineAt_of_dir ha, rfl, trivial⟩
        | file | link => exact .inl ⟨.notDirectory, rfl⟩

/-- A path leads to the same place in every tree of one outline. -/
theorem realPlace_eq_of_same {a b : Tree} (same : ∀ place, a.top.outlineAt place = b.top.outlineAt place)
    (p : Path) : a.realPlace p = b.realPlace p := by
  simp only [realPlace, spot, walk_eq_of_same same]

section

variable {a b : Tree} {p : Path}

/-- A listing is told by the outline of what stands at a path. -/
theorem list_eq_of_outline (node : (a.node p).map Node.outline = (b.node p).map Node.outline)
    (locked : a.locked = b.locked) : a.list p = b.list p := by
  unfold list
  rw [locked]
  cases ha : a.node p with
  | error cause =>
    cases hb : b.node p with
    | error cause' => simp_all [Except.map]
    | ok n => simp [ha, hb, Except.map] at node
  | ok m =>
    cases hb : b.node p with
    | error cause => simp [ha, hb, Except.map] at node
    | ok n => cases m <;> cases n <;> simp_all [Except.map, Node.outline]

/-- So is the answer to a question that asks for no more. -/
theorem ask_eq_of_outline (node : (a.node p).map Node.outline = (b.node p).map Node.outline)
    {question : Node → Bool} (outlined : ∀ m n : Node, m.outline = n.outline → question m = question n) :
    a.ask question p = b.ask question p := by
  unfold ask
  cases ha : a.node p with
  | error cause =>
    cases hb : b.node p with
    | error cause' => simp_all [Except.map]
    | ok n => simp [ha, hb, Except.map] at node
  | ok m =>
    cases hb : b.node p with
    | error cause => simp [ha, hb, Except.map] at node
    | ok n =>
      have same : m.outline = n.outline := by simpa [ha, hb, Except.map] using node
      simp only [outlined m n same]

/-- What stands at a path is of the same outline in every tree of one outline. -/
theorem outline_node_of_same (same : ∀ place, a.top.outlineAt place = b.top.outlineAt place) (p : Path) :
    (a.node p).map Node.outline = (b.node p).map Node.outline := by
  unfold node
  rw [realPlace_eq_of_same same p]
  cases b.realPlace p with
  | error cause => rfl
  | ok place =>
    have outlines := same place
    unfold Node.outlineAt at outlines
    cases ha : a.top.at? place <;> cases hb : b.top.at? place <;> simp_all [Except.map]

end

end Tree
end BundleForge
