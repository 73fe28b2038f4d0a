import BundleForge.Proofs.Tree.Edit
import BundleForge.Proofs.Tree.Route

/-!
Trees without links that are alike but for what stands at one place and below it. Main statements: a
path that spells another place leads to the same in both, if the directories at which it turns are in
both; a node that is put or taken away somewhere else leaves them alike, and one that is put or taken
away there leaves a tree alike to itself, with all its other directories.
-/

namespace BundleForge

/-- Two places, neither of which is the other or below it. -/
def Apart (x y : List String) : Prop := ¬ x <+: y ∧ ¬ y <+: x

instance (x y : List String) : Decidable (Apart x y) := inferInstanceAs (Decidable (_ ∧ _))

namespace Apart

variable {x y z : List String}

theorem symm (h : Apart x y) : Apart y x := ⟨h.2, h.1⟩

theorem below (h : Apart x y) (below : y <+: z) : Apart x z := by
  refine ⟨fun hx => ?_, fun hz => h.2 (below.trans hz)⟩
  rcases List.prefix_or_prefix_of_prefix hx below with hxy | hyx
  · exact h.1 hxy
  · exact h.2 hyx

end Apart

/-- A directory stays one, unless it is the entry that is changed or stands in it. -/
theorem Node.Edited.isDirAt {here w : List String} {name : String} {new : Option Node} {a b : Node}
    (h : Edited here name new a b) (outside : ¬ here ++ [name] <+: w) (dir : a.isDirAt w = true) :
    b.isDirAt w = true := by
  by_cases same : w = here
  · subst same
    obtain ⟨names, -, after⟩ := h.dir
    exact isDirAt_iff.mpr ⟨_, after⟩
  · rwa [Node.isDirAt, h.outlines w outside same]

namespace Tree

/-- Trees without links that are alike but for what stands at a place and below it. -/
structure Alike (area : List String) (a b : Tree) : Prop where
  plain : a.top.Plain
  plain' : b.top.Plain
  contents : ∀ x, ¬ area <+: x → a.top.contentAt x = b.top.contentAt x
  outlines : ∀ x, Apart area x → a.top.outlineAt x = b.top.outlineAt x
  locked : a.locked = b.locked

namespace Alike

variable {area : List String} {a b c : Tree}

theorem refl (plain : a.top.Plain) : Alike area a a := ⟨plain, plain, fun _ _ => rfl, fun _ _ => rfl, rfl⟩

theorem symm (h : Alike area a b) : Alike area b a :=
  ⟨h.plain', h.plain, fun x hx => (h.contents x hx).symm, fun x hx => (h.outlines x hx).symm, h.locked.symm⟩

theorem trans (h : Alike area a b) (later : Alike area b c) : Alike area a c :=
  ⟨h.plain, later.plain', fun x hx => (h.contents x hx).trans (later.contents x hx),
    fun x hx => (h.outlines x hx).trans (later.outlines x hx), h.locked.trans later.locked⟩

theorem isDirAt_eq (h : Alike area a b) {x : List String} (apart : Apart area x) :
    a.top.isDirAt x = b.top.isDirAt x := by
  rw [Node.isDirAt, Node.isDirAt, h.outlines x apart]

theorem wayFault_eq (h : Alike area a b) {x : List String} (outside : ¬ area <+: x) :
    a.top.wayFault x = b.top.wayFault x :=
  Node.wayFault_congr fun way above => h.contents way fun below => outside (below.trans above)

/-- Parts lead the same in both, if their turns stand the same. -/
theorem arrive_eq (h : Alike area a b) {here parts : List String}
    (stand : ∀ w ∈ Path.turnsFrom here parts, ¬ area <+: w ∧ a.top.isDirAt w = b.top.isDirAt w)
    (apart : Apart area (parts.foldl Path.onward here)) :
    arrive a.top here parts = arrive b.top here parts := by
  induction parts generalizing here with
  | nil =>
    rw [List.foldl_nil] at apart
    rw [arrive, arrive, h.outlines here apart, h.wayFault_eq apart.1]
  | cons part rest ih =>
    rw [arrive, arrive]
    rw [Path.turnsFrom] at stand
    split
    · rename_i turn
      rw [if_pos turn] at stand
      obtain ⟨outside, same⟩ := stand here (by simp)
      rw [← same, h.wayFault_eq outside, ih (fun w hw => stand w (List.mem_cons_of_mem _ hw)) apart]
    · rename_i on
      rw [if_neg on] at stand
      exact ih stand apart

/-- The same bytes in a file that stands in both. -/
theorem file_both (h : Alike area a b) {place : List String} {old old' : List UInt8}
    (file : a.top.contentAt place = some old) (file' : b.top.contentAt place = some old')
    (new : List UInt8) : Alike area (a.setAt place (.file new)) (b.setAt place (.file new)) := by
  have outlines := Node.outlineAt_setAt file new
  have outlines' := Node.outlineAt_setAt file' new
  refine ⟨fun x o ho => h.plain x o ((outlines x).symm.trans ho),
    fun x o ho => h.plain' x o ((outlines' x).symm.trans ho), fun x outside => ?_, fun x apart => ?_,
    h.locked⟩
  · exact (Node.contentAt_setAt file new x).trans
      (.trans (by rw [h.contents x outside]) (Node.contentAt_setAt file' new x).symm)
  · exact (outlines x).trans ((h.outlines x apart).trans (outlines' x).symm)

/-- The same change in both, somewhere else. -/
theorem edited_both (h : Alike area a b) {here : List String} {name : String} {new : Option Node}
    {n n' : Node} (edited : a.top.Edited here name new n) (edited' : b.top.Edited here name new n')
    (plain : n.Plain) (plain' : n'.Plain) :
    Alike area { a with top := n } { b with top := n' } := by
  refine ⟨plain, plain', fun x outside => ?_, fun x apart => ?_, h.locked⟩
  · by_cases inside : here ++ [name] <+: x
    · obtain ⟨rest, rfl⟩ := inside
      rw [List.append_assoc, List.singleton_append, edited.content_inside, edited'.content_inside]
    · exact (edited.contents x inside).trans ((h.contents x outside).trans (edited'.contents x inside).symm)
  · by_cases inside : here ++ [name] <+: x
    · obtain ⟨rest, rfl⟩ := inside
      rw [List.append_assoc, List.singleton_append, edited.outline_inside, edited'.outline_inside]
    by_cases at_dir : x = here
    · subst at_dir
      obtain ⟨names, before, after⟩ := edited.dir
      obtain ⟨names', before', after'⟩ := edited'.dir
      have same := h.outlines x apart
      rw [before, before'] at same
      cases same
      exact after.trans after'.symm
    · exact (edited.outlines x inside at_dir).trans
        ((h.outlines x apart).trans (edited'.outlines x inside at_dir).symm)

end Alike

/-- What a change that stays below a place makes of a tree: all else is alike, and the directories that
stand elsewhere stay there. -/
structure Spares (own : List String) (a b : Tree) : Prop extends Alike own a b where
  dirs : ∀ w, ¬ own <+: w → a.top.isDirAt w = true → b.top.isDirAt w = true

namespace Spares

variable {own : List String} {a b c : Tree}

theorem refl (plain : a.top.Plain) : Spares own a a := ⟨.refl plain, fun _ _ dir => dir⟩

theorem trans (h : Spares own a b) (later : Spares own b c) : Spares own a c :=
  ⟨h.toAlike.trans later.toAlike, fun w outside dir => later.dirs w outside (h.dirs w outside dir)⟩

/-- All of a tree is at the top or below it. -/
theorem of_top (plain : a.top.Plain) (plain' : b.top.Plain) (locked : a.locked = b.locked) :
    Spares [] a b :=
  ⟨⟨plain, plain', fun _ hx => absurd List.nil_prefix hx, fun _ hx => absurd List.nil_prefix hx.1, locked⟩,
    fun _ hw => absurd List.nil_prefix hw⟩

/-- Other bytes in a file at a place or below it. -/
theorem of_file (plain : a.top.Plain) {place : List String} {old : List UInt8}
    (file : a.top.contentAt place = some old) (below : own <+: place) (new : List UInt8) :
    Spares own a (a.setAt place (.file new)) := by
  have outlines := Node.outlineAt_setAt file new
  refine ⟨⟨plain, fun x o ho => plain x o ((outlines x).symm.trans ho), fun x outside => ?_,
    fun x _ => (outlines x).symm, rfl⟩, fun w _ dir => (congrArg _ (outlines w)).trans dir⟩
  have elsewhere : x ≠ place := by
    rintro rfl
    exact outside below
  exact ((Node.contentAt_setAt file new x).trans (if_neg elsewhere)).symm

section

variable {here : List String} {name : String} {new : Option Node} {n : Node}

/-- A change at a place or below it. -/
theorem of_edited (plain : a.top.Plain) (edited : a.top.Edited here name new n) (plain' : n.Plain)
    (below : own <+: here ++ [name]) : Spares own a { a with top := n } := by
  refine ⟨⟨plain, plain', fun x outside => ?_, fun x apart => ?_, rfl⟩, fun w outside dir => ?_⟩
  · exact (edited.contents x fun inside => outside (below.trans inside)).symm
  · refine (edited.outlines x (fun inside => apart.1 (below.trans inside)) ?_).symm
    rintro rfl
    rcases List.prefix_concat_iff.mp below with rfl | above
    · exact apart.2 (List.prefix_append ..)
    · exact apart.1 above
  · exact edited.isDirAt (fun inside => outside (below.trans inside)) dir

/-- A directory that is made on the way to a place. -/
theorem of_dirMade (plain : a.top.Plain) (edited : a.top.Edited here name (some (.dir [])) n)
    (plain' : n.Plain) (absent : a.top.outlineAt (here ++ [name]) = none) (above : here ++ [name] <+: own) :
    Spares own a { a with top := n } := by
  refine ⟨⟨plain, plain', fun x outside => ?_, fun x apart => ?_, rfl⟩, fun w _ dir => ?_⟩
  · by_cases inside : here ++ [name] <+: x
    · rw [Node.contentAt_of_absent (Node.outlineAt_of_absent absent inside)]
      obtain ⟨rest, rfl⟩ := inside
      rw [List.append_assoc, List.singleton_append, edited.content_inside]
      cases rest <;> simp [Node.contentAt, Node.content?, Node.at?, Node.child?]
    · exact (edited.contents x inside).symm
  · by_cases inside : here ++ [name] <+: x
    · rw [Node.outlineAt_of_absent absent inside]
      obtain ⟨rest, rfl⟩ := inside
      cases rest with
      | nil => exact absurd (by simpa using above) apart.2
      | cons next rest =>
        rw [List.append_assoc, List.singleton_append, edited.outline_inside]
        simp [Node.outlineAt_cons, Node.child?]
    · refine (edited.outlines x inside ?_).symm
      rintro rfl
      exact apart.2 ((List.prefix_append ..).trans above)
  · refine edited.isDirAt (fun inside => ?_) dir
    obtain ⟨names, stands⟩ := Node.isDirAt_iff.mp dir
    rw [Node.outlineAt_of_absent absent inside] at stands
    cases stands

end

end Spares

/-- Trees that are alike but for what stands at a place and below it. The given turns are not there, and
those on the way there are directories in both. -/
structure Matched (area : List String) (turns : List (List String)) (a b : Tree) : Prop
    extends Alike area a b where
  outside : ∀ w ∈ turns, ¬ area <+: w
  above : ∀ w ∈ turns, w <+: area → a.top.isDirAt w = true ∧ b.top.isDirAt w = true

namespace Matched

variable {area : List String} {turns : List (List String)} {a b : Tree} {p : Path}

theorem isDirAt_eq (h : Matched area turns a b) {w : List String} (among : w ∈ turns) :
    a.top.isDirAt w = b.top.isDirAt w := by
  by_cases above : w <+: area
  · obtain ⟨first, second⟩ := h.above w among above
    rw [first, second]
  · exact h.toAlike.isDirAt_eq ⟨h.outside w among, above⟩

section

variable (h : Matched area turns a b) (among : ∀ w ∈ p.turns, w ∈ turns) (apart : Apart area p.place)

include h among apart

theorem realPlace_eq : a.realPlace p = b.realPlace p := by
  rw [realPlace_eq_arrive h.plain, realPlace_eq_arrive h.plain',
    h.arrive_eq (fun w hw => ⟨h.outside w (among w hw), h.isDirAt_eq (among w hw)⟩) apart]

/-- What stands at a path is of one outline in both, and has the same bytes if it is a file. -/
theorem node_cases :
    (∃ cause, a.node p = .error cause ∧ b.node p = .error cause) ∨
      ∃ m n, a.node p = .ok m ∧ b.node p = .ok n ∧ m.outline = n.outline ∧ m.content? = n.content? := by
  have hr := h.realPlace_eq among apart
  unfold node
  cases ha : a.realPlace p with
  | error cause => exact .inl ⟨cause, rfl, by rw [← hr, ha]⟩
  | ok place =>
    obtain rfl := eq_of_realPlace h.plain ha
    have outlines := h.outlines _ apart
    have contents := h.contents _ apart.1
    rw [← hr, ha]
    dsimp only
    unfold Node.outlineAt at outlines
    unfold Node.contentAt at contents
    cases hm : a.top.at? p.place <;> cases hn : b.top.at? p.place <;> simp_all

theorem outline_node_eq : (a.node p).map Node.outline = (b.node p).map Node.outline := by
  rcases h.node_cases among apart with ⟨cause, ha, hb⟩ | ⟨m, n, ha, hb, outline, -⟩
  · rw [ha, hb]
  · rw [ha, hb, Except.map, Except.map, outline]

theorem list_eq : a.list p = b.list p := list_eq_of_outline (h.outline_node_eq among apart) h.locked

theorem ask_eq {question : Node → Bool}
    (outlined : ∀ m n : Node, m.outline = n.outline → question m = question n) :
    a.ask question p = b.ask question p :=
  ask_eq_of_outline (h.outline_node_eq among apart) outlined

theorem isDir_eq : a.isDir p = b.isDir p :=
  h.ask_eq among apart fun m n same => by rw [Node.isDirNode_eq, Node.isDirNode_eq, same]

theorem isFile_eq : a.isFile p = b.isFile p :=
  h.ask_eq among apart fun m n same => by rw [Node.isFileNode_eq, Node.isFileNode_eq, same]

theorem readText_eq : a.readText p = b.readText p := by
  unfold readText readBytes
  rcases h.node_cases among apart with ⟨cause, ha, hb⟩ | ⟨m, n, ha, hb, outline, content⟩
  · rw [ha, hb]
  · rw [ha, hb]
    cases m <;> cases n <;> simp_all [Node.outline, Node.content?]

end

variable {a' b' : Tree} {own : List String}

/-- Changes in both that take no directory away on which a turn depends. -/
theorem of_spared (h : Matched area turns a b) (alike : Alike area a' b') (first : Spares own a a')
    (second : Spares own b b') (clear : ∀ w ∈ turns, w <+: area → ¬ own <+: w) : Matched area turns a' b' :=
  ⟨alike, h.outside, fun w hw above =>
    have ⟨dir, dir'⟩ := h.above w hw above
    have outside := clear w hw above
    ⟨first.dirs w outside dir, second.dirs w outside dir'⟩⟩

/-- Any changes there. -/
theorem spared (h : Matched area turns a b) (first : Spares area a a') (second : Spares area b b') :
    Matched area turns a' b' :=
  have alike := first.toAlike.symm.trans (h.toAlike.trans second.toAlike)
  h.of_spared alike first second fun w hw _ => h.outside w hw

/-- Changes somewhere else that leave both alike. -/
theorem spared_apart (h : Matched area turns a b) (apart : Apart area own) (alike : Alike area a' b')
    (first : Spares own a a') (second : Spares own b b') : Matched area turns a' b' :=
  h.of_spared alike first second fun _ _ above inside => apart.2 (inside.trans above)

end Matched

/-- Nothing is asked of any turn. -/
theorem Alike.matched {area : List String} {a b : Tree} (h : Alike area a b) : Matched area [] a b :=
  ⟨h, by simp, by simp⟩

end Tree
end BundleForge
