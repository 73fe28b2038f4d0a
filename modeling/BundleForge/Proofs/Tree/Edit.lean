import BundleForge.Proofs.Tree.Place

/-!
One entry of a directory put there, replaced or taken away. Main statements: putting a node at a place
and taking one away change the names of one directory and what stands under one of them, and nothing
else; a tree without links stays one.
-/

namespace BundleForge

/-- The names in a directory after something new is put under a name, or what was there is taken away. -/
def namesAfter (name : String) (new : Option Node) (names : List String) : List String :=
  match new with
  | some _ => if name ∈ names then names else names ++ [name]
  | none => names.filter fun other => !(other == name)

namespace Node

/-- What stands under one name of a directory is something new, or nothing; all else is as it was. -/
structure Edited (here : List String) (name : String) (new : Option Node) (a b : Node) : Prop where
  dir : ∃ names, a.outlineAt here = some (.dir names) ∧
    b.outlineAt here = some (.dir (namesAfter name new names))
  inside : ∀ rest, b.at? (here ++ name :: rest) = new.bind fun n => n.at? rest
  contents : ∀ x, ¬ here ++ [name] <+: x → b.contentAt x = a.contentAt x
  outlines : ∀ x, ¬ here ++ [name] <+: x → x ≠ here → b.outlineAt x = a.outlineAt x

theorem lookup_drop (name : String) (entries : List (String × Node)) :
    (Entries.drop name entries).lookup name = none := by
  rw [List.lookup_eq_none_iff]
  intro entry he
  have := (List.mem_filter.mp he).2
  simpa [bne_iff_ne, ne_comm] using this

theorem lookup_drop_of_ne {name other : String} (h : other ≠ name) (entries : List (String × Node)) :
    (Entries.drop name entries).lookup other = entries.lookup other := by
  induction entries with
  | nil => rfl
  | cons entry rest ih =>
    obtain ⟨first, node⟩ := entry
    unfold Entries.drop at ih ⊢
    by_cases hf : first = name
    · subst hf
      have ho : (other == first) = false := by simp [h]
      simpa [List.lookup_cons, ho] using ih
    · by_cases ho : other = first
      · subst ho
        simp [hf]
      · simp [hf, List.lookup_cons, ih]

/-- In a directory of its own, by the entries it has afterwards. -/
theorem edited_of_lookup {entries after : List (String × Node)} {name : String} {new : Option Node}
    (names : after.map Prod.fst = namesAfter name new (entries.map Prod.fst))
    (there : after.lookup name = new)
    (others : ∀ other, other ≠ name → after.lookup other = entries.lookup other) :
    Edited [] name new (.dir entries) (.dir after) := by
  refine ⟨⟨entries.map Prod.fst, rfl, ?_⟩, ?_, ?_, ?_⟩
  · simp [outlineAt, outline, names]
  · intro rest
    rw [List.nil_append, at?_cons, child?, there]
  · intro x outside
    cases x with
    | nil => rfl
    | cons first rest =>
      have hf : first ≠ name := by
        rintro rfl
        exact outside (List.prefix_append [first] rest)
      rw [contentAt_cons, contentAt_cons, child?, child?, others first hf]
  · intro x outside hx
    cases x with
    | nil => exact absurd rfl hx
    | cons first rest =>
      have hf : first ≠ name := by
        rintro rfl
        exact outside (List.prefix_append [first] rest)
      rw [outlineAt_cons, outlineAt_cons, child?, child?, others first hf]

/-- In a directory of an entry. -/
theorem Edited.under {here : List String} {name first : String} {new : Option Node} {c c' : Node}
    (h : Edited here name new c c') {entries : List (String × Node)} (hl : entries.lookup first = some c) :
    Edited (first :: here) name new (.dir entries) (.dir (Entries.put first c' entries)) := by
  have hn : first ∈ entries.map Prod.fst := by
    rw [← isSome_child?_iff (n := .dir entries) rfl, child?, hl]
    rfl
  obtain ⟨names, before, after⟩ := h.dir
  refine ⟨⟨names, ?_, ?_⟩, ?_, ?_, ?_⟩
  · rwa [outlineAt_cons, child?, hl]
  · rwa [outlineAt_cons, child?, Entries.lookup_put]
  · intro rest
    rw [List.cons_append, at?_cons, child?, Entries.lookup_put]
    exact h.inside rest
  · intro x outside
    cases x with
    | nil => rfl
    | cons other rest =>
      rw [contentAt_cons, contentAt_cons, child?, child?]
      by_cases ho : other = first
      · subst ho
        rw [Entries.lookup_put, hl]
        exact h.contents rest fun inside => outside (by simpa using inside)
      · rw [Entries.lookup_put_of_ne ho]
  · intro x outside hx
    cases x with
    | nil => simp [outlineAt, outline, Entries.names_put, hn]
    | cons other rest =>
      rw [outlineAt_cons, outlineAt_cons, child?, child?]
      by_cases ho : other = first
      · subst ho
        rw [Entries.lookup_put, hl]
        exact h.outlines rest (fun inside => outside (by simpa using inside)) fun same => hx (by rw [same])
      · rw [Entries.lookup_put_of_ne ho]

/-- A place below an entry of a directory, and what the entry is. -/
theorem entry_of_outlineAt_cons {n : Node} {first : String} {rest : List String} {o : Outline}
    (h : n.outlineAt (first :: rest) = some o) :
    ∃ entries c, n = .dir entries ∧ entries.lookup first = some c ∧ c.outlineAt rest = some o := by
  rw [outlineAt_cons] at h
  cases n with
  | dir entries =>
    cases hl : entries.lookup first with
    | none => simp [child?, hl] at h
    | some c => exact ⟨entries, c, rfl, hl, by simpa [child?, hl] using h⟩
  | file | link => simp [child?] at h

theorem edited_setAt {n : Node} {here names : List String} (dir : n.outlineAt here = some (.dir names))
    (name : String) (new : Node) : Edited here name (some new) n (setAt new (here ++ [name]) n) := by
  induction here generalizing n with
  | nil =>
    cases n with
    | dir entries =>
      refine edited_of_lookup ?_ (Entries.lookup_put ..) fun other ho => Entries.lookup_put_of_ne ho _ _
      rw [Entries.names_put]
      rfl
    | file | link => cases dir
  | cons first here ih =>
    obtain ⟨entries, c, rfl, hl, hc⟩ := entry_of_outlineAt_cons dir
    have edited := (ih hc).under hl
    simpa [setAt, hl] using edited

theorem edited_removeAt {n : Node} {here names : List String} (dir : n.outlineAt here = some (.dir names))
    (name : String) : Edited here name none n (removeAt (here ++ [name]) n) := by
  induction here generalizing n with
  | nil =>
    cases n with
    | dir entries =>
      refine edited_of_lookup ?_ (lookup_drop name entries) fun other ho => lookup_drop_of_ne ho entries
      simp [namesAfter, Entries.drop, List.filter_map, Function.comp_def]
    | file | link => cases dir
  | cons first here ih =>
    obtain ⟨entries, c, rfl, hl, hc⟩ := entry_of_outlineAt_cons dir
    have edited := (ih hc).under hl
    have step : removeAt (first :: here ++ [name]) (.dir entries) =
        .dir (Entries.put first (removeAt (here ++ [name]) c) entries) := by
      cases here <;> simp [removeAt, hl]
    rwa [step]

namespace Edited

variable {here : List String} {name : String} {new : Option Node} {a b : Node}

theorem outline_inside (h : Edited here name new a b) (rest : List String) :
    b.outlineAt (here ++ name :: rest) = new.bind fun n => n.outlineAt rest := by
  rw [outlineAt, h.inside]
  cases new <;> rfl

theorem content_inside (h : Edited here name new a b) (rest : List String) :
    b.contentAt (here ++ name :: rest) = new.bind fun n => n.contentAt rest := by
  rw [contentAt, h.inside]
  cases new <;> rfl

theorem plain (h : Edited here name new a b) (plain : a.Plain) (named : isName name = true)
    (plain' : ∀ n, new = some n → n.Plain) : b.Plain := by
  intro x o ho
  by_cases inside : here ++ [name] <+: x
  · obtain ⟨rest, rfl⟩ := inside
    rw [List.append_assoc, List.singleton_append, h.outline_inside] at ho
    cases new with
    | none => cases ho
    | some n => exact plain' n rfl rest o ho
  by_cases hx : x = here
  · subst hx
    obtain ⟨names, before, after⟩ := h.dir
    rw [after] at ho
    obtain rfl := Option.some.inj ho
    have old := plain x _ before
    simp only [Outline.isPlain, Bool.and_eq_true, decide_eq_true_eq, List.all_eq_true] at old ⊢
    unfold namesAfter
    cases new with
    | none => exact ⟨old.1.filter _, fun other ho => old.2 other (List.mem_filter.mp ho).1⟩
    | some n =>
      dsimp only
      split
      · exact old
      · rename_i fresh
        refine ⟨?_, ?_⟩
        · rw [List.nodup_append]
          exact ⟨old.1, by simp, by rintro c hc d hd rfl; exact fresh (List.mem_singleton.mp hd ▸ hc)⟩
        · intro other ho
          rcases List.mem_append.mp ho with ho | ho
          · exact old.2 other ho
          · exact List.mem_singleton.mp ho ▸ named
  · exact plain x o ((h.outlines x inside hx).symm.trans ho)

end Edited
end Node
end BundleForge
