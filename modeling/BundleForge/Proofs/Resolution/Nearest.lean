import BundleForge.Proofs.Resolution.Search

/-!
Where a specifier is found. Main statements: unless something cannot be looked at, a specifier is found
exactly when a directory on the way up provides it, in the nearest one that does; a look-up gives a place or
says that there is none, unless something cannot be looked at before a file is found.
-/

namespace BundleForge.Resolution

/-- The files that a path can stand for, in order: the file itself with suffixes, and where the path is a
directory, what its manifest names as a file or a directory, and its own index. -/
def candidates (t : Tree) (p : Path) : List Path :=
  besides p ++
    match t.isDir p with
    | .ok true =>
      ((declaredMain t p).elim [] fun main => besides (p / main) ++ indexes (p / main)) ++ indexes p
    | _ => []

/-- A directory holds the package of a specifier, and a path is the first file in it that the specifier can
stand for. -/
structure Provides (t : Tree) (specifier : String) (directory found : Path) : Prop where
  package : t.isDir (directory / "node_modules" / packageName specifier) = .ok true
  first : (candidates t (target specifier directory)).find? (isFileAt t) = some found

/-- The nearest of several directories that provides a specifier. -/
def Nearest (t : Tree) (specifier : String) (directories : List Path) (directory found : Path) : Prop :=
  ∃ nearer farther, directories = nearer ++ directory :: farther ∧
    (∀ other ∈ nearer, ∀ q, ¬ Provides t specifier other q) ∧ Provides t specifier directory found

section

variable {t : Tree} {p q directory : Path} {specifier : String} {directories : List Path}

@[simp] theorem filesOf_append (a b : List Look) : filesOf (a ++ b) = filesOf a ++ filesOf b :=
  List.filterMap_append

theorem filesOf_map_file (ps : List Path) : filesOf (ps.map .file) = ps := by
  induction ps with
  | nil => rfl
  | cons p ps ih => exact congrArg (p :: ·) ih

theorem filesOf_looksAsFile (p : Path) : filesOf (looksAsFile p) = besides p := filesOf_map_file _

theorem filesOf_looksAsIndex (p : Path) : filesOf (looksAsIndex p) = indexes p := filesOf_map_file _

theorem filesOf_looksAt (t : Tree) (p : Path) : filesOf (looksAt t p) = candidates t p := by
  rw [looksAt, filesOf_append, filesOf_looksAsFile, candidates, looksAsDirectory]
  congr 1
  rw [filesOf, List.filterMap_cons_none rfl]
  cases t.isDir p with
  | error fault => rfl
  | ok there =>
    cases there with
    | false => rfl
    | true =>
      dsimp only
      rw [List.filterMap_cons_none rfl, ← filesOf, filesOf_append, filesOf_looksAsIndex]
      cases declaredMain t p with
      | none => rfl
      | some main => simp [filesOf_looksAsFile, filesOf_looksAsIndex]

theorem provides_iff :
    Provides t specifier directory q ↔
      (filesOf (looksIn t specifier directory)).find? (isFileAt t) = some q := by
  rw [looksIn, filesOf, List.filterMap_cons_none rfl]
  constructor
  · rintro ⟨package, first⟩
    rw [package]
    dsimp only
    rwa [← filesOf, filesOf_looksAt]
  · intro h
    split at h
    · rename_i package
      refine ⟨package, ?_⟩
      rwa [← filesOf, filesOf_looksAt] at h
    · cases h

theorem Provides.unique {q' : Path} (h : Provides t specifier directory q)
    (h' : Provides t specifier directory q') : q = q' :=
  Option.some.inj (h.first.symm.trans h'.first)

theorem Provides.isFile (h : Provides t specifier directory q) : t.isFile q = .ok true :=
  isFileAt_iff.mp (List.find?_some h.first)

theorem Nearest.provides (h : Nearest t specifier directories directory q) :
    Provides t specifier directory q := by
  obtain ⟨-, -, -, -, provides⟩ := h
  exact provides

theorem Nearest.mem (h : Nearest t specifier directories directory q) : directory ∈ directories := by
  obtain ⟨nearer, farther, rfl, -, -⟩ := h
  simp

theorem Nearest.isFile (h : Nearest t specifier directories directory q) : t.isFile q = .ok true :=
  h.provides.isFile

/-- A search from a directory upwards that does not break off finds what the nearest one provides. -/
theorem nearest_of_search
    (h : search t (directories.flatMap (looksIn t specifier)) = .ok (some q)) :
    ∃ directory, Nearest t specifier directories directory q := by
  induction directories with
  | nil => cases h
  | cons first rest ih =>
    rw [List.flatMap_cons, search_append] at h
    cases hs : search t (looksIn t specifier first) with
    | error fault => simp [hs] at h
    | ok found =>
      cases found with
      | some q' =>
        obtain rfl : q' = q := by simpa [hs] using h
        exact ⟨first, [], rest, rfl, by simp, provides_iff.mpr (find?_of_search hs)⟩
      | none =>
        rw [hs, orElse_ok_none] at h
        obtain ⟨directory, nearer, farther, rfl, none, hq⟩ := ih h
        refine ⟨directory, first :: nearer, farther, rfl, ?_, hq⟩
        intro other ho q hq
        obtain rfl | ho := List.mem_cons.mp ho
        · cases (provides_iff.mp hq).symm.trans (find?_of_search hs)
        · exact none other ho q hq

theorem not_provides_of_search
    (h : search t (directories.flatMap (looksIn t specifier)) = .ok none) :
    ∀ directory ∈ directories, ∀ q, ¬ Provides t specifier directory q := by
  intro directory among q hq
  have nothing := List.find?_eq_none.mp (find?_of_search h)
  have found := List.find?_some (provides_iff.mp hq)
  refine nothing q ?_ found
  obtain ⟨look, hl, file⟩ := List.mem_filterMap.mp (List.mem_of_find?_eq_some (provides_iff.mp hq))
  exact List.mem_filterMap.mpr ⟨look, List.mem_flatMap.mpr ⟨directory, among, hl⟩, file⟩

theorem Nearest.unique {directory' q' : Path} (h : Nearest t specifier directories directory q)
    (h' : Nearest t specifier directories directory' q') : directory = directory' ∧ q = q' := by
  obtain ⟨nearer, farther, rfl, none, hq⟩ := h
  obtain ⟨nearer', farther', split, none', hq'⟩ := h'
  obtain ⟨shared, rfl, rest⟩ | ⟨shared, rfl, rest⟩ := List.append_eq_append_iff.mp split
  · cases shared with
    | nil =>
      obtain ⟨rfl, rfl⟩ := List.cons.inj rest
      exact ⟨rfl, hq.unique hq'⟩
    | cons first shared =>
      obtain ⟨rfl, -⟩ := List.cons.inj rest
      exact absurd hq (none' _ (by simp) _)
  · cases shared with
    | nil =>
      obtain ⟨rfl, rfl⟩ := List.cons.inj rest
      exact ⟨rfl, hq.unique hq'⟩
    | cons first shared =>
      obtain ⟨rfl, -⟩ := List.cons.inj rest
      exact absurd hq' (none _ (by simp) _)

end

variable {t : Tree} {cwd : Path} {specifier : String}

/-- A look-up goes as its search does. -/
theorem locate_of_search (foreign : isBuiltin specifier = false) :
    locate t cwd specifier =
      match search t (looks t cwd specifier) with
      | .error fault => .error fault
      | .ok none => .error (.notFound specifier cwd.text)
      | .ok (some found) =>
        match t.realPlace found with
        | .ok place => .ok (placeText place)
        | .error cause => .error (.system (.refused cause (some found.text))) := by
  rw [locate, if_neg (by simp [foreign]), locateAmong_eq, ← looks]
  cases search t (looks t cwd specifier) with
  | error fault => rfl
  | ok found =>
    cases found with
    | none => rfl
    | some q => cases t.realPlace q <;> rfl

/-- A search that nothing blocks finds a file, whose real place is the answer, or none. -/
theorem locate_of_clear (foreign : isBuiltin specifier = false)
    (clear : ¬ Obstructed t (looks t cwd specifier)) :
    (search t (looks t cwd specifier) = .ok none ∧
      locate t cwd specifier = .error (.notFound specifier cwd.text)) ∨
    ∃ q place content, search t (looks t cwd specifier) = .ok (some q) ∧
      locate t cwd specifier = .ok (placeText place) ∧
      t.realPlace q = .ok place ∧ t.top.at? place = some (.file content) := by
  have hl : locate t cwd specifier = _ := locate_of_search foreign
  cases hs : search t (looks t cwd specifier) with
  | error fault => exact absurd (search_breaks_iff.mp ⟨fault, hs⟩) clear
  | ok found =>
    rw [hs] at hl
    cases found with
    | none => exact .inl ⟨rfl, hl⟩
    | some q =>
      obtain ⟨directory, near⟩ := nearest_of_search hs
      obtain ⟨place, content, leads, there⟩ := Tree.realPlace_of_isFile near.isFile
      exact .inr ⟨q, place, content, rfl, by simpa [leads] using hl, leads, there⟩

/-- A search that something blocks ends with the fault of what it could not look at. -/
theorem locate_of_obstructed (foreign : isBuiltin specifier = false)
    (broken : Obstructed t (looks t cwd specifier)) :
    ∃ fault, locate t cwd specifier = .error fault ∧
      ∀ specifier' directory, fault ≠ .notFound specifier' directory := by
  obtain ⟨fault, hs⟩ := search_breaks_iff.mpr broken
  refine ⟨fault, by rw [locate_of_search foreign, hs], ?_⟩
  rintro specifier' directory rfl
  obtain ⟨look, -, blocked⟩ := blocked_of_search hs
  cases blocked

theorem target_named (specifier : String) (directory : Path) : (target specifier directory).name ≠ "" := by
  refine (target_proper specifier directory).name_ne (Path.joinAll_parts_ne ?_ ?_)
  · rw [Path.div_parts, if_neg (by decide)]
    exact List.append_ne_nil_of_right_ne_nil _ (by decide)
  · exact fun _ => Path.not_isAbsolute_of_mem_pieces

/-- A specifier that spells a file of a package is found at once. -/
theorem search_looksIn_of_file {directory : Path}
    (package : t.isDir (directory / "node_modules" / packageName specifier) = .ok true)
    (file : t.isFile (target specifier directory) = .ok true) :
    search t (looksIn t specifier directory) = .ok (some (target specifier directory)) := by
  have itself := Path.beside_empty (Path.parts_ne_of_name_ne (target_named specifier directory))
  rw [looksIn, package, search, Look.answer, asks_eq_ok_iff.mpr package, looksAt, search_append,
    looksAsFile, search, Look.answer, if_neg (target_named specifier directory), besides, fileSuffixes,
    List.map_cons, List.map_cons, itself, search, Look.answer, asks_eq_ok_iff.mpr file]
  rfl

/-- A tree with one package, and a file in it. -/
def onePackage (name content : String) : Tree :=
  ⟨.dir [("node_modules", .dir [("a", .dir [(name, .file (Text.Utf8.encode content))])])], fun _ => false⟩

theorem onePackage_plain {name : String} (named : isName name = true) (content : String) :
    (onePackage name content).top.Plain := by
  have within {n : Node} {name : String} (named : isName name = true) (plain : n.Plain) :
      (Node.dir [(name, n)]).Plain :=
    Node.plain_dir (by simp [Outline.isPlain, named]) (by simpa using plain)
  exact within (by decide) (within (by decide) (within named (Node.plain_file _)))

theorem name_mem_looksAsFile {p q : Path} : .name q ∈ looksAsFile p ↔ q = p := by
  simp [looksAsFile]

theorem name_notMem_looksAsIndex (p q : Path) : .name q ∉ looksAsIndex p := by
  simp [looksAsIndex]

theorem name_mem_looksAt {p q : Path} (h : .name q ∈ looksAt t p) :
    q = p ∨ ∃ main, declaredMain t p = some main ∧ q = p / main := by
  rw [looksAt, List.mem_append, name_mem_looksAsFile, looksAsDirectory] at h
  obtain h | h := h
  · exact .inl h
  · right
    split at h
    · cases hm : declaredMain t p with
      | none => simp [hm, name_notMem_looksAsIndex] at h
      | some main =>
        simp only [hm, Option.elim_some, List.mem_cons, List.mem_append, name_mem_looksAsFile,
          name_notMem_looksAsIndex, or_false, reduceCtorEq, false_or] at h
        exact ⟨main, rfl, h⟩
    · simp at h

/-- A name is missing only where a manifest names an anchor alone as its entry file. -/
theorem nameless_of_mem_looks {p : Path} (h : .name p ∈ looks t cwd specifier) (nameless : p.name = "") :
    ∃ directory main, declaredMain t directory = some main ∧ p = directory / main ∧
      (Path.ofString main).isAbsolute = true ∧ Path.partsOf main = [] := by
  obtain ⟨directory, -, hd⟩ := List.mem_flatMap.mp h
  have named := target_named specifier directory
  have below : .name p ∈ looksAt t (target specifier directory) := by
    rw [looksIn, List.mem_cons] at hd
    obtain hd | hd := hd
    · cases hd
    · split at hd
      · exact hd
      · simp at hd
  obtain rfl | ⟨main, declared, rfl⟩ := name_mem_looksAt below
  · exact absurd nameless named
  · have alone := mt (Path.name_div_ne (target_proper specifier directory) named (s := main))
      (not_not.mpr nameless)
    rw [Classical.not_imp, not_not] at alone
    exact ⟨_, main, declared, rfl, alone.1, alone.2⟩

end BundleForge.Resolution
