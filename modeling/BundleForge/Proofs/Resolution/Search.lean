import BundleForge.Proofs.Except
import BundleForge.Proofs.Path
import BundleForge.Proofs.Tree.Asking
import BundleForge.Resolution.Package

/-!
What a search for a package looks at, in order. Main statement: the search goes through all it looks at until
a file is found; it breaks off exactly where, before any file is found, something cannot be looked at.
-/

namespace BundleForge.Resolution

/-- One thing that a search looks at: whether a directory is there, whether a path ends with a name that
suffixes can be added to, whether a file is there, or what a manifest says. -/
inductive Look
  | directory (p : Path)
  | name (p : Path)
  | file (p : Path)
  | manifest (p : Path)

/-- It cannot be looked at: the path is too long, has no name, or the manifest is nested too deeply. -/
inductive Look.Blocked (t : Tree) : Look → LocateFault → Prop
  | directory {p : Path} (long : t.Overlong p) :
    Blocked t (.directory p) (.system (.refused .nameTooLong (some p.text)))
  | name {p : Path} (nameless : p.name = "") : Blocked t (.name p) (.name (.noName p))
  | file {p : Path} (long : t.Overlong p) :
    Blocked t (.file p) (.system (.refused .nameTooLong (some p.text)))
  | manifest {p : Path} {text : String} (there : t.readText (p / "package.json") = .ok text)
    (deep : Json.read text = .error .tooDeep) : Blocked t (.manifest p) .tooDeep

/-- The entry file that the text of a manifest names. -/
def mainIn (text : String) : Option String :=
  match Json.read text with
  | .ok (.obj members) =>
    match members.lookup "main" with
    | some (.str main) => if main = "" then none else some main
    | _ => none
  | _ => none

/-- The entry file that the manifest of a directory names. -/
def declaredMain (t : Tree) (p : Path) : Option String :=
  match t.readText (p / "package.json") with
  | .error _ => none
  | .ok text => mainIn text

/-- What comes of a look: a file, or nothing yet. -/
def Look.answer (t : Tree) : Look → Except LocateFault (Option Path)
  | .directory p => (asks t Tree.isDir p).map fun _ => none
  | .name p => if p.name = "" then .error (.name (.noName p)) else .ok none
  | .file p => (asks t Tree.isFile p).map fun there => if there then some p else none
  | .manifest p => (mainOf t p).map fun _ => none

/-- Looks at one thing after another until a file is found. -/
def search (t : Tree) : List Look → Except LocateFault (Option Path)
  | [] => .ok none
  | look :: rest => orElse (look.answer t) fun _ => search t rest

def besides (p : Path) : List Path := fileSuffixes.map p.beside

def indexes (p : Path) : List Path := indexNames.map (p / ·)

/-- The file at a path, its suffix left out or not. -/
def looksAsFile (p : Path) : List Look := .name p :: (besides p).map .file

def looksAsIndex (p : Path) : List Look := (indexes p).map .file

def looksAsDirectory (t : Tree) (p : Path) : List Look :=
  .directory p ::
    match t.isDir p with
    | .ok true => .manifest p ::
      (((declaredMain t p).elim [] fun main => looksAsFile (p / main) ++ looksAsIndex (p / main)) ++
        looksAsIndex p)
    | _ => []

def looksAt (t : Tree) (p : Path) : List Look := looksAsFile p ++ looksAsDirectory t p

/-- The path that a specifier spells among the packages installed in a directory. -/
def target (specifier : String) (directory : Path) : Path :=
  (directory / "node_modules").joinAll (Text.pieces '/' specifier)

/-- What a search looks at among the packages installed in a directory. -/
def looksIn (t : Tree) (specifier : String) (directory : Path) : List Look :=
  .directory (directory / "node_modules" / packageName specifier) ::
    match t.isDir (directory / "node_modules" / packageName specifier) with
    | .ok true => looksAt t (target specifier directory)
    | _ => []

/-- What a search looks at from a directory upwards. -/
def looks (t : Tree) (cwd : Path) (specifier : String) : List Look :=
  cwd.selfAndAncestors.flatMap (looksIn t specifier)

variable {t : Tree} {p q : Path} {fault : LocateFault}

@[simp] theorem orElse_ok_none (second : Unit → Except LocateFault (Option Path)) :
    orElse (.ok none) second = second () := rfl

@[simp] theorem orElse_ok_some (q : Path) (second : Unit → Except LocateFault (Option Path)) :
    orElse (.ok (some q)) second = .ok (some q) := rfl

@[simp] theorem orElse_error (fault : LocateFault) (second : Unit → Except LocateFault (Option Path)) :
    orElse (.error fault) second = .error fault := rfl

theorem orElse_assoc (a : Except LocateFault (Option Path))
    (b c : Unit → Except LocateFault (Option Path)) :
    orElse (orElse a b) c = orElse a fun _ => orElse (b ()) c := by
  match a with
  | .ok none | .ok (some q) | .error fault => rfl

theorem search_append (t : Tree) (first second : List Look) :
    search t (first ++ second) = orElse (search t first) fun _ => search t second := by
  induction first with
  | nil => rfl
  | cons look first ih => rw [List.cons_append, search, search, ih, orElse_assoc]

/-- A manifest is read for its entry file unless it is nested too deeply. -/
theorem mainOf_cases (t : Tree) (p : Path) :
    (mainOf t p = .error .tooDeep ∧
      ∃ text, t.readText (p / "package.json") = .ok text ∧ Json.read text = .error .tooDeep) ∨
    (mainOf t p = .ok (declaredMain t p) ∧
      ∀ text, t.readText (p / "package.json") = .ok text → Json.read text ≠ .error .tooDeep) := by
  unfold mainOf declaredMain mainIn
  cases hr : t.readText (p / "package.json") with
  | error fault => exact .inr ⟨rfl, fun text h => by cases h⟩
  | ok text =>
    by_cases deep : Json.read text = .error .tooDeep
    · exact .inl ⟨by simp [deep], text, rfl, deep⟩
    · refine .inr ⟨?_, fun other h => by rwa [← Except.ok.inj h]⟩
      dsimp only
      split
      · simp_all
      · rename_i members h
        rw [h]
        dsimp only
        split <;> simp_all
      · simp_all

theorem asks_eq_error_iff {ask : Tree → Path → Except SystemFault Bool} :
    asks t ask p = .error fault ↔ ∃ refusal, ask t p = .error refusal ∧ fault = .system refusal := by
  unfold asks
  cases ask t p <;> simp [eq_comm]

theorem asks_eq_ok_iff {ask : Tree → Path → Except SystemFault Bool} {b : Bool} :
    asks t ask p = .ok b ↔ ask t p = .ok b := by
  unfold asks
  cases ask t p <;> simp

theorem Look.answer_eq_error_iff {look : Look} : look.answer t = .error fault ↔ look.Blocked t fault := by
  cases look with
  | directory p =>
    rw [answer, map_eq_error, asks_eq_error_iff]
    constructor
    · rintro ⟨refusal, hr, rfl⟩
      obtain ⟨long, rfl⟩ := Tree.ask_eq_error_iff.mp hr
      exact .directory long
    · rintro (long | _ | _ | _)
      exact ⟨_, Tree.ask_eq_error_iff.mpr ⟨long, rfl⟩, rfl⟩
  | file p =>
    rw [answer, map_eq_error, asks_eq_error_iff]
    constructor
    · rintro ⟨refusal, hr, rfl⟩
      obtain ⟨long, rfl⟩ := Tree.ask_eq_error_iff.mp hr
      exact .file long
    · rintro (_ | _ | long | _)
      exact ⟨_, Tree.ask_eq_error_iff.mpr ⟨long, rfl⟩, rfl⟩
  | name p =>
    rw [answer]
    constructor
    · intro h
      split at h
      · rename_i nameless
        obtain rfl := Except.error.inj h
        exact .name nameless
      · cases h
    · rintro (_ | nameless | _ | _)
      exact if_pos nameless
  | manifest p =>
    rw [answer, map_eq_error]
    constructor
    · intro h
      obtain ⟨deep, text, there, ht⟩ | ⟨read, -⟩ := mainOf_cases t p
      · obtain rfl := Except.error.inj (deep.symm.trans h)
        exact .manifest there ht
      · cases read.symm.trans h
    · rintro (_ | _ | _ | ⟨there, deep⟩)
      obtain ⟨hm, -⟩ | ⟨-, shallow⟩ := mainOf_cases t p
      · exact hm
      · exact absurd deep (shallow _ there)

theorem Look.answer_eq_some_iff {look : Look} :
    look.answer t = .ok (some q) ↔ look = .file q ∧ t.isFile q = .ok true := by
  cases look with
  | file p =>
    rw [answer, map_eq_ok]
    constructor
    · rintro ⟨there, ha, hq⟩
      cases there with
      | false => cases hq
      | true =>
        obtain rfl := Option.some.inj hq
        exact ⟨rfl, asks_eq_ok_iff.mp ha⟩
    · rintro ⟨hq, there⟩
      obtain rfl := Look.file.inj hq
      exact ⟨true, asks_eq_ok_iff.mpr there, rfl⟩
  | name p =>
    rw [answer]
    split <;> simp
  | directory | manifest => simp [answer, map_eq_ok]

/-- Something cannot be looked at, and no file is found before it. -/
def Obstructed (t : Tree) (looks : List Look) : Prop :=
  ∃ before look after fault, looks = before ++ look :: after ∧ look.Blocked t fault ∧
    ∀ q, .file q ∈ before → t.isFile q ≠ .ok true

theorem obstructed_cons {look : Look} {rest : List Look} :
    Obstructed t (look :: rest) ↔
      (∃ fault, look.Blocked t fault) ∨
        ((∀ q, look = .file q → t.isFile q ≠ .ok true) ∧ Obstructed t rest) := by
  constructor
  · rintro ⟨before, blocked, after, fault, split, hb, clear⟩
    cases before with
    | nil =>
      obtain ⟨rfl, rfl⟩ := List.cons.inj split
      exact .inl ⟨fault, hb⟩
    | cons first before =>
      obtain ⟨rfl, rfl⟩ := List.cons.inj split
      exact .inr ⟨fun q hq => clear q (by simp [hq]), before, blocked, after, fault, rfl, hb,
        fun q hq => clear q (List.mem_cons_of_mem _ hq)⟩
  · rintro (⟨fault, hb⟩ | ⟨first, before, blocked, after, fault, rfl, hb, clear⟩)
    · exact ⟨[], look, rest, fault, rfl, hb, by simp⟩
    · refine ⟨look :: before, blocked, after, fault, rfl, hb, fun q hq => ?_⟩
      obtain hq | hq := List.mem_cons.mp hq
      · exact first q hq.symm
      · exact clear q hq

/-- A search breaks off exactly where something cannot be looked at before a file is found. -/
theorem search_breaks_iff {looks : List Look} :
    (∃ fault, search t looks = .error fault) ↔ Obstructed t looks := by
  induction looks with
  | nil => simp [search, Obstructed]
  | cons look rest ih =>
    rw [obstructed_cons, ← ih, search]
    cases ha : look.answer t with
    | error fault =>
      exact iff_of_true ⟨fault, rfl⟩ (.inl ⟨fault, Look.answer_eq_error_iff.mp ha⟩)
    | ok found =>
      have unblocked : ¬ ∃ fault, look.Blocked t fault := fun ⟨fault, hb⟩ => by
        cases ha.symm.trans (Look.answer_eq_error_iff.mpr hb)
      cases found with
      | none =>
        have first : ∀ q, look = .file q → t.isFile q ≠ .ok true := fun q hq there => by
          cases ha.symm.trans (Look.answer_eq_some_iff.mpr ⟨hq, there⟩)
        rw [or_iff_right unblocked, and_iff_right first]
        rfl
      | some q =>
        obtain ⟨rfl, there⟩ := Look.answer_eq_some_iff.mp ha
        simp [unblocked, there]

/-- The fault that a search breaks off with is one of something that it looks at. -/
theorem blocked_of_search {looks : List Look} (h : search t looks = .error fault) :
    ∃ look ∈ looks, look.Blocked t fault := by
  induction looks with
  | nil => cases h
  | cons look rest ih =>
    rw [search] at h
    cases ha : look.answer t with
    | error refusal =>
      rw [ha, orElse_error] at h
      obtain rfl := Except.error.inj h
      exact ⟨look, List.mem_cons_self, Look.answer_eq_error_iff.mp ha⟩
    | ok found =>
      cases found with
      | none =>
        rw [ha, orElse_ok_none] at h
        obtain ⟨later, hl, hb⟩ := ih h
        exact ⟨later, List.mem_cons_of_mem _ hl, hb⟩
      | some q => simp [ha] at h

def Look.file? : Look → Option Path
  | .file p => some p
  | _ => none

/-- The files among what is looked at. -/
def filesOf (looks : List Look) : List Path := looks.filterMap Look.file?

/-- Whether a file is there. -/
def isFileAt (t : Tree) (p : Path) : Bool :=
  match t.isFile p with
  | .ok there => there
  | .error _ => false

theorem isFileAt_iff : isFileAt t p = true ↔ t.isFile p = .ok true := by
  unfold isFileAt
  cases t.isFile p <;> simp

/-- A search that does not break off finds the first file of all it looks at, if there is one. -/
theorem find?_of_search {looks : List Look} {found : Option Path} (h : search t looks = .ok found) :
    (filesOf looks).find? (isFileAt t) = found := by
  induction looks with
  | nil => exact Except.ok.inj h
  | cons look rest ih =>
    rw [search] at h
    cases ha : look.answer t with
    | error fault => simp [ha] at h
    | ok answer =>
      cases answer with
      | none =>
        rw [ha, orElse_ok_none] at h
        rw [← ih h]
        cases look with
        | file p =>
          have absent : isFileAt t p = false := by
            rw [← Bool.not_eq_true, isFileAt_iff]
            intro there
            cases ha.symm.trans (Look.answer_eq_some_iff.mpr ⟨rfl, there⟩)
          simp [filesOf, Look.file?, absent]
        | directory | name | manifest => rfl
      | some q =>
        rw [ha, orElse_ok_some] at h
        obtain rfl := Except.ok.inj h
        obtain ⟨rfl, there⟩ := Look.answer_eq_some_iff.mp ha
        simp [filesOf, Look.file?, isFileAt_iff.mpr there]

theorem firstFile_eq (t : Tree) (ps : List Path) : firstFile t ps = search t (ps.map .file) := by
  induction ps with
  | nil => rfl
  | cons p ps ih =>
    rw [firstFile, List.map_cons, search, ih, Look.answer]
    cases asks t Tree.isFile p with
    | error fault => rfl
    | ok there => cases there <;> rfl

theorem loadIndex_eq (t : Tree) (p : Path) : loadIndex t p = search t (looksAsIndex p) := firstFile_eq t _

theorem loadAsFile_eq (t : Tree) (proper : p.Proper) :
    loadAsFile t p fileSuffixes = search t (looksAsFile p) := by
  by_cases named : p.name = ""
  · simp [loadAsFile, fileSuffixes, looksAsFile, search, Look.answer, Path.withName_of_noName named, named]
  · have along : ∀ suffixes : List String, (∀ suffix ∈ suffixes, '/' ∉ suffix.toList) →
        loadAsFile t p suffixes = firstFile t (suffixes.map p.beside) := by
      intro suffixes plain
      induction suffixes with
      | nil => rfl
      | cons suffix rest ih =>
        simp only [List.mem_cons, forall_eq_or_imp] at plain
        rw [loadAsFile, proper.withName_beside named plain.1, ih plain.2]
        rfl
    rw [along fileSuffixes (by decide), firstFile_eq, looksAsFile, search, Look.answer, if_neg named]
    rfl

theorem loadAsDirectory_eq (t : Tree) (proper : p.Proper) :
    loadAsDirectory t p = search t (looksAsDirectory t p) := by
  unfold loadAsDirectory looksAsDirectory
  rw [search, Look.answer]
  cases hd : t.isDir p with
  | error fault => simp [asks, hd, bind, Except.bind, Except.map]
  | ok there =>
    cases there with
    | false => simp [asks, hd, bind, Except.bind, Except.map, search, pure, Except.pure]
    | true =>
      simp only [asks, hd, Except.map, orElse_ok_none, search, Look.answer]
      obtain ⟨deep, -⟩ | ⟨read, -⟩ := mainOf_cases t p
      · simp [deep, bind, Except.bind]
      · cases hm : declaredMain t p with
        | none => simp [read, hm, bind, Except.bind, loadIndex_eq]
        | some main =>
          simp [read, hm, bind, Except.bind, loadIndex_eq, loadAsFile_eq t (proper.div main),
            search_append]

theorem load_eq (t : Tree) (proper : p.Proper) : load t p = search t (looksAt t p) := by
  rw [load, looksAt, search_append, loadAsFile_eq t proper, loadAsDirectory_eq t proper]

theorem target_proper (specifier : String) (directory : Path) : (target specifier directory).Proper :=
  (Path.proper_div (by decide) directory).joinAll _

theorem locateIn_eq (t : Tree) (specifier : String) (directory : Path) :
    locateIn t specifier directory = search t (looksIn t specifier directory) := by
  unfold locateIn looksIn
  rw [search, Look.answer]
  cases hd : t.isDir (directory / "node_modules" / packageName specifier) with
  | error fault => simp [asks, hd, bind, Except.bind, Except.map]
  | ok there =>
    cases there with
    | false => simp [asks, hd, bind, Except.bind, Except.map, search, pure, Except.pure]
    | true =>
      rw [← load_eq t (target_proper specifier directory)]
      simp [asks, hd, bind, Except.bind, Except.map, target]

theorem locateAmong_eq (t : Tree) (specifier : String) (directories : List Path) :
    locateAmong t specifier directories = search t (directories.flatMap (looksIn t specifier)) := by
  induction directories with
  | nil => rfl
  | cons directory rest ih => rw [locateAmong, ih, locateIn_eq, List.flatMap_cons, search_append]

end BundleForge.Resolution
