import BundleForge.Tree.Basic
import Mathlib.Tactic.Common

/-!
A tree without the bytes in its files, and the bytes at each place. Main statements: other bytes in a
file leave the outline of the tree as it is, and the bytes of every other file; a tree in which nothing
is a link and every name can be a name stays one as long as its outline does.
-/

namespace BundleForge

/-- What stands at a place, the bytes of a file left out. -/
inductive Outline
  | file
  | dir (names : List String)
  | link (target : String)
deriving DecidableEq, Repr

def Outline.isDir : Outline → Bool
  | .dir _ => true
  | _ => false

def Outline.isFile : Outline → Bool
  | .file => true
  | _ => false

namespace Node

def outline : Node → Outline
  | .file _ => .file
  | .dir entries => .dir (entries.map Prod.fst)
  | .link target => .link target

theorem isDirNode_eq (n : Node) : n.isDirNode = n.outline.isDir := by cases n <;> rfl

theorem isFileNode_eq (n : Node) : n.isFileNode = n.outline.isFile := by cases n <;> rfl

def outlineAt (n : Node) (place : List String) : Option Outline := (n.at? place).map outline

def content? : Node → Option (List UInt8)
  | .file content => some content
  | _ => none

/-- The bytes of the file at a place. -/
def contentAt (n : Node) (place : List String) : Option (List UInt8) := (n.at? place).bind content?

@[simp] theorem at?_nil (n : Node) : n.at? [] = some n := rfl

theorem at?_cons (n : Node) (name : String) (rest : List String) :
    n.at? (name :: rest) = (n.child? name).bind fun c => c.at? rest := by
  rw [at?]
  cases n.child? name <;> rfl

theorem at?_append (n : Node) (place rest : List String) :
    n.at? (place ++ rest) = (n.at? place).bind fun c => c.at? rest := by
  induction place generalizing n with
  | nil => rfl
  | cons name place ih =>
    rw [List.cons_append, at?_cons, at?_cons]
    cases n.child? name with
    | none => rfl
    | some c => exact ih c

theorem outlineAt_append (n : Node) (place rest : List String) :
    n.outlineAt (place ++ rest) = (n.at? place).bind fun c => c.outlineAt rest := by
  rw [outlineAt, at?_append]
  cases n.at? place <;> rfl

theorem outlineAt_cons (n : Node) (name : String) (rest : List String) :
    n.outlineAt (name :: rest) = (n.child? name).bind fun c => c.outlineAt rest := by
  rw [outlineAt, at?_cons]
  cases n.child? name <;> rfl

theorem contentAt_cons (n : Node) (name : String) (rest : List String) :
    n.contentAt (name :: rest) = (n.child? name).bind fun c => c.contentAt rest := by
  rw [contentAt, at?_cons]
  cases n.child? name <;> rfl

theorem outlineAt_eq_file_iff {n : Node} {place : List String} :
    n.outlineAt place = some .file ↔ ∃ content, n.contentAt place = some content := by
  unfold outlineAt contentAt
  cases n.at? place with
  | none => simp
  | some c => cases c <;> simp [outline, content?]

theorem at?_of_contentAt {n : Node} {place : List String} {content : List UInt8}
    (h : n.contentAt place = some content) : n.at? place = some (.file content) := by
  unfold contentAt at h
  cases ha : n.at? place with
  | none => simp [ha] at h
  | some c => cases c <;> simp_all [content?]

theorem at?_of_outlineAt_dir {n : Node} {place names : List String}
    (h : n.outlineAt place = some (.dir names)) :
    ∃ entries, n.at? place = some (.dir entries) ∧ entries.map Prod.fst = names := by
  unfold outlineAt at h
  cases ha : n.at? place with
  | none => simp [ha] at h
  | some c => cases c <;> simp_all [outline]

theorem outlineAt_of_dir {n : Node} {here : List String} {entries : List (String × Node)}
    (h : n.at? here = some (.dir entries)) : n.outlineAt here = some (.dir (entries.map Prod.fst)) := by
  rw [outlineAt, h]
  rfl

theorem outlineAt_child_of_dir {n : Node} {here : List String} {entries : List (String × Node)}
    (h : n.at? here = some (.dir entries)) (name : String) :
    n.outlineAt (here ++ [name]) = (entries.lookup name).map outline := by
  rw [outlineAt_append, h, Option.bind_some, outlineAt_cons, child?]
  cases entries.lookup name <;> rfl

/-- What stands below a directory starts with one of its names. -/
theorem isSome_child?_iff {n : Node} {names : List String} (h : n.outline = .dir names) (name : String) :
    (n.child? name).isSome ↔ name ∈ names := by
  cases n with
  | dir entries =>
    obtain rfl : entries.map Prod.fst = names := by simpa [outline] using h
    simp [child?, List.lookup_isSome_iff]
  | file | link => simp [outline] at h

/-- What stands at a place already is put there without a change. -/
theorem setAt_of_at? {n c : Node} {place : List String} (h : n.at? place = some c) : setAt c place n = n := by
  induction place generalizing n with
  | nil =>
    obtain rfl := Option.some.inj h
    rfl
  | cons name rest ih =>
    rw [at?_cons] at h
    obtain ⟨child, found, below⟩ := Option.bind_eq_some_iff.mp h
    cases n with
    | dir entries =>
      have found : entries.lookup name = some child := found
      rw [setAt, found, Option.getD_some, ih below, Entries.put_of_lookup found]
    | file | link => cases found

/-- A file with bytes in it has only itself below it. -/
theorem setAt_file_cons {n : Node} {name : String} {rest : List String} {old : List UInt8}
    (h : n.contentAt (name :: rest) = some old) (new : Node) :
    ∃ entries c, n = .dir entries ∧ entries.lookup name = some c ∧ c.contentAt rest = some old ∧
      setAt new (name :: rest) n = .dir (Entries.put name (setAt new rest c) entries) := by
  rw [contentAt_cons] at h
  cases n with
  | dir entries =>
    cases hl : entries.lookup name with
    | none => simp [child?, hl] at h
    | some c => exact ⟨entries, c, rfl, hl, by simpa [child?, hl] using h, by simp [setAt, hl]⟩
  | file | link => simp [child?] at h

/-- Other bytes in a file change the bytes of that file only. -/
theorem contentAt_setAt {n : Node} {place : List String} {old : List UInt8}
    (h : n.contentAt place = some old) (new : List UInt8) (other : List String) :
    (setAt (.file new) place n).contentAt other = if other = place then some new else n.contentAt other := by
  induction place generalizing n other with
  | nil =>
    obtain rfl : n = .file old := by simpa using at?_of_contentAt h
    cases other with
    | nil => rfl
    | cons name rest => simp [setAt, contentAt_cons, child?]
  | cons name place ih =>
    obtain ⟨entries, c, rfl, hl, hc, hs⟩ := setAt_file_cons h (.file new)
    rw [hs]
    cases other with
    | nil => rfl
    | cons first rest =>
      rw [contentAt_cons, contentAt_cons]
      by_cases hf : first = name
      · subst hf
        simp [child?, Entries.lookup_put, hl, ih hc]
      · simp [child?, Entries.lookup_put_of_ne hf, hf]

/-- Other bytes in a file leave the outline as it is. -/
theorem outlineAt_setAt {n : Node} {place : List String} {old : List UInt8}
    (h : n.contentAt place = some old) (new : List UInt8) (other : List String) :
    (setAt (.file new) place n).outlineAt other = n.outlineAt other := by
  induction place generalizing n other with
  | nil =>
    obtain rfl : n = .file old := by simpa using at?_of_contentAt h
    cases other with
    | nil => rfl
    | cons name rest => simp [setAt, outlineAt_cons, child?]
  | cons name place ih =>
    obtain ⟨entries, c, rfl, hl, hc, hs⟩ := setAt_file_cons h (.file new)
    rw [hs]
    cases other with
    | nil =>
      have hn : name ∈ entries.map Prod.fst := by
        rw [← isSome_child?_iff (n := .dir entries) rfl]
        simp [child?, hl]
      simp [outlineAt, outline, Entries.names_put, hn]
    | cons first rest =>
      rw [outlineAt_cons, outlineAt_cons]
      by_cases hf : first = name
      · subst hf
        simp [child?, Entries.lookup_put, hl, ih hc]
      · simp [child?, Entries.lookup_put_of_ne hf]

end Node

/-- What can be the name of an entry. -/
def isName (s : String) : Bool :=
  Path.isPart s && s != ".." && !s.toList.contains '/' && !s.toList.contains (Char.ofNat 0) &&
    decide (s.utf8ByteSize ≤ Tree.nameLimit)

/-- No link, and no two entries of one name. -/
def Outline.isPlain : Outline → Bool
  | .file => true
  | .dir names => decide names.Nodup && names.all isName
  | .link _ => false

/-- A tree without links, in which every entry has a name of its own. -/
def Node.Plain (n : Node) : Prop :=
  ∀ place outline, n.outlineAt place = some outline → outline.isPlain = true

section

variable {p : Outline → Bool}

theorem Node.outlines_file (content : List UInt8) (h : p .file = true) :
    ∀ place outline, (Node.file content).outlineAt place = some outline → p outline = true := by
  intro place outline ho
  cases place with
  | nil =>
    obtain rfl : Outline.file = outline := by simpa [outlineAt, Node.outline] using ho
    exact h
  | cons name rest => simp [outlineAt_cons, child?] at ho

/-- What holds of a directory and of all that is in its entries holds everywhere in it. -/
theorem Node.outlines_dir {entries : List (String × Node)} (names : p (.dir (entries.map Prod.fst)) = true)
    (nodes : ∀ entry ∈ entries, ∀ place outline, entry.2.outlineAt place = some outline → p outline = true) :
    ∀ place outline, (Node.dir entries).outlineAt place = some outline → p outline = true := by
  intro place outline ho
  cases place with
  | nil =>
    obtain rfl : Outline.dir (entries.map Prod.fst) = outline := by
      simpa [outlineAt, Node.outline] using ho
    exact names
  | cons name rest =>
    rw [outlineAt_cons] at ho
    cases hl : entries.lookup name with
    | none => simp [child?, hl] at ho
    | some c =>
      have hm : (name, c) ∈ entries := by
        obtain ⟨l₁, l₂, he, -⟩ := List.lookup_eq_some_iff.mp hl
        simp [he]
      exact nodes _ hm rest outline (by simpa [child?, hl] using ho)

end

theorem Node.plain_file (content : List UInt8) : (Node.file content).Plain :=
  Node.outlines_file content rfl

theorem Node.plain_dir {entries : List (String × Node)}
    (names : (Outline.dir (entries.map Prod.fst)).isPlain = true)
    (nodes : ∀ entry ∈ entries, entry.2.Plain) : (Node.dir entries).Plain :=
  Node.outlines_dir names nodes

end BundleForge
