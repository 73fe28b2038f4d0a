import BundleForge.Shell.Expansion.Pattern
import BundleForge.Shell.Place

/-!
The paths in the file tree that a pattern stands for, in the order of their octets. A point in front of a
name has to be written out. Main statement: a pattern with nothing to match in it stands for no path.
-/

namespace BundleForge.Shell.Paths

/-- The text of a pattern without backslashes. -/
def plain : List Char → List Char
  | [] => []
  | ['\\'] => ['\\']
  | '\\' :: c :: rest => c :: plain rest
  | c :: rest => c :: plain rest

/-- Whether a bracket that was opened is closed before the name ends. -/
def closes : List Char → Bool
  | [] => false
  | '\\' :: '/' :: _ => false
  | '\\' :: _ :: rest => closesAfter rest
  | '/' :: _ => false
  | _ :: rest => closesAfter rest
where
  closesAfter : List Char → Bool
    | [] => false
    | ']' :: _ => true
    | '\\' :: '/' :: _ => false
    | '\\' :: _ :: rest => closesAfter rest
    | '/' :: _ => false
    | _ :: rest => closesAfter rest

/-- A pattern in three parts: the directories in front of the first part that has to be matched, that
part, and what follows it, behind a slash. What is read of each is held back to front. -/
structure Parts where
  front : List Char
  part : List Char
  rest : Option (List Char)

/-- The parts of a pattern, if there is anything to match in it. -/
def parts? (front part : List Char) (meta_ : Bool) : List Char → Option Parts
  | [] => if meta_ then some ⟨front.reverse, part.reverse, none⟩ else none
  | '\\' :: '/' :: rest =>
    if meta_ then some ⟨front.reverse, part.reverse, some rest⟩
    else parts? ('/' :: '\\' :: part ++ front) [] false rest
  | '\\' :: c :: rest => parts? front (c :: '\\' :: part) meta_ rest
  | '/' :: rest =>
    if meta_ then some ⟨front.reverse, part.reverse, some rest⟩
    else parts? ('/' :: part ++ front) [] false rest
  | '*' :: rest => parts? front ('*' :: part) true rest
  | '?' :: rest => parts? front ('?' :: part) true rest
  | '[' :: rest =>
    let inner := if rest.head? = some '!' then rest.tail else rest
    parts? front ('[' :: part) (meta_ || closes inner) rest
  | c :: rest => parts? front (c :: part) meta_ rest

theorem parts?_plain (front part cs : List Char)
    (h : ∀ c ∈ cs, c ≠ '\\' ∧ c ≠ '/' ∧ c ≠ '*' ∧ c ≠ '?' ∧ c ≠ '[') :
    parts? front part false cs = none := by
  induction cs generalizing part with
  | nil => simp [parts?]
  | cons c rest ih =>
    obtain ⟨h₁, h₂, h₃, h₄, h₅⟩ := h c List.mem_cons_self
    rw [parts?.eq_8 _ _ _ _ _ (fun _ e _ => h₁ e) (fun _ _ e _ => h₁ e) h₂ h₃ h₄ h₅]
    exact ih _ fun d hd => h d (List.mem_cons_of_mem _ hd)

/-- The names in a directory, the two that every directory has with them. -/
def names (s : State) (dir : List Char) : List (List Char) :=
  let name := if dir.isEmpty then "." else Octets.toText (String.ofList dir)
  match s.lookup name true with
  | .ok (.dir entries) => ['.'] :: ['.', '.'] :: entries.map fun e => (Octets.ofText e.1).toList
  | _ => []

def exists_ (s : State) (name : List Char) : Bool :=
  match s.lookup (Octets.toText (String.ofList name)) false with
  | .ok _ => true
  | .error _ => false

/-- The paths behind a directory that a pattern stands for. -/
def matching (s : State) : Nat → List Char → List Char → List (List Char)
  | 0, _, _ => []
  | fuel + 1, dir, pattern =>
    match parts? [] [] false pattern with
    | none =>
      let path := dir ++ plain pattern
      if dir.isEmpty then [] else if exists_ s path then [path] else []
    | some p =>
      let dir := dir ++ plain p.front
      let dotted := (plain p.part).head? = some '.'
      let fitting := (names s dir).filter fun name =>
        (dotted || name.head? ≠ some '.') && patternMatches p.part name
      match p.rest with
      | none => fitting.map (dir ++ ·)
      | some rest => fitting.flatMap fun name => matching s fuel (dir ++ name ++ ['/']) rest

/-- The paths that a pattern stands for. -/
def ofPattern (s : State) (pattern : List Char) : List String :=
  ((matching s (pattern.length + 1) [] pattern).map String.ofList).mergeSort fun a b => decide (a ≤ b)

/-- The words that a field stands for: paths that match it, or the field itself where there are none. -/
def ofField (s : State) (field : List Mark) : List String :=
  let paths := if s.manners.literalPaths then [] else ofPattern s (Mark.pattern field)
  if paths.isEmpty then [Mark.text field] else paths

end BundleForge.Shell.Paths
