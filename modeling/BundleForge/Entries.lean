/-!
Lists of named entries in the order in which the names first appeared. Main statements: a put is
found again, leaves every other name alone, and keeps the order of the names.
-/

namespace BundleForge.Entries

variable {κ α : Type} [BEq κ]

/-- Adds an entry, or gives the one of that name a new value in its place. -/
def put (name : κ) (value : α) : List (κ × α) → List (κ × α)
  | [] => [(name, value)]
  | (other, old) :: rest =>
    if other == name then (other, value) :: rest else (other, old) :: put name value rest

/-- Takes away every entry of a name. -/
def drop (name : κ) (entries : List (κ × α)) : List (κ × α) :=
  entries.filter fun entry => !(entry.1 == name)

/-- Entries in order of first appearance, each with the value that came last. -/
def collect (entries : List (κ × α)) : List (κ × α) :=
  entries.foldl (fun collected entry => put entry.1 entry.2 collected) []

theorem lookup_put [LawfulBEq κ] (name : κ) (value : α) (entries : List (κ × α)) :
    (put name value entries).lookup name = some value := by
  induction entries with
  | nil => simp [put]
  | cons entry rest ih =>
    obtain ⟨other, old⟩ := entry
    by_cases h : other = name
    · simp [put, h]
    · have h' : (name == other) = false := by simp [Ne.symm h]
      simp [put, h, List.lookup_cons, h', ih]

theorem lookup_put_of_ne [LawfulBEq κ] {name other : κ} (h : other ≠ name) (value : α)
    (entries : List (κ × α)) : (put name value entries).lookup other = entries.lookup other := by
  have hne : (other == name) = false := by simp [h]
  induction entries with
  | nil => simp [put, List.lookup_cons, hne]
  | cons entry rest ih =>
    obtain ⟨first, old⟩ := entry
    by_cases hf : first = name
    · simp [put, hf, List.lookup_cons, hne]
    · simp [put, hf, List.lookup_cons, ih]

/-- What is there already is put there without a change. -/
theorem put_of_lookup [LawfulBEq κ] {name : κ} {value : α} {entries : List (κ × α)}
    (h : entries.lookup name = some value) : put name value entries = entries := by
  induction entries with
  | nil => cases h
  | cons entry rest ih =>
    obtain ⟨other, old⟩ := entry
    rw [List.lookup_cons] at h
    by_cases same : other = name
    · subst same
      rw [beq_self_eq_true] at h
      simpa [put] using h.symm
    · rw [beq_false_of_ne (Ne.symm same)] at h
      simp [put, same, ih h]

/-- A name that is there keeps its place; a new one comes last. -/
theorem names_put [LawfulBEq κ] (name : κ) (value : α) (entries : List (κ × α)) :
    (put name value entries).map Prod.fst =
      if name ∈ entries.map Prod.fst then entries.map Prod.fst
      else entries.map Prod.fst ++ [name] := by
  induction entries with
  | nil => simp [put]
  | cons entry rest ih =>
    obtain ⟨first, old⟩ := entry
    by_cases h : first = name
    · simp [put, h]
    · simp only [put, beq_iff_eq, h, if_false, List.map_cons, ih, List.mem_cons, Ne.symm h, false_or]
      split <;> simp

end BundleForge.Entries
