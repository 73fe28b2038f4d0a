import BundleForge.Proofs.Tree.Route

/-!
Questions about what stands at a path. Main statement: a question is refused only where the path, or a name
on the way that it leads, is too long; a yes is about something that stands at a place free of links.
-/

namespace BundleForge.Tree

variable {t : Tree} {p : Path} {question : Node → Bool}

/-- A way that ends early ends where nothing is, or before a name that is too long. -/
theorem refusal_of_walk {top : Node} {links : Nat} {here names : List String} {cause : Refusal}
    (h : walk top links here names = .error cause) : cause.isAbsence = true ∨ cause = .nameTooLong := by
  fun_induction walk top links here names with
  | case1 | case5 => simp at h
  | case2 | case3 | case8 | case9 => rename_i ih; exact ih h
  | case4 => exact .inr (by simpa using h.symm)
  | case6 | case7 | case10 =>
    obtain rfl := Except.error.inj h
    exact .inl rfl

theorem refusal_of_realPlace {cause : Refusal} (h : t.realPlace p = .error cause) :
    cause.isAbsence = true ∨ cause = .nameTooLong := by
  unfold realPlace at h
  cases hs : t.spot p with
  | error refusal =>
    obtain rfl : refusal = cause := by simpa [hs] using h
    unfold spot at hs
    split at hs
    · exact .inr (Except.error.inj hs).symm
    · exact refusal_of_walk hs
  | ok s =>
    simp only [hs] at h
    split at h
    · cases h
    · obtain rfl := Except.error.inj h
      exact .inl rfl

theorem refusal_of_node {cause : Refusal} (h : t.node p = .error cause) :
    cause.isAbsence = true ∨ cause = .nameTooLong := by
  unfold node at h
  cases hr : t.realPlace p with
  | error refusal =>
    obtain rfl : refusal = cause := by simpa [hr] using h
    exact refusal_of_realPlace hr
  | ok place =>
    simp only [hr] at h
    split at h
    · cases h
    · obtain rfl := Except.error.inj h
      exact .inl rfl

/-- A path that leads past a name too long, or is too long itself. -/
def Overlong (t : Tree) (p : Path) : Prop := hasNull p = false ∧ t.node p = .error .nameTooLong

/-- A question is refused for the length of a path or a name, and for nothing else. -/
theorem ask_eq_error_iff {fault : SystemFault} :
    t.ask question p = .error fault ↔ t.Overlong p ∧ fault = .refused .nameTooLong (some p.text) := by
  unfold ask Overlong
  cases hasNull p with
  | true => simp
  | false =>
    cases hn : t.node p with
    | ok n => simp
    | error cause =>
      obtain absent | rfl := refusal_of_node hn
      · have : cause ≠ .nameTooLong := by rintro rfl; simp [Refusal.isAbsence] at absent
        simp [absent, this]
      · simp [Refusal.isAbsence, eq_comm]

theorem realPlace_of_ask (h : t.ask question p = .ok true) :
    ∃ place n, t.realPlace p = .ok place ∧ t.top.at? place = some n ∧ question n = true := by
  unfold ask at h
  split at h
  · cases h
  unfold node at h
  cases hr : t.realPlace p with
  | error cause =>
    simp only [hr] at h
    split at h <;> cases h
  | ok place =>
    simp only [hr] at h
    cases ha : t.top.at? place with
    | none =>
      simp only [ha] at h
      split at h <;> cases h
    | some n => exact ⟨place, n, rfl, ha, by simpa [ha] using h⟩

theorem realPlace_of_isFile (h : t.isFile p = .ok true) :
    ∃ place content, t.realPlace p = .ok place ∧ t.top.at? place = some (.file content) := by
  obtain ⟨place, n, leads, there, file⟩ := realPlace_of_ask h
  cases n with
  | file content => exact ⟨place, content, leads, there⟩
  | dir | link => simp [Node.isFileNode] at file

end BundleForge.Tree
