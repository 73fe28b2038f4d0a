/-!
Line ends of text that is read: a carriage return, alone or before a line feed, reads as one line
feed. Text that is written keeps its line ends.
-/

namespace BundleForge.Text

/-- Both other spellings of a line end become a line feed. -/
def unifyNewlinesChars : List Char → List Char
  | [] => []
  | '\r' :: '\n' :: rest => '\n' :: unifyNewlinesChars rest
  | c :: rest => (if c = '\r' then '\n' else c) :: unifyNewlinesChars rest

def unifyNewlines (s : String) : String := String.ofList (unifyNewlinesChars s.toList)

/-- No carriage return is left. -/
theorem not_mem_unifyNewlinesChars (cs : List Char) : '\r' ∉ unifyNewlinesChars cs := by
  fun_induction unifyNewlinesChars cs with
  | case1 => simp
  | case2 rest ih => simpa using ih
  | case3 c rest _ ih => by_cases h : c = '\r' <;> simp [h, ih, eq_comm]

theorem unifyNewlinesChars_eq_self {cs : List Char} (plain : '\r' ∉ cs) : unifyNewlinesChars cs = cs := by
  fun_induction unifyNewlinesChars cs with
  | case1 => rfl
  | case2 => simp at plain
  | case3 c rest _ ih =>
    rw [List.mem_cons, not_or] at plain
    rw [ih plain.2, if_neg (Ne.symm plain.1)]

/-- Text without carriage returns stays as it is. -/
theorem unifyNewlines_eq_self {s : String} (plain : '\r' ∉ s.toList) : unifyNewlines s = s := by
  rw [unifyNewlines, unifyNewlinesChars_eq_self plain, String.ofList_toList]

theorem not_mem_unifyNewlines (s : String) : '\r' ∉ (unifyNewlines s).toList := by
  rw [unifyNewlines, String.toList_ofList]
  exact not_mem_unifyNewlinesChars s.toList

end BundleForge.Text
