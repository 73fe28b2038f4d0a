/-!
Brackets in patterns: single characters, ranges and named classes, of which one character is to be
chosen. Main statement: what follows a bracket is shorter than the bracket with what follows it.
-/

namespace BundleForge.Shell

/-- A character of a pattern, and whether it is quoted. -/
abbrev PatternChar := Char × Bool

/-- A member of a bracket: the characters from one to another, or those of a class. -/
inductive Member
  | range (first last : Char)
  | named (name : String)
deriving DecidableEq, Repr

namespace Member

def isPrintable (c : Char) : Bool := ' ' ≤ c && c ≤ '~'

def isSpace (c : Char) : Bool := c == ' ' || ('\t' ≤ c && c ≤ '\r')

/-- Whether a class that is known by a name holds a character. -/
def classHolds (name : String) (c : Char) : Bool :=
  match name with
  | "alpha" => c.isAlpha
  | "digit" => c.isDigit
  | "alnum" => c.isAlphanum
  | "upper" => c.isUpper
  | "lower" => c.isLower
  | "space" => isSpace c
  | "blank" => c == ' ' || c == '\t'
  | "punct" => isPrintable c && c ≠ ' ' && !c.isAlphanum
  | "print" => isPrintable c
  | "graph" => isPrintable c && c ≠ ' '
  | "cntrl" => c < ' ' || c == '\x7f'
  | "xdigit" => c.isDigit || ('a' ≤ c && c ≤ 'f') || ('A' ≤ c && c ≤ 'F')
  | _ => false

/-- The names of the classes. -/
def classNames : List String := [
  "alpha", "digit", "alnum", "upper", "lower", "space", "blank", "punct", "print", "graph", "cntrl",
  "xdigit"]

def holds : Member → Char → Bool
  | .range first last, c => first ≤ c && c ≤ last
  | .named name, c => classHolds name c

theorem holds_range_self (c d : Char) : (range c c).holds d = true ↔ d = c := by
  simp only [holds, Bool.and_eq_true, decide_eq_true_eq]
  exact ⟨fun h => Char.le_antisymm h.2 h.1, fun h => h ▸ ⟨Char.le_refl _, Char.le_refl _⟩⟩

end Member

/-- The class at the start of a text, read behind its opening sign, and what follows it. -/
def className? (cs : List PatternChar) : Option (String × List PatternChar) :=
  let name := cs.takeWhile fun c => c.1.isAlpha
  match cs.drop name.length with
  | (':', false) :: (']', false) :: rest =>
    let name := String.ofList (name.map Prod.fst)
    if Member.classNames.contains name then some (name, rest) else none
  | _ => none

theorem className_length {cs rest : List PatternChar} {name : String}
    (h : className? cs = some (name, rest)) : rest.length < cs.length := by
  simp only [className?] at h
  split at h
  · rename_i after e
    have := congrArg List.length e
    simp only [List.length_drop, List.length_cons] at this
    split at h
    · simp only [Option.some.injEq, Prod.mk.injEq] at h
      rw [← h.2]
      omega
    · simp at h
  · simp at h

/-- The member that starts with a character, and what follows it. -/
def member (c : PatternChar) (rest : List PatternChar) : Member × List PatternChar :=
  let named := if c = ('[', false) && rest.head? = some (':', false) then className? rest.tail else none
  match named, rest with
  | some (name, after), _ => (.named name, after)
  | none, ('-', false) :: d :: after =>
    if d = (']', false) then (.range c.1 c.1, rest) else (.range c.1 d.1, after)
  | none, _ => (.range c.1 c.1, rest)

theorem member_length (c : PatternChar) (rest : List PatternChar) :
    (member c rest).2.length ≤ rest.length := by
  simp only [member]
  split
  · rename_i name after e
    split at e
    · have := className_length e
      simp only [List.length_tail] at this
      show after.length ≤ _
      omega
    · simp at e
  · split <;> simp +arith
  · simp

/-- The members up to the closing sign, and what follows it. Right in front a closing sign is a
member. -/
def members? (front : Bool) (cs : List PatternChar) : Option (List Member × List PatternChar) :=
  match cs with
  | [] => none
  | c :: rest =>
    if c = (']', false) && !front then some ([], rest)
    else
      have := member_length c rest
      (members? false (member c rest).2).map fun m => ((member c rest).1 :: m.1, m.2)
termination_by cs.length
decreasing_by simp only [List.length_cons]; omega

theorem members_length {front : Bool} {cs rest : List PatternChar} {ms : List Member}
    (h : members? front cs = some (ms, rest)) : rest.length < cs.length := by
  fun_induction members? front cs generalizing ms rest with
  | case1 => simp at h
  | case2 front c tail hc =>
    simp only [Option.some.injEq, Prod.mk.injEq] at h
    simp [← h.2]
  | case3 front c tail hc hl ih =>
    obtain ⟨m, hm, e⟩ := Option.map_eq_some_iff.1 h
    simp only [Prod.mk.injEq] at e
    have := ih hm
    simp only [List.length_cons, ← e.2]
    omega

end BundleForge.Shell
