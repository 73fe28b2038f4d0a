import BundleForge.Shell.Bracket
import BundleForge.Shell.Expansion.Mark

/-!
Patterns of names and texts: a star stands for any text, a question mark for one character, and
brackets for one of several characters. A backslash takes the meaning from what follows. Main
statement: characters that stand for themselves match one text only.
-/

namespace BundleForge.Shell

namespace Mark

/-- The text of a pattern: what is kept from its meaning stands behind a backslash, unless a bare
backslash is in front of it already. -/
def patternText (unescaped : Bool) : List Mark → List Char
  | [] => []
  | .quotes :: rest => patternText true rest
  | .char '\\' false :: rest => '\\' :: patternText false rest
  | .char c kept :: rest =>
    if kept && unescaped then '\\' :: c :: patternText true rest else c :: patternText true rest

/-- The text of a pattern that marks spell. -/
def pattern (marks : List Mark) : List Char := patternText true marks

end Mark

/-- The characters of a pattern, each with whether it stands behind a backslash. -/
def patternChars : List Char → List PatternChar
  | [] => []
  | ['\\'] => [('\\', true)]
  | '\\' :: c :: rest => (c, true) :: patternChars rest
  | c :: rest => (c, false) :: patternChars rest

/-- Where an octet stands among others: the second half of them comes before the first. -/
def octetRank (c : Char) : Nat := (c.toNat + 0x80) % 0x100

/-- Whether a member of a bracket holds an octet. -/
def Member.holdsOctet : Member → Char → Bool
  | .range first last, c => c = first || (octetRank first ≤ octetRank c && octetRank c ≤ octetRank last)
  | .named name, c => Member.classHolds name c

theorem Member.holdsOctet_first (c last : Char) : (Member.range c last).holdsOctet c = true := by
  simp [Member.holdsOctet]

/-- One element of a pattern. -/
inductive Glyph
  | char (c : Char)
  | any
  | star
  | oneOf (negated : Bool) (members : List Member)
deriving DecidableEq, Repr

/-- Whether a character is one that a glyph stands for. -/
def Glyph.accepts : Glyph → Char → Bool
  | .char d, c => c = d
  | .any, _ => true
  | .star, _ => true
  | .oneOf negated members, c => (members.any fun m => m.holdsOctet c) != negated

/-- Whether a whole text is one that a pattern stands for. -/
def globMatches : List Glyph → List Char → Bool
  | [], cs => cs.isEmpty
  | .star :: rest, [] => globMatches rest []
  | .star :: rest, c :: cs => globMatches rest (c :: cs) || globMatches (.star :: rest) cs
  | _ :: _, [] => false
  | glyph :: rest, c :: cs => glyph.accepts c && globMatches rest cs
termination_by glyphs cs => (glyphs.length, cs.length)

theorem globMatches_char (text cs : List Char) :
    globMatches (text.map Glyph.char) cs = true ↔ cs = text := by
  induction text generalizing cs with
  | nil => simp [globMatches]
  | cons c rest ih =>
    cases cs with
    | nil => simp [globMatches]
    | cons d cs => simp [globMatches, Glyph.accepts, ih]

/-- The bracket that follows its opening sign, and what follows it. An exclamation mark in front
stands for all other characters. -/
def bracket? (cs : List PatternChar) : Option (Glyph × List PatternChar) :=
  let negated := cs.head? = some ('!', false)
  (members? true (if negated then cs.tail else cs)).map fun m => (.oneOf negated m.1, m.2)

theorem bracket_length {cs rest : List PatternChar} {g : Glyph} (h : bracket? cs = some (g, rest)) :
    rest.length < cs.length := by
  simp only [bracket?] at h
  obtain ⟨m, hm, e⟩ := Option.map_eq_some_iff.1 h
  simp only [Prod.mk.injEq] at e
  have := members_length hm
  rw [e.2] at this
  split at this
  · simp only [List.length_tail] at this
    omega
  · omega

/-- The pattern that characters spell. A bracket that is never closed stands for itself, and stars in a
row are like one. -/
def glyphs : List PatternChar → List Glyph
  | [] => []
  | (c, kept) :: rest =>
    if kept then .char c :: glyphs rest
    else match c with
      | '*' => if rest.head? = some ('*', false) then glyphs rest else .star :: glyphs rest
      | '?' => .any :: glyphs rest
      | '[' =>
        match _h : bracket? rest with
        | some (glyph, after) => glyph :: glyphs after
        | none => .char c :: glyphs rest
      | c => .char c :: glyphs rest
termination_by cs => cs.length
decreasing_by
  all_goals simp only [List.length_cons]
  · omega
  · omega
  · omega
  · omega
  · have := bracket_length _h
    omega
  all_goals omega

/-- Whether a text is one that the text of a pattern stands for. -/
def patternMatches (pattern text : List Char) : Bool := globMatches (glyphs (patternChars pattern)) text

/-- How long the shortest, or the longest, front of a text is that a pattern stands for. -/
def frontLength? (longest : Bool) (pattern : List Glyph) (cs : List Char) : Option Nat :=
  let lengths := List.range (cs.length + 1)
  (if longest then lengths.reverse else lengths).find? fun n => globMatches pattern (cs.take n)

/-- Where the shortest, or the longest, back of a text starts that a pattern stands for. -/
def backStart? (longest : Bool) (pattern : List Glyph) (cs : List Char) : Option Nat :=
  let starts := List.range (cs.length + 1)
  (if longest then starts else starts.reverse).find? fun n => globMatches pattern (cs.drop n)

theorem globMatches_of_frontLength {longest : Bool} {pattern : List Glyph} {cs : List Char} {n : Nat}
    (h : frontLength? longest pattern cs = some n) : globMatches pattern (cs.take n) = true :=
  List.find?_some (p := fun n => globMatches pattern (cs.take n)) h

end BundleForge.Shell
