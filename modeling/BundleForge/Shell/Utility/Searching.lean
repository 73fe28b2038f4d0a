import BundleForge.Shell.Filtering.Lines
import BundleForge.Shell.Filtering.Search
import BundleForge.Shell.Expansion.Pattern
import BundleForge.Shell.Regular.Reader
import BundleForge.Shell.Utility.Input

/-!
The commands that find lines with regular expressions. Main statements: numbering keeps the lines as
they are, and a search in texts alone finds nothing in a file that is none.
-/

namespace BundleForge.Shell.Run

open Filtering

/-- The expression that no text matches. -/
def unmatched : Regular := .oneOf false []

/-- The expression that lines of patterns spell, any of which will do. -/
def expressionOf (o : Options) (patterns : List String) : Except Regular.Fault Regular := do
  let one (pattern : String) : Except Regular.Fault Regular :=
    if o.has 'F' then pure (Regular.ofText pattern.toList)
    else Regular.read { extended := o.has 'E' || o.has 'P', controls := false } pattern.toList
  let all ← (patterns.flatMap (Text.pieces '\n')).mapM one
  return match all with
    | [] => unmatched
    | first :: rest => rest.foldl Regular.either first

/-- A line that is searched: as text, as bytes, its number, and the number of bytes before it. -/
structure Searched where
  text : List Char
  bytes : Line
  number : Nat
  offset : Nat

/-- The lines of some bytes, from a number and an offset on. -/
def searchedFrom (number offset : Nat) : List Line → List Searched
  | [] => []
  | line :: rest =>
    ⟨(Octets.textOf line).toList, line, number, offset⟩ ::
      searchedFrom (number + 1) (offset + line.length + 1) rest

theorem searchedFrom_bytes (number offset : Nat) (lines : List Line) :
    (searchedFrom number offset lines).map Searched.bytes = lines := by
  induction lines generalizing number offset with
  | nil => rfl
  | cons line lines ih => simp [searchedFrom, ih]

/-- Whether bytes are no text: they have a zero among them, or spell no characters. -/
def isBinary (bytes : List UInt8) : Bool :=
  bytes.contains 0 || !(Text.Utf8.decode bytes) matches .ok _

/-- How much is shown before and behind a line that is found. -/
structure Around where
  before : Nat
  after : Nat

/-- What is found in a file: what is printed, whether a line is selected, and whether that is only
said because the file is no text. -/
structure Findings where
  made : List UInt8 := []
  found : Bool := false
  untold : Bool := false

/-- The rows for the lines selected and those around them, with a mark between groups of lines. -/
def rowsAround (around : Around) (follows : Bool) (front : Searched → String → List UInt8)
    (lines selected : List Searched) : List UInt8 :=
  let hits := selected.map Searched.number
  let shown := lines.filter fun l =>
    hits.any fun hit => hit ≤ l.number + around.before && l.number ≤ hit + around.after
  let grouped := 0 < around.before || 0 < around.after
  shown.zipIdx.flatMap fun (l, i) =>
    let gap := grouped && if i = 0 then follows else (shown[i - 1]?).any fun p => p.number + 1 ≠ l.number
    (if gap then [45, 45, 10] else []) ++ front l (if hits.contains l.number then ":" else "-") ++
      l.bytes ++ [10]

/-- What is found in the bytes of a file. The name of the file is shown where there is a label. -/
def findLines (o : Options) (s : Searching) (around : Around) (most : Option Nat) (name : String)
    (labelled follows : Bool) (bytes : List UInt8) : Findings :=
  let lines := searchedFrom 1 0 (linesOf bytes)
  let selected := lines.filter fun l => s.selects l.text
  let selected := most.elim selected selected.take
  let found := !selected.isEmpty
  let nameEnd (sign : String) : String := name ++ if o.has 'Z' then "\x00" else sign
  let front (l : Searched) (shift : Nat) (sign : String) : List UInt8 := Octets.bytesOf
    ((if labelled then nameEnd sign else "") ++ (if o.has 'n' then toString l.number ++ sign else "") ++
      if o.has 'b' then toString (l.offset + shift) ++ sign else "")
  let listed := Octets.bytesOf (nameEnd "\n")
  let binary := !o.has 'a' && isBinary bytes
  if binary && o.has 'I' then {}
  else if o.has 'q' then { found }
  else if o.has 'l' then { made := if found then listed else [], found }
  else if o.has 'L' then { made := if found then [] else listed, found }
  else if o.has 'c' then
    { made := Octets.bytesOf ((if labelled then nameEnd ":" else "") ++ toString selected.length ++ "\n")
      found }
  else if binary then { found, untold := found }
  else if o.has 'o' then
    let parts := if s.inverted then [] else selected.flatMap fun l =>
      (s.parts l.text).flatMap fun (start, part) =>
        front l (Octets.bytesOf (String.ofList (l.text.take start))).length ":" ++
          Octets.bytesOf (String.ofList part) ++ [10]
    { made := parts, found }
  else { made := rowsAround around follows (fun l => front l 0) lines selected, found }

theorem findLines_binary (o : Options) (s : Searching) (around : Around) (most : Option Nat)
    (name : String) (labelled follows : Bool) (bytes : List UInt8) (h : isBinary bytes = true)
    (ha : o.has 'a' = false) (hi : o.has 'I' = true) :
    findLines o s around most name labelled follows bytes = {} := by
  simp [findLines, h, ha, hi]

mutual

/-- The paths of the files at and below a node, by name. Links are not followed. -/
def filesIn (path : String) : Node → List String
  | .dir entries => filesAmongEntries path entries
  | .file _ => [path]
  | .link _ => []

def filesAmongEntries (path : String) : List (String × Node) → List String
  | [] => []
  | (name, n) :: rest =>
    filesIn (if path = "" then name else if path.toList.getLast? = some '/' then path ++ name
      else path ++ "/" ++ name) n ++ filesAmongEntries path rest

end

/-- Whether a file is to be searched: its name is one of those that are included, and none of those
that are excluded. -/
def isIncluded (o : Options) (path : String) : Bool :=
  let name := if (Path.ofString path).name = "" then path else (Path.ofString path).name
  let fits (pattern : String) : Bool :=
    globMatches (glyphs (patternChars pattern.toList)) name.toList
  let included := o.values 'k'
  (included.isEmpty || included.any fits) && !(o.values 'K').any fits

/-- The names of the files to be searched, with those in directories where that is asked for, and
whether one of them stands for a directory. -/
def searchedNames (o : Options) (names : List String) : Run (List String × Bool) := do
  let deep := o.has 'r' || o.has 'R'
  let mut made : List String := []
  let mut opened := false
  for name in names do
    match ← node? name with
    | some (.dir entries) =>
      if deep then
        made := made ++ (filesIn name (.dir (entries.mergeSort fun a b => decide (a.1 ≤ b.1)))).filter
          (isIncluded o)
        opened := true
      else if o.value? 'd' ≠ some "skip" then made := made ++ [name]
    | _ => if name = "-" || isIncluded o name then made := made ++ [name]
  return (made, opened)

/-- The options for finding lines. -/
def searchOptions : KnownOptions where
  plain := "EFGPivcnoqwxlLhHsarRzZbyIUTu0123456789"
  valued := "emfABCdDjkKX"
  optional := "J"
  words := [
    ("extended-regexp", 'E'), ("fixed-strings", 'F'), ("basic-regexp", 'G'), ("perl-regexp", 'P'),
    ("regexp", 'e'), ("file", 'f'), ("ignore-case", 'i'), ("no-ignore-case", 'y'), ("word-regexp", 'w'),
    ("line-regexp", 'x'), ("null-data", 'z'), ("no-messages", 's'), ("invert-match", 'v'),
    ("max-count", 'm'), ("byte-offset", 'b'), ("line-number", 'n'), ("line-buffered", 'u'),
    ("with-filename", 'H'), ("no-filename", 'h'), ("label", 'j'), ("only-matching", 'o'), ("quiet", 'q'),
    ("silent", 'q'), ("binary-files", 'X'), ("text", 'a'), ("directories", 'd'), ("devices", 'D'),
    ("recursive", 'r'), ("dereference-recursive", 'R'), ("include", 'k'), ("exclude", 'K'),
    ("files-without-match", 'L'), ("files-with-matches", 'l'), ("count", 'c'), ("initial-tab", 'T'),
    ("null", 'Z'), ("before-context", 'B'), ("after-context", 'A'), ("context", 'C'), ("color", 'J'),
    ("colour", 'J'), ("binary", 'U')]

/-- How much is shown around lines, unless a number is none. -/
def aroundOf (o : Options) : Except String Around := do
  let number (letter : Char) : Except String (Option Nat) :=
    match o.value? letter with
    | none => pure none
    | some text =>
      match text.toNat? with
      | some n => pure (some n)
      | none => throw (text ++ ": invalid context length argument")
  let digits := (o.given.map Prod.fst).filter Char.isDigit
  let usual := (← number 'C').getD ((String.ofList digits).toNat?.getD 0)
  return ⟨(← number 'B').getD usual, (← number 'A').getD usual⟩

/-- How many lines are selected at most. -/
def mostOf (o : Options) : Except String (Option Nat) :=
  match o.value? 'm' with
  | none => pure none
  | some text =>
    match text.toInt? with
    | some n => pure (if n < 0 then none else some n.toNat)
    | none => throw "invalid max count"

def searchUsage : Run Nat := do
  complain "Usage: grep [OPTION]... PATTERNS [FILE]..."
  complain "Try 'grep --help' for more information."
  return 2

/-- A search that cannot be made. -/
def unsearchable (text : String) : Run Nat := do
  complain ("grep: " ++ text)
  return 2

/-- The files of a search that can be read, and whether one could not. With `silent` nothing is said
of it. -/
def searchedFiles (silent : Bool) : List String → Run (List (String × List UInt8) × Bool)
  | [] => return ([], false)
  | name :: rest => do
    match ← fileBytes name with
    | .ok bytes => do
      let (others, failed) ← searchedFiles silent rest
      return ((name, bytes) :: others, failed)
    | .error cause => do
      unless silent do complain (unread "grep" name cause)
      return ((← searchedFiles silent rest).1, true)

/-- What is found in several files, one after the other. -/
def findInFiles (find : Bool → String → List UInt8 → Findings) (follows : Bool) :
    List (String × List UInt8) → Run (List Findings)
  | [] => return []
  | (name, bytes) :: rest => do
    let findings := find follows name bytes
    printBytes findings.made
    if findings.untold then complain ("grep: " ++ name ++ ": binary file matches")
    return findings :: (← findInFiles find (follows || !findings.made.isEmpty) rest)

/-- The lines of the files that hold patterns. -/
def listedPatterns : List String → Run (Except String (List String))
  | [] => return .ok []
  | name :: rest => do
    match ← fileBytes name with
    | .error cause => return .error (name ++ ": " ++ cause.wording)
    | .ok bytes => return (← listedPatterns rest).map ((linesOf bytes).map Octets.textOf ++ ·)

/-- Finds the lines that match an expression in what is read, or in files. -/
def findAll (o : Options) (expression : Regular) (around : Around) (most : Option Nat)
    (names : List String) : Run Nat := do
  let s : Searching := {
    expression := Searching.bounded (o.has 'x') (o.has 'w') expression
    anyCase := o.has 'i' || o.has 'y', inverted := o.has 'v' }
  let input := (o.value? 'j').getD "(standard input)"
  let deep := o.has 'r' || o.has 'R'
  if names.isEmpty && !deep then
    let find := findLines o s around most input (o.has 'H') false
    let enough (bytes : List UInt8) : Bool :=
      let known := (bytes.reverse.dropWhile (· ≠ 10)).reverse
      if o.has 'q' || o.has 'l' then (find known).found
      else most.any fun n => n ≤ ((linesOf known).filter fun line => s.selects (Octets.textOf line).toList).length
    let bytes ← match ← readUntil 0 enough patience [] with
      | .ok (bytes, _) => pure bytes
      | .error fault => do
        complain ("grep: " ++ input ++ ": " ++ fault.wording)
        return 2
    let findings := find bytes
    printBytes findings.made
    if findings.untold then complain ("grep: " ++ input ++ ": binary file matches")
    return if findings.found then 0 else 1
  let (searched, opened) ←
    if names.isEmpty then do
      let top ← node? "."
      pure ((top.elim [] (filesIn "")).filter (isIncluded o), true)
    else searchedNames o names
  let labelled := (1 < names.length || opened || o.has 'H') && !o.has 'h'
  let (inputs, failed) ← searchedFiles (o.has 's') searched
  let inputs := inputs.map fun (name, bytes) => (if name = "-" then input else name, bytes)
  let results ← findInFiles (fun follows name => findLines o s around most name labelled follows) false
    inputs
  let found := results.any Findings.found
  return if found && o.has 'q' then 0 else if failed then 2 else if found then 0 else 1

/-- Finds the lines that match patterns. -/
def grepWith (more : List (Char × String)) (arguments : List String) : Run Nat :=
  match Options.read searchOptions arguments with
  | .error fault => do
    complain ("grep: " ++ fault.message)
    searchUsage
  | .ok o => do
    let o := { o with given := o.given ++ more }
    let explicit := o.values 'e'
    match aroundOf o, mostOf o, ← listedPatterns (o.values 'f') with
    | .error text, _, _ | _, .error text, _ | _, _, .error text => unsearchable text
    | .ok around, .ok most, .ok listed =>
      let given := !explicit.isEmpty || o.has 'f'
      if !given && o.others.isEmpty then searchUsage
      else
        let patterns := if given then explicit ++ listed else o.others.take 1
        match expressionOf o patterns with
        | .error fault => unsearchable fault.message
        | .ok expression =>
          findAll o expression around most (if given then o.others else o.others.drop 1)

def grep (arguments : List String) : Run Nat := grepWith [] arguments

end BundleForge.Shell.Run
