import BundleForge.Shell.Filtering.Lines
import BundleForge.Text.Blank

/-!
Arranging lines: backwards, numbered, folded, side by side, and without those that repeat. Main
statement: the runs of equal lines make up all lines.
-/

namespace BundleForge.Shell.Filtering

/-- Pieces up to and with each line end, the last piece first. The last piece may lack an end. -/
def backwards (bytes : List UInt8) : List UInt8 :=
  let ended := bytes.getLast? = some 10
  let lines := linesOf bytes
  if ended || lines.isEmpty then unlines lines.reverse
  else (lines.getLast?.getD []) ++ unlines lines.dropLast.reverse

/-- Each line from its end to its start. -/
def linesBackwards (text : String) : String :=
  "\n".intercalate ((Text.pieces '\n' text).map fun line => String.ofList line.toList.reverse)

/-- How lines that repeat are treated. -/
structure Repeats where
  counts : Bool
  onlyRepeated : Bool
  onlyUnique : Bool
  anyCase : Bool
  skipFields : Nat
  skipBytes : Nat
deriving DecidableEq, Repr

namespace Repeats

def isBlankByte (b : UInt8) : Bool := b == 32 || b == 9

/-- A line without its first fields. -/
def dropFields : Nat → Line → Line
  | 0, line => line
  | n + 1, line => dropFields n ((line.dropWhile isBlankByte).dropWhile (!isBlankByte ·))

/-- What is compared of a line. -/
def key (r : Repeats) (line : Line) : Line :=
  let line := (dropFields r.skipFields line).drop r.skipBytes
  if r.anyCase then line.map fun b => if 65 ≤ b && b ≤ 90 then b + 32 else b else line

/-- The first line of each run of equal lines, with the length of the run. -/
def runs (r : Repeats) : List Line → List (Line × Nat)
  | [] => []
  | line :: rest =>
    match runs r rest with
    | [] => [(line, 1)]
    | (other, n) :: others =>
      if r.key line = r.key other then (line, n + 1) :: others else (line, 1) :: (other, n) :: others

theorem runs_sum (r : Repeats) (lines : List Line) :
    ((r.runs lines).map Prod.snd).foldr (· + ·) 0 = lines.length := by
  induction lines with
  | nil => rfl
  | cons line rest ih =>
    simp only [runs]
    split
    · rename_i e
      rw [e] at ih
      simp only [List.map_nil, List.foldr_nil] at ih
      simp [← ih]
    · rename_i other n others e
      rw [e] at ih
      simp only [List.map_cons, List.foldr_cons] at ih
      split <;> simp only [List.map_cons, List.foldr_cons, List.length_cons] <;> omega

def shown (r : Repeats) (lines : List Line) : List Line :=
  let kept := (r.runs lines).filter fun (_, n) =>
    (!r.onlyRepeated || 1 < n) && (!r.onlyUnique || n = 1)
  kept.map fun (line, n) =>
    if r.counts then (Text.padLeft (toString n) 7 ++ " ").toUTF8.toList ++ line else line

end Repeats

/-- Lines with numbers in front, empty ones left out of the count unless all are to be counted. -/
def numbered (all : Bool) (width : Nat) (between : String) (n : Nat) : List Line → List Line
  | [] => []
  | line :: rest =>
    if line.isEmpty && !all then
      (String.ofList (List.replicate (width + between.length) ' ')).toUTF8.toList ::
        numbered all width between n rest
    else ((Text.padLeft (toString n) width ++ between).toUTF8.toList ++ line) ::
      numbered all width between (n + 1) rest

theorem length_numbered (all : Bool) (width : Nat) (between : String) (n : Nat) (lines : List Line) :
    (numbered all width between n lines).length = lines.length := by
  induction lines generalizing n with
  | nil => rfl
  | cons line rest ih => simp only [numbered]; split <;> simp [ih]

/-- The pieces of a line that are no longer than a width. -/
def folded (width : Nat) : Nat → Line → List Line
  | 0, line => [line]
  | fuel + 1, line =>
    if line.length ≤ width then [line]
    else line.take width :: folded width fuel (line.drop width)

/-- Files line by line, side by side, up to the end of the longest. -/
def beside (separators : List UInt8) (files : List (List Line)) : List Line :=
  let height := (files.map List.length).foldl max 0
  let separator (i : Nat) : List UInt8 :=
    if separators.isEmpty then [] else [separators[i % separators.length]?.getD 9]
  (List.range height).map fun row =>
    (files.zipIdx.map fun (lines, i) =>
      (if i = 0 then [] else separator (i - 1)) ++ (lines[row]?).getD []).flatten

/-- The lines of one file in one line. -/
def inOneLine (separators : List UInt8) (lines : List Line) : Line :=
  (lines.zipIdx.map fun (line, i) =>
    (if i = 0 || separators.isEmpty then []
      else [separators[(i - 1) % separators.length]?.getD 9]) ++ line).flatten

end BundleForge.Shell.Filtering
