import BundleForge.Text.Blank
import BundleForge.Text.Utf8

/-!
Counting what a file holds: lines, words, characters and bytes. Main statement: the line ends of two
files in a row are those of both.
-/

namespace BundleForge.Shell.Filtering

/-- What a file holds. -/
structure Tally where
  lines : Nat
  words : Nat
  chars : Nat
  bytes : Nat
  longest : Nat
deriving DecidableEq, Repr

namespace Tally

def isSpaceByte (b : UInt8) : Bool := b == 32 || (9 ≤ b && b ≤ 13)

/-- How many stretches without a space bytes have. -/
def wordCount : Bool → List UInt8 → Nat
  | _, [] => 0
  | inWord, b :: rest =>
    if isSpaceByte b then wordCount false rest
    else (if inWord then 0 else 1) + wordCount true rest

/-- A byte that does not continue a character. -/
def startsChar (b : UInt8) : Bool := b < 0x80 || 0xc0 ≤ b

def ofBytes (bytes : List UInt8) : Tally where
  lines := bytes.count 10
  words := wordCount false bytes
  chars := bytes.countP startsChar
  bytes := bytes.length
  longest := (bytes.foldl (fun (best, here) b =>
    if b = 10 then (best, 0) else (max best (here + if startsChar b then 1 else 0),
      here + if startsChar b then 1 else 0)) (0, 0)).1

theorem lines_append (a b : List UInt8) :
    (ofBytes (a ++ b)).lines = (ofBytes a).lines + (ofBytes b).lines := by
  simp [ofBytes]

def add (a b : Tally) : Tally :=
  ⟨a.lines + b.lines, a.words + b.words, a.chars + b.chars, a.bytes + b.bytes, max a.longest b.longest⟩

end Tally
end BundleForge.Shell.Filtering
