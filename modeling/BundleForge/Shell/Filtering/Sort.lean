import BundleForge.Shell.Filtering.Lines
import BundleForge.Text.Blank

/-!
Sorting lines by keys. Lines that no key tells apart are compared byte by byte, unless they may stay
as they are. Main statement: sorting keeps every line.
-/

namespace BundleForge.Shell.Filtering

/-- How two keys are compared. -/
structure Comparison where
  numeric : Bool := false
  reverse : Bool := false
  anyCase : Bool := false
  dictionary : Bool := false
  skipBlanks : Bool := false
deriving DecidableEq, Repr

/-- A place in a line: a field, and a character in it, both counted from one. A character zero stands
for the whole field. -/
structure KeyPlace where
  field : Nat
  char : Nat
  skipBlanks : Bool
deriving DecidableEq, Repr

structure SortKey where
  start : KeyPlace
  stop : Option KeyPlace
  order : Comparison
deriving DecidableEq, Repr

structure Sorting where
  keys : List SortKey
  order : Comparison
  separator : Option UInt8
  stable : Bool
  unique : Bool
deriving DecidableEq, Repr

def isBlank (b : UInt8) : Bool := b == 32 || b == 9

/-- A line without its first field. A separator goes with the field before it, unless it is kept. -/
def skipField (separator : Option UInt8) (line : Line) : Line :=
  match separator with
  | some b => (line.dropWhile (· ≠ b)).tail
  | none => (line.dropWhile isBlank).dropWhile (!isBlank ·)

/-- A line without its first fields. -/
def skipFields (separator : Option UInt8) : Nat → Line → Line
  | 0, line => line
  | n + 1, line => skipFields separator n (skipField separator line)

/-- What is left of a line from the place where a key starts. -/
def fromStart (separator : Option UInt8) (p : KeyPlace) (line : Line) : Line :=
  let rest := skipFields separator (p.field - 1) line
  let rest := if p.skipBlanks then rest.dropWhile isBlank else rest
  rest.drop (p.char - 1)

/-- What is left of a line behind the place where a key stops. -/
def behindStop (separator : Option UInt8) (p : KeyPlace) (line : Line) : Line :=
  if p.char = 0 then
    let rest := skipFields separator (p.field - 1) line
    match separator with
    | some b => rest.dropWhile (· ≠ b)
    | none => skipField none rest
  else
    let rest := skipFields separator (p.field - 1) line
    let rest := if p.skipBlanks then rest.dropWhile isBlank else rest
    rest.drop p.char

/-- The bytes of a key in a line. -/
def SortKey.bytes (separator : Option UInt8) (k : SortKey) (line : Line) : Line :=
  let start := fromStart separator k.start line
  match k.stop with
  | none => start
  | some p => start.take (start.length - (behindStop separator p line).length)

/-- The number that a key starts with, as a whole part and a fraction, and whether it is negative. -/
def leadingNumber (key : Line) : Bool × List UInt8 × List UInt8 :=
  let isDigit (b : UInt8) : Bool := 48 ≤ b && b ≤ 57
  let rest := key.dropWhile isBlank
  let negative := rest.head? = some 45
  let rest := if negative then rest.tail else rest
  let whole := rest.takeWhile isDigit
  let rest := rest.drop whole.length
  (negative, whole, if rest.head? = some 46 then rest.tail.takeWhile isDigit else [])

/-- The number that a key starts with, times a power of ten. -/
def scaledNumber (key : Line) (places : Nat) : Int :=
  let (negative, whole, fraction) := leadingNumber key
  let digits := whole ++ fraction ++ List.replicate (places - fraction.length) 48
  let n : Int := (digits.foldl (fun n b => n * 10 + (b.toNat - 48)) 0 : Nat)
  if negative then -n else n

/-- Which of two lines comes first byte by byte. -/
def compareBytes : Line → Line → Ordering
  | [], [] => .eq
  | [], _ :: _ => .lt
  | _ :: _, [] => .gt
  | a :: as, b :: bs => if a < b then .lt else if b < a then .gt else compareBytes as bs

/-- The capital letter of a small one. -/
def toUpper (b : UInt8) : UInt8 := if 97 ≤ b && b ≤ 122 then b - 32 else b

/-- A byte that a dictionary counts: a letter, a digit or a blank. -/
def counts (b : UInt8) : Bool :=
  (48 ≤ b && b ≤ 57) || (65 ≤ b && b ≤ 90) || (97 ≤ b && b ≤ 122) || isBlank b

/-- Which of two keys comes first. -/
def Comparison.compare (c : Comparison) (a b : Line) : Ordering :=
  let found :=
    if c.numeric then
      let places := max (leadingNumber a).2.2.length (leadingNumber b).2.2.length
      Ord.compare (scaledNumber a places) (scaledNumber b places)
    else
      let shown (key : Line) : Line :=
        let key := if c.dictionary then key.filter counts else key
        if c.anyCase then key.map toUpper else key
      compareBytes (shown a) (shown b)
  if c.reverse then found.swap else found

namespace Sorting

/-- Which of two lines comes first by their keys alone. -/
def compareKeys (s : Sorting) (a b : Line) : Ordering :=
  let keys := if s.keys.isEmpty then [⟨⟨1, 1, s.order.skipBlanks⟩, none, s.order⟩] else s.keys
  keys.foldl (fun found k =>
    found.then (k.order.compare (k.bytes s.separator a) (k.bytes s.separator b))) .eq

/-- Which of two lines comes first. -/
def compare (s : Sorting) (a b : Line) : Ordering :=
  let last := compareBytes a b
  (s.compareKeys a b).then
    (if s.stable || s.unique then .eq else if s.order.reverse then last.swap else last)

/-- Lines without those that their keys do not tell from the line before. -/
def dropEqual (s : Sorting) : List Line → List Line
  | a :: b :: rest =>
    if (s.compareKeys a b).isEq then dropEqual s (a :: rest) else a :: dropEqual s (b :: rest)
  | lines => lines

def sort (s : Sorting) (lines : List Line) : List Line :=
  let sorted := lines.mergeSort fun a b => (s.compare a b).isLE
  if s.unique then s.dropEqual sorted else sorted

theorem perm_sort (s : Sorting) (lines : List Line) (h : s.unique = false) :
    (s.sort lines).Perm lines := by
  simp only [sort, h, Bool.false_eq_true, if_false]
  exact List.mergeSort_perm _ _

/-- The first line that stands behind one that it should stand before, with its number. -/
def disorder? (s : Sorting) (n : Nat) : List Line → Option (Nat × Line)
  | a :: b :: rest =>
    match s.compare a b with
    | .gt => some (n + 1, b)
    | .eq => if s.unique then some (n + 1, b) else disorder? s (n + 1) (b :: rest)
    | .lt => disorder? s (n + 1) (b :: rest)
  | _ => none

end Sorting

/-- Letters behind a place of a key change how it is compared. -/
def Comparison.withLetter (c : Comparison) : Char → Comparison
  | 'n' => { c with numeric := true }
  | 'r' => { c with reverse := true }
  | 'f' => { c with anyCase := true }
  | 'd' => { c with dictionary := true }
  | 'b' => { c with skipBlanks := true }
  | _ => c

/-- The place that a text spells, and the letters behind it. -/
def keyPlace? (cs : List Char) (usual : Nat) : Option (Nat × Nat × List Char) := do
  let digits := cs.takeWhile Char.isDigit
  let rest := cs.drop digits.length
  let field ← (String.ofList digits).toNat?
  match rest with
  | '.' :: after =>
    let digits := after.takeWhile Char.isDigit
    return (field, ← (String.ofList digits).toNat?, after.drop digits.length)
  | rest => return (field, usual, rest)

/-- The key that a text spells. Letters of its own replace the ones that all keys share. -/
def sortKey? (shared : Comparison) (text : String) : Option SortKey := do
  let (front, back) := Text.cutAt ',' text.toList
  let (field, char, letters) ← keyPlace? front 1
  if field = 0 || char = 0 then none
  let stop ← match back with
    | none => some none
    | some back => (keyPlace? back 0).map some
  let stopLetters := stop.elim [] fun s => s.2.2
  let own := letters ++ stopLetters
  let order := if own.isEmpty then shared else own.foldl Comparison.withLetter {}
  return {
    start := ⟨field, char, letters.contains 'b' || (own.isEmpty && shared.skipBlanks)⟩
    stop := stop.map fun s => ⟨s.1, s.2.1, stopLetters.contains 'b' || (own.isEmpty && shared.skipBlanks)⟩
    order }

end BundleForge.Shell.Filtering
