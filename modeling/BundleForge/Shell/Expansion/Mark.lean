/-!
Words that are made of marks: characters, and the places of quotes. A character is kept from any meaning
of its own where it was quoted. Only some regions of a word are divided at separators, those that stand
for values. Main statement: where no region may be divided, a word is one field.
-/

namespace BundleForge.Shell

/-- A character, or a place where quotes open or close, which shows that something was written there. -/
inductive Mark
  | char (c : Char) (kept : Bool)
  | quotes
deriving DecidableEq, Repr

/-- A part of a word that may be divided at separators, or at zeros only. -/
structure Region where
  start : Nat
  stop : Nat
  zeros : Bool
deriving DecidableEq, Repr

/-- A word as it is made, with the regions of it that may be divided. -/
structure Expanded where
  marks : Array Mark := #[]
  regions : Array Region := #[]

namespace Mark

/-- The characters of marks. -/
def chars (marks : List Mark) : List Char := marks.filterMap fun
  | .char c _ => some c
  | .quotes => none

def text (marks : List Mark) : String := String.ofList (chars marks)

theorem chars_char (cs : List Char) (kept : Bool) : chars (cs.map (.char · kept)) = cs := by
  simp [chars, List.filterMap_map, Function.comp_def]

end Mark

namespace Expanded

def push (c : Char) (kept : Bool) (x : Expanded) : Expanded := { x with marks := x.marks.push (.char c kept) }

def size (x : Expanded) : Nat := x.marks.size

/-- A region from some place up to the end. -/
def record (start : Nat) (zeros : Bool) (x : Expanded) : Expanded :=
  { x with regions := x.regions.push ⟨start, x.marks.size, zeros⟩ }

def text (x : Expanded) : String := Mark.text x.marks.toList

end Expanded

/-- The characters that are blanks among separators. A zero, which nothing else holds, is like one. -/
def isUsualSeparator (c : Char) : Bool := c == ' ' || c == '\t' || c == '\n' || c == Char.ofNat 0

/-- How far a word is divided: the field that is made, held back to front, the fields before it, where
the text that is left out at the end of the last field starts, and how many more fields there may be. -/
structure Dividing where
  field : List Mark := []
  fields : List (List Mark) := []
  afterBlank : Bool := false
  dropped : Option Nat := none
  most : Option Nat
  zeros : Bool := false
  afterZeros : Bool := false

namespace Dividing

/-- The character of a mark. -/
def charOf : Mark → Char
  | .char c _ => c
  | .quotes => 'q'

def isQuotes : Mark → Bool
  | .quotes => true
  | _ => false

/-- The next mark of a region that may be divided. -/
def step (separators : List Char) (m : Mark) (d : Dividing) : Dividing :=
  let c := charOf m
  let divides := !isQuotes m && (c == Char.ofNat 0 || (!d.zeros && separators.contains c))
  let blank := divides && isUsualSeparator c
  let kept : Dividing := { d with field := m :: d.field }
  if d.most = some 0 then
    if blank then { kept with dropped := some (d.dropped.getD d.field.length) }
    else { kept with
      dropped := if divides && d.afterBlank then d.dropped else none, afterBlank := false }
  else if d.afterBlank then
    if blank then { d with field := [] }
    else if divides then { d with field := [], afterBlank := false }
    else { d with field := [m], afterBlank := false }
  else if divides then
    let spaced := if d.afterZeros || d.zeros then d.afterBlank else blank
    if d.field.isEmpty && spaced then d
    else if d.most = some 1 then
      { kept with most := some 0, dropped := some d.field.length, afterBlank := spaced }
    else { d with
      field := [], fields := d.field.reverse :: d.fields, afterBlank := spaced
      most := d.most.map (· - 1) }
  else kept

/-- What is outside of the regions that may be divided is only added. -/
def add (marks : List Mark) (d : Dividing) : Dividing := { d with field := marks.reverse ++ d.field }

/-- A region that may be divided. -/
def region (separators : List Char) (r : Region) (marks : List Mark) (d : Dividing) : Dividing :=
  marks.foldl (fun d m => step separators m d)
    { d with afterZeros := d.zeros, zeros := r.zeros, afterBlank := false }

/-- The fields, the last one with them if there is anything in it. -/
def finish (d : Dividing) : List (List Mark) :=
  let field := d.field.reverse
  let field := d.dropped.elim field fun n => field.take n
  (if field.isEmpty && !d.zeros then d.fields else field :: d.fields).reverse

end Dividing

/-- The fields of a word; with a limit no more than that, the last one with all the rest. -/
def Expanded.fields (separators : List Char) (most : Option Nat) (x : Expanded) : List (List Mark) :=
  let (d, position) := x.regions.foldl (fun (d, position) r =>
    let between := (x.marks.extract position r.start).toList
    let inside := (x.marks.extract (max position r.start) r.stop).toList
    (Dividing.region separators r inside (Dividing.add between d), max position r.stop))
    (({ most } : Dividing), 0)
  Dividing.finish (Dividing.add (x.marks.extract position x.marks.size).toList d)

theorem fields_of_noRegions (separators : List Char) (marks : Array Mark) (h : marks ≠ #[]) :
    (Expanded.mk marks #[]).fields separators none = [marks.toList] := by
  simpa [Expanded.fields, Dividing.finish, Dividing.add] using h

end BundleForge.Shell
