import BundleForge.Shell.Bracket
import BundleForge.Shell.Escape
import BundleForge.Shell.Octets

/-!
Replacing, deleting and squeezing single bytes. Main statements: replacing keeps the number of bytes,
and what is deleted is gone.
-/

namespace BundleForge.Shell.Filtering

/-- The bytes that spell a character. -/
def bytesOf (c : Char) : List UInt8 := Octets.bytesOf (String.singleton c)

/-- A byte of a set as it is written, and whether it is quoted. -/
abbrev SetByte := UInt8 × Bool

/-- The bytes of a set. A backslash stands for a byte with the character, or up to three octal
digits, behind it. -/
def setBytes (cs : List Char) : List SetByte :=
  match cs with
  | [] => []
  | '\\' :: c :: rest =>
    if '0' ≤ c && c ≤ '7' then
      let number := octal (c.toNat - '0'.toNat) 2 rest
      have := octal_length (c.toNat - '0'.toNat) 2 rest
      (UInt8.ofNat number.1, true) :: setBytes number.2
    else
      let b := if c = 'e' then none else letterEscape? c
      (b.elim (bytesOf c) ([·])).map (·, true) ++ setBytes rest
  | c :: rest => (bytesOf c).map (·, false) ++ setBytes rest
termination_by cs.length
decreasing_by all_goals simp only [List.length_cons]; omega

/-- A piece of a set: the bytes from one to another, a class, or a byte that is repeated, as often as
needed where no number is given. -/
inductive SetPiece
  | range (first last : UInt8)
  | named (name : String)
  | repeated (b : UInt8) (count : Option Nat)
deriving DecidableEq, Repr

/-- What is wrong with sets. -/
inductive SetFault
  | reversedRange (first last : UInt8)
  | unknownClass (name : String)
  | badRepeat (text : String)
  | repeatInFirst
  | emptySecond
deriving DecidableEq, Repr

def textOfBytes (bs : List SetByte) : String :=
  String.ofList (bs.map fun b => Char.ofNat b.1.toNat)

/-- The text up to two bytes, and what follows them. -/
def upToPair (a b : UInt8) : List SetByte → Option (List SetByte × List SetByte)
  | x :: y :: rest =>
    if x = (a, false) && y = (b, false) then some ([], rest)
    else (upToPair a b (y :: rest)).map fun r => (x :: r.1, r.2)
  | _ => none

/-- The piece in brackets behind an opening sign: a class, or a byte repeated. -/
def bracketPiece? (bs : List SetByte) : Option (Except SetFault SetPiece × List SetByte) :=
  match bs with
  | (58, false) :: rest =>
    (upToPair 58 93 rest).map fun (name, after) =>
      let name := textOfBytes name
      (if Member.classNames.contains name then .ok (.named name) else .error (.unknownClass name), after)
  | (61, false) :: (b, _) :: (61, false) :: (93, false) :: after => some (.ok (.range b b), after)
  | (b, _) :: (42, false) :: rest =>
    let digits := rest.takeWhile fun d => 48 ≤ d.1 && d.1 ≤ 57
    match rest.drop digits.length with
    | (93, false) :: after =>
      let base := if digits.head?.map Prod.fst = some 48 then 8 else 10
      let count := digits.foldl (fun n d => n * base + (d.1.toNat - 48)) 0
      some (.ok (.repeated b (if count = 0 then none else some count)), after)
    | _ => none
  | _ => none

/-- A byte, or a range that starts with it, and what is left behind it. -/
def plainPiece (b : SetByte) (rest : List SetByte) : Except SetFault (SetPiece × List SetByte) :=
  match rest with
  | (45, false) :: c :: after =>
    if c.1 < b.1 then throw (.reversedRange b.1 c.1)
    else return (.range b.1 c.1, after)
  | rest => return (.range b.1 b.1, rest)

/-- The piece that starts with a byte, and what is left behind it. -/
def pieceAt (b : SetByte) (rest : List SetByte) : Except SetFault (SetPiece × List SetByte) :=
  match (if b = (91, false) then bracketPiece? rest else none) with
  | some (piece, after) => piece.map fun piece => (piece, after)
  | none => plainPiece b rest

/-- The pieces of a set. -/
def setPieces : Nat → List SetByte → Except SetFault (List SetPiece)
  | 0, _ | _, [] => return []
  | fuel + 1, b :: rest => do
    let (piece, after) ← pieceAt b rest
    return piece :: (← setPieces fuel after)

def allBytes : List UInt8 := (List.range 256).map UInt8.ofNat

def SetPiece.bytes : SetPiece → List UInt8
  | .range first last => allBytes.filter fun b => first ≤ b && b ≤ last
  | .named name => allBytes.filter fun b => b.toNat < 128 && Member.classHolds name (Char.ofNat b.toNat)
  | .repeated b count => List.replicate (count.getD 0) b

/-- The bytes of a set in order; one without a number is repeated until there are as many as wanted. -/
def expand (pieces : List SetPiece) (wanted : Nat) : List UInt8 :=
  let fixed := (pieces.flatMap SetPiece.bytes).length
  pieces.flatMap fun
    | .repeated b none => List.replicate (wanted - fixed) b
    | p => p.bytes

/-- The set that a text spells. -/
def readSet (text : String) : Except SetFault (List SetPiece) :=
  let bs := setBytes text.toList
  setPieces (bs.length + 1) bs

def complementOf (set : List UInt8) : List UInt8 := allBytes.filter fun b => !set.contains b

/-- Bytes with those of one list replaced by those of another. What is written last counts. -/
def replaceBytes (pairs : List (UInt8 × UInt8)) (bytes : List UInt8) : List UInt8 :=
  let table := pairs.foldl (fun (t : Array UInt8) (a, b) => t.setIfInBounds a.toNat b) allBytes.toArray
  bytes.map fun b => table[b.toNat]?.getD b

theorem length_replaceBytes (pairs : List (UInt8 × UInt8)) (bytes : List UInt8) :
    (replaceBytes pairs bytes).length = bytes.length := by
  simp [replaceBytes]

def deleteBytes (set bytes : List UInt8) : List UInt8 := bytes.filter fun b => !set.contains b

theorem not_mem_deleteBytes {set bytes : List UInt8} {b : UInt8} (h : b ∈ set) :
    b ∉ deleteBytes set bytes := by
  simp [deleteBytes, h]

/-- Bytes with runs of the same byte of a set made one. -/
def squeezeBytes (set : List UInt8) : List UInt8 → List UInt8
  | a :: b :: rest =>
    if a = b && set.contains a then squeezeBytes set (b :: rest) else a :: squeezeBytes set (b :: rest)
  | bytes => bytes

/-- What is done with bytes. -/
structure Exchange where
  complement : Bool
  delete : Bool
  squeeze : Bool
  truncate : Bool
  first : List SetPiece
  second : Option (List SetPiece)

namespace Exchange

/-- Pairs of a byte and what stands for it: the last byte of the second set stands for all that are
left over. -/
def pairs (t : Exchange) (first second : List UInt8) : List (UInt8 × UInt8) :=
  if t.truncate then first.zip second
  else
    let last := second.getLast?.getD 0
    first.zip (second ++ List.replicate (first.length - second.length) last)

def apply (t : Exchange) (bytes : List UInt8) : Except SetFault (List UInt8) := do
  if t.first.any fun
      | .repeated _ none => true
      | _ => false then throw .repeatInFirst
  let first := expand t.first 0
  let first := if t.complement then complementOf first else first
  match t.second with
  | none =>
    let bytes := if t.delete then deleteBytes first bytes else bytes
    return if t.squeeze && !t.delete then squeezeBytes first bytes else bytes
  | some pieces =>
    let second := expand pieces first.length
    if t.delete then return squeezeBytes second (deleteBytes first bytes)
    else if second.isEmpty && !first.isEmpty then throw .emptySecond
    else
      let made := replaceBytes (t.pairs first second) bytes
      return if t.squeeze then squeezeBytes second made else made

end Exchange
end BundleForge.Shell.Filtering
