import BundleForge.Shell.Bracket
import BundleForge.Text.Blank
import BundleForge.Text.Utf8

/-!
Bytes in plain characters: dumps with the position of each row, and groups of six bits, in which four
characters stand for three bytes.
-/

namespace BundleForge.Shell.Filtering

/-- How the bytes of a dump are shown: as characters, or as numbers of some bytes in some base. -/
inductive DumpKind
  | chars
  | names
  | numbers (base size : Nat) (signed : Bool)
deriving DecidableEq, Repr

/-- A number in some base with zeros in front up to a width. -/
def padded (base width n : Nat) : String :=
  let digits := Nat.toDigits base n
  String.ofList (List.replicate (width - digits.length) '0' ++ digits)

def charName (b : UInt8) : String :=
  match b.toNat with
  | 0 => "\\0"
  | 7 => "\\a"
  | 8 => "\\b"
  | 9 => "\\t"
  | 10 => "\\n"
  | 11 => "\\v"
  | 12 => "\\f"
  | 13 => "\\r"
  | n => if Member.isPrintable (Char.ofNat n) then String.singleton (Char.ofNat n) else padded 8 3 n

/-- The names of the characters that control. -/
def controlNames : List String := [
  "nul", "soh", "stx", "etx", "eot", "enq", "ack", "bel", "bs", "ht", "nl", "vt", "ff", "cr", "so",
  "si", "dle", "dc1", "dc2", "dc3", "dc4", "nak", "syn", "etb", "can", "em", "sub", "esc", "fs", "gs",
  "rs", "us", "sp"]

/-- The number of bytes, the first one counting least. -/
def littleEnd (bytes : List UInt8) : Nat := bytes.foldr (fun b n => n * 256 + b.toNat) 0

/-- How wide the greatest number of some bytes is. -/
def numberWidth (base size : Nat) (signed : Bool) : Nat :=
  let greatest := Nat.pow 256 size - 1
  if signed then (Nat.toDigits base (greatest / 2)).length + 1 else (Nat.toDigits base greatest).length

namespace DumpKind

/-- How many bytes one item takes, and how wide it is. -/
def size : DumpKind → Nat
  | .numbers _ size _ => size
  | _ => 1

def width : DumpKind → Nat
  | .numbers base size signed => numberWidth base size signed
  | _ => 3

/-- The bytes of one item as text. -/
def item (k : DumpKind) (bytes : List UInt8) : String :=
  match k with
  | .chars => charName (bytes.headD 0)
  | .names =>
    let n := (bytes.headD 0).toNat % 128
    (controlNames[n]?).getD (if n = 127 then "del" else String.singleton (Char.ofNat n))
  | .numbers 10 size signed =>
    let n := littleEnd bytes
    let half := Nat.pow 256 size / 2
    if signed && half ≤ n then "-" ++ toString (Nat.pow 256 size - n) else toString n
  | .numbers base size signed => padded base (numberWidth base size signed) (littleEnd bytes)

/-- The items of a row. -/
def row (k : DumpKind) : Nat → List UInt8 → String
  | 0, _ | _, [] => ""
  | fuel + 1, bytes =>
    " " ++ Text.padLeft (k.item (bytes.take k.size)) k.width ++ row k fuel (bytes.drop k.size)

end DumpKind

/-- The rows of a dump, each with its position in some base unless no base is given. Rows that repeat
the one before are left out, a star standing for them. -/
def dumpRows (k : DumpKind) (base : Option Nat) (all : Bool) (position : Nat) (last : List UInt8)
    (starred : Bool) : Nat → List UInt8 → List String
  | 0, _ => []
  | fuel + 1, bytes =>
    let here := base.elim "" fun base => padded base (if base = 16 then 6 else 7) position
    if bytes.isEmpty then if base.isSome then [here] else []
    else
      let piece := bytes.take 16
      let rest := bytes.drop 16
      if !all && piece = last && piece.length = 16 then
        (if starred then [] else ["*"]) ++
          dumpRows k base all (position + 16) last true fuel rest
      else
        (here ++ k.row 17 piece) ::
          dumpRows k base all (position + piece.length) piece false fuel rest

/-- The 64 characters for six bits each. -/
def sixBitChars : List Char :=
  "ABCDEFGHIJKLMNOPQRSTUVWXYZabcdefghijklmnopqrstuvwxyz0123456789+/".toList

def sixBitChar (n : Nat) : Char := (sixBitChars[n]?).getD '='

/-- Bytes in groups of six bits. -/
def toSixBits : List UInt8 → List Char
  | a :: b :: c :: rest =>
    let n := a.toNat * 65536 + b.toNat * 256 + c.toNat
    sixBitChar (n / 262144) :: sixBitChar (n / 4096 % 64) :: sixBitChar (n / 64 % 64) ::
      sixBitChar (n % 64) :: toSixBits rest
  | [a, b] =>
    let n := a.toNat * 1024 + b.toNat * 4
    [sixBitChar (n / 4096), sixBitChar (n / 64 % 64), sixBitChar (n % 64), '=']
  | [a] => [sixBitChar (a.toNat / 4), sixBitChar (a.toNat * 16 % 64), '=', '=']
  | [] => []

/-- The bytes of groups of six bits, up to the first that is none, and whether all were good. -/
def ofSixBits : List Char → List UInt8 × Bool
  | [] => ([], true)
  | [a, b, '=', '='] => broken [a, b] true
  | [a, b, c, '='] => broken [a, b, c] true
  | a :: b :: c :: d :: rest =>
    match sixBitChars.idxOf? a, sixBitChars.idxOf? b, sixBitChars.idxOf? c, sixBitChars.idxOf? d with
    | some a, some b, some c, some d =>
      let n := a * 262144 + b * 4096 + c * 64 + d
      let (others, good) := ofSixBits rest
      (UInt8.ofNat (n / 65536) :: UInt8.ofNat (n / 256 % 256) :: UInt8.ofNat (n % 256) :: others, good)
    | _, _, _, _ => broken [a, b, c, d] false
  | cs => broken cs false
where
  /-- The bytes of a group that is not whole. -/
  broken (cs : List Char) (good : Bool) : List UInt8 × Bool :=
    match (cs.map (sixBitChars.idxOf? ·)).takeWhile Option.isSome with
    | [some a, some b] => ([UInt8.ofNat (a * 4 + b / 16)], good)
    | [some a, some b, some c] =>
      ([UInt8.ofNat (a * 4 + b / 16), UInt8.ofNat (b % 16 * 16 + c / 4)], good)
    | _ => ([], false)

/-- Characters in lines of a width. -/
def wrapped (width : Nat) : Nat → List Char → List (List Char)
  | 0, _ | _, [] => []
  | fuel + 1, cs => if width = 0 then [cs] else cs.take width :: wrapped width fuel (cs.drop width)

end BundleForge.Shell.Filtering
