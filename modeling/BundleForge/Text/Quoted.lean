import BundleForge.Text.Printable

/-!
Text between quotation marks. Apostrophes are used unless the text holds one and no double quote;
the mark in use, the backslash and every character that does not print are escaped.
-/

namespace BundleForge.Text

def apostrophe : Char := '\x27'

def doubleQuote : Char := '\x22'

/-- The lowest hexadecimal digits of a number, a given count of them. -/
def hexDigits : Nat → Nat → List Char
  | 0, _ => []
  | width + 1, n => hexDigits width (n / 16) ++ [Nat.digitChar (n % 16)]

theorem length_hexDigits (width n : Nat) : (hexDigits width n).length = width := by
  induction width generalizing n with
  | zero => rfl
  | succ width ih => simp [hexDigits, ih]

/-- How one character is written inside the given marks. -/
def escapeChar (mark c : Char) : List Char :=
  if c = mark then ['\\', c]
  else if c = '\\' then ['\\', '\\']
  else if c = '\n' then ['\\', 'n']
  else if c = '\r' then ['\\', 'r']
  else if c = '\t' then ['\\', 't']
  else if isPrintable c then [c]
  else if c.toNat < 0x100 then '\\' :: 'x' :: hexDigits 2 c.toNat
  else if c.toNat < 0x10000 then '\\' :: 'u' :: hexDigits 4 c.toNat
  else '\\' :: 'U' :: hexDigits 8 c.toNat

/-- The mark that needs the fewer escapes, the apostrophe when there is a choice. -/
def markFor (cs : List Char) : Char :=
  if cs.contains apostrophe && !cs.contains doubleQuote then doubleQuote else apostrophe

def quoteChars (cs : List Char) : List Char :=
  let mark := markFor cs
  mark :: (cs.flatMap (escapeChar mark) ++ [mark])

/-- A text between quotation marks. -/
def quote (s : String) : String := String.ofList (quoteChars s.toList)

/-- How one byte is written inside the given marks. -/
def escapeByte (mark : Char) (b : UInt8) : List Char :=
  let c := Char.ofNat b.toNat
  if c = mark then ['\\', c]
  else if c = '\\' then ['\\', '\\']
  else if c = '\n' then ['\\', 'n']
  else if c = '\r' then ['\\', 'r']
  else if c = '\t' then ['\\', 't']
  else if 0x20 ≤ b.toNat && b.toNat < 0x7f then [c]
  else '\\' :: 'x' :: hexDigits 2 b.toNat

/-- Bytes between quotation marks, after the letter that sets them apart from text. -/
def quoteBytes (bytes : List UInt8) : String :=
  let mark := markFor (bytes.map fun b => Char.ofNat b.toNat)
  String.ofList ('b' :: mark :: (bytes.flatMap (escapeByte mark) ++ [mark]))

end BundleForge.Text
