import BundleForge.Text.Newline
import BundleForge.Text.Utf8

/-!
Text as a reader gets it that asks for more only once it has used up what it has. Bytes are decoded a
block at a time, and text is handed on a page at a time; a refusal is met when a page is asked for
that the refused block would have to fill. Main statement: there is a refusal exactly where the bytes
are no text, and bytes that are text are supplied whole.
-/

namespace BundleForge.Text

/-- A text as far as it is supplied, and the refusal that is met after it. -/
structure Supply where
  text : String
  refusal : Option Utf8.Refusal
deriving DecidableEq, Repr

namespace Supply

/-- How many bytes are decoded at a time. -/
def blockSize : Nat := 8192

/-- How many characters are handed on at a time. -/
def pageLength : Nat := 4096

/-- The characters of the pages that so many characters fill. The first two pages come together. -/
def inPages (n : Nat) : Nat := if n < 2 * pageLength then 0 else n / pageLength * pageLength

theorem inPages_le (n : Nat) : inPages n ≤ n := by
  by_cases h : n < 2 * pageLength
  · simp [inPages, h]
  · simpa [inPages, h] using Nat.div_mul_le_self n pageLength

/-- Where the block starts in which a refusal shows. It shows at the byte that does not fit, or, where
a character is cut off, behind all bytes. -/
def blockOf (r : Utf8.Refusal) (size : Nat) : Nat :=
  match r.reason with
  | .badStart => r.position / blockSize * blockSize
  | .badContinuation => (r.position + r.length) / blockSize * blockSize
  | .cutOff => size

/-- How many of the first bytes make whole characters. A character that is still open waits for the
next block. -/
def closedBytes (bytes : List UInt8) (n : Nat) : Nat :=
  match Utf8.decode (bytes.take n) with
  | .ok _ => n
  | .error r => r.position

/-- Characters without a carriage return at their end, which waits for what comes after it. -/
def withoutOpenReturn (cs : List Char) : List Char :=
  if cs.getLast? = some '\r' then cs.dropLast else cs

/-- The supply of the text in a file. The positions in a refusal count from the block in which it
shows, with the open character before it. -/
def ofBytes (bytes : List UInt8) : Supply :=
  match Utf8.decode bytes with
  | .ok s => ⟨unifyNewlines s, none⟩
  | .error r =>
    let closed := closedBytes bytes (blockOf r bytes.length)
    let supplied :=
      match Utf8.decode (bytes.take closed) with
      | .ok s => unifyNewlinesChars (withoutOpenReturn s.toList)
      | .error _ => []
    ⟨String.ofList (supplied.take (inPages supplied.length)),
      some { r with position := r.position - closed }⟩

theorem ofBytes_of_decode {bytes : List UInt8} {s : String} (h : Utf8.decode bytes = .ok s) :
    ofBytes bytes = ⟨unifyNewlines s, none⟩ := by simp [ofBytes, h]

theorem refusal_ofBytes_eq_none {bytes : List UInt8} :
    (ofBytes bytes).refusal = none ↔ ∃ s, Utf8.decode bytes = .ok s := by
  cases h : Utf8.decode bytes <;> simp [ofBytes, h]

end Supply
end BundleForge.Text
