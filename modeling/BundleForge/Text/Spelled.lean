import BundleForge.Text.Quoted

/-!
What the escapes of a string literal spell. Characters beyond the first 65536 may be written as two
units, a high half and a low half; a half whose other half is missing is no character. Main statement:
codes that are all characters spell a text, and are displayed as that text is.
-/

namespace BundleForge.Text

/-- One code of a literal: a character, or a half that stands alone. -/
inductive Code
  | char (c : Char)
  | half (unit : Nat)
deriving DecidableEq, Repr

namespace Code

def char? : Code → Option Char
  | .char c => some c
  | .half _ => none

/-- The character that stands for a code in a text; there is no half in a text. -/
def shown : Code → Char
  | .char c => c
  | .half _ => Char.ofNat 0xfffd

/-- How one code is written inside the given marks. -/
def escape (mark : Char) : Code → List Char
  | .char c => escapeChar mark c
  | .half unit => '\\' :: 'u' :: hexDigits 4 unit

end Code

/-- What a literal spells: a text, or codes of which some are halves. -/
inductive Spelled
  | whole (s : String)
  | halved (codes : List Code)
deriving DecidableEq, Repr, Inhabited

namespace Spelled

def ofCodes (codes : List Code) : Spelled :=
  match codes.mapM Code.char? with
  | some cs => .whole (String.ofList cs)
  | none => .halved codes

/-- The text, with a replacement character for each half. -/
def text : Spelled → String
  | .whole s => s
  | .halved codes => String.ofList (codes.map Code.shown)

end Spelled

/-- Codes between quotation marks. -/
def quoteCodes (codes : List Code) : String :=
  let mark := markFor (codes.map Code.shown)
  String.ofList (mark :: (codes.flatMap (Code.escape mark) ++ [mark]))

theorem mapM_char? (cs : List Char) : (cs.map Code.char).mapM Code.char? = some cs := by
  induction cs with
  | nil => rfl
  | cons c cs ih => simp [List.mapM_cons, Code.char?, ih]

theorem ofCodes_chars (cs : List Char) :
    Spelled.ofCodes (cs.map .char) = .whole (String.ofList cs) := by
  rw [Spelled.ofCodes, mapM_char?]

theorem quoteCodes_chars (cs : List Char) :
    quoteCodes (cs.map .char) = quote (String.ofList cs) := by
  simp [quoteCodes, quote, quoteChars, List.flatMap_map, List.map_map, Function.comp_def, Code.shown,
    Code.escape]

end BundleForge.Text
