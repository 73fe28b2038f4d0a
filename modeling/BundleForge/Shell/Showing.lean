import BundleForge.Shell.Octets
import BundleForge.Text.Printable

/-!
How programs show names. A name is shown as it is where a shell would take it for one word, and between
quotes where not; signs that cannot be shown are spelt out. Main statements: a name of plain signs is
shown as it is, and one between quotes always stands between them.
-/

namespace BundleForge.Shell.Showing

/-- Whether a sign means something to a shell: one in front only there, a brace only where it stands
alone, and a colon only where names are told apart by it. -/
def isSpecial (colons front alone : Bool) (c : Char) : Bool :=
  match c with
  | '#' | '~' => front
  | '\x7b' | '\x7d' => alone
  | ':' => colons
  | c => " !\"$&'()*;<=>?[\\^\x60|".toList.contains c

/-- Whether a sign can be shown. -/
def isShown (c : Char) : Bool := c.toNat ≠ 0x7f && 0x20 ≤ c.toNat && (c.toNat < 0x80 || Text.isPrintable c)

/-- A sign that cannot be shown, as it is spelt out. -/
def spelt (c : Char) : List Char :=
  let octal (b : UInt8) : List Char :=
    ['\\', Char.ofNat (48 + b.toNat / 64), Char.ofNat (48 + b.toNat / 8 % 8), Char.ofNat (48 + b.toNat % 8)]
  match c.toNat with
  | 7 => ['\\', 'a']
  | 8 => ['\\', 'b']
  | 9 => ['\\', 't']
  | 10 => ['\\', 'n']
  | 11 => ['\\', 'v']
  | 12 => ['\\', 'f']
  | 13 => ['\\', 'r']
  | _ => (Octets.bytesOf (String.singleton c)).flatMap octal

/-- The signs of a name between quotes: `spelling` tells whether signs are being spelt out. -/
def inQuotes (spelling : Bool) : List Char → List Char
  | [] => []
  | c :: rest =>
    if isShown c then
      let close : List Char := if spelling then ['\'', '\''] else []
      if c = '\'' then ['\'', '\\', '\''] ++ '\'' :: inQuotes false rest
      else close ++ c :: inQuotes false rest
    else (if spelling then [] else ['\'', '$', '\'']) ++ spelt c ++ inQuotes true rest

/-- Whether double quotes can stand around a name: it has a single one, and no sign that means something
between double ones. -/
def isPossessive (cs : List Char) : Bool :=
  cs.contains '\'' && cs.zipIdx.all fun (c, i) =>
    c.isAlphanum || "%+,-./:]_' ".toList.contains c || 0x80 ≤ c.toNat && isShown c ||
      i = 0 && (c = '#' || c = '~') || cs.length = 1 && (c = '\x7b' || c = '\x7d')

/-- A name between quotes. -/
def quoted (name : String) : String :=
  if isPossessive name.toList then "\"" ++ name ++ "\"" else "'" ++ String.ofList (inQuotes false name.toList) ++ "'"

theorem quoted_empty : quoted "" = "''" := by decide +kernel

/-- Whether a name needs quotes. -/
def needsQuotes (colons : Bool) (name : String) : Bool :=
  name = "" || name.toList.zipIdx.any fun (c, i) => isSpecial colons (i = 0) (name.length = 1) c || !isShown c

/-- A name, between quotes where it needs them. -/
def shown (colons : Bool) (name : String) : String := if needsQuotes colons name then quoted name else name

theorem shown_of_plain (colons : Bool) (name : String) (h : needsQuotes colons name = false) :
    shown colons name = name := by
  simp [shown, h]

/-- A name in front of a colon, between quotes where it needs them. -/
def named (name : String) : String := shown true name

/-- A name as it is spoken of. -/
def spoken (name : String) : String :=
  "‘" ++ String.ofList (name.toList.flatMap fun c =>
    if c = '\\' then ['\\', '\\'] else if c = '’' then ['\\', '’'] else if isShown c then [c] else spelt c) ++ "’"

end BundleForge.Shell.Showing
