import BundleForge.Json.Basic

/-!
Json as it is written on a line: a space after each comma and colon, and ASCII characters only.
-/

namespace BundleForge.Json

/-- A `\u` escape of one 16-bit unit. -/
def unitEscape (n : Nat) : List Char := '\\' :: 'u' :: Text.hexDigits 4 n

/-- How one character is written inside a string. Beyond the first 65536 characters two units
are needed. -/
def writeChar (c : Char) : List Char :=
  let n := c.toNat
  if c = Text.doubleQuote then ['\\', c]
  else if c = '\\' then ['\\', '\\']
  else if n = 8 then ['\\', 'b']
  else if n = 9 then ['\\', 't']
  else if n = 10 then ['\\', 'n']
  else if n = 12 then ['\\', 'f']
  else if n = 13 then ['\\', 'r']
  else if 0x20 ≤ n && n < 0x7f then [c]
  else if n < 0x10000 then unitEscape n
  else unitEscape (0xd800 + (n - 0x10000) / 0x400) ++ unitEscape (0xdc00 + (n - 0x10000) % 0x400)

def writeString (s : String) : String :=
  String.ofList (Text.doubleQuote :: (s.toList.flatMap writeChar ++ [Text.doubleQuote]))

/-- How one code is written inside a string. -/
def writeCode : Text.Code → List Char
  | .char c => writeChar c
  | .half unit => unitEscape unit

def writeReal : Binary64 → String
  | .nan _ => "NaN"
  | .infinite negative => if negative then "-Infinity" else "Infinity"
  | x => x.text

mutual

/-- The text of a value on one line. -/
def write : Json → String
  | .null => "null"
  | .bool b => if b then "true" else "false"
  | .int n => toString n
  | .real x => writeReal x
  | .str s => writeString s
  | .halved codes =>
    String.ofList (Text.doubleQuote :: (codes.flatMap writeCode ++ [Text.doubleQuote]))
  | .arr items => "[" ++ writeItems items ++ "]"
  | .obj members => "\x7b" ++ writeMembers members ++ "\x7d"

def writeItems : List Json → String
  | [] => ""
  | [j] => write j
  | j :: rest => write j ++ ", " ++ writeItems rest

def writeMembers : List (String × Json) → String
  | [] => ""
  | [(k, j)] => writeString k ++ ": " ++ write j
  | (k, j) :: rest => writeString k ++ ": " ++ write j ++ ", " ++ writeMembers rest

end

end BundleForge.Json
