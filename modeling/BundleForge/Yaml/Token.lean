import BundleForge.Text.Spelled
import BundleForge.Text.Utf8

/-!
The tokens of a YAML 1.1 stream, and the character classes by which they are told apart.
-/

namespace BundleForge.Yaml

/-- One token. Where blocks begin and end by indentation, tokens say so. -/
inductive Token
  | streamEnd
  | version (major : Nat)
  | tagHandle (handle start : String)
  | otherDirective
  | documentStart
  | documentEnd
  | blockSequence
  | blockMapping
  | blockEnd
  | flowSequenceStart
  | flowSequenceEnd
  | flowMappingStart
  | flowMappingEnd
  | blockEntry
  | flowEntry
  | key
  | value
  | alias (name : String)
  | anchor (name : String)
  | tag (handle : Option String) (suffix : String)
  | scalar (text : Text.Spelled) (plain : Bool)
deriving DecidableEq, Repr, Inhabited

/-- The character that stands for the end of the text. -/
def eof : Char := Char.ofNat 0

def isBreak (c : Char) : Bool :=
  c = '\n' || c = '\r' || c.toNat = 0x85 || c.toNat = 0x2028 || c.toNat = 0x2029

def isBreakOrEnd (c : Char) : Bool := c = eof || isBreak c

/-- The end of a word that no tab ends. -/
def isSpaceOrEnd (c : Char) : Bool := c = ' ' || isBreakOrEnd c

def isBlankOrEnd (c : Char) : Bool := c = '\t' || isSpaceOrEnd c

def isNameChar (c : Char) : Bool := c.isAlphanum || c = '-' || c = '_'

def isUriChar (c : Char) : Bool :=
  c.isAlphanum || ("-;/?:@&=+$,_.!~*\x27()[]%".toList.contains c)

/-- A character that ends no name of an anchor but may follow one. -/
def mayFollowName (c : Char) : Bool := isBlankOrEnd c || ("?:,]\x7d%@\x60".toList.contains c)

/-- A character that has a meaning of its own where a token may start. -/
def isIndicator (c : Char) : Bool :=
  "-?:,[]\x7b\x7d#&*!|>\x27\x22%@\x60".toList.contains c

/-- A character that may stand in a stream at all. -/
def isAllowed (c : Char) : Bool :=
  let n := c.toNat
  n = 0x09 || n = 0x0a || n = 0x0d || (0x20 ≤ n && n ≤ 0x7e) || n = 0x85 ||
    (0xa0 ≤ n && n ≤ 0xd7ff) || (0xe000 ≤ n && n ≤ 0xfffd) || 0x10000 ≤ n

/-- What ends the reading of a stream early. A quoted scalar may be left unclosed by the end of the
text, and the text may break off where bytes are no text. -/
inductive Fault
  | malformed
  | unclosed
  | undecodable (refusal : Text.Utf8.Refusal)
  | tooDeep
  | endOfTokens
  | characterTooLarge
  | codeTooLarge
  | versionTooLong (digits : Nat)
deriving DecidableEq, Repr

end BundleForge.Yaml
