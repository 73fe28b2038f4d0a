import BundleForge.Text.Utf8

/-!
Octets as text. A shell takes what it reads and prints byte by byte, so each character of its words
stands for one byte; only where a name leads into the file tree, or a word is handed to a program that
knows characters, are bytes put together to characters. A byte that belongs to no character is a stray
one, which has a place of its own among characters. Main statements: bytes that are taken for octets are
given back, and so is a stray one.
-/

namespace BundleForge.Shell.Octets

/-- The octets of some bytes. -/
def ofBytes (bytes : List UInt8) : String := String.ofList (bytes.map fun b => Char.ofNat b.toNat)

/-- The bytes of some octets. -/
def toBytes (octets : String) : List UInt8 := octets.toList.map fun c => UInt8.ofNat c.toNat

theorem toNat_ofNat_of_byte (b : UInt8) : (Char.ofNat b.toNat).toNat = b.toNat := by
  have hv : b.toNat.isValidChar := Or.inl (Nat.lt_trans b.toNat_lt (by decide))
  rw [Char.ofNat, dif_pos hv]
  rfl

theorem toBytes_ofBytes (bytes : List UInt8) : toBytes (ofBytes bytes) = bytes := by
  have h : (fun c : Char => UInt8.ofNat c.toNat) ∘ (fun b : UInt8 => Char.ofNat b.toNat) = id := by
    funext b
    simp [toNat_ofNat_of_byte]
  simp only [toBytes, ofBytes, String.toList_ofList, List.map_map, h, List.map_id]

def isPlain (s : String) : Bool := s.toList.all fun c => c < '\x80'

/-- The place of stray bytes among characters, at their very end. -/
def strayPlace : Nat := 0x10ff00

def stray (b : UInt8) : Char := Char.ofNat (strayPlace + b.toNat)

/-- The byte that a character stands for, where it is a stray one. -/
def stray? (c : Char) : Option UInt8 :=
  if strayPlace + 0x80 ≤ c.toNat then some (UInt8.ofNat (c.toNat - strayPlace)) else none

theorem stray?_stray : stray? (stray 0xff) = some 0xff := by decide

/-- The characters of bytes, in which stray bytes stand for themselves. -/
def charsOf : Nat → List UInt8 → List Char
  | 0, _ => []
  | fuel + 1, bytes =>
    match Text.Utf8.decode bytes with
    | .ok text => text.toList
    | .error refusal =>
      let good := match Text.Utf8.decode (bytes.take refusal.position) with
        | .ok text => text.toList
        | .error _ => []
      good ++ match bytes.drop refusal.position with
        | [] => []
        | b :: rest => stray b :: charsOf fuel rest

/-- Bytes as text. -/
def textOf (bytes : List UInt8) : String :=
  match Text.Utf8.decode bytes with
  | .ok text => text
  | .error _ => String.ofList (charsOf (bytes.length + 1) bytes)

/-- The bytes of a text. -/
def bytesOf (text : String) : List UInt8 :=
  if text.toList.any fun c => (stray? c).isSome then
    text.toList.flatMap fun c => match stray? c with
      | some b => [b]
      | none => Text.Utf8.encode (String.singleton c)
  else Text.Utf8.encode text

/-- The octets of a text. -/
def ofText (text : String) : String := if isPlain text then text else ofBytes (bytesOf text)

/-- The text of some octets. -/
def toText (octets : String) : String := if isPlain octets then octets else textOf (toBytes octets)

end BundleForge.Shell.Octets
