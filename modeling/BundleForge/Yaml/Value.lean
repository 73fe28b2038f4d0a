import BundleForge.Setting.Basic
import BundleForge.Setting.Scalar
import BundleForge.Text.Lower
import BundleForge.Text.Utf8
import BundleForge.Yaml.Plain

/-!
The values that the texts of YAML scalars stand for, by the tag of the scalar.
-/

namespace BundleForge.Yaml

/-- Why a text has no value: it is no YAML, it breaks off, or a scalar in it is not what it was declared
to be. -/
inductive ValueFault
  | malformed
  | undecodable (refusal : Text.Utf8.Refusal)
  | tooDeep
  | integer (fault : Number.IntegerFault)
  | scalar (fault : ScalarFault)
  | moment (fault : MomentFault)
deriving DecidableEq, Repr

def withoutUnderscores (s : String) : List Char := s.toList.filter (· != '_')

/-- Parts of base sixty put together, each read by itself. -/
def sexagesimalInt (parts : List (List Char)) : Except ValueFault Int :=
  parts.foldlM (fun n part =>
    match Number.readInteger (String.ofList part) with
    | .ok d => .ok (n * 60 + d)
    | .error fault => .error (.integer fault)) 0

def basedInt (base : Nat) (cs : List Char) : Except ValueFault Int :=
  match Number.readBased? base (String.ofList cs) with
  | some n => .ok n
  | none => .error (.scalar (.notInteger base (String.ofList cs)))

def unsignedInt (cs : List Char) : Except ValueFault Int :=
  match cs with
  | [] => .error (.scalar .noCharacters)
  | ['0'] => .ok 0
  | '0' :: 'b' :: rest => basedInt 2 rest
  | '0' :: 'x' :: rest => basedInt 16 rest
  | '0' :: _ => basedInt 8 cs
  | cs =>
    if cs.contains ':' then sexagesimalInt (sixtieths cs)
    else match Number.readInteger (String.ofList cs) with
      | .ok n => .ok n
      | .error fault => .error (.integer fault)

/-- A whole number with an optional sign, in base two, eight, ten, sixteen or sixty. -/
def intOf (text : String) : Except ValueFault Setting :=
  match withoutUnderscores text with
  | [] => .error (.scalar .noCharacters)
  | cs => do
    let n ← unsignedInt (unsigned cs)
    return .int (if cs.head? = some '-' then -n else n)

def realPart (cs : List Char) : Except ValueFault Binary64 :=
  match Number.readReal? (String.ofList cs) with
  | some x => .ok x
  | none => .error (.scalar (.notReal (String.ofList cs)))

/-- The sum of parts times powers of sixty, the last part first. -/
def sexagesimalSum (sum : Binary64) (base : Nat) : List Binary64 → Except ValueFault Binary64
  | [] => .ok sum
  | part :: rest =>
    match Binary64.ofInt base with
    | .infinite _ => .error (.scalar .realTooLarge)
    | factor => sexagesimalSum (sum.add (part.mul factor)) (base * 60) rest

def sexagesimalReal (parts : List (List Char)) : Except ValueFault Binary64 := do
  let parts ← parts.mapM realPart
  sexagesimalSum (Binary64.zero false) 1 parts.reverse

/-- A real number as it is written at a place. What is not a number is told by its place from others
of its kind, unless it is written as such. -/
def realOf (place : Nat) (text : String) : Except ValueFault Setting :=
  match (Text.lowerChars [] (withoutUnderscores text)) with
  | [] => .error (.scalar .noCharacters)
  | cs => do
    let body := unsigned cs
    if body = ".inf".toList then return .real (.infinite (cs.head? = some '-'))
    else if body = ".nan".toList then return .real (.nan 0)
    else
      let x ← if body.contains ':' then sexagesimalReal (sixtieths body) else realPart body
      match x with
      | .nan _ => return .real (.nan (place + 1))
      | x => return .real (if cs.head? = some '-' then x.neg else x)

def truthOf (text : String) : Except ValueFault Setting :=
  let word := Text.lower text
  if ["yes", "true", "on"].contains word then .ok (.bool true)
  else if ["no", "false", "off"].contains word then .ok (.bool false)
  else .error (.scalar (.notTruth word))

def sixthDigits (fraction : List Char) : Nat :=
  let six := fraction.take 6
  Number.ofDigits 10 ((six ++ List.replicate (6 - six.length) '0').map fun c => c.toNat - 48)

def momentOf (text : String) : Except ValueFault Setting :=
  match timestamp? (withoutFinalBreak text.toList) with
  | none => .error (.scalar .notTimestamp)
  | some t =>
    let made : Except MomentFault Setting :=
      match t.clock with
      | none => (Date.make t.year t.month t.day).map Setting.date
      | some (hour, minute, second) => do
        let offset ← t.offset.mapM checkOffset
        let date ← Date.make t.year t.month t.day
        let clock ← Clock.make hour minute second (sixthDigits t.fraction)
        return .moment ⟨date, clock, offset⟩
    match made with
    | .ok value => .ok value
    | .error fault => .error (.moment fault)

/-- The value of a character of base 64. -/
def base64Digit? (c : Char) : Option Nat :=
  if 'A' ≤ c && c ≤ 'Z' then some (c.toNat - 65)
  else if 'a' ≤ c && c ≤ 'z' then some (c.toNat - 71)
  else if c.isDigit then some (c.toNat + 4)
  else if c = '+' then some 62
  else if c = '/' then some 63
  else none

/-- Bytes written in base 64. Other characters do not count; padding has to complete a group of
four, and ends the text. -/
def base64Bytes (read : List UInt8) (position left pads : Nat) : List Char → Option (List UInt8)
  | [] => if position = 0 then some read.reverse else none
  | c :: rest =>
    if c = '=' then
      if 2 ≤ position && 4 ≤ position + pads + 1 then some read.reverse
      else base64Bytes read position left (if 2 ≤ position then pads + 1 else pads) rest
    else match base64Digit? c with
      | none => base64Bytes read position left pads rest
      | some d =>
        match position with
        | 0 => base64Bytes read 1 d 0 rest
        | 1 => base64Bytes (UInt8.ofNat (left * 4 + d / 16) :: read) 2 (d % 16) 0 rest
        | 2 => base64Bytes (UInt8.ofNat (left * 16 + d / 4) :: read) 3 (d % 4) 0 rest
        | _ => base64Bytes (UInt8.ofNat (left * 64 + d) :: read) 0 0 0 rest

def binaryOf (text : String) : Except ValueFault Setting :=
  if text.toList.any fun c => 0x80 ≤ c.toNat then .error .malformed
  else match base64Bytes [] 0 0 0 text.toList with
    | some bytes => .ok (.bytes bytes)
    | none => .error .malformed

/-- How the text of a scalar at a place is read, by its tag. -/
def scalarReader? (tag : String) : Option (Nat → Text.Spelled → Except ValueFault Setting) :=
  if tag = coreTag "str" then some fun _ text => .ok (.ofSpelled text)
  else if tag = coreTag "null" then some fun _ _ => .ok .null
  else if tag = coreTag "bool" then some fun _ text => truthOf text.text
  else if tag = coreTag "int" then some fun _ text => intOf text.text
  else if tag = coreTag "float" then some fun place text => realOf place text.text
  else if tag = coreTag "binary" then some fun _ text => binaryOf text.text
  else if tag = coreTag "timestamp" then some fun _ text => momentOf text.text
  else none

end BundleForge.Yaml
