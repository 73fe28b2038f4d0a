import BundleForge.Number.DecimalText
import BundleForge.Shell.Argument
import BundleForge.Shell.Escape

/-!
Formats of the printing commands: bytes as they stand, and places for values. Main statement: a text
without signs of its own is a format that shows itself.
-/

namespace BundleForge.Shell

/-- A width or a number of places: none, a number, or the next argument. -/
inductive Measure
  | absent
  | given (n : Nat)
  | argument
deriving DecidableEq, Repr

/-- How a value is to be fitted into a format. -/
structure Fitting where
  flags : List Char
  width : Measure
  places : Measure
deriving DecidableEq, Repr

/-- A part of a format: bytes as they stand, or a place for a value, as it is written. -/
inductive FormatPart
  | bytes (bytes : List UInt8)
  | value (fitting : Fitting) (kind : Char) (written : String)
  | incomplete
deriving DecidableEq, Repr

/-- A sign in front of a width. -/
def isFlag (c : Char) : Bool := c == '-' || c == '0' || c == '+' || c == ' ' || c == '#'

/-- A width or a number of places, and what follows it. -/
def measure (cs : List Char) : Measure × List Char :=
  match cs with
  | '*' :: rest => (.argument, rest)
  | cs =>
    let digits := cs.takeWhile Char.isDigit
    (((String.ofList digits).toNat?.elim .absent .given), cs.drop digits.length)

theorem measure_length (cs : List Char) : (measure cs).2.length ≤ cs.length := by
  unfold measure
  split <;> simp

/-- How a value is fitted, and what follows that. A point without a number means no places. -/
def fitting (cs : List Char) : Fitting × List Char :=
  let flags := cs.takeWhile isFlag
  let (width, rest) := measure (cs.drop flags.length)
  match rest with
  | '.' :: after =>
    let (places, rest) := measure after
    (⟨flags, width, if places = .absent then .given 0 else places⟩, rest)
  | rest => (⟨flags, width, .absent⟩, rest)

theorem fitting_length (cs : List Char) : (fitting cs).2.length ≤ cs.length := by
  have h := measure_length (cs.drop (cs.takeWhile isFlag).length)
  rw [List.length_drop] at h
  simp only [fitting]
  split
  · rename_i after e
    show (measure after).2.length ≤ cs.length
    have := measure_length after
    rw [e] at h
    simp only [List.length_cons] at h
    omega
  · show (measure (cs.drop (cs.takeWhile isFlag).length)).2.length ≤ cs.length
    omega

/-- The parts of a format. -/
def formatParts (cs : List Char) : List FormatPart :=
  match cs with
  | [] => []
  | '%' :: '%' :: rest => .bytes [37] :: formatParts rest
  | '%' :: rest =>
    match _h : fitting rest with
    | (fit, kind :: after) =>
      let written := '%' :: rest.take (rest.length - after.length)
      .value fit kind (String.ofList written) :: formatParts after
    | (_, []) => [.incomplete]
  | '\\' :: rest =>
    let one := escape rest
    have := escape_length rest
    .bytes [one.1] :: formatParts one.2
  | c :: rest => .bytes [byteOf c] :: formatParts rest
termination_by cs.length
decreasing_by
  all_goals simp only [List.length_cons]
  · omega
  · have := fitting_length rest
    rw [_h] at this
    simp only [List.length_cons] at this
    omega
  · omega
  · omega

theorem formatParts_of_plain {cs : List Char} (h : '\\' ∉ cs) (h' : '%' ∉ cs) :
    formatParts cs = cs.map fun c => .bytes [byteOf c] := by
  induction cs with
  | nil => simp [formatParts]
  | cons c rest ih =>
    simp only [List.mem_cons, not_or] at h h'
    have hb : c ≠ '\\' := Ne.symm h.1
    have hp : c ≠ '%' := Ne.symm h'.1
    rw [formatParts.eq_5 _ _ (fun _ e _ => hp e) hp hb, ih h.2 h'.2]
    rfl

/-- What a value is fitted into: a width, on which side it stands, and the places it is asked for. -/
structure Room where
  flags : List Char
  left : Bool
  width : Nat
  places : Option Nat
deriving DecidableEq, Repr

namespace Room

def has (r : Room) (flag : Char) : Bool := r.flags.contains flag

/-- Bytes brought to the width with blanks. -/
def fill (r : Room) (bytes : List UInt8) : List UInt8 :=
  let blanks := List.replicate (r.width - bytes.length) 32
  if r.left then bytes ++ blanks else blanks ++ bytes

theorem width_le_length_fill (r : Room) (bytes : List UInt8) : r.width ≤ (r.fill bytes).length := by
  unfold fill
  dsimp only
  split <;> simp only [List.length_append, List.length_replicate] <;> omega

/-- The digits of a number behind what stands in front of them. Zeros are put between the two where
the room asks for them. -/
def number (r : Room) (zeros : Bool) (front digits : String) : List UInt8 :=
  let missing := r.width - (front.length + digits.length)
  let between := if zeros && r.has '0' && !r.left then String.ofList (List.replicate missing '0') else ""
  r.fill (Octets.toBytes (front ++ between ++ digits))

/-- What stands in front of a number that has a sign. -/
def sign (r : Room) (negative : Bool) : String :=
  if negative then "-" else if r.has '+' then "+" else if r.has ' ' then " " else ""

/-- The digits of a whole number, at least as many as the places asked for. -/
def digits (r : Room) (base n : Nat) : String :=
  let digits := if n = 0 && r.places = some 0 then [] else Nat.toDigits base n
  String.ofList (List.replicate (r.places.getD 0 - digits.length) '0' ++ digits)

/-- A whole number with a sign. -/
def signed (r : Room) (n : Int) : List UInt8 :=
  r.number r.places.isNone (r.sign (n < 0)) (r.digits 10 n.natAbs)

/-- A whole number without a sign, in some base. -/
def unsigned (r : Room) (kind : Char) (n : Nat) : List UInt8 :=
  let plain := r.places.isNone
  match kind with
  | 'o' =>
    let digits := r.digits 8 n
    r.number plain "" (if r.has '#' && digits.toList.head? ≠ some '0' then "0" ++ digits else digits)
  | 'x' => r.number plain (if r.has '#' && n ≠ 0 then "0x" else "") (r.digits 16 n)
  | 'X' => r.number plain (if r.has '#' && n ≠ 0 then "0X" else "") (r.digits 16 n).toUpper
  | _ => r.number plain "" (r.digits 10 n)

/-- The digits of a positive number in base sixteen, as many places behind the first one as are asked
for or needed, and the power of two that it is multiplied by. -/
def sixteens (places : Option Nat) (mantissa : Nat) (exponent : Int) : String × Int :=
  let digit (n : Nat) : String := String.ofList (Nat.toDigits 16 n)
  let grain := 4 * (13 - min (places.getD 13) 13)
  let rounded := Number.roundHalfEven mantissa (Nat.pow 2 grain)
  let kept := min (places.getD 13) 13
  let behind := (Nat.toDigits 16 (rounded % Nat.pow 16 kept))
  let behind := if kept = 0 then [] else List.replicate (kept - behind.length) '0' ++ behind
  let behind := match places with
    | none => (behind.reverse.dropWhile (· = '0')).reverse
    | some n => behind ++ List.replicate (n - behind.length) '0'
  (digit (rounded / Nat.pow 16 kept) ++ (if behind.isEmpty then "" else "." ++ String.ofList behind),
    if mantissa = 0 then 0 else exponent + 52)

/-- A positive number in base sixteen. -/
def hexadecimal (places : Option Nat) (x : Binary64) : String :=
  match x with
  | .finite _ mantissa exponent =>
    let (digits, power) := sixteens places mantissa exponent
    digits ++ "p" ++ (if power < 0 then "-" else "+") ++ toString power.natAbs
  | x => x.fixed 0

/-- A real number, six places unless others are asked for. -/
def real (r : Room) (kind : Char) (x : Binary64) : List UInt8 :=
  let places := r.places.getD 6
  let text := match kind.toLower with
    | 'a' => hexadecimal r.places x.abs
    | 'e' => x.abs.exponential places
    | 'g' => x.abs.general places (r.has '#')
    | _ => x.abs.fixed places
  let finite := match x with
    | .finite .. => true
    | _ => false
  let front := r.sign x.isNegative ++ if kind.toLower = 'a' && finite then "0x" else ""
  r.number finite (if kind.isUpper then front.toUpper else front) (if kind.isUpper then text.toUpper else text)

end Room

/-- The room for a value, and the arguments that are left when widths were taken from them. A
negative width stands for the left side, and a negative number of places for none. -/
def room (f : Fitting) (arguments : List String) : Room × List String :=
  let take (m : Measure) (arguments : List String) : Option Int × List String :=
    match m with
    | .absent => (none, arguments)
    | .given n => (some n, arguments)
    | .argument => (some (arguments.head?.elim 0 fun a => (Argument.integer a).1), arguments.tail)
  let (width, arguments) := take f.width arguments
  let (places, arguments) := take f.places arguments
  ({ flags := f.flags
     left := f.flags.contains '-' || width.any (· < 0)
     width := (width.getD 0).natAbs
     places := (places.filter (0 ≤ ·)).map Int.toNat }, arguments)

/-- An argument in its room, what is wrong with it, and whether printing ends with it. An argument
that is not there is empty, or zero. -/
def showArgument (r : Room) (kind : Char) (argument : Option String) :
    List UInt8 × Option NumberFault × Bool :=
  let text := argument.getD ""
  let integer := argument.elim (0, none) Argument.integer
  match kind with
  | 's' =>
    let bytes := Octets.toBytes text
    (r.fill (r.places.elim bytes bytes.take), none, false)
  | 'b' =>
    let (bytes, stop) := escaped text.toList
    (r.fill (r.places.elim bytes bytes.take), none, stop)
  | 'c' => (r.fill (if text.isEmpty then [0] else (Octets.toBytes text).take 1), none, false)
  | 'd' | 'i' => (r.signed (Argument.clamp integer.1), integer.2, false)
  | 'u' | 'o' | 'x' | 'X' => (r.unsigned kind (Argument.unsigned integer.1), integer.2, false)
  | kind =>
    let (x, fault) := argument.elim (Binary64.zero false, none) Argument.real
    (r.real kind x, fault, false)

/-- Whether a letter is one that a place for a value can have. -/
def isKind (c : Char) : Bool := "sbcdiuxXoaAeEfFgG".toList.contains c

/-- Something a format makes: bytes, or a fault of an argument. -/
inductive Printed
  | bytes (bytes : List UInt8)
  | fault (argument : String) (fault : NumberFault)
deriving DecidableEq, Repr

/-- Why a format ends before its end. -/
inductive FormatEnd
  | asked
  | invalid (written : String)
  | incomplete
deriving DecidableEq, Repr

/-- One pass through a format: what it makes, the arguments that are left, and why it ended early. -/
def formatOnce : List FormatPart → List String → List Printed × List String × Option FormatEnd
  | [], arguments => ([], arguments, none)
  | .bytes bytes :: parts, arguments =>
    let (others, left, stop) := formatOnce parts arguments
    (.bytes bytes :: others, left, stop)
  | .incomplete :: _, arguments => ([], arguments, some .incomplete)
  | .value f kind written :: parts, arguments =>
    if !isKind kind then ([], arguments, some (.invalid written))
    else
      let (r, arguments) := room f arguments
      let (bytes, fault, stop) := showArgument r kind arguments.head?
      let made := (fault.map fun fault => Printed.fault (arguments.headD "") fault).toList ++
        [.bytes bytes]
      if stop then (made, [], some .asked)
      else
        let (others, left, stop) := formatOnce parts arguments.tail
        (made ++ others, left, stop)

/-- A format is used again as long as there are arguments and it takes some. -/
def format (parts : List FormatPart) (rounds : Nat) (arguments : List String) :
    List Printed × Option FormatEnd :=
  let (made, left, stop) := formatOnce parts arguments
  match rounds with
  | 0 => (made, stop)
  | rounds + 1 =>
    if stop.isSome || left.isEmpty || left.length = arguments.length then (made, stop)
    else
      let (others, stop) := format parts rounds left
      (made ++ others, stop)

end BundleForge.Shell
