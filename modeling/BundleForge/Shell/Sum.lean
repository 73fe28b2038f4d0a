import BundleForge.Shell.Numeral

/-!
Sums of whole numbers: signs, the usual operations, comparisons, bits, choices, and names that stand
for numbers and can be given new ones. Truth is one and falsehood zero, and numbers go around at 64
bits. Main statement: a sum without names has the same value whatever names stand for.
-/

namespace BundleForge.Shell.Sum

/-- The signs, those first that others start with. -/
def signs : List String := [
  "<<=", ">>=", "||", "&&", "==", "!=", "<=", ">=", "<<", ">>", "+=", "-=", "*=", "/=", "%=", "&=",
  "^=", "|=", "+", "-", "*", "/", "%", "<", ">", "&", "^", "|", "!", "~", "?", ":", "(", ")", "="]

/-- How strongly an operator binds. -/
def strength? : String → Option Nat
  | "||" => some 1
  | "&&" => some 2
  | "|" => some 3
  | "^" => some 4
  | "&" => some 5
  | "==" | "!=" => some 6
  | "<" | ">" | "<=" | ">=" => some 7
  | "<<" | ">>" => some 8
  | "+" | "-" => some 9
  | "*" | "/" | "%" => some 10
  | _ => none

/-- The operator that a sign of assignment combines with, if it combines. -/
def assigner? : String → Option (Option String)
  | "=" => some none
  | "<<=" => some (some "<<")
  | ">>=" => some (some ">>")
  | sign =>
    if ["+=", "-=", "*=", "/=", "%=", "&=", "^=", "|="].contains sign then
      some (some (String.ofList (sign.toList.take 1)))
    else none

/-- Why a text has no value. -/
inductive Fault
  | noTerm
  | noColon
  | noBracket
  | moreThanSum
  | divisionByZero
  | overflow
  | illegalNumber (text : String)
deriving DecidableEq, Repr

/-- A sum. Where its text cannot be read on there is a fault in it, which shows when the sum has been
worked out up to there. -/
inductive Term
  | number (n : Int)
  | named (name : String)
  | signed (sign : String) (inner : Term)
  | binary (operator : String) (first second : Term)
  | choice (test yes no : Term)
  | assign (name : String) (operator : Option String) (value : Term)
  | broken (before : Term) (fault : Fault)
deriving Repr

/-- What is said of a text that has no value. -/
def Fault.message (text : String) (fault : Fault) : String :=
  let wrong (what : String) : String :=
    "arithmetic expression: " ++ what ++ ": \"" ++ text ++ "\""
  match fault with
  | .noTerm => wrong "expecting primary"
  | .noColon => wrong "expecting ':'"
  | .noBracket => wrong "expecting ')'"
  | .moreThanSum => wrong "expecting EOF"
  | .divisionByZero | .overflow => wrong "division by zero"
  | .illegalNumber text => "Illegal number: " ++ text

inductive Token
  | number (n : Int)
  | name (name : String)
  | sign (text : String)
  | unknown
deriving DecidableEq, Repr

/-- The number of 64 bits that a number goes around to. -/
def wrap (n : Int) : Int := Int.bmod n (Nat.pow 2 64)

/-- The number that the value of a name spells; blanks alone spell zero. -/
def spelt? (s : String) : Option Int :=
  match Numeral.read s with
  | some (n, rest) => if rest.all Numeral.isBlank && Numeral.fits n then some n else none
  | none => if s.toList.all Numeral.isBlank then some 0 else none

/-- The tokens of a text. What starts no token ends them. -/
def tokens : Nat → List Char → List Token
  | 0, _ => []
  | _ + 1, [] => []
  | fuel + 1, c :: rest =>
    if c == ' ' || c == '\t' || c == '\n' then tokens fuel rest
    else if c.isDigit then
      let (n, size) := Numeral.leading (c :: rest)
      .number (min n Numeral.greatest) :: tokens fuel ((c :: rest).drop size)
    else if c.isAlpha || c == '_' then
      let taken := (c :: rest).takeWhile fun c => c.isAlphanum || c == '_'
      .name (String.ofList taken) :: tokens fuel ((c :: rest).drop taken.length)
    else match signs.find? fun sign => sign.toList.isPrefixOf (c :: rest) with
      | some sign => .sign sign :: tokens fuel ((c :: rest).drop sign.length)
      | none => [.unknown]

/-- Where a text cannot be read on. -/
def stuck (fault : Fault) : Term × List Token := (.broken (.number 0) fault, [])

mutual

/-- A sum that may be given to a name, and what follows it. -/
def assignment : Nat → List Token → Term × List Token
  | 0, _ => stuck .noTerm
  | depth + 1, ts =>
    match ts with
    | .name name :: .sign sign :: rest =>
      match assigner? sign with
      | some operator =>
        let (value, rest) := assignment depth rest
        (.assign name operator value, rest)
      | none => choice depth ts
    | ts => choice depth ts

def choice : Nat → List Token → Term × List Token
  | 0, _ => stuck .noTerm
  | depth + 1, ts =>
    let (test, rest) := binary 0 depth ts
    match rest with
    | .sign "?" :: rest =>
      let (yes, rest) := assignment depth rest
      match rest with
      | .sign ":" :: rest =>
        let (no, rest) := choice depth rest
        (.choice test yes no, rest)
      | _ => (.choice test (.broken yes .noColon) (.broken yes .noColon), [])
    | rest => (test, rest)

/-- A sum of operators that bind with some strength at least. -/
def binary (least : Nat) : Nat → List Token → Term × List Token
  | 0, _ => stuck .noTerm
  | depth + 1, ts =>
    let (first, rest) := primary depth ts
    more least first depth rest

/-- What follows a first term, tied to the left. -/
def more (least : Nat) (first : Term) : Nat → List Token → Term × List Token
  | 0, _ => stuck .noTerm
  | depth + 1, ts =>
    match ts with
    | .sign sign :: rest =>
      match strength? sign with
      | some strength =>
        if strength < least then (first, ts)
        else
          let (second, rest) := binary (strength + 1) depth rest
          more least (.binary sign first second) depth rest
      | none => (first, ts)
    | ts => (first, ts)

/-- A number, a name, a sum in brackets, or one of these with a sign. -/
def primary : Nat → List Token → Term × List Token
  | 0, _ => stuck .noTerm
  | depth + 1, ts =>
    match ts with
    | .number n :: rest => (.number n, rest)
    | .name name :: rest => (.named name, rest)
    | .sign "(" :: rest =>
      let (inner, rest) := assignment depth rest
      match rest with
      | .sign ")" :: rest => (inner, rest)
      | _ => (.broken inner .noBracket, [])
    | .sign sign :: rest =>
      if ["+", "-", "!", "~"].contains sign then
        let (inner, rest) := primary depth rest
        (.signed sign inner, rest)
      else stuck .noTerm
    | _ => stuck .noTerm

end

def truth (b : Bool) : Int := if b then 1 else 0

/-- What an operator makes of two numbers. -/
def apply (operator : String) (a b : Int) : Except Fault Int :=
  let word (n : Int) : BitVec 64 := BitVec.ofInt 64 n
  match operator with
  | "|" => pure (word a ||| word b).toInt
  | "^" => pure (word a ^^^ word b).toInt
  | "&" => pure (word a &&& word b).toInt
  | "==" => pure (truth (a = b))
  | "!=" => pure (truth (a ≠ b))
  | "<=" => pure (truth (a ≤ b))
  | ">=" => pure (truth (a ≥ b))
  | "<" => pure (truth (a < b))
  | ">" => pure (truth (a > b))
  | "<<" => pure (word a <<< (b.emod 64).toNat).toInt
  | ">>" => pure ((word a).sshiftRight (b.emod 64).toNat).toInt
  | "+" => pure (wrap (a + b))
  | "-" => pure (wrap (a - b))
  | "*" => pure (wrap (a * b))
  | "/" =>
    if b = 0 then throw .divisionByZero
    else if Numeral.fits (a.tdiv b) then pure (a.tdiv b)
    else throw .overflow
  | _ =>
    if b = 0 then throw .divisionByZero
    else if Numeral.fits (a.tdiv b) then pure (a.tmod b)
    else throw .overflow

/-- What a sign makes of a number. -/
def applySign (sign : String) (a : Int) : Int :=
  match sign with
  | "-" => wrap (-a)
  | "!" => truth (a = 0)
  | "~" => -a - 1
  | _ => a

/-- The values that names were given so far, the last one first. -/
abbrev Evaluation := StateT (List (String × Int)) (Except Fault)

namespace Term

/-- The value of a name: the one it was given last, or what it stood for before. -/
def valueOfName (before : String → Option String) (name : String) : Evaluation Int := do
  match (← get).lookup name with
  | some n => return n
  | none =>
    let text := (before name).getD ""
    match spelt? text with
    | some n => return n
    | none => throw (.illegalNumber text)

/-- The value of a sum. What is not chosen, or cannot matter, is only read, which `live` tells: it has no
value of its own, but its faults count. -/
def value (before : String → Option String) (live : Bool) : Term → Evaluation Int
  | .number n => return n
  | .named name => if live then valueOfName before name else return 0
  | .signed sign inner => do return applySign sign (← inner.value before live)
  | .binary "&&" first second => do
    let a ← first.value before live
    let b ← second.value before (live && a ≠ 0)
    return truth (a ≠ 0 && b ≠ 0)
  | .binary "||" first second => do
    let a ← first.value before live
    let b ← second.value before (live && a = 0)
    return truth (a ≠ 0 || b ≠ 0)
  | .binary operator first second => do
    let a ← first.value before live
    let b ← second.value before live
    if live then apply operator a b else return b
  | .choice test yes no => do
    let a ← test.value before live
    let b ← yes.value before (live && a ≠ 0)
    let c ← no.value before (live && a = 0)
    return if a ≠ 0 then b else c
  | .assign name operator inner => do
    let n ← inner.value before live
    if !live then return n
    let n ← match operator with
      | none => pure n
      | some operator => do apply operator (← valueOfName before name) n
    modify fun given => (name, n) :: given
    return n
  | .broken inner fault => do
    let _ ← inner.value before live
    throw fault

/-- The names that a sum holds. -/
def names : Term → List String
  | .number _ => []
  | .named name => [name]
  | .signed _ inner => inner.names
  | .binary _ first second => first.names ++ second.names
  | .choice test yes no => test.names ++ yes.names ++ no.names
  | .assign name _ inner => name :: inner.names
  | .broken inner _ => inner.names

theorem value_eq_of_names_eq_nil (t : Term) (before before' : String → Option String) (live : Bool)
    (h : t.names = []) : t.value before live = t.value before' live := by
  induction t generalizing live with
  | number n => rfl
  | named name => simp [names] at h
  | signed sign inner ih => simp only [value, ih _ h]
  | binary operator first second ih₁ ih₂ =>
    simp only [names, List.append_eq_nil_iff] at h
    have h₁ := fun live => ih₁ live h.1
    have h₂ := fun live => ih₂ live h.2
    unfold value
    split <;> rename_i e <;> cases e <;> simp only [h₁, h₂]
  | choice test yes no ih₁ ih₂ ih₃ =>
    simp only [names, List.append_eq_nil_iff] at h
    have h₁ := fun live => ih₁ live h.1.1
    have h₂ := fun live => ih₂ live h.1.2
    have h₃ := fun live => ih₃ live h.2
    simp only [value, h₁, h₂, h₃]
  | assign name operator inner ih => simp [names] at h
  | broken inner fault ih => simp only [value, ih _ h]

end Term

/-- The sum that a text spells; an empty one is none. -/
def read (text : String) : Term :=
  let ts := tokens (text.length + 1) text.toList
  let (term, rest) := assignment (8 * ts.length + 8) ts
  if rest.isEmpty then term else .broken term .moreThanSum

/-- The value of a text, or why it has none, and the values that names were given in it, the last one
first. -/
def evaluate (before : String → Option String) (text : String) :
    Except Fault (Int × List (String × Int)) :=
  ((read text).value before true).run []

end BundleForge.Shell.Sum
