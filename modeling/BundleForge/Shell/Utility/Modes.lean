import BundleForge.Shell.Utility.Files

/-!
Permissions of files, as numbers in base eight or as letters. Main statement: a number in base eight is
the permissions that it spells.
-/

namespace BundleForge.Shell

/-- A change of permissions: an operator, whom it is for, and which permissions. An execution permission
may only count where there is one already, or for a directory. -/
structure ModeChange where
  operator : Char
  whom : Nat
  bits : Nat
  execution : Bool
  copied : Option Nat
deriving DecidableEq, Repr

/-- Permissions as they are changed: set to a number, or changed one by one. -/
inductive ModeChanges
  | absolute (mode : Nat)
  | relative (changes : List ModeChange)
deriving DecidableEq, Repr

namespace ModeChanges

/-- The bits of whom letters mean. Nobody at all means all, with those left out that a mask has. -/
def whomOf (mask : Nat) (letters : List Char) : Nat :=
  if letters.isEmpty then 0o7777 &&& (0o7777 ^^^ mask)
  else letters.foldl (fun n c => n ||| match c with
    | 'u' => 0o4700
    | 'g' => 0o2070
    | 'o' => 0o1007
    | _ => 0o7777) 0

/-- Operators with their permissions, behind the letters for whom they are. -/
def operations (whom : Nat) : Nat → List Char → Option (List ModeChange)
  | 0, _ => none
  | _ + 1, [] => some []
  | fuel + 1, operator :: rest =>
    if !(['+', '-', '='].contains operator) then none
    else
      match rest with
      | 'u' :: rest => (operations whom fuel rest).map (⟨operator, whom, 0, false, some 6⟩ :: ·)
      | 'g' :: rest => (operations whom fuel rest).map (⟨operator, whom, 0, false, some 3⟩ :: ·)
      | 'o' :: rest => (operations whom fuel rest).map (⟨operator, whom, 0, false, some 0⟩ :: ·)
      | rest =>
        let letters := rest.takeWhile fun c => "rwxXst".toList.contains c
        let bits := letters.foldl (fun n c => n ||| match c with
          | 'r' => 0o444
          | 'w' => 0o222
          | 'x' => 0o111
          | 's' => 0o6000
          | 't' => 0o1000
          | _ => 0) 0
        (operations whom fuel (rest.drop letters.length)).map
          (⟨operator, whom, bits, letters.contains 'X', none⟩ :: ·)

/-- The changes that a text spells. -/
def ofText? (mask : Nat) (text : String) : Option ModeChanges :=
  let cs := text.toList
  if !cs.isEmpty && cs.all fun c => '0' ≤ c && c ≤ '7' then
    let mode := cs.foldl (fun n c => n * 8 + (c.toNat - '0'.toNat)) 0
    if mode ≤ 0o7777 then some (.absolute mode) else none
  else
    ((Text.pieces ',' text).mapM fun (clause : String) =>
      let cs := clause.toList
      let letters := cs.takeWhile fun c => "ugoa".toList.contains c
      let rest := cs.drop letters.length
      if rest.isEmpty then none
      else operations (whomOf mask letters) (rest.length + 1) rest).map fun changes => .relative changes.flatten

theorem ofText?_digits : ofText? 0o022 "755" = some (.absolute 0o755) := by decide +kernel

/-- The permissions behind changes. -/
def apply (isDir : Bool) (mode : Nat) : ModeChanges → Nat
  | .absolute mode => mode
  | .relative changes => changes.foldl (fun mode c =>
    let executable := isDir || mode &&& 0o111 ≠ 0
    let bits := match c.copied with
      | some shift => ((mode >>> shift) &&& 7) * 0o111
      | none => c.bits ||| (if c.execution && executable then 0o111 else 0)
    let bits := bits &&& c.whom
    match c.operator with
    | '+' => mode ||| bits
    | '-' => mode &&& (0o7777 ^^^ bits)
    | _ => (mode &&& (0o7777 ^^^ (c.whom &&& (if isDir then 0o777 else 0o7777)))) ||| bits) mode

end ModeChanges

namespace Run

mutual

/-- The places of a node and of all that is in it. -/
def placesIn (place : List String) : Node → List (List String)
  | .dir entries => place :: placesAmong place entries
  | .file _ => [place]
  | .link _ => []

def placesAmong (place : List String) : List (String × Node) → List (List String)
  | [] => []
  | (name, n) :: rest => placesIn (place ++ [name]) n ++ placesAmong place rest

end

/-- Changes the permissions of what stands at a name. -/
def changeMode (deep : Bool) (changes : ModeChanges) (name : String) : Run Nat := do
  let s ← get
  match s.placeOf name true with
  | .error cause => do
    complain ("chmod: cannot access '" ++ name ++ "': " ++ cause.wording)
    return 1
  | .ok place => do
    let places := if deep then (s.tree.top.at? place).elim [] (placesIn place) else [place]
    for place in places do
      modifyWorld fun w =>
        let isDir := (w.tree.top.at? place).any Node.isDirNode
        { w with modes := Entries.put place (changes.apply isDir (w.modeAt place)) w.modes }
    return 0

/-- Changes the permissions of files. -/
def chmod (arguments : List String) : Run Nat := do
  let isMode (a : String) : Bool :=
    a.toList.head? = some '-' && (a.toList.tail.head?).any fun c => "rwxXst".toList.contains c
  let (front, arguments) := (arguments.filter isMode, arguments.filter (!isMode ·))
  withOptions "chmod" { plain := "Rvcf", words := [("recursive", 'R')] } 1 arguments fun o => do
    match front ++ o.others with
    | [] => noOperand "chmod" "operand"
    | [only] => misused "chmod" ("missing operand after ‘" ++ only ++ "’") 1
    | mode :: names =>
      match ModeChanges.ofText? (← get).mask mode with
      | none => misused "chmod" ("invalid mode: ‘" ++ mode ++ "’") 1
      | some changes => forNames (changeMode (o.has 'R') changes) names

end Run
end BundleForge.Shell
