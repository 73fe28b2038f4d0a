import BundleForge.Shell.Builtin.Basic

/-!
The builtin commands about the directory of a shell, and what else the system keeps for its process: the
permissions that new files do not get, and limits. Main statement: a name that starts at the top does not
depend on the directory.
-/

namespace BundleForge.Shell

/-- The text of a place. -/
def placeText (place : List String) : String := Octets.ofText ("/" ++ "/".intercalate place)

/-- The directory that a name leads to from another one, by the names alone: a part goes down, and two
dots go up. Where the name starts with just two slashes, so does what it leads to. -/
def directoryFrom (directory name : String) : String :=
  let start := if name.toList.head? = some '/' then name else directory ++ "/" ++ name
  let double := match start.toList with
    | '/' :: '/' :: c :: _ => c ≠ '/' && name.toList.head? = some '/'
    | ['/', '/'] => true
    | _ => false
  let parts := (Text.pieces '/' start).foldl (fun (parts : List String) part =>
    if part = "" || part = "." then parts
    else if part = ".." then parts.tail
    else part :: parts) []
  (if double then "//" else "/") ++ "/".intercalate parts.reverse

theorem directoryFrom_absolute (d d' name : String) (h : name.toList.head? = some '/') :
    directoryFrom d name = directoryFrom d' name := by
  simp [directoryFrom, h]

/-- How the permissions that new files do not get change: an operator, whom it is for, and which. -/
structure MaskChange where
  operator : Char
  positions : Nat
  bits : Nat

namespace Run

/-- Whether what counts is where a directory really is, by the last change of mind among letters. -/
def isPhysical (given : List (Char × String)) : Bool :=
  (given.getLast?.map Prod.fst).getD 'L' = 'P'

/-- Makes a directory the one of the shell. -/
def enter (name : String) (physical : Bool) : Run Bool := do
  let s ← get
  let name := if physical then name else directoryFrom s.directory name
  match s.placeOf (Octets.toText name) true with
  | .error _ => return false
  | .ok place =>
    if !(s.tree.top.at? place).any Node.isDirNode then return false
    let e := s.toEnvironment.withValue "OLDPWD" s.directory true
    let directory := if physical then placeText place else name
    let e := { e with cwd := place, directory }.withValue "PWD" directory true
    set { s with toEnvironment := { e with hashed := [] } }
    return true

/-- The directories in which a name is looked for, and whether that is told. -/
def directoriesFor (e : Environment) (name : String) : List (String × Bool) :=
  match name.toList with
  | '/' :: _ | ['.'] | '.' :: '/' :: _ | ['.', '.'] | '.' :: '.' :: '/' :: _ => []
  | _ =>
    let name := if name = "" then "." else name
    (e.value? "CDPATH").elim [] fun path => (Text.pieces ':' path).map fun front =>
      (if front = "" then name else front ++ "/" ++ name, front ≠ "")

/-- Goes to another directory: one that is named, the home, or the one before. -/
def cd : Builtin := fun arguments => do
  let (given, names) ← optionsOf "LP" arguments
  let physical := isPhysical given
  let e := (← get).toEnvironment
  let (name, tells) := match names with
    | [] => ((e.value? "HOME").getD "", false)
    | "-" :: _ => ((e.value? "OLDPWD").getD "", true)
    | name :: _ => (name, false)
  let s ← get
  let isDirectory (name : String) : Bool :=
    ((s.lookup (Octets.toText name) true).toOption).any Node.isDirNode
  let found := (directoriesFor e name).find? fun d => isDirectory d.1
  let (target, told) := found.getD (if name = "" then "." else name, false)
  if ← enter target physical then
    if tells || told then put ((← get).directory ++ "\n") else return 0
  else fail ("can't cd to " ++ name)

/-- Tells the directory. -/
def pwd : Builtin := fun arguments => do
  let (given, _) ← optionsOf "LP" arguments
  let s ← get
  put ((if isPhysical given then placeText s.cwd else s.directory) ++ "\n")

/-- The permissions in a mask as letters. -/
def maskLetters (mask : Nat) : String :=
  let granted (shift : Nat) : String := String.ofList (([(4, 'r'), (2, 'w'), (1, 'x')].filter fun b =>
    (mask >>> shift) &&& b.1 = 0).map Prod.snd)
  "u=" ++ granted 6 ++ ",g=" ++ granted 3 ++ ",o=" ++ granted 0

/-- Changes of permissions that letters spell, made one after another to those that are granted. A
fault gives nothing. -/
def maskChanges (mask : Nat) : Nat → Nat → Nat → List Char → Option Nat
  | 0, _, _, _ => none
  | _ + 1, _, granted, [] => some granted
  | fuel + 1, positions, granted, cs =>
    let whom := cs.takeWhile fun c => "augo".toList.contains c
    let positions := whom.foldl (fun p c => p ||| match c with
      | 'a' => 0o111
      | 'u' => 0o100
      | 'g' => 0o010
      | _ => 0o001) positions
    let positions := if positions = 0 then 0o111 else positions
    match cs.drop whom.length with
    | [] => some granted
    | operator :: rest =>
      if !(['=', '+', '-'].contains operator) then none
      else
        let letters := rest.takeWhile fun c => "rwxugoXs".toList.contains c
        let value := letters.foldl (fun v c => v ||| match c with
          | 'r' => 4
          | 'w' => 2
          | 'x' => 1
          | 'u' => mask >>> 6
          | 'g' => mask >>> 3
          | 'o' => mask
          | 'X' => if mask &&& 0o111 ≠ 0 then 1 else 0
          | _ => 0) 0
        let bits := (value &&& 7) * positions
        let all := 0o777
        let granted := match operator with
          | '-' => granted &&& (all ^^^ bits)
          | '=' => bits ||| (granted &&& (all ^^^ (positions * 7)))
          | _ => granted ||| bits
        match rest.drop letters.length with
        | [] => some granted
        | ',' :: rest => maskChanges mask fuel 0 granted rest
        | c :: rest =>
          if ['=', '+', '-'].contains c then maskChanges mask fuel positions granted (c :: rest) else none

/-- Tells or changes the permissions that new files do not get. -/
def umask : Builtin := fun arguments => do
  let (given, words) ← optionsOf "S" arguments
  let mask := (← get).mask
  match words with
  | [] =>
    if given.isEmpty then
      let digits := Nat.toDigits 8 mask
      put (String.ofList (List.replicate (4 - digits.length) '0' ++ digits) ++ "\n")
    else put (maskLetters mask ++ "\n")
  | word :: _ => do
    let cs := word.toList
    let mask ←
      if cs.head?.any Char.isDigit then
        if cs.all fun c => '0' ≤ c && c ≤ '7' then
          pure (cs.foldl (fun n c => n * 8 + (c.toNat - '0'.toNat)) 0)
        else fail ("Illegal number: " ++ word)
      else match maskChanges mask (cs.length + 1) 0 (0o777 ^^^ mask) cs with
        | some granted => pure (0o777 ^^^ granted)
        | none => fail ("Illegal mode: " ++ word)
    modify fun s => { s with mask := mask &&& 0o777 }
    return 0

/-- The limits of a process, each with a letter, in the order in which they are shown. -/
def limits : List (Char × String × String) := [
  ('t', "time(seconds)", "unlimited"), ('f', "file(blocks)", "unlimited"),
  ('d', "data(kbytes)", "unlimited"), ('s', "stack(kbytes)", "8192"),
  ('c', "coredump(blocks)", "unlimited"), ('m', "memory(kbytes)", "unlimited"),
  ('l', "locked memory(kbytes)", "unlimited"), ('p', "process", "unlimited"),
  ('n', "nofiles", "1048576"), ('v', "vmemory(kbytes)", "unlimited"), ('w', "locks", "unlimited"),
  ('r', "rtprio", "0")]

/-- Tells the limits of a process. They are not changed. -/
def ulimit : Builtin := fun arguments => do
  let (given, words) ← optionsOf "HSatfdscmlpnvwr" arguments
  let letter := ((given.map Prod.fst).filter fun c => c ≠ 'H' && c ≠ 'S').getLast?.getD 'f'
  match words with
  | [] =>
    if letter = 'a' then
      put (String.join (limits.map fun (_, text, value) => Text.padRight text 20 ++ " " ++ value ++ "\n"))
    else put (((limits.lookup letter).map Prod.snd).getD "unlimited" ++ "\n")
  | [word] =>
    if letter = 'a' then fail "too many arguments"
    else if word = "unlimited" || (!word.isEmpty && word.toList.all Char.isDigit) then return 0
    else fail "bad number"
  | _ => fail "too many arguments"

/-- Tells how much time processes took. -/
def times : Builtin := fun _ =>
  put "0m0.000000s 0m0.000000s\n0m0.000000s 0m0.000000s\n"

end Run
end BundleForge.Shell
