import BundleForge.Shell.Builtin.Basic

/-!
Reading a line into variables. Main statement: without a backslash a line is one region that may be
divided.
-/

namespace BundleForge.Shell

/-- A line that is read: its marks and regions, where the last region starts, and whether the line goes
on behind its end. -/
structure LineRead where
  expanded : Expanded := {}
  start : Nat := 0
  goesOn : Bool := false

namespace Run

/-- Adds the characters of a line. A character behind a backslash divides nothing; behind a backslash at
its end the line goes on. -/
def addLine (raw : Bool) (l : LineRead) : List Char → LineRead
  | [] => { l with goesOn := false }
  | '\\' :: rest =>
    if raw then addLine raw { l with expanded := l.expanded.push '\\' false } rest
    else match rest with
      | [] => { l with goesOn := true }
      | c :: rest =>
        let x := (l.expanded.record l.start false).push c true
        addLine raw { l with expanded := x, start := x.size } rest
  | c :: rest => addLine raw { l with expanded := l.expanded.push c false } rest

theorem addLine_plain (raw : Bool) (l : LineRead) (cs : List Char) (h : '\\' ∉ cs) :
    (addLine raw l cs).start = l.start := by
  induction cs generalizing l with
  | nil => rfl
  | cons c rest ih =>
    have hc : c ≠ '\\' := fun e => h (by simp [e])
    have hr : '\\' ∉ rest := fun e => h (by simp [e])
    unfold addLine
    split
    · rfl
    · simp_all
    · simp_all

/-- Reads lines up to one that does not go on, and tells whether it has an end. -/
def readLines (raw : Bool) : Nat → LineRead → Run (LineRead × Bool)
  | 0, _ => halt .exhausted
  | fuel + 1, l => do
    let (bytes, ended) ← readLine 0
    let cs := (Octets.ofBytes (bytes.filter (· ≠ 0))).toList
    let l := addLine raw l cs
    if l.goesOn && ended then
      let x := l.expanded.record l.start false
      readLines raw fuel { l with expanded := x, start := x.size }
    else return ({ l with expanded := l.expanded.record l.start false }, ended)

/-- Gives variables the fields of a line, and nothing to those that are left over. -/
def assignFields : List String → List String → Run Unit
  | [], _ => return ()
  | name :: names, fields => do
    if !isName name then fail (name ++ ": bad variable name")
    assign name (fields.headD "")
    assignFields names fields.tail

/-- Reads a line into variables. The status tells whether the line has an end. -/
def read : Builtin := fun arguments => do
  let (given, names) ← optionsOf "p:r" arguments
  if names.isEmpty then fail "arg count"
  let (line, ended) ← readLines (given.any (·.1 = 'r')) patience {}
  let fields := line.expanded.fields (← get).separators (some names.length)
  assignFields names (fields.map Mark.text)
  return if ended then 0 else 1

end Run
end BundleForge.Shell
