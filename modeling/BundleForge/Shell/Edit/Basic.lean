import BundleForge.Shell.Regular.Reader

/-!
Programs that edit a text line by line: which lines a command is for, and what it does with them.
-/

namespace BundleForge.Shell.Edit

/-- A pattern, and whether either case of a letter will do. -/
structure Pattern where
  expression : Regular
  anyCase : Bool

/-- A line: by its number, every so many lines, the last one, or by a pattern, where no pattern stands
for the one used last. -/
inductive Address
  | line (n : Nat)
  | every (first step : Nat)
  | last
  | matching (pattern : Option Pattern)

/-- Where a range of lines ends. -/
inductive RangeEnd
  | address (address : Address)
  | further (lines : Nat)
  | multiple (n : Nat)

/-- The lines that a command is for. -/
structure Scope where
  first : Option Address := none
  stop : Option RangeEnd := none
  negated : Bool := false

/-- What becomes of letters in a replacement: all that follow, or only the next one. -/
inductive CaseChange
  | upper
  | lower
  | nextUpper
  | nextLower
  | unchanged
deriving DecidableEq, Repr

/-- A part of a replacement: a character, what a group matched, or a change of case. -/
inductive Part
  | char (c : Char)
  | group (n : Nat)
  | case (change : CaseChange)
deriving DecidableEq, Repr

structure Substitution where
  pattern : Option Pattern
  replacement : List Part
  nth : Nat
  all : Bool
  prints : Bool
  file : Option String

/-- When a jump is made. -/
inductive JumpCase
  | always
  | changed
  | unchanged
deriving DecidableEq, Repr

inductive Action
  | opening
  | closing
  | label (name : String)
  | jump (kind : JumpCase) (label : String)
  | substitute (substitution : Substitution)
  | exchange (pairs : List (Char × Char))
  | append (text : String)
  | insert (text : String)
  | change (text : String)
  | delete
  | deleteFirst
  | print
  | printFirst
  | next
  | joinNext
  | get
  | getMore
  | hold
  | holdMore
  | swap
  | number
  | unambiguous (width : Option Nat)
  | name
  | nothing
  | quit (status : Nat) (quiet : Bool)
  | readFile (name : String)
  | writeFile (name : String)
  | writeFirst (name : String)
  | clear

structure Command where
  scope : Scope
  action : Action

abbrev Program := Array Command

/-- The labels of a program, with their positions. -/
def labels (p : Program) : List (String × Nat) := p.toList.zipIdx.filterMap fun (c, i) =>
  match c.action with
  | .label name => some (name, i)
  | _ => none

/-- The position of the brace that closes the one in front of some commands. -/
def closingAt (depth n : Nat) : List Command → Nat
  | [] => n
  | c :: rest =>
    match c.action with
    | .opening => closingAt (depth + 1) (n + 1) rest
    | .closing => if depth = 0 then n else closingAt (depth - 1) (n + 1) rest
    | _ => closingAt depth (n + 1) rest

theorem closingAt_le (depth n : Nat) (cs : List Command) : closingAt depth n cs ≤ n + cs.length := by
  fun_induction closingAt depth n cs <;> simp only [List.length_cons, List.length_nil] at * <;> omega

end BundleForge.Shell.Edit
