import BundleForge.Shell.Numeral
import BundleForge.Shell.Stream

/-!
The variables of a shell, and what it says about faults. A variable can be handed on to programs, be
fixed, or only hold up to the end of a function, after which it is again what it was. Main statement: a
variable that is put into an environment has the value that was put there.
-/

namespace BundleForge.Shell

/-- The characters that divide words, unless others are given. -/
def usualSeparators : String := " \t\n"

/-- The number that the first process of a run has, and the process that started it. -/
def firstProcess : Nat := 4242

def parentProcess : Nat := 4241

/-- Where a name stands among others in a table with some number of places. -/
def tablePlace (places : Nat) (name : String) : Nat :=
  match name.toList with
  | [] => 0
  | c :: rest => ((c :: rest).foldl (fun sum d => sum + d.toNat) (c.toNat * 16)) % places

/-- Entries in the order of a table: by the places of their names. -/
def tabled {α : Type} (places : Nat) (entries : List (String × α)) : List (String × α) :=
  entries.mergeSort fun a b => tablePlace places a.1 ≤ tablePlace places b.1

namespace Environment

def variableNamed? (e : Environment) (name : String) : Option Variable := e.bindings.lookup name

/-- The value of a variable, if it has one. -/
def value? (e : Environment) (name : String) : Option String := (e.variableNamed? name).bind Variable.value

/-- The separators that divide words. -/
def separators (e : Environment) : List Char := ((e.value? "IFS").getD usualSeparators).toList

def withVariable (e : Environment) (name : String) (v : Variable) : Environment :=
  { e with bindings := Entries.put name v e.bindings }

theorem value?_withVariable (e : Environment) (name : String) (v : Variable) :
    (e.withVariable name v).value? name = v.value := by
  simp [value?, withVariable, variableNamed?, Entries.lookup_put]

/-- The environment with a variable set, and perhaps handed on. Where options are read and where programs
are known to be starts anew with the variables for that. -/
def withValue (e : Environment) (name value : String) (exported : Bool) : Environment :=
  let v := (e.variableNamed? name).getD ⟨none, false, false⟩
  let e := e.withVariable name { v with
    value := some value, exported := v.exported || exported || e.manners.passesAll }
  match name with
  | "OPTIND" => { e with optionPlace := (((Numeral.argument? value).filter (0 < ·)).getD 1, 0) }
  | "PATH" => { e with hashed := [] }
  | _ => e

/-- The environment with a variable as it was before. Under a dash the options are kept. -/
def restore (e : Environment) (name : String) : Option Variable → Environment
  | some v =>
    if name = "-" then { e with manners := ⟨(v.value.getD "").toList⟩ } else e.withVariable name v
  | none => { e with bindings := Entries.drop name e.bindings }

/-- What is handed on to programs, in the order of a table. -/
def handedOn (e : Environment) : List (String × String) := (tabled 39 e.bindings).filterMap fun (name, v) =>
  if v.exported then v.value.map fun value => (name, value) else none

end Environment

namespace Run

@[inline] def setStatus (status : Nat) : Run Unit := modify fun s => { s with status }

@[inline] def modifyWorld (f : World → World) : Run Unit := modify fun s => { s with world := f s.world }

/-- Prints octets on the stream for errors. -/
def complainOctets (octets : String) : Run Unit := do
  let _ ← write 2 (Octets.toBytes octets)

/-- The front of what a shell says about faults: its name, the line it has come to, and the command that
it carries out. -/
def faultFront (e : Environment) : String :=
  e.name ++ ": " ++ toString e.line ++ ": " ++ if e.command = "" then "" else e.command ++ ": "

/-- Says what is wrong, and goes on. -/
def warn (text : String) : Run Unit := do
  complainOctets (faultFront (← get).toEnvironment ++ text ++ "\n")

/-- Says what is wrong, and fails. -/
def fail {α : Type} (text : String) : Run α := do
  setStatus 2
  warn text
  halt .failure

/-- A variable can only get another value where it is not fixed. The one for the place of options holds
a number. -/
def permit (name value : String) : Run Unit := do
  if ((← get).variableNamed? name).any Variable.fixed then fail (name ++ ": is read only")
  if name = "OPTIND" && (Numeral.argument? value).isNone then fail ("Illegal number: " ++ value)

/-- Gives a variable a value. -/
def assignWith (exported : Bool) (name value : String) : Run Unit := do
  permit name value
  let s ← get
  set { s with toEnvironment := s.withValue name value exported }

def assign (name value : String) : Run Unit := assignWith false name value

/-- Takes a variable away. -/
def forget (name : String) : Run Unit := do
  permit name ""
  let s ← get
  set { s with toEnvironment := s.restore name none }

/-- Remembers a variable, which is put back at the end of the innermost scope, or the options. -/
def hide (name : String) : Run Unit := modify fun s =>
  let v := if name = "-" then some ⟨some (String.ofList s.manners.letters), false, false⟩
    else s.variableNamed? name
  match s.scopes with
  | [] => s
  | scope :: outer => { s with scopes := ((name, v) :: scope) :: outer }

/-- The environment behind the innermost scope. -/
def outOfScope (e : Environment) : Environment :=
  match e.scopes with
  | [] => e
  | scope :: outer => scope.foldl (fun e (name, v) => e.restore name v) { e with scopes := outer }

/-- An action in a scope of its own. -/
def inScope (action : Run Unit) : Run Unit := do
  modify fun s => { s with scopes := [] :: s.scopes }
  mending action fun s => { s with toEnvironment := outOfScope s.toEnvironment }

end Run
end BundleForge.Shell
