import BundleForge.Json.Access
import BundleForge.Text.Blank
import BundleForge.Text.ShellWord

/-!
Commands that were run: how they are shown, and what is said when they fail.
-/

namespace BundleForge

/-- A command that ended: its exit code and what it printed. -/
structure CommandResult where
  command : List String
  code : Int
  output : String
  errors : String
deriving DecidableEq, Repr

/-- A command as it is typed at a shell. -/
def commandLine (command : List String) : String := " ".intercalate (command.map Text.shellQuote)

/-- What is said of a command with an exit code other than zero, given the code as text. -/
def failureText (code : String) (command : List String) (errors : String) : String :=
  let text := "Command failed with exit code " ++ code ++ ": " ++ commandLine command
  let errors := Text.trim errors
  if errors = "" then text else text ++ "\nstderr: " ++ errors

def CommandResult.failure (r : CommandResult) : String :=
  failureText (toString r.code) r.command r.errors

/-- The word that a value stands for in a command: a text, or an empty word for what does not count as
present. -/
def wordOf : Json → Except Misfit String
  | .str s => .ok s
  | j => if j.isPresent then .error (.notText j.kind.name) else .ok ""

/-- The words of a command that is given as a value. -/
def wordsOf (command : Json) : Except Misfit (List String) := do
  (← command.iterate).mapM wordOf

/-- What is said of a failed command, all parts of it given as values. -/
def failureOf (code command errors : Json) : Except Misfit String := do
  let words ← wordsOf command
  match errors with
  | .str errors => return failureText code.text words errors
  | j => throw (.noMember j.kind.name "strip")

end BundleForge
