import BundleForge.Target.Basic
import BundleForge.Text.Blank

/-!
The mode flags in a list of arguments, whatever else the list holds. The last mode given counts; an
option whose value is missing says nothing.
-/

namespace BundleForge.ModeFlags

def watchOption : String := "--watch"

def modeOption : String := "--mode"

def productionWord : String := "production"

/-- What follows a start that a text has. -/
def after? (start s : String) : Option String :=
  if start.toList.isPrefixOf s.toList then some (String.ofList (s.toList.drop start.length)) else none

/-- Reads on from the flags so far. -/
def readOn (flags : ModeFlags) : List String → ModeFlags
  | [] => flags
  | word :: rest =>
    if word = watchOption then readOn { flags with watch := true } rest
    else match after? (modeOption ++ "=") word with
      | some mode => readOn { flags with production := mode = productionWord } rest
      | none =>
        match rest with
        | mode :: _ =>
          if word = modeOption then readOn { flags with production := mode = productionWord } rest
          else readOn flags rest
        | [] => flags

/-- The flags that arguments set. The value of an option is read as an argument of its own too. -/
def ofArguments (arguments : List String) : ModeFlags := readOn ⟨false, false⟩ arguments

end BundleForge.ModeFlags
