import BundleForge.Command
import BundleForge.Event
import BundleForge.Hardening.Profile
import BundleForge.Tree.Basic

/-!
Obfuscation of one script. The source is handed to a command line tool in a file of its own, and
what the tool leaves in a second file is the result.
-/

namespace BundleForge.Hardening

/-- What comes of running the tool. -/
inductive ToolAnswer
  | notRun (text : String)
  | exited (code : Int) (output errors : String)
  | silent
  | wrote (content : List UInt8)
deriving DecidableEq, Repr

/-- How the tool answers to a source, given how often it was run before. -/
abbrev Tool := Nat → String → ToolAnswer

/-- A tool given by rules: the first text that occurs in the source decides, and where no rule says
otherwise the source comes back with something in front. -/
def Tool.ofRules (lead : String) (rules : List (String × Option ToolAnswer)) : Tool := fun _ source =>
  match rules.find? fun rule => Text.contains source rule.1 with
  | some (_, some answer) => answer
  | _ => .wrote (Text.Utf8.encode (lead ++ source))

/-- How scripts are obfuscated: the command, the directory for its files, and how the tool answers. -/
structure Obfuscator where
  command : List String := ["npx", "javascript-obfuscator"]
  scratch : Path
  tool : Tool
  profile : Profile := {}

/-- Why a script was not hardened. -/
inductive Fault
  | tool (text : String)
  | file (fault : FileFault)
deriving DecidableEq, Repr

def Fault.message : Fault → String
  | .tool text => text
  | .file fault => fault.message

namespace Obfuscator

def inputName : String := "input.js"

def outputName : String := "output.js"

/-- The whole command for one script. -/
def commandFor (o : Obfuscator) : List String :=
  o.command ++ [(o.scratch / inputName).text, "--output", (o.scratch / outputName).text] ++
    o.profile.arguments

/-- What an answer of the tool comes to. -/
def resultOf (o : Obfuscator) : ToolAnswer → Except Fault String
  | .notRun text => .error (.tool text)
  | .exited code output errors =>
    .error (.tool (CommandResult.failure ⟨o.commandFor, code, output, errors⟩))
  | .silent => .error (.tool ("Obfuscator produced no output for " ++ inputName))
  | .wrote content =>
    match Tree.decodeText content with
    | .ok text => .ok text
    | .error fault => .error (.file fault)

/-- The obfuscated source, given how often the tool was run before. -/
def obfuscate (o : Obfuscator) (earlier : Nat) (source : String) : Except Fault String :=
  o.resultOf (o.tool earlier source)

def event (o : Obfuscator) (source : String) : Event := .obfuscated source o.commandFor

end Obfuscator

/-- Anything that hardens a script: its result for a source, given how often it was asked before, and
what is seen of it. -/
structure Hardener where
  harden : Nat → String → Except Fault String
  event : String → Event

def Obfuscator.hardener (o : Obfuscator) : Hardener := ⟨o.obfuscate, o.event⟩

end BundleForge.Hardening
