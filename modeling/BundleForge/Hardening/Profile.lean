import BundleForge.Json.Access

/-!
How strongly code is obfuscated, and how that is said on the command line of the tool. The fields of a
profile can be given as values: some of them are looked at for their truth, others go to the tool as
they are.
-/

namespace BundleForge.Hardening

/-- Some hundredths. -/
def hundredths (n : Nat) : Json := .real (Binary64.nearest false n 100)

structure Profile where
  compact : Bool := true
  controlFlowFlattening : Bool := true
  controlFlowFlatteningThreshold : Json := hundredths 75
  deadCodeInjection : Bool := true
  deadCodeInjectionThreshold : Json := hundredths 40
  debugProtection : Bool := false
  disableConsoleOutput : Bool := false
  identifierNamesGenerator : Json := .str "hexadecimal"
  renameGlobals : Bool := false
  stringArray : Bool := true
  stringArrayRotate : Bool := true
  stringArrayEncoding : List String := ["rc4"]
  stringArrayThreshold : Json := hundredths 75
deriving Repr

namespace Profile

def truth (b : Bool) : Json := .str (if b then "true" else "false")

/-- A value as the text that the tool is given. -/
def shown (j : Json) : Json := .str j.text

/-- The profile as pairs of an option and its value. -/
def options (p : Profile) : List (String × Json) := [
  ("--compact", truth p.compact),
  ("--control-flow-flattening", truth p.controlFlowFlattening),
  ("--control-flow-flattening-threshold", shown p.controlFlowFlatteningThreshold),
  ("--dead-code-injection", truth p.deadCodeInjection),
  ("--dead-code-injection-threshold", shown p.deadCodeInjectionThreshold),
  ("--debug-protection", truth p.debugProtection),
  ("--disable-console-output", truth p.disableConsoleOutput),
  ("--identifier-names-generator", p.identifierNamesGenerator),
  ("--rename-globals", truth p.renameGlobals),
  ("--string-array", truth p.stringArray),
  ("--string-array-rotate", truth p.stringArrayRotate),
  ("--string-array-encoding", .str (",".intercalate p.stringArrayEncoding)),
  ("--string-array-threshold", shown p.stringArrayThreshold)]

/-- The words that the profile adds to a command. -/
def arguments (p : Profile) : List String := p.options.flatMap fun option => [option.1, option.2.text]

/-- The profile with one field set. -/
def set (p : Profile) (field : String) (value : Json) : Except Misfit Profile :=
  match field with
  | "compact" => .ok { p with compact := value.isPresent }
  | "control_flow_flattening" => .ok { p with controlFlowFlattening := value.isPresent }
  | "control_flow_flattening_threshold" => .ok { p with controlFlowFlatteningThreshold := value }
  | "dead_code_injection" => .ok { p with deadCodeInjection := value.isPresent }
  | "dead_code_injection_threshold" => .ok { p with deadCodeInjectionThreshold := value }
  | "debug_protection" => .ok { p with debugProtection := value.isPresent }
  | "disable_console_output" => .ok { p with disableConsoleOutput := value.isPresent }
  | "identifier_names_generator" => .ok { p with identifierNamesGenerator := value }
  | "rename_globals" => .ok { p with renameGlobals := value.isPresent }
  | "string_array" => .ok { p with stringArray := value.isPresent }
  | "string_array_rotate" => .ok { p with stringArrayRotate := value.isPresent }
  | "string_array_encoding" => do
    let texts ← value.texts
    return { p with stringArrayEncoding := texts }
  | "string_array_threshold" => .ok { p with stringArrayThreshold := value }
  | field => .error (.unexpected field)

/-- The profile with the fields of an object set. -/
def ofJson (fields : Json) : Except Misfit Profile :=
  match fields with
  | .obj members => members.foldlM (fun p member => p.set member.1 member.2) {}
  | j => .error (.notText j.kind.name)

theorem arguments_length (p : Profile) : p.arguments.length = 26 := by
  simp [arguments, options]

end Profile
end BundleForge.Hardening
