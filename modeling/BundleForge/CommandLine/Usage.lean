import BundleForge.CommandLine.Arguments

/-!
What the program says about its own command line.
-/

namespace BundleForge.CommandLine

/-- The name that the program goes by. -/
def programName : String := "fxbuild"

def usage : String :=
  "usage: fxbuild [-h] [--mode \x7bdevelopment,production\x7d] [--watch]\n" ++
  "               [--config CONFIG] [--log-level \x7bnone,error,info,debug\x7d]\n"

def optionHelp : String :=
  "options:\n" ++
  "  -h, --help            show this help message and exit\n" ++
  "  --mode \x7bdevelopment,production\x7d\n" ++
  "                        production enables minification, the build report and\n" ++
  "                        hardening\n" ++
  "  --watch               Keep rebuilding targets on source changes\n" ++
  "  --config CONFIG       Configuration file (defaults to fxbuild.toml/json/yaml\n" ++
  "                        in the workspace)\n" ++
  "  --log-level \x7bnone,error,info,debug\x7d\n" ++
  "                        Override the configured log level"

def helpText : String := usage ++ "\nBuild the client, server and shared bundles\n\n" ++ optionHelp

def onOption (o : Opt) (text : String) : String := "argument " ++ o.name ++ ": " ++ text

/-- What is wrong with the arguments. -/
def Stop.message : Stop → String
  | .help => ""
  | .noValue o => onOption o "expected one argument"
  | .surplusValue o value => onOption o ("ignored explicit argument " ++ Text.quote value)
  | .badChoice o value choices =>
    onOption o ("invalid choice: " ++ Text.quote value ++ " (choose from " ++
      ", ".intercalate (choices.map Text.quote) ++ ")")
  | .notTaken words => "unrecognized arguments: " ++ " ".intercalate words

/-- The text that is printed when nothing is run. -/
def Stop.text (stop : Stop) : String :=
  match stop with
  | .help => helpText
  | stop => usage ++ programName ++ ": error: " ++ stop.message

def Stop.exitCode : Stop → Nat
  | .help => 0
  | _ => 2

end BundleForge.CommandLine
