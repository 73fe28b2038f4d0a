/-!
Build targets: what is bundled, for which platform and in which format. Main statement: a list of
targets is valid exactly when names are given and distinct and every target has an entry module.
-/

namespace BundleForge

/-- Where a bundle runs. -/
inductive Platform
  | browser
  | server
  | neutral
deriving DecidableEq, Repr

def Platform.text : Platform → String
  | .browser => "browser"
  | .server => "node"
  | .neutral => "neutral"

def Platform.ofText? (text : String) : Option Platform :=
  [.browser, .server, .neutral].find? fun p => p.text = text

/-- The shape of a bundle's code. -/
inductive OutputFormat
  | immediate
  | commonModule
deriving DecidableEq, Repr

def OutputFormat.text : OutputFormat → String
  | .immediate => "iife"
  | .commonModule => "cjs"

def OutputFormat.ofText? (text : String) : Option OutputFormat :=
  [.immediate, .commonModule].find? fun f => f.text = text

/-- How often, and for what, a build is run. -/
structure ModeFlags where
  production : Bool
  watch : Bool
deriving DecidableEq, Repr, Inhabited

/-- One bundle to build. -/
structure Target where
  name : String
  platform : Platform
  entryModule : String
  format : OutputFormat
  baseline : List String
  suppressMinify : Bool := false
  suppressHarden : Option Bool := none
  usesPolicy : Bool := false
  define : List (String × String) := []
deriving DecidableEq, Repr

namespace Target

/-- Whether a production build of the target is hardened: as it says itself, and where it says
nothing, when it is minified. -/
def harden (t : Target) : Bool :=
  match t.suppressHarden with
  | none => !t.suppressMinify
  | some suppressed => !suppressed

/-- The three targets that are built without further configuration. -/
def defaults : List Target := [
  { name := "client"
    platform := .browser
    entryModule := "./src/client/index.ts"
    format := .immediate
    baseline := ["chrome93"] },
  { name := "server"
    platform := .server
    entryModule := "./src/server/index.ts"
    format := .commonModule
    baseline := ["node16"]
    usesPolicy := true
    define := [("require", "requireTo")] },
  { name := "shared"
    platform := .neutral
    entryModule := "./src/shared/index.ts"
    format := .commonModule
    baseline := ["es2020"]
    suppressMinify := true }]

/-- What is wrong with a list of targets. -/
inductive Fault
  | emptyName
  | duplicateName (name : String)
  | noEntryModule (name : String)
deriving DecidableEq, Repr

def Fault.message : Fault → String
  | .emptyName => "Target names cannot be empty"
  | .duplicateName name => "Duplicate target name: " ++ name
  | .noEntryModule name => "Target '" ++ name ++ "' has no entry module"

/-- Checks targets in order, given the names already taken. -/
def validateFrom (taken : List String) : List Target → Except Fault Unit
  | [] => .ok ()
  | t :: rest =>
    if t.name = "" then .error .emptyName
    else if t.name ∈ taken then .error (.duplicateName t.name)
    else if t.entryModule = "" then .error (.noEntryModule t.name)
    else validateFrom (t.name :: taken) rest

def validate (targets : List Target) : Except Fault Unit := validateFrom [] targets

end Target
end BundleForge
