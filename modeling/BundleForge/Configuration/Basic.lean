import BundleForge.Misfit
import BundleForge.Path
import BundleForge.Setting.Scalar
import BundleForge.Target.Override
import BundleForge.Text.Lower
import BundleForge.Tree.Fault

/-!
The configuration of a build: global settings and the three targets with their overrides, read from
a table of configuration values.
-/

namespace BundleForge

/-- What is wrong with a configuration. -/
inductive ConfigurationFault
  | unsupportedSuffix (suffix : String)
  | unparsable (path : String)
  | notTable (path : String)
  | severalFiles (names : List String)
  | notFound (path : String)
  | globalNotTable
  | commandEntry (setting : String)
  | commandEmpty (setting : String)
  | commandShape (setting : String)
  | targetsNotTables
  | override (fault : OverrideFault)
  | target (fault : Target.Fault)
deriving DecidableEq, Repr

def ConfigurationFault.message : ConfigurationFault → String
  | .unsupportedSuffix suffix =>
    "Unsupported configuration file extension: " ++ suffix ++ ". Supported: .json, .toml, .yaml, .yml"
  | .unparsable path => "Could not parse '" ++ path ++ "'"
  | .notTable path => "Configuration file '" ++ path ++ "' must contain a mapping at the root"
  | .severalFiles names =>
    "Multiple configuration files found: " ++ ", ".intercalate names ++
      ". Only one format per configuration entry is allowed."
  | .notFound path => "Configuration file not found: " ++ path
  | .globalNotTable => "[global] must be a table"
  | .commandEntry setting => setting ++ " entries must be strings"
  | .commandEmpty setting => setting ++ " cannot be empty"
  | .commandShape setting => setting ++ " must be a string or sequence of strings"
  | .targetsNotTables => "[targets] must contain one table per target name"
  | .override fault => fault.message
  | .target fault => fault.message

/-- Why a configuration cannot be had: it is wrong, or what it is made of cannot be read. -/
inductive LoadFault
  | configuration (fault : ConfigurationFault)
  | tooDeep
  | file (fault : FileFault)
  | number (fault : Number.IntegerFault)
  | moment (fault : MomentFault)
  | scalar (fault : ScalarFault)
deriving DecidableEq, Repr

def LoadFault.message : LoadFault → String
  | .configuration fault => fault.message
  | .tooDeep => Misfit.message .tooDeep
  | .file fault => fault.message
  | .number fault => fault.message
  | .moment fault => fault.message
  | .scalar fault => fault.message

/-- Settings that hold for every target. -/
structure GlobalSettings where
  outDir : String := "dist"
  logLevel : String := "info"
  node : String := "node"
  obfuscator : List String := ["npx", "javascript-obfuscator"]
deriving DecidableEq, Repr

/-- A command given as one text with blanks between its words, or as a list of words. -/
def commandOf (setting : String) (value : Setting) : Except ConfigurationFault (List String) :=
  let checked (words : List String) : Except ConfigurationFault (List String) :=
    if words.isEmpty then .error (.commandEmpty setting) else .ok words
  match value with
  | .str s => checked (Text.words s)
  | .halved codes => checked (Text.words (Text.Spelled.halved codes).text)
  | value =>
    match value.items? with
    | none => .error (.commandShape setting)
    | some items =>
      match Setting.texts? items with
      | some words => checked words
      | none => .error (.commandEntry setting)

def Setting.loadedText (value : Setting) : Except LoadFault String :=
  match value.text with
  | .ok s => .ok s
  | .error (.number fault) => .error (.number fault)
  | .error .tooDeep => .error .tooDeep

/-- The value of a setting that is given and counts as given. -/
def given? (name : String) (section_ : List (Setting × Setting)) : Option Setting :=
  (Setting.get? name section_).filter Setting.isPresent

/-- The text of a setting, or the default where none is given. -/
def textSetting (name default : String) (section_ : List (Setting × Setting)) :
    Except LoadFault String :=
  match given? name section_ with
  | some value => value.loadedText
  | none => .ok default

/-- The level that is set, in small letters. -/
def levelSetting (default : String) (section_ : List (Setting × Setting)) : Except LoadFault String :=
  match given? "log_level" section_ with
  | some value => value.loadedText.map Text.lower
  | none => .ok default

/-- The command that hardens files. A null is as good as none. -/
def obfuscatorSetting (default : List String) (section_ : List (Setting × Setting)) :
    Except LoadFault (List String) :=
  match Setting.get? "obfuscator" section_ with
  | none | some .null => .ok default
  | some value => (commandOf "global.obfuscator" value).mapError .configuration

def GlobalSettings.ofSection (section_ : List (Setting × Setting)) : Except LoadFault GlobalSettings := do
  let base : GlobalSettings := {}
  let outDir ← textSetting "out_dir" base.outDir section_
  let logLevel ← levelSetting base.logLevel section_
  let node ← textSetting "node" base.node section_
  let obfuscator ← obfuscatorSetting base.obfuscator section_
  return { outDir, logLevel, node, obfuscator }

def GlobalSettings.ofTable (data : List (Setting × Setting)) : Except LoadFault GlobalSettings :=
  match Setting.get? "global" data with
  | none => .ok {}
  | some value =>
    match value.table? with
    | some section_ => GlobalSettings.ofSection section_
    | none => .error (.configuration .globalNotTable)

/-- A whole configuration, and the file it was read from. -/
structure Configuration where
  root : Path
  settings : GlobalSettings
  targets : List Target
  source : Option Path
deriving DecidableEq, Repr

namespace Configuration

/-- The default targets with the overrides of a table, checked. -/
def targetsOf (data : List (Setting × Setting)) : Except ConfigurationFault (List Target) :=
  match (Setting.get? "targets" data).getD (.table []) |>.table? with
  | none => .error .targetsNotTables
  | some overrides =>
    if overrides.any fun entry => entry.2.table?.isNone then .error .targetsNotTables
    else do
      let targets ← (applyOverrides Target.defaults (.table overrides)).mapError .override
      (Target.validate targets).mapError .target
      return targets

/-- Wrong targets make a configuration wrong; values too deep inside others are not called wrong. -/
def faultOf : ConfigurationFault → LoadFault
  | .override (.misfit .tooDeep) => .tooDeep
  | fault => .configuration fault

def ofTable (root : Path) (data : List (Setting × Setting)) (source : Option Path) :
    Except LoadFault Configuration := do
  let settings ← GlobalSettings.ofTable data
  let targets ← (targetsOf data).mapError faultOf
  return { root, settings, targets, source }

/-- The directory below which every target has its output. -/
def outDir (c : Configuration) : Path := c.root / c.settings.outDir

end Configuration
end BundleForge
