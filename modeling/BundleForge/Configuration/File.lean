import BundleForge.Configuration.Basic
import BundleForge.Json.Reader
import BundleForge.Toml.Document
import BundleForge.Tree.Basic
import BundleForge.Yaml.Unfolding

/-!
Configuration files: where one is looked for, and how the three formats are read. Without a file
the defaults hold.
-/

namespace BundleForge.Configuration

inductive Format
  | toml
  | json
  | yaml
deriving DecidableEq, Repr

/-- The suffixes of configuration files, in the order in which they are looked for. -/
def formats : List (String × Format) :=
  [(".toml", .toml), (".json", .json), (".yaml", .yaml), (".yml", .yaml)]

/-- The name of a configuration file without its suffix. -/
def stem : String := "fxbuild"

/-- A read value, or none for a file that says nothing. -/
def parse (format : Format) (path : String) (supply : Text.Supply) : Except LoadFault Setting :=
  let unparsable : LoadFault := .configuration (.unparsable path)
  match format with
  | .toml =>
    match Toml.read supply.text with
    | .ok entries => .ok (.table entries)
    | .error .malformed => .error unparsable
    | .error .tooDeep => .error .tooDeep
    | .error (.integer fault) => .error (.number fault)
  | .json =>
    match Json.read supply.text with
    | .ok value => .ok (.ofJson value)
    | .error .malformed => .error unparsable
    | .error .tooDeep => .error .tooDeep
    | .error (.integer fault) => .error (.number fault)
  | .yaml =>
    match Yaml.read supply with
    | .ok none => .ok .null
    | .ok (some value) => .ok value
    | .error .malformed => .error unparsable
    | .error .tooDeep => .error .tooDeep
    | .error (.undecodable refusal) => .error (.file (.undecodable refusal))
    | .error (.integer fault) => .error (.number fault)
    | .error (.scalar fault) => .error (.scalar fault)
    | .error (.moment fault) => .error (.moment fault)

/-- The text of a configuration file. TOML keeps its line ends for itself to judge; YAML is read as it
is supplied, so that a fault may come before bytes that are no text. -/
def readFile (t : Tree) (format : Format) (p : Path) : Except LoadFault Text.Supply :=
  match t.readBytes p with
  | .error fault => .error (.file fault)
  | .ok bytes =>
    match format with
    | .toml =>
      match Text.Utf8.decode bytes with
      | .ok s => .ok ⟨s, none⟩
      | .error refusal => .error (.file (.undecodable refusal))
    | .json =>
      match Tree.decodeText bytes with
      | .ok s => .ok ⟨s, none⟩
      | .error fault => .error (.file fault)
    | .yaml => .ok (.ofBytes bytes)

/-- The table in a configuration file; a file that says nothing has an empty one. -/
def loadTable (t : Tree) (p : Path) : Except LoadFault (List (Setting × Setting)) :=
  let suffix := Text.lower p.suffix
  match formats.lookup suffix with
  | none => .error (.configuration (.unsupportedSuffix suffix))
  | some format => do
    let supply ← readFile t format p
    match (← parse format p.text supply).opened with
    | .null => return []
    | .table entries => return entries
    | _ => throw (.configuration (.notTable p.text))

/-- The candidates in a directory that are files. -/
def filesAmong (t : Tree) : List Path → Except LoadFault (List Path)
  | [] => .ok []
  | p :: rest =>
    match t.isFile p with
    | .error fault => .error (.file (.system fault))
    | .ok isFile => do
      let others ← filesAmong t rest
      return if isFile then p :: others else others

/-- The configuration file of a directory. Two of them contradict each other. -/
def find (t : Tree) (root : Path) : Except LoadFault (Option Path) := do
  let found ← filesAmong t (formats.map fun f => root / (stem ++ f.1))
  match found with
  | [] => return none
  | [p] => return some p
  | found => throw (.configuration (.severalFiles (found.map Path.name)))

/-- The file to load: the one asked for, which has to be there, or the one that is found. -/
def sourceOf (t : Tree) (root : Path) (asked : Option Path) : Except LoadFault (Option Path) :=
  match asked with
  | none => find t root
  | some p =>
    let p := root.join p
    match t.isFile p with
    | .error fault => .error (.file (.system fault))
    | .ok true => .ok (some p)
    | .ok false => .error (.configuration (.notFound p.text))

/-- The configuration of a directory, from a file that is asked for or found. -/
def load (t : Tree) (root : Path) (asked : Option Path) : Except LoadFault Configuration := do
  let source ← sourceOf t root asked
  let data ←
    match source with
    | some p => loadTable t p
    | none => pure []
  ofTable root data source

end BundleForge.Configuration
