import BundleForge.Json.Access
import BundleForge.Resolution.Package

/-!
What becomes of an import in a server bundle. The host's own modules are replaced by empty stubs,
aliased namespaces and project files are bundled, and all else stays outside under an absolute path.
-/

namespace BundleForge.Resolution

def startsWith (start s : String) : Bool := start.toList.isPrefixOf s.toList

/-- A module of the host, wherever its name occurs. -/
def isHostModule (path : String) : Bool := Text.contains path "@citizenfx"

def aliasedNamespaces : List String := ["@server", "@client", "@common"]

def isAliased (path : String) : Bool := aliasedNamespaces.any fun n => startsWith n path

/-- The rules that can be set for a project: which modules are the host's, which namespaces are bundled,
and the texts that aliases and stubs are known by. -/
structure Rules where
  isHost : String → Bool := isHostModule
  isInternal : String → Bool := isAliased
  rootAlias : String := "@/"
  stubNamespace : String := "ignore"
  stubPath : String := "."

/-- The policy for one target: where it looks from, and its rules. -/
structure Policy where
  cwd : Path
  rules : Rules := {}

/-- The name under which the policy is announced. -/
def policyName : String := "fxbuild-resolution"

def staticImport : String := "import-statement"

/-- An import that the bundler asks about. The last two tell what the bundler found itself. -/
structure Request where
  path : String
  kind : String
  importer : String
  resolveDir : String
  located : Option Json
  lookupError : Option Json

/-- A member that is there and not null. -/
def memberGiven? (name : String) (message : List (String × Json)) : Option Json :=
  (message.lookup name).filter fun j => j.kind != .null

def textMember (name : String) (message : List (String × Json)) : String :=
  ((message.lookup name).map Json.text).getD ""

def presentText (name : String) (message : List (String × Json)) : String :=
  (((message.lookup name).bind Json.present?).map Json.text).getD ""

def Request.ofMembers (message : List (String × Json)) : Request where
  path := textMember "path" message
  kind := textMember "kind" message
  importer := presentText "importer" message
  resolveDir := presentText "resolveDir" message
  located := memberGiven? "located" message
  lookupError := memberGiven? "lookupError" message

/-- The request in a message, which has to be an object. -/
def Request.ofMessage (message : Json) : Except Misfit Request :=
  match message with
  | .obj members => .ok (.ofMembers members)
  | j => .error (.noMember j.kind.name "get")

/-- What is done with an import. -/
inductive Decision
  | bundled
  | stubbed (path namespace_ : String)
  | externalAbsolute (path : String)
  | externalPackage (path : Text.Spelled)
deriving DecidableEq, Repr

def Decision.word : Decision → String
  | .bundled => "internal"
  | .stubbed .. => "stubbed"
  | .externalAbsolute _ => "external-absolute"
  | .externalPackage _ => "external-package"

def Decision.isExternal : Decision → Bool
  | .externalAbsolute _ | .externalPackage _ => true
  | _ => false

def Decision.path? : Decision → Option String
  | .bundled => none
  | .stubbed path _ | .externalAbsolute path => some path
  | .externalPackage path => some path.text

def Decision.namespace? : Decision → Option String
  | .stubbed _ namespace_ => some namespace_
  | _ => none

/-- The decision as the bundler is told: nothing for what it bundles itself. -/
def Decision.toHook : Decision → Json
  | .bundled => .null
  | .stubbed path namespace_ => .obj [("path", .str path), ("namespace", .str namespace_)]
  | .externalAbsolute path => .obj [("path", .str path), ("external", .bool true)]
  | .externalPackage path => .obj [("path", .ofSpelled path), ("external", .bool true)]

/-- Why an import cannot be decided: the look-up failed with a text, or broke off. -/
inductive ResolveFault
  | unresolved (text : String)
  | misfit (fault : Misfit)
  | name (fault : Path.NameFault)
  | system (fault : SystemFault)
deriving DecidableEq, Repr

/-- A failed look-up seen from the policy. -/
def ResolveFault.ofLocate (fault : LocateFault) : ResolveFault :=
  match fault with
  | .notFound .. => .unresolved fault.message
  | .tooDeep => .misfit .tooDeep
  | .name fault => .name fault
  | .system fault => .system fault

/-- Relative and absolute file paths are project sources. -/
def isFilePath (path : String) : Bool := startsWith "." path || startsWith "/" path

/-- Where a specifier is found: as the bundler says, or by a look-up of one's own. -/
def Policy.lookup (p : Policy) (t : Tree) (r : Request) : Except ResolveFault Json :=
  match r.located, r.lookupError with
  | some located, _ => .ok located
  | none, some error => .error (.unresolved error.text)
  | none, none =>
    match locate t p.cwd r.path with
    | .ok found => .ok (.str found)
    | .error fault => .error (.ofLocate fault)

/-- The decision once the specifier has been found. -/
def Policy.package (p : Policy) (path : String) (located : Json) : Except ResolveFault Decision :=
  match located.spelled? with
  | some found =>
    if (Path.ofString found.text).isAbsolute then
      .ok (.externalPackage (.whole ((p.cwd / "node_modules").joinAll (Text.pieces '/' path)).text))
    else .ok (.externalPackage found)
  | none => .error (.misfit (.notPathText located.kind.name))

/-- The path of an import below the root alias, seen from the project. -/
def Policy.underRoot (p : Policy) (path : String) : String :=
  let remainder := String.ofList (path.toList.drop p.rules.rootAlias.length)
  (p.cwd.joinAll (Text.pieces '/' remainder)).text

/-- Decides an import. The rules are tried in order: host modules, aliased namespaces and imports
that are not static, the root alias, file paths, packages. -/
def Policy.resolve (p : Policy) (t : Tree) (r : Request) : Except ResolveFault Decision :=
  if p.rules.isHost r.path then .ok (.stubbed p.rules.stubPath p.rules.stubNamespace)
  else if p.rules.isInternal r.path || r.kind ≠ staticImport then .ok .bundled
  else if startsWith p.rules.rootAlias r.path then .ok (.externalAbsolute (p.underRoot r.path))
  else if isFilePath r.path then .ok .bundled
  else do
    let located ← p.lookup t r
    p.package r.path located

/-- The contents of a module in a namespace: empty for stubs, and none of the policy's otherwise. -/
def Policy.load (p : Policy) (namespace_ : String) : Json :=
  if namespace_ = p.rules.stubNamespace then .obj [("contents", .str "")] else .null

/-- The answer to a namespace and perhaps a path. Only a text names a namespace. -/
def Policy.loadWith (p : Policy) (arguments : List Json) : Except Misfit Json :=
  match arguments with
  | [.str namespace_] | [.str namespace_, _] => .ok (p.load namespace_)
  | [_] | [_, _] => .ok .null
  | arguments => .error (.wrongCount arguments.length)

/-- What the bundler is told about the policy when a build starts. -/
def Policy.filters (p : Policy) : Json :=
  .obj [("name", .str policyName), ("resolveFilter", .str ".*"),
    ("loadNamespace", .str p.rules.stubNamespace)]

theorem resolve_host {p : Policy} {t : Tree} {r : Request} (h : p.rules.isHost r.path = true) :
    p.resolve t r = .ok (.stubbed p.rules.stubPath p.rules.stubNamespace) := by
  simp [Policy.resolve, h]

end BundleForge.Resolution
