import BundleForge.Misfit
import BundleForge.Setting.Basic
import BundleForge.Target.Basic
import BundleForge.Text.Blank

/-!
Overriding fields of targets by name. Five fields can be overridden; each override replaces its
field by the normal form of the value given, whatever the field held before.
-/

namespace BundleForge

/-- The kind of a value, as messages about it call it. -/
def Setting.kindName : Setting → String
  | .null => "NoneType"
  | .bool _ => "bool"
  | .int _ => "int"
  | .real _ => "float"
  | .str _ | .halved _ => "str"
  | .bytes _ => "bytes"
  | .date _ => "datetime.date"
  | .clock _ => "datetime.time"
  | .moment _ => "datetime.datetime"
  | .list _ => "list"
  | .tuple _ => "tuple"
  | .set _ => "set"
  | .table _ => "dict"
  | .looped _ inside =>
    match inside () with
    | .table _ => "dict"
    | _ => "list"

/-- Why overrides are refused. -/
inductive OverrideFault
  | unknownTargets (names available : List String)
  | unknownKey (target key : String)
  | notBoolean (target key : String)
  | defineNotTable (target : String)
  | baselineEntry
  | baselineShape
  | nameNotText (kind : String)
  | namesUnordered (left right : String)
  | offsetsUnordered
  | dayAndMoment
  | number (fault : Number.IntegerFault)
  | misfit (fault : Misfit)
deriving DecidableEq, Repr

def OverrideFault.message : OverrideFault → String
  | .unknownTargets names available =>
    "Unknown target(s) in configuration: " ++ ", ".intercalate names ++ ". Available: " ++
      ", ".intercalate available
  | .unknownKey target key => "targets." ++ target ++ "." ++ key ++ " cannot be overridden"
  | .notBoolean target key => "targets." ++ target ++ "." ++ key ++ " must be a boolean"
  | .defineNotTable target => "targets." ++ target ++ ".define must be a table"
  | .baselineEntry => "runtime_baseline entries must be strings"
  | .baselineShape => "runtime_baseline must be a string or sequence of strings"
  | .nameNotText kind => "sequence item 0: expected str instance, " ++ kind ++ " found"
  | .namesUnordered left right =>
    "'<' not supported between instances of '" ++ left ++ "' and '" ++ right ++ "'"
  | .offsetsUnordered => "can't compare offset-naive and offset-aware datetimes"
  | .dayAndMoment => "can't compare datetime.datetime to datetime.date"
  | .number fault => fault.message
  | .misfit fault => fault.message

/-- Trimmed entries, the empty ones left out. -/
def trimmedEntries (entries : List String) : List String :=
  (entries.map Text.trim).filter (· ≠ "")

/-- The texts in a list of values, if all of them are text. -/
def Setting.texts? : List Setting → Option (List String)
  | [] => some []
  | .str s :: rest => (texts? rest).map (s :: ·)
  | .halved codes :: rest => (texts? rest).map ((Text.Spelled.halved codes).text :: ·)
  | _ :: _ => none

/-- The values of a sequence that is not text. -/
def Setting.items? (value : Setting) : Option (List Setting) :=
  match value.opened with
  | .list items | .tuple items => some items
  | .bytes content => some (content.map fun b => .int b.toNat)
  | _ => none

/-- The entries of a value that is a table. -/
def Setting.table? (value : Setting) : Option (List (Setting × Setting)) :=
  match value.opened with
  | .table entries => some entries
  | _ => none

/-- The runtimes that a value names: a text with commas between them, or a list of texts. -/
def baselineOf (value : Setting) : Except OverrideFault (List String) :=
  match value with
  | .str s => .ok (trimmedEntries (Text.pieces ',' s))
  | .halved codes => .ok (trimmedEntries (Text.pieces ',' (Text.Spelled.halved codes).text))
  | value =>
    match value.items? with
    | none => .error .baselineShape
    | some items =>
      match Setting.texts? items with
      | some texts => .ok (trimmedEntries texts)
      | none => .error .baselineEntry

def textOf (value : Setting) : Except OverrideFault String :=
  match value.text with
  | .ok s => .ok s
  | .error (.number fault) => .error (.number fault)
  | .error .tooDeep => .error (.misfit .tooDeep)

/-- The names and replacements that a table defines. -/
def definitions : List (Setting × Setting) → Except OverrideFault (List (String × String))
  | [] => .ok []
  | (key, value) :: rest => do
    let key ← textOf key
    let value ← textOf value
    let others ← definitions rest
    return (key, value) :: others

/-- A truth value, and nothing else. -/
def booleanOf (target key : String) : Setting → Except OverrideFault Bool
  | .bool b => .ok b
  | _ => .error (.notBoolean target key)

/-- The target with one field overridden. -/
def Target.override (t : Target) (key value : Setting) : Except OverrideFault Target :=
  match key with
  | .str "entry_module" => do
    let text ← textOf value
    return { t with entryModule := text }
  | .str "runtime_baseline" => do
    let entries ← baselineOf value
    return { t with baseline := entries }
  | .str "suppress_minify" => do
    let b ← booleanOf t.name "suppress_minify" value
    return { t with suppressMinify := b }
  | .str "suppress_harden" => do
    let b ← booleanOf t.name "suppress_harden" value
    return { t with suppressHarden := some b }
  | .str "define" =>
    match value.table? with
    | some entries => do
      let pairs ← definitions entries
      return { t with define := pairs }
    | none => .error (.defineNotTable t.name)
  | key => do
    let text ← textOf key
    throw (.unknownKey t.name text)

/-- The target with every entry of a table applied in turn. -/
def Target.withOverrides (t : Target) : List (Setting × Setting) → Except OverrideFault Target
  | [] => .ok t
  | (key, value) :: rest => do
    let t ← t.override key value
    t.withOverrides rest

/-- Texts in order of their characters, each once. -/
def sortedNames (names : List String) : List String :=
  names.eraseDups.mergeSort fun a b => a ≤ b

/-- A number for comparison: on which side of the finite ones it is, and its quotient. Not-a-number
is on no side. -/
def Binary64.position? : Binary64 → Option (Int × Int × Nat)
  | .nan _ => none
  | .infinite negative => some (if negative then -1 else 1, 0, 1)
  | .finite negative m e =>
    let (num, den) := magnitude m e
    some (0, if negative then -num else num, den)

/-- The position of a number; none for what is no number. -/
def Setting.position? : Setting → Option (Option (Int × Int × Nat))
  | .real x => some x.position?
  | value => value.integer?.map fun n => some (0, n, 1)

/-- Whether one name comes before another. Names of different kinds have no order. -/
def Setting.comesBefore (a b : Setting) : Except OverrideFault Bool :=
  match a, b with
  | .str s, .str t => .ok (s < t)
  | .bytes s, .bytes t => .ok (s.map UInt8.toNat < t.map UInt8.toNat)
  | .date d, .date e => .ok (d.number < e.number)
  | .moment m, .moment n =>
    if m.offset.isSome = n.offset.isSome then .ok (m.instant < n.instant) else .error .offsetsUnordered
  | .date _, .moment _ | .moment _, .date _ => .error .dayAndMoment
  | a, b =>
    match a.position?, b.position? with
    | some (some (i, m, c)), some (some (j, n, d)) => .ok (i < j || (i = j && m * d < n * c))
    | some _, some _ => .ok false
    | _, _ => .error (.namesUnordered a.kindName b.kindName)

/-- The one of two names that comes first. -/
def Setting.lesser (a b : Setting) : Except OverrideFault Setting := do
  return if ← b.comesBefore a then b else a

/-- The complaint about names that no target has. Names are put in order first, so the least of them
is the one that is found to be no text. -/
def unknownNames (unknown : List Setting) (known : List String) : OverrideFault :=
  match Setting.texts? unknown, unknown with
  | some names, _ => .unknownTargets (sortedNames names) (sortedNames known)
  | none, [] => .baselineShape
  | none, first :: rest =>
    match rest.foldlM Setting.lesser first with
    | .ok least => .nameNotText least.kindName
    | .error fault => fault

/-- Values, each once. -/
def distinct (values : List Setting) : List Setting :=
  (Entries.collect (values.map fun v => (v, ()))).map Prod.fst

/-- Values as names, if each of them can be one. -/
def asNames (values : List Setting) : Except OverrideFault (List Setting) :=
  match values.find? fun v => !v.isKey with
  | some v => .error (.misfit (.notKey v.kindName))
  | none => .ok (distinct values)

/-- The names under which overrides stand. -/
def namesIn (overrides : Setting) : Except OverrideFault (List Setting) :=
  match overrides.opened with
  | .table entries => .ok (entries.map Prod.fst)
  | .str s => .ok (distinct (s.toList.map fun c => .str (String.singleton c)))
  | .set items => .ok items
  | value =>
    match value.items? with
    | some items => asNames items
    | none => .error (.misfit (.notIterable value.kindName))

/-- The overrides under one name; none is as good as an empty table. -/
def overridesFor (overrides : Setting) (name : String) :
    Except OverrideFault (List (Setting × Setting)) :=
  match overrides.table? with
  | none => .error (.misfit (.noMember overrides.kindName "get"))
  | some entries =>
    match Setting.get? name entries with
    | none => .ok []
    | some value =>
      match value.table? with
      | some table => .ok table
      | none => .error (.misfit (.noMember value.kindName "items"))

def overrideEach (overrides : Setting) : List Target → Except OverrideFault (List Target)
  | [] => .ok []
  | t :: rest => do
    let table ← overridesFor overrides t.name
    let t ← t.withOverrides table
    let others ← overrideEach overrides rest
    return t :: others

/-- The targets, in order, with the overrides that stand under their names. -/
def applyOverrides (targets : List Target) (overrides : Setting) :
    Except OverrideFault (List Target) := do
  let names ← namesIn overrides
  let known := targets.map Target.name
  let unknown := names.filter fun key => !(known.any fun n => key == .str n)
  if unknown.isEmpty then overrideEach overrides targets else .error (unknownNames unknown known)

end BundleForge
