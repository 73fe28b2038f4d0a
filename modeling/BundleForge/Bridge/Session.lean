import BundleForge.Action
import BundleForge.Bridge.Fault
import BundleForge.Bridge.Options

/-!
One conversation with the bundler for one target. It starts with a request to build; then the items
that the bundler writes are taken one by one, each look-up and each load answered before the next
item is read. The first part ends with the result; a listener goes on until the bundler is done.
-/

namespace BundleForge.Bridge

/-- What a read gives: a line, a failure of the read itself, or bytes that are no text. -/
inductive Item
  | line (text : String)
  | broken (text : String)
  | unreadable (text : String)
  | undecodable (refusal : Text.Utf8.Refusal)
deriving DecidableEq, Repr

/-- What a build came to. -/
structure Outcome where
  metafile : Json
  emitted : List String
  warnings : List Json
deriving Repr

/-- What a conversation is held with: the label it prints, the level of the console, the policy that
decides imports in a file tree, and what is done after a rebuild. -/
structure Session where
  label : String
  level : Level
  policy : Option Resolution.Policy
  onRebuild : Rebuild → List Event
  tree : Tree

/-- What changes in a conversation: the items still to come, how many more writes will succeed
(all, where no number is given) and what the others fail with, and whether the bundler reported an error
of its own. -/
structure Wire where
  unread : List Item
  writesLeft : Option Nat := none
  writeFault : SystemFault := .refused .brokenPipe none
  reported : Bool := false
deriving DecidableEq, Repr

/-- A step of a conversation. -/
abbrev Step (α : Type) := Action Fault Wire α

def misfits {α : Type} (x : Except Misfit α) : Step α :=
  .ofExcept (match x with
    | .ok a => .ok a
    | .error fault => .error (.misfit fault))

/-- Writes one message. A write that fails leaves nothing behind. -/
def send (message : Json) : Step Unit := fun w =>
  match w.writesLeft with
  | some 0 => ⟨.error (.system w.writeFault), w, []⟩
  | some (n + 1) => ⟨.ok (), { w with writesLeft := some n }, [.sent message]⟩
  | none => ⟨.ok (), w, [.sent message]⟩

def setReported : Step Unit := fun w => ⟨.ok (), { w with reported := true }, []⟩

/-- Reads one item; the others are those from now on. -/
def advance (unread : List Item) : Step Unit := fun w => ⟨.ok (), { w with unread }, [.read]⟩

namespace Session

/-- A console line of this conversation. -/
def say (s : Session) (severity : Severity) (text : String) : Step Unit :=
  .emit (s.level.log severity ("[" ++ s.label ++ "]: " ++ text))

def buildMessage (s : Session) (o : Options) : Json := .obj [
  ("type", .str "build"), ("options", o.toBundler),
  ("plugin", (s.policy.map Resolution.Policy.filters).getD .null), ("watch", .bool o.watch)]

def idOf (message : List (String × Json)) : Json := (message.lookup "id").getD .null

/-- The reply to a look-up: the decision, or the text that explains why there is none. -/
def resolvedMessage (id result : Json) (error : Option String) : Json :=
  .obj ([("type", .str "resolved"), ("id", id), ("result", result)] ++
    (error.map fun text => [("error", .str text)]).getD [])

def loadedMessage (id result : Json) : Json :=
  .obj [("type", .str "loaded"), ("id", id), ("result", result)]

/-- Answers a look-up. Without a policy everything is left to the bundler. -/
def answerResolve (s : Session) (message : List (String × Json)) : Step Unit :=
  match s.policy with
  | none => send (resolvedMessage (idOf message) .null none)
  | some policy =>
    let request := Resolution.Request.ofMembers message
    match policy.resolve s.tree request with
    | .ok decision => do
      s.say .debug (request.path ++ " -> " ++ decision.word)
      send (resolvedMessage (idOf message) decision.toHook none)
    | .error (.unresolved text) => send (resolvedMessage (idOf message) .null (some text))
    | .error (.misfit fault) => .fail (.misfit fault)
    | .error (.name fault) => .fail (.name fault)
    | .error (.system fault) => .fail (.system fault)

/-- Answers a request for the contents of a module. -/
def answerLoad (s : Session) (message : List (String × Json)) : Step Unit :=
  let result :=
    match s.policy with
    | none => .null
    | some policy => policy.load ((message.lookup "namespace").getD (.str "")).text
  send (loadedMessage (idOf message) result)

def rebuildOf (message : List (String × Json)) : Except Misfit Rebuild := do
  let errors ← listMember "errors" message
  let warnings ← listMember "warnings" message
  return { errors, warnings }

/-- The files that a result names, or else the outputs of its metafile. -/
def emittedBy (message : List (String × Json)) (metafile : Json) : Except Misfit (List String) :=
  match (message.lookup "outputFiles").filter fun j => j.kind != .null with
  | some files => (files.iterate).map fun items => items.map Json.text
  | none => do
    match ← metafile.getPresent "outputs" with
    | none => return []
    | some (.obj outputs) => return outputs.map Prod.fst
    | some outputs => throw (.noMember outputs.kind.name "keys")

def outcomeOf (message : List (String × Json)) : Except Misfit Outcome := do
  let metafile := ((message.lookup "metafile").bind Json.present?).getD (.obj [])
  let emitted ← emittedBy message metafile
  let warnings ← listMember "warnings" message
  return { metafile, emitted, warnings }

/-- The error that the bundler reports, with its details on the lines below. -/
def errorOf (message : List (String × Json)) : Except Misfit Fault := do
  let errors ← listMember "errors" message
  let details ← errorsText errors
  let text := (((message.lookup "message").bind Json.present?).getD (.str "Build failed")).text
  return .bundler (if details = "" then text else text ++ "\n" ++ details) errors

/-- Deals with one message. Only a result has an outcome. -/
def handle (s : Session) (message : List (String × Json)) (kind : Json) : Step (Option Outcome) :=
  match kind with
  | .str "resolve" => do
    s.answerResolve message
    return none
  | .str "load" => do
    s.answerLoad message
    return none
  | .str "rebuild" => do
    let rebuild ← misfits (rebuildOf message)
    .emit (s.onRebuild rebuild)
    return none
  | .str "result" => do
    let outcome ← misfits (outcomeOf message)
    return some outcome
  | .str "error" => do
    setReported
    let fault ← misfits (errorOf message)
    .fail fault
  | kind => do
    s.say .debug ("Ignoring bridge message of type '" ++ kind.text ++ "'")
    return none

/-- Takes one item. -/
def take (s : Session) (item : Item) : Step (Option Outcome) :=
  match item with
  | .broken text => .fail (.system (.reported text))
  | .unreadable text => .fail (.reading text)
  | .undecodable refusal => .fail (.undecodable refusal)
  | .line text =>
    match readMessage text with
    | .ok (message, kind) => s.handle message kind
    | .error fault => .fail (.ofLine fault)

/-- Takes items up to the first result. -/
def awaitResult (s : Session) : List Item → Step Outcome
  | [] => .fail (.bundler "Bundling engine exited before reporting a result" [])
  | item :: rest => do
    advance rest
    match ← s.take item with
    | some outcome => return outcome
    | none => awaitResult s rest

/-- Asks for a build and waits for its result. -/
def start (s : Session) (o : Options) : Step Outcome := do
  send (s.buildMessage o)
  let w ← .state
  s.awaitResult w.unread

/-- Takes one item as a listener: whether it goes on after it. -/
def hear (s : Session) (item : Item) : Step Bool := do
  match ← .attempt (s.take item) with
  | .ok _ => return true
  | .error fault =>
    match fault.course with
    | .goesOn => do
      s.say .error ("Watch session error: " ++ fault.message)
      return true
    | .ends => do
      s.say .error ("Watch session closed: " ++ fault.message)
      return false
    | .lost => .fail fault

/-- Takes items until there are no more, or until one of them ends the listening. -/
def listenTo (s : Session) : List Item → Step Unit
  | [] => pure ()
  | item :: rest => do
    advance rest
    if ← s.hear item then listenTo s rest

/-- Listens to all that is still to come. -/
def listen (s : Session) : Step Unit := do
  let w ← .state
  s.listenTo w.unread

end Session
end BundleForge.Bridge
