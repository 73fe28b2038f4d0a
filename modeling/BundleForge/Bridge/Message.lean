import BundleForge.Json.Access
import BundleForge.Json.Reader
import BundleForge.Text.Blank

/-!
Messages of the bundler: one Json object a line, with its type in it. Errors are shown with the
place they point at.
-/

namespace BundleForge.Bridge

/-- The start of an error's text where the error points at a file. -/
def placeText (members : List (String × Json)) (file : Json) : String :=
  file.text ++ ":" ++ ((members.lookup "line").getD (.int 0)).text ++ ":" ++
    ((members.lookup "column").getD (.int 0)).text ++ ": "

/-- One error as text. -/
def errorText (error : Json) : Except Misfit String :=
  match error with
  | .obj members =>
    let text := ((members.lookup "text").getD (.str "")).text
    match (members.lookup "location").bind Json.present? with
    | none => .ok text
    | some (.obj location) =>
      match (location.lookup "file").bind Json.present? with
      | none => .ok text
      | some file => .ok (placeText location file ++ text)
    | some location => .error (.noMember location.kind.name "get")
  | error => .ok error.text

/-- Errors as text, one under the other. -/
def errorsText (errors : List Json) : Except Misfit String :=
  (errors.mapM errorText).map fun lines => "\n".intercalate lines

/-- The errors in a value as text. -/
def messagesText (messages : Json) : Except Misfit String := messages.iterate >>= errorsText

/-- Why a line is no message. -/
inductive LineFault
  | malformed (line : String)
  | tooDeep
  | integer (fault : Number.IntegerFault)
deriving DecidableEq, Repr

/-- What is said of a line that is no message. -/
def malformedText (line : String) : String :=
  "Malformed message from bundling engine: " ++ Text.quote (Text.trim line)

/-- The members of the message in a line, and its type. -/
def readMessage (line : String) : Except LineFault (List (String × Json) × Json) :=
  match Json.read line with
  | .error .malformed => .error (.malformed line)
  | .error .tooDeep => .error .tooDeep
  | .error (.integer fault) => .error (.integer fault)
  | .ok (.obj members) =>
    match members.lookup "type" with
    | some kind => .ok (members, kind)
    | none => .error (.malformed line)
  | .ok _ => .error (.malformed line)

/-- The items of a list that a message may leave out. -/
def listMember (name : String) (members : List (String × Json)) : Except Misfit (List Json) :=
  match (members.lookup name).bind Json.present? with
  | some value => value.iterate
  | none => .ok []

end BundleForge.Bridge
