import BundleForge.Bridge.Engine
import BundleForge.Json.Writer
import BundleForge.Shell.Program

/-!
A bundler that is a program of the shell. What it prints depends on what it is told, and what it is
told on what it printed before. A program does the same whenever it reads the same, so the
conversation is found by starting it again with all that it was told so far, until it has nothing
new to ask.
-/

namespace BundleForge.Shell

open Bridge

/-- How many bytes are taken at a time from what was printed in one piece. -/
def pieceSize : Nat := 8192

/-- The bytes at the end of some bytes that may be the start of a character, and what is wrong in front of
them, if anything is. -/
def undecided (bytes : List UInt8) : Except Text.Utf8.Refusal (String × List UInt8) :=
  match Text.Utf8.decode bytes with
  | .ok text => .ok (text, [])
  | .error refusal =>
    if refusal.reason = .cutOff then
      match Text.Utf8.decode (bytes.take refusal.position) with
      | .ok text => .ok (text, bytes.drop refusal.position)
      | .error refusal => .error refusal
    else .error refusal

/-- What is printed, as it is taken: the text so far, the bytes of a character that is not complete yet,
and what is wrong, if anything is. -/
structure Taken where
  texts : List String := []
  pending : List UInt8 := []
  refusal : Option Text.Utf8.Refusal := none

namespace Taken

/-- Takes one more piece. -/
def add (t : Taken) (piece : List UInt8) : Taken :=
  if t.refusal.isSome then t
  else match undecided (t.pending ++ piece) with
    | .ok (text, pending) => { t with texts := text :: t.texts, pending }
    | .error refusal => { t with refusal := some refusal }

/-- The end of what is printed. A character that is not complete is wrong there. -/
def finish (t : Taken) : Taken :=
  if t.refusal.isSome then t
  else match Text.Utf8.decode t.pending with
    | .ok _ => t
    | .error refusal => { t with refusal := some refusal }

def text (t : Taken) : String := String.join t.texts.reverse

end Taken

/-- Pieces that are not longer than those that are taken at a time. -/
def smallPieces (pieces : List (List UInt8)) : List (List UInt8) := pieces.flatMap fun piece =>
  (List.range ((piece.length + pieceSize - 1) / pieceSize)).map fun i =>
    (piece.drop (i * pieceSize)).take pieceSize

/-- The lines of a text with line feeds at their ends, which the last one may lack. -/
def linesWithEnds (text : String) : List String :=
  let pieces := Text.pieces '\n' text
  (pieces.dropLast.map (· ++ "\n")) ++ pieces.getLast?.toList.filter (· ≠ "")

/-- What is printed, as lines. Every line end counts, and the last line needs none, unless what follows it
cannot be read; nothing of a piece with a fault is read. -/
def itemsOf (pieces : List (List UInt8)) (ended : Bool) : List Item :=
  let t := (smallPieces pieces).foldl Taken.add {}
  let t := if ended then t.finish else t
  let lines := linesWithEnds (Text.unifyNewlines t.text)
  match t.refusal with
  | none => lines.map .line
  | some refusal =>
    (lines.filter fun line => line.toList.getLast? = some '\n').map .line ++ [.undecodable refusal]

/-- What is written to the bundler, a line for each message. -/
def inputOf (messages : List Json) : List UInt8 :=
  Text.Utf8.encode (String.join (messages.map fun m => m.write ++ "\n"))

def sentBy (events : List Event) : List Json := events.filterMap fun
  | .sent message => some message
  | _ => none

/-- A bundler that is started by the shell in a file tree. -/
structure Dialogue where
  engine : Engine
  job : Bridge.Job
  tree : Tree

namespace Dialogue

/-- What the bundler does when it is told some messages, and then no more or perhaps more. -/
def told (d : Dialogue) (messages : List Json) (open_ : Bool) : Except LaunchFault Launched :=
  launch d.tree d.engine.cwd (inputOf messages) open_ d.engine.command

/-- What is written when the bundler has printed something. -/
def answers (d : Dialogue) (launched : Launched) : List Json :=
  let session : Session := {
    label := d.job.label, level := d.engine.level, policy := d.job.policy
    onRebuild := d.job.onRebuild, tree := launched.tree }
  sentBy ((session.start d.job.options).run { unread := itemsOf launched.output launched.course.isOver }).events

/-- The messages of the whole conversation. -/
def settle (d : Dialogue) : Nat → List Json → List Json
  | 0, messages => messages
  | rounds + 1, messages =>
    match d.told messages true with
    | .error _ => messages
    | .ok launched =>
      let messages' := d.answers launched
      if messages'.length ≤ messages.length then messages' else d.settle rounds messages'

/-- The most rounds of a conversation. -/
def roundLimit : Nat := 1000

/-- How a bundler that was heard to its pause behaves, and how it ends when it is told no more. -/
def scriptOf (heard last : Launched) : Script where
  items := itemsOf heard.output heard.course.isOver
  exitCode := match last.course with
    | .ended code => code
    | _ => 0
  hasEnded := match heard.course with
    | .ended _ => true
    | _ => false
  hangs := match last.course with
    | .ended _ => false
    | _ => true

/-- A start that fails, as the system's answer. -/
def startFault : LaunchFault → SystemFault
  | .refused cause => .refused cause none
  | .noProgram => .refused .missing none
  | .nullInText => .reported "embedded null byte"

/-- Runs one build with this bundler, and closes the engine. A bundler that is told to end leaves the
files as they were at its pause. -/
def build (d : Dialogue) : Done Fault Running Outcome :=
  let messages := d.settle roundLimit []
  match d.told messages true, d.told messages false with
  | .ok heard, .ok last =>
    let done := (d.engine.build d.job).run { tree := heard.tree, scripts := [scriptOf heard last] }
    let closed := (Engine.close : Action Fault Running Unit).run done.state
    let events := done.events ++ closed.events
    let stopped := events.any fun
      | .terminated => true
      | _ => false
    let tree := if stopped then heard.tree else last.tree
    ⟨done.result, { closed.state with tree }, events⟩
  | .error fault, _ | _, .error fault =>
    (d.engine.build d.job).run { tree := d.tree, scripts := [{ startFault := some (startFault fault) }] }

end Dialogue
end BundleForge.Shell
