import BundleForge.Text.Quoted
import BundleForge.Text.Utf8

/-!
What the operating system answers when it refuses, with the number and wording it is known by.
-/

namespace BundleForge

/-- Why the system refuses. -/
inductive Refusal
  | missing
  | argumentsTooLong
  | noProgram
  | badStream
  | denied
  | notDirectory
  | isDirectory
  | noRoom
  | brokenPipe
  | nameTooLong
  | tooManyLinks
deriving DecidableEq, Repr

def Refusal.number : Refusal → Nat
  | .missing => 2
  | .argumentsTooLong => 7
  | .noProgram => 8
  | .badStream => 9
  | .denied => 13
  | .notDirectory => 20
  | .isDirectory => 21
  | .noRoom => 28
  | .brokenPipe => 32
  | .nameTooLong => 36
  | .tooManyLinks => 40

def Refusal.wording : Refusal → String
  | .missing => "No such file or directory"
  | .argumentsTooLong => "Argument list too long"
  | .noProgram => "Exec format error"
  | .badStream => "Bad file descriptor"
  | .denied => "Permission denied"
  | .notDirectory => "Not a directory"
  | .isDirectory => "Is a directory"
  | .noRoom => "No space left on device"
  | .brokenPipe => "Broken pipe"
  | .nameTooLong => "File name too long"
  | .tooManyLinks => "Too many levels of symbolic links"

/-- A refusal that only says that nothing is there. -/
def Refusal.isAbsence : Refusal → Bool
  | .missing | .notDirectory | .tooManyLinks => true
  | _ => false

/-- A failed system call: a refusal of its own, about a path or not, or a failure with a text. -/
inductive SystemFault
  | refused (cause : Refusal) (path : Option String)
  | reported (text : String)
deriving DecidableEq, Repr

def SystemFault.message : SystemFault → String
  | .refused cause path =>
    let text := "[Errno " ++ toString cause.number ++ "] " ++ cause.wording
    match path with
    | some path => text ++ ": " ++ Text.quote path
    | none => text
  | .reported text => text

/-- Why a file could not be read as text, or a path not be used at all. -/
inductive FileFault
  | system (fault : SystemFault)
  | undecodable (refusal : Text.Utf8.Refusal)
  | nullInPath
deriving DecidableEq, Repr

def FileFault.message : FileFault → String
  | .system fault => fault.message
  | .undecodable refusal => refusal.message
  | .nullInPath => "embedded null byte"

end BundleForge
