import BundleForge.Console
import BundleForge.Number.IntegerText
import BundleForge.Text.Quoted

/-!
Arguments of the command line. Each word is read for what it looks like; then the options take their
values from left to right, and words that nothing takes are refused at the end. A value that is
nothing but a separator gives its option no value.
-/

namespace BundleForge.CommandLine

inductive Opt
  | help
  | mode
  | watch
  | config
  | logLevel
deriving DecidableEq, Repr

/-- The ways in which an option is spelled. -/
def Opt.spellings : Opt → List String
  | .help => ["-h", "--help"]
  | .mode => ["--mode"]
  | .watch => ["--watch"]
  | .config => ["--config"]
  | .logLevel => ["--log-level"]

def Opt.all : List Opt := [.help, .mode, .watch, .config, .logLevel]

def Opt.name (o : Opt) : String := "/".intercalate o.spellings

def Opt.takesValue : Opt → Bool
  | .help | .watch => false
  | .mode | .config | .logLevel => true

def Opt.ofSpelling? (s : String) : Option Opt := Opt.all.find? fun o => o.spellings.contains s

inductive Mode
  | development
  | production
deriving DecidableEq, Repr

def Mode.name : Mode → String
  | .development => "development"
  | .production => "production"

def Mode.all : List Mode := [.development, .production]

/-- What the arguments say. -/
structure Arguments where
  mode : Option Mode := some .development
  watch : Bool := false
  config : Option String := none
  logLevel : Option Level := none
deriving DecidableEq, Repr

/-- Why there is nothing to be run: help was asked for, or an argument is wrong. -/
inductive Stop
  | help
  | noValue (option : Opt)
  | surplusValue (option : Opt) (value : String)
  | badChoice (option : Opt) (value : String) (choices : List String)
  | notTaken (words : List String)
deriving DecidableEq, Repr

/-- What a word looks like. Short options may stand together in one word. -/
inductive Word
  | option (o : Opt) (value : Option String)
  | shortHelp (tail : String)
  | stranger (text : String)
  | plain (text : String)
  | separator
deriving DecidableEq, Repr

def separatorText : String := "--"

/-- A number below zero: digits, with a point among or before them. A line end may follow. -/
def isNegativeNumber (s : String) : Bool :=
  let isDigit (c : Char) : Bool := (Number.digitValue? c).isSome
  match s.toList with
  | '-' :: rest =>
    let rest := if rest.getLast? = some '\n' then rest.dropLast else rest
    let whole := rest.takeWhile isDigit
    match rest.dropWhile isDigit with
    | [] => !whole.isEmpty
    | '.' :: fraction => !fraction.isEmpty && fraction.all isDigit
    | _ => false
  | _ => false

/-- The option and the value in a word with an equals sign. -/
def assignment? (s : String) : Option (Opt × String) :=
  match Text.cutAt '=' s.toList with
  | (before, some after) => (Opt.ofSpelling? (String.ofList before)).map (·, String.ofList after)
  | (_, none) => none

/-- What follows the short spelling of the option for help, in the same word. -/
def shortTail? (s : String) : Option String :=
  match s.toList with
  | '-' :: 'h' :: tail => some (String.ofList tail)
  | _ => none

/-- Reads one word. What starts with a hyphen is an option, known or not, unless it is a hyphen
alone, a negative number, or has a space in it. -/
def Word.ofText (s : String) : Word :=
  if s.toList.head? ≠ some '-' then .plain s
  else match Opt.ofSpelling? s with
    | some o => .option o none
    | none =>
      if s = "-" then .plain s
      else match assignment? s with
        | some (.help, value) => if shortTail? s = none then .option .help (some value) else .shortHelp value
        | some (o, value) => .option o (some value)
        | none =>
          match shortTail? s with
          | some tail => .shortHelp tail
          | none => if isNegativeNumber s || s.toList.contains ' ' then .plain s else .stranger s

/-- Reads all words. After a separator every word is plain. -/
def Word.ofTexts : List String → List Word
  | [] => []
  | s :: rest =>
    if s = separatorText then .separator :: rest.map .plain
    else Word.ofText s :: Word.ofTexts rest

def chosen {α : Type} (o : Opt) (choices : List α) (name : α → String) (value : String) :
    Except Stop α :=
  match choices.find? fun choice => name choice = value with
  | some choice => .ok choice
  | none => .error (.badChoice o value (choices.map name))

/-- The value that a text stands for; a separator stands for none. -/
def valueOf {α : Type} (read : String → Except Stop α) (value : String) : Except Stop (Option α) :=
  if value = separatorText then .ok none else (read value).map some

/-- Gives an option its value. -/
def Arguments.set (a : Arguments) (o : Opt) (value : String) : Except Stop Arguments :=
  match o with
  | .mode => do
    let mode ← valueOf (chosen .mode Mode.all Mode.name) value
    return { a with mode }
  | .logLevel => do
    let logLevel ← valueOf (chosen .logLevel Level.all Level.name) value
    return { a with logLevel }
  | .config => do
    let config ← valueOf .ok value
    return { a with config }
  | .help | .watch => .error (.surplusValue o value)

/-- The option for help with more behind it: further letters of the same kind are as good as one. -/
def helpStop (tail : String) : Stop :=
  match tail.toList.dropWhile (· == 'h') with
  | [] => if tail = "" then .surplusValue .help "" else .help
  | rest => .surplusValue .help (String.ofList rest)

/-- Takes words in turn. The words so far that nothing took are kept. -/
def readOn (a : Arguments) (left : List String) : List Word → Except Stop Arguments
  | [] => if left.isEmpty then .ok a else .error (.notTaken left)
  | .plain s :: rest | .stranger s :: rest => readOn a (left ++ [s]) rest
  | .separator :: rest => readOn a (left ++ [separatorText]) rest
  | .shortHelp tail :: _ => .error (helpStop tail)
  | .option .help none :: _ => .error .help
  | .option .watch none :: rest => readOn { a with watch := true } left rest
  | .option o (some value) :: rest =>
    match a.set o value with
    | .ok a => readOn a left rest
    | .error stop => .error stop
  | .option o none :: .plain value :: rest =>
    match a.set o value with
    | .ok a => readOn a left rest
    | .error stop => .error stop
  | .option o none :: _ => .error (.noValue o)

/-- What a list of arguments says. -/
def Arguments.ofTexts (words : List String) : Except Stop Arguments := readOn {} [] (Word.ofTexts words)

end BundleForge.CommandLine
