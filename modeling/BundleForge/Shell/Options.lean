/-!
Options of commands: letters behind one dash, several at a time, and words behind two, of which as
much is enough as no other word starts with. They may stand between the other arguments, up to a
double dash. Main statement: arguments without a dash in front are all kept.
-/

namespace BundleForge.Shell

/-- The options that a command knows: letters, letters that take a value, letters that take one only
where it is written right behind them, and the letters that words stand for. -/
structure KnownOptions where
  plain : String
  valued : String := ""
  optional : String := ""
  words : List (String × Char) := []

/-- The options that a command was given, in order, and its other arguments. -/
structure Options where
  given : List (Char × String)
  others : List String
deriving DecidableEq, Repr

/-- What is wrong with an option. -/
inductive OptionFault
  | unknown (letter : Char)
  | unknownWord (word : String)
  | noValue (letter : Char)
  | noWordValue (word : String)
  | valueTooMany (word : String)
  | ambiguous (word : String) (possible : List String)
deriving DecidableEq, Repr

def OptionFault.message : OptionFault → String
  | .unknown letter => "invalid option -- '" ++ String.singleton letter ++ "'"
  | .unknownWord word => "unrecognized option '" ++ word ++ "'"
  | .noValue letter => "option requires an argument -- '" ++ String.singleton letter ++ "'"
  | .noWordValue word => "option '--" ++ word ++ "' requires an argument"
  | .valueTooMany word => "option '--" ++ word ++ "' doesn't allow an argument"
  | .ambiguous word possible =>
    "option '" ++ word ++ "' is ambiguous; possibilities:" ++
      String.join (possible.map fun w => " '--" ++ w ++ "'")

namespace Options

def has (o : Options) (letter : Char) : Bool := o.given.any (·.1 = letter)

/-- The values of an option, in order. -/
def values (o : Options) (letter : Char) : List String :=
  (o.given.filter (·.1 = letter)).map Prod.snd

def value? (o : Options) (letter : Char) : Option String := (o.values letter).getLast?

def add (letter : Char) (value : String) (o : Options) : Options :=
  { o with given := (letter, value) :: o.given }

def addOther (argument : String) (o : Options) : Options := { o with others := argument :: o.others }

/-- The options that the letters of one argument stand for, and a letter that still needs a value. -/
def ofLetters (k : KnownOptions) : List Char → Except OptionFault (List (Char × String) × Option Char)
  | [] => return ([], none)
  | c :: rest =>
    if k.plain.toList.contains c then do
      let (others, wanting) ← ofLetters k rest
      return ((c, "") :: others, wanting)
    else if k.valued.toList.contains c then
      if rest.isEmpty then return ([], some c) else return ([(c, String.ofList rest)], none)
    else if k.optional.toList.contains c then return ([(c, String.ofList rest)], none)
    else throw (.unknown c)

/-- Whether an argument is one or more options. -/
def isOption (a : String) : Bool := a.toList.head? = some '-' && a ≠ "-"

/-- The word that an argument stands for, and its letter. -/
def wordOf (k : KnownOptions) (argument written : String) : Except OptionFault (String × Char) :=
  match k.words.lookup written with
  | some letter => return (written, letter)
  | none =>
    match k.words.filter fun w => written.toList.isPrefixOf w.1.toList with
    | [] => throw (.unknownWord argument)
    | [found] => return found
    | found :: others =>
      if others.all fun w => w.2 = found.2 then return found
      else throw (.ambiguous argument ((found :: others).map Prod.fst))

/-- The word of an argument, its letter, and the value behind an equals sign. -/
def wordWithValue (k : KnownOptions) (argument : String) :
    Except OptionFault (String × Char × Option String) := do
  let written := (argument.toList.drop 2).takeWhile (· ≠ '=')
  let (word, letter) ← wordOf k argument (String.ofList written)
  let value? := match argument.toList.drop (written.length + 2) with
    | [] => none
    | _ :: value => some (String.ofList value)
  if value?.isSome && k.plain.toList.contains letter then throw (.valueTooMany word)
  return (word, letter, value?)

/-- The options and the other arguments. -/
def read (k : KnownOptions) : List String → Except OptionFault Options
  | [] => return ⟨[], []⟩
  | a :: rest =>
    if !isOption a then (addOther a) <$> read k rest
    else if a = "--" then return ⟨[], rest⟩
    else if ['-', '-'].isPrefixOf a.toList then
      match wordWithValue k a with
      | .error fault => throw fault
      | .ok (word, letter, value?) =>
        if k.valued.toList.contains letter && value?.isNone then
          match rest with
          | [] => throw (.noWordValue word)
          | value :: after => (add letter value) <$> read k after
        else (add letter (value?.getD "")) <$> read k rest
    else do
      let (given, wanting) ← ofLetters k (a.toList.drop 1)
      match rest with
      | [] =>
        match wanting with
        | none => return ⟨given, []⟩
        | some letter => throw (.noValue letter)
      | value :: after =>
        match wanting with
        | none => (fun o => { o with given := given ++ o.given }) <$> read k (value :: after)
        | some letter => (fun o => { o with given := given ++ (letter, value) :: o.given }) <$> read k after

theorem read_of_plain (k : KnownOptions) (arguments : List String)
    (h : ∀ a ∈ arguments, isOption a = false) : read k arguments = .ok ⟨[], arguments⟩ := by
  induction arguments with
  | nil => rfl
  | cons a rest ih =>
    have ha := h a List.mem_cons_self
    rw [read.eq_2, ha, ih fun b hb => h b (List.mem_cons_of_mem _ hb)]
    rfl

end Options
end BundleForge.Shell
