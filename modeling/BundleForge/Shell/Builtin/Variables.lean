import BundleForge.Shell.Builtin.Basic

/-!
The builtin commands that change variables, aliases, functions and options. Main statement: every letter
of an option has a word.
-/

namespace BundleForge.Shell

/-- The words for options, each with its letter; for some there is none. -/
def optionWords : List (String × Option Char) := [
  ("errexit", some 'e'), ("noglob", some 'f'), ("ignoreeof", some 'I'), ("interactive", some 'i'),
  ("monitor", some 'm'), ("noexec", some 'n'), ("stdin", some 's'), ("xtrace", some 'x'),
  ("verbose", some 'v'), ("vi", some 'V'), ("emacs", some 'E'), ("noclobber", some 'C'),
  ("allexport", some 'a'), ("notify", some 'b'), ("nounset", some 'u'), ("privileged", some 'p'),
  ("nolog", none), ("debug", none)]

/-- The letters of options. -/
def optionLetters : List Char := optionWords.filterMap Prod.snd

theorem exists_word_of_letter {c : Char} (h : c ∈ optionLetters) : ∃ w, (w, some c) ∈ optionWords := by
  obtain ⟨⟨w, l⟩, hm, hl⟩ := List.mem_filterMap.1 h
  exact ⟨w, hl ▸ hm⟩

namespace Run

/-- A name and a value, if a text has an equals sign in it. -/
def cutSetting (s : String) : String × Option String :=
  let (name, value) := Text.cutAt '=' s.toList
  (String.ofList name, value.map String.ofList)

/-- The name in front of an equals sign, which has to be one. -/
def settingName (s : String) : Run String := do
  let name := (cutSetting s).1
  if isName name then return name else fail (name ++ ": bad variable name")

/-- Changes a variable that may not be there yet. -/
def alter (name : String) (change : Variable → Variable) : Run Unit := modify fun s =>
  { s with toEnvironment := s.withVariable name (change ((s.variableNamed? name).getD ⟨none, false, false⟩)) }

/-- Shows variables as commands that set them, by name. -/
def showVariables (command : String) (shown : Variable → Bool) : Run Nat := do
  let s ← get
  let listed := (s.bindings.filter fun v => shown v.2).mergeSort fun a b => decide (a.1 ≤ b.1)
  put (String.join (listed.map fun (name, v) =>
    (if command = "" then "" else command ++ " ") ++ name ++
      v.value.elim "" (fun value => "=" ++ quotedValue value) ++ "\n"))

/-- Marks variables, which may be given values first, or shows those that are marked. -/
def declare (command : String) (mark : Variable → Variable) (marked : Variable → Bool) : Builtin :=
  fun arguments => do
    let (given, names) ← optionsOf "p" arguments
    if !given.isEmpty || names.isEmpty then showVariables command marked
    else
      for a in names do
        let (name, value) := cutSetting a
        match value with
        | some value => do
          let name ← settingName a
          assign name value
          alter name mark
        | none => do
          if !isName name then fail (name ++ ": bad variable name")
          alter name mark
      return 0

def export_ : Builtin := declare "export" (fun v => { v with exported := true }) Variable.exported

def readonly : Builtin := declare "readonly" (fun v => { v with fixed := true }) Variable.fixed

/-- Gives variables values that only hold up to the end of a function. -/
def local_ : Builtin := fun arguments => do
  if (← get).calls = 0 then fail "not in a function"
  for a in arguments do
    let (name, value) := cutSetting a
    if !isName name && a ≠ "-" then fail (name ++ ": bad variable name")
    let known := a = "-" || ((← get).variableNamed? name).isSome
    hide name
    match value with
    | some value => assign name value
    | none => unless known do alter name id
  return 0

/-- Forgets variables or functions. -/
def unset : Builtin := fun arguments => do
  let (given, names) ← optionsOf "vf" arguments
  let functions := given.getLast?.any fun o => o.1 = 'f'
  for name in names do
    if functions then modify fun s => { s with functions := Entries.drop name s.functions }
    else
      if !isName name then fail (name ++ ": bad variable name")
      forget name
  return 0

/-- Sets an option, or takes it back. -/
def setLetter (letter : Char) (on : Bool) : Run Unit := do
  if !optionLetters.contains letter then fail ("Illegal option -" ++ String.singleton letter)
  modify fun s => { s with manners := s.manners.set letter on }

/-- Sets the option of a word. -/
def setWord (word : String) (on : Bool) : Run Unit := do
  match optionWords.lookup word with
  | some (some letter) => setLetter letter on
  | some none => return ()
  | none => fail ("Illegal option -o " ++ word)

/-- Shows all options, in a table or as commands that set them. -/
def showOptions (table : Bool) : Run Unit := do
  let s ← get
  let isOn (letter : Option Char) : Bool := letter.elim (s.manners.letters = optionLetters) s.manners.has
  let line (word : String) (letter : Option Char) : String :=
    if table then Text.padRight word 16 ++ (if isOn letter then "on" else "off") ++ "\n"
    else "set " ++ (if isOn letter then "-o " else "+o ") ++ word ++ "\n"
  let _ ← put ((if table then "Current option settings\n" else "") ++
    String.join (optionWords.map fun (word, letter) => line word letter))

/-- Sets options as arguments say. Gives the script among the arguments of a shell, if one is among them,
and what is left, if anything but options was there. -/
def setOptions (ofShell : Bool) : Nat → List String → Run (Bool × Option (List String))
  | 0, rest => return (false, some rest)
  | _ + 1, [] => return (false, none)
  | fuel + 1, a :: rest => do
    match a.toList with
    | ['-'] => do
      unless ofShell do
        setLetter 'x' false
        setLetter 'v' false
      return (false, if rest.isEmpty then none else some rest)
    | ['-', '-'] => return (false, if ofShell && rest.isEmpty then none else some rest)
    | '-' :: cs => do
      let (script, words) ← letters true cs rest
      let (script', left) ← setOptions ofShell fuel words
      return (script || script', left)
    | '+' :: cs => do
      let (script, words) ← letters false cs rest
      let (script', left) ← setOptions ofShell fuel words
      return (script || script', left)
    | _ => return (false, some (a :: rest))
where
  /-- Sets the options of letters, and takes a word for each that needs one. -/
  letters (on : Bool) : List Char → List String → Run (Bool × List String)
    | [], words => return (false, words)
    | c :: cs, words => do
      if c = 'c' && ofShell then
        return (true, (← letters on cs words).2)
      else if c = 'l' && ofShell then letters on cs words
      else if c = 'o' then
        match words with
        | [] => do
          let manners := (← get).manners
          if ofShell then modify fun s => { s with manners := ⟨optionLetters⟩ }
          showOptions on
          modify fun s => { s with manners }
          letters on cs []
        | word :: words => do
          setWord word on
          letters on cs words
      else
        setLetter c on
        letters on cs words

/-- Sets options or the arguments of a shell, or shows variables. -/
def set_ : Builtin := fun arguments => do
  if arguments.isEmpty then showVariables "" fun v => v.value.isSome
  else
    let (_, left) ← setOptions false (arguments.length + 1) arguments
    match left with
    | some arguments => modify fun s => { s with arguments, optionPlace := (1, 0) }
    | none => return 0
    return 0

/-- Gives names to texts, or shows them. -/
def alias_ : Builtin := fun arguments => do
  let shown (name value : String) : String := name ++ "=" ++ quotedValue value ++ "\n"
  if arguments.isEmpty then
    put (String.join ((tabled 39 (← get).aliases).map fun (name, value) => shown name value))
  else
    let mut status := 0
    for a in arguments do
      let (name, value) := Text.cutAt '=' (a.toList.drop 1)
      let name := String.ofList (a.toList.take 1 ++ name)
      match value with
      | some value => modify fun s =>
        { s with aliases := Entries.put name (String.ofList value) s.aliases }
      | none =>
        match (← get).aliases.lookup a with
        | some value => status ← put (shown a value) status
        | none => do
          complainOctets ("alias: " ++ a ++ " not found\n")
          status := 1
    return status

def unalias : Builtin := fun arguments => do
  let (given, names) ← optionsOf "a" arguments
  if !given.isEmpty then
    modify fun s => { s with aliases := [] }
    return 0
  let mut status := 0
  for name in names do
    if ((← get).aliases.lookup name).isSome then
      modify fun s => { s with aliases := Entries.drop name s.aliases }
    else
      complainOctets ("unalias: " ++ name ++ " not found\n")
      status := 1
  return status

end Run
end BundleForge.Shell
