import BundleForge.Shell.Redirecting

/-!
What the builtin commands of a shell share: their options, the numbers in their arguments, and what they
print. Main statement: arguments without a dash in front are no options.
-/

namespace BundleForge.Shell

/-- A command that a shell carries out itself: it gives its status. -/
abbrev Builtin := List String → Run Nat

/-- A value between quotes that a shell reads back: apostrophes stand between double quotes. -/
def quotedValue (value : String) : String := String.ofList (quoted value.length value.toList)
where
  /-- Stretches without apostrophes, and stretches of them, in turn. -/
  quoted : Nat → List Char → List Char
    | 0, _ => ['\x27', '\x27']
    | fuel + 1, cs =>
      let plain := cs.takeWhile (· ≠ '\x27')
      let rest := cs.drop plain.length
      let marks := rest.takeWhile (· = '\x27')
      let after := rest.drop marks.length
      '\x27' :: plain ++ ['\x27'] ++ if marks.isEmpty then [] else
        '\x22' :: marks ++ ['\x22'] ++ if after.isEmpty then [] else quoted fuel after

namespace Run

/-- Prints octets. What cannot be printed is told, and makes the status bad. -/
def putBytes (bytes : List UInt8) (status : Nat) : Run Nat := do
  match ← write 1 bytes with
  | none => return status
  | some .broken => return status ||| 1
  | some _ => do
    warn ((← get).command ++ ": I/O error")
    return status ||| 1

def put (octets : String) (status : Nat := 0) : Run Nat := putBytes (Octets.toBytes octets) status

/-- The options in front of arguments, each with its value, and the other arguments. Behind a letter
that takes a value stands a colon. -/
def optionsOf (known : String) : List String → Run (List (Char × String) × List String)
  | [] => return ([], [])
  | a :: rest =>
    match a.toList with
    | '-' :: c :: cs =>
      if c = '-' && cs.isEmpty then return ([], rest)
      else do
        let (given, wanting) ← letters (c :: cs)
        match wanting, rest with
        | none, rest => do
          let (others, rest) ← optionsOf known rest
          return (given ++ others, rest)
        | some c, value :: rest => do
          let (others, rest) ← optionsOf known rest
          return (given ++ (c, value) :: others, rest)
        | some c, [] => fail ("No arg for -" ++ String.singleton c ++ " option")
    | _ => return ([], a :: rest)
where
  /-- The options that letters stand for, and one that still needs a value. -/
  letters : List Char → Run (List (Char × String) × Option Char)
    | [] => return ([], none)
    | c :: cs =>
      match known.toList.dropWhile (· ≠ c) with
      | _ :: ':' :: _ =>
        if cs.isEmpty then return ([], some c) else return ([(c, String.ofList cs)], none)
      | _ :: _ => do
        if c = ':' then fail "Illegal option -:"
        let (others, wanting) ← letters cs
        return ((c, "") :: others, wanting)
      | [] => fail ("Illegal option -" ++ String.singleton c)

theorem optionsOf_nil (known : String) : optionsOf known [] = pure ([], []) := rfl

/-- The number that an argument has to spell. -/
def number (s : String) : Run Nat := do
  match Numeral.argument? s with
  | some n => return n
  | none => fail ("Illegal number: " ++ s)

end Run
end BundleForge.Shell
