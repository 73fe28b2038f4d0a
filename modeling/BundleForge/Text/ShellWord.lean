import BundleForge.Text.Quoted

/-!
Command words as a shell reads them. A word of safe characters stands for itself; any other is put
between apostrophes, and an apostrophe inside it between double quotes of its own.
-/

namespace BundleForge.Text

/-- A character with no meaning to the shell: an ASCII letter, digit or underscore, or one of the
nine signs that file names and options are made of. -/
def isShellSafe (c : Char) : Bool :=
  c.isAlphanum || c == '_' || c == '@' || c == '%' || c == '+' || c == '=' || c == ':' || c == ','
    || c == '.' || c == '/' || c == '-'

/-- An apostrophe closes the quotation, stands between double quotes, and opens it again. -/
def shellEscape (c : Char) : List Char :=
  if c = apostrophe then [apostrophe, doubleQuote, apostrophe, doubleQuote, apostrophe] else [c]

def shellQuoteChars (cs : List Char) : List Char :=
  if cs.isEmpty then [apostrophe, apostrophe]
  else if cs.all isShellSafe then cs
  else apostrophe :: (cs.flatMap shellEscape ++ [apostrophe])

/-- One word as it is typed at a shell. -/
def shellQuote (s : String) : String := String.ofList (shellQuoteChars s.toList)

theorem shellQuoteChars_ne_nil (cs : List Char) : shellQuoteChars cs ≠ [] := by
  unfold shellQuoteChars
  split
  · simp
  · split
    · rename_i h _
      intro e
      simp [e] at h
    · simp

theorem shellQuoteChars_of_safe {cs : List Char} (h : cs ≠ []) (safe : cs.all isShellSafe = true) :
    shellQuoteChars cs = cs := by
  cases cs with
  | nil => exact absurd rfl h
  | cons c rest => simp only [shellQuoteChars, safe]; rfl

end BundleForge.Text
