import BundleForge.Command
import Mathlib

/-!
Commands read back from how they are shown. Main statement: different commands are shown as different texts, and a
failure message shows the command that failed in that way, so that no two failures that differ are told alike.
-/

namespace BundleForge

namespace Text

/-- What the characters of a line stand for: outside of marks, between apostrophes or between double quotes. -/
inductive Quoting
  | bare
  | single
  | double

/-- Puts characters in front of the first of the words that were read. -/
def led (cs : List Char) (read : List (List Char) × List Char) : List (List Char) × List Char :=
  read.map (List.modifyHead (cs ++ ·)) id

/-- Reads the rest of a word and the words after it, each behind one blank. What no word can go on with is left. -/
def readOn : Quoting → List Char → List (List Char) × List Char
  | _, [] => ([[]], [])
  | .bare, c :: cs =>
    if isShellSafe c then led [c] (readOn .bare cs)
    else if c = ' ' then (readOn .bare cs).map ([] :: ·) id
    else if c = apostrophe then readOn .single cs
    else if c = doubleQuote then readOn .double cs
    else ([[]], c :: cs)
  | .single, c :: cs => if c = apostrophe then readOn .bare cs else led [c] (readOn .single cs)
  | .double, c :: cs => if c = doubleQuote then readOn .bare cs else led [c] (readOn .double cs)

/-- Whether a word can start with a character. -/
def startsWord (c : Char) : Bool := isShellSafe c || c == apostrophe || c == doubleQuote

/-- The words at the start of a line, with what follows them. -/
def readWords (cs : List Char) : List (List Char) × List Char :=
  if cs.head?.any startsWord then readOn .bare cs else ([], cs)

/-- Nothing in a text belongs to a word that ends before it, or to another word. -/
def EndsWords (cs : List Char) : Prop := ∀ c ∈ cs.head?, startsWord c = false ∧ c ≠ ' '

variable {cs rest : List Char}

theorem led_led (cs cs' : List Char) (read : List (List Char) × List Char) :
    led cs (led cs' read) = led (cs ++ cs') read := by
  obtain ⟨words, rest⟩ := read
  cases words <;> simp [led]

theorem led_nil (read : List (List Char) × List Char) : led [] read = read := by
  obtain ⟨words, rest⟩ := read
  cases words <;> simp [led]

theorem readOn_safe (safe : cs.all isShellSafe = true) (rest : List Char) :
    readOn .bare (cs ++ rest) = led cs (readOn .bare rest) := by
  induction cs with
  | nil => exact (led_nil _).symm
  | cons c cs ih =>
    rw [List.all_cons, Bool.and_eq_true] at safe
    rw [List.cons_append, readOn, if_pos safe.1, ih safe.2, led_led, List.singleton_append]

/-- An apostrophe that was taken out of the marks is read as itself, and the marks go on behind it. -/
theorem readOn_shellEscape (c : Char) (rest : List Char) :
    readOn .single (shellEscape c ++ rest) = led [c] (readOn .single rest) := by
  by_cases mark : c = apostrophe
  · subst mark
    rfl
  · rw [shellEscape, if_neg mark, List.singleton_append, readOn, if_neg mark]

theorem readOn_single (cs rest : List Char) :
    readOn .single (cs.flatMap shellEscape ++ apostrophe :: rest) = led cs (readOn .bare rest) := by
  induction cs with
  | nil => exact (led_nil _).symm
  | cons c cs ih =>
    rw [List.flatMap_cons, List.append_assoc, readOn_shellEscape, ih, led_led, List.singleton_append]

/-- A word that is written is read as itself. -/
theorem readOn_shellQuoteChars (word rest : List Char) :
    readOn .bare (shellQuoteChars word ++ rest) = led word (readOn .bare rest) := by
  unfold shellQuoteChars
  split
  · rename_i empty
    obtain rfl := List.isEmpty_iff.mp empty
    exact (led_nil _).symm
  split
  · exact readOn_safe ‹_› rest
  · rw [List.cons_append, List.append_assoc, List.singleton_append]
    exact readOn_single word rest

theorem readOn_of_endsWords (ends : EndsWords rest) : readOn .bare rest = ([[]], rest) := by
  cases rest with
  | nil => rfl
  | cons c cs =>
    obtain ⟨outside, blank⟩ := ends c rfl
    simp only [startsWord, Bool.or_eq_false_iff, beq_eq_false_iff_ne] at outside
    obtain ⟨⟨quoted, single⟩, double⟩ := outside
    rw [readOn, if_neg (Bool.eq_false_iff.mp quoted), if_neg blank, if_neg single, if_neg double]

/-- Words as they are typed, with blanks between them. -/
def writeWords (words : List (List Char)) : List Char := [' '].intercalate (words.map shellQuoteChars)

theorem writeWords_cons_cons (word next : List Char) (words : List (List Char)) :
    writeWords (word :: next :: words) = shellQuoteChars word ++ ' ' :: writeWords (next :: words) := by
  simp [writeWords, List.intercalate_cons_cons]

/-- A line is read word by word, since the blank behind a written word stands outside of its marks. -/
theorem readOn_writeWords (word : List Char) (words : List (List Char)) (ends : EndsWords rest) :
    readOn .bare (writeWords (word :: words) ++ rest) = (word :: words, rest) := by
  induction words generalizing word with
  | nil =>
    rw [writeWords, List.map_singleton, List.intercalate_singleton, readOn_shellQuoteChars,
      readOn_of_endsWords ends]
    simp [led]
  | cons next words ih =>
    rw [writeWords_cons_cons, List.append_assoc, readOn_shellQuoteChars, List.cons_append, readOn,
      if_neg (by decide), if_pos rfl, ih next]
    simp [led]

theorem startsWord_of_shellQuoteChars (word : List Char) :
    ∃ c cs, shellQuoteChars word = c :: cs ∧ startsWord c = true := by
  unfold shellQuoteChars
  split
  · exact ⟨_, _, rfl, rfl⟩
  split
  · obtain ⟨c, cs, rfl⟩ := List.exists_cons_of_ne_nil (List.isEmpty_eq_false_iff.mp (Bool.eq_false_iff.mpr ‹_›))
    rename_i safe
    rw [List.all_cons, Bool.and_eq_true] at safe
    exact ⟨c, cs, rfl, by simp [startsWord, safe.1]⟩
  · exact ⟨_, _, rfl, rfl⟩

theorem exists_cons_writeWords (word : List Char) (words : List (List Char)) :
    ∃ c cs, writeWords (word :: words) = c :: cs ∧ startsWord c = true := by
  obtain ⟨c, cs, written, starts⟩ := startsWord_of_shellQuoteChars word
  cases words with
  | nil => exact ⟨c, cs, by simp [writeWords, written], starts⟩
  | cons next words => exact ⟨c, _, by rw [writeWords_cons_cons, written]; rfl, starts⟩

/-- The words of a line are read back, whatever follows that is no part of them. -/
theorem readWords_writeWords (words : List (List Char)) (ends : EndsWords rest) :
    readWords (writeWords words ++ rest) = (words, rest) := by
  cases words with
  | nil =>
    have outside : rest.head?.any startsWord = false := by
      rw [Option.any_eq_false]
      exact fun c first => by simp [(ends c first).1]
    rw [writeWords, List.map_nil, List.intercalate_nil, List.nil_append, readWords, outside]
    rfl
  | cons word words =>
    obtain ⟨c, cs, written, starts⟩ := exists_cons_writeWords word words
    have inside : (writeWords (word :: words) ++ rest).head?.any startsWord = true := by simp [written, starts]
    rw [readWords, if_pos inside, readOn_writeWords word words ends]

end Text

theorem toList_commandLine (command : List String) :
    (commandLine command).toList = Text.writeWords (command.map String.toList) := by
  rw [commandLine, String.toList_intercalate, Text.writeWords, List.map_map, List.map_map]
  simp [Function.comp_def, Text.shellQuote]

/-- The command that a line shows. -/
def readCommand (line : String) : List String := (Text.readWords line.toList).1.map String.ofList

theorem readCommand_commandLine : Function.LeftInverse readCommand commandLine := by
  intro command
  have read : Text.readWords (Text.writeWords (command.map String.toList) ++ []) = (command.map String.toList, []) :=
    Text.readWords_writeWords _ (by simp [Text.EndsWords])
  rw [List.append_nil] at read
  rw [readCommand, toList_commandLine, read, List.map_map]
  simp [Function.comp_def]

/-- What a failure message says after the command: what the command itself told, if it told anything. -/
def toldAfter (errors : String) : String :=
  if Text.trim errors = "" then "" else "\nstderr: " ++ Text.trim errors

theorem failureText_eq (code : String) (command : List String) (errors : String) :
    failureText code command errors =
      "Command failed with exit code " ++ (code ++ ": " ++ (commandLine command ++ toldAfter errors)) := by
  unfold failureText toldAfter
  dsimp only
  split <;> simp only [String.append_assoc, String.append_empty]

variable {command command' : List String} {errors errors' : String}

theorem endsWords_toldAfter (errors : String) : Text.EndsWords (toldAfter errors).toList := by
  unfold toldAfter
  split
  · simp [Text.EndsWords]
  · intro c first
    obtain rfl : '\n' = c := by simpa using first
    decide

theorem toldAfter_inj : toldAfter errors = toldAfter errors' ↔ Text.trim errors = Text.trim errors' := by
  refine ⟨fun same => ?_, fun same => by rw [toldAfter, toldAfter, same]⟩
  unfold toldAfter at same
  split at same <;> split at same
  case isTrue.isTrue silent silent' => rw [silent, silent']
  case isFalse.isFalse => exact (String.append_right_inj _).mp same
  all_goals simpa using congrArg String.toList same

/-- Where a command ends can be seen from what follows it in a message. -/
theorem commandLine_append_toldAfter_inj :
    commandLine command ++ toldAfter errors = commandLine command' ++ toldAfter errors' ↔
      command = command' ∧ toldAfter errors = toldAfter errors' := by
  refine ⟨fun same => ?_, fun ⟨same, same'⟩ => by rw [same, same']⟩
  have chars := congrArg (fun text : String => Text.readWords text.toList) same
  simp only [String.toList_append, toList_commandLine,
    Text.readWords_writeWords _ (endsWords_toldAfter _), Prod.mk.injEq] at chars
  exact ⟨List.map_injective_iff.mpr (fun _ _ => String.toList_inj.mp) chars.1, String.toList_inj.mp chars.2⟩

theorem colon_notMem_toString (code : Int) : ':' ∉ (toString code).toList := by
  have digits (n : Nat) : ':' ∉ n.repr.toList := by
    intro colon
    rw [Nat.toList_repr] at colon
    exact absurd (Nat.isDigit_of_mem_toDigits (by omega) (by omega) colon) (by decide)
  rw [Int.toString_eq_repr, Int.repr_eq_if]
  split
  · exact digits _
  · rw [String.toList_append, List.mem_append, not_or]
    exact ⟨by decide, digits _⟩

/-- What stands before the first colon of two equal texts is the same. -/
theorem append_colon_inj {front front' rest rest' : String} (plain : ':' ∉ front.toList)
    (plain' : ':' ∉ front'.toList) :
    front ++ ": " ++ rest = front' ++ ": " ++ rest' ↔ front = front' ∧ rest = rest' := by
  refine ⟨fun same => ?_, fun ⟨same, same'⟩ => by rw [same, same']⟩
  have before {cs : List Char} (plain : ':' ∉ cs) : ∀ c ∈ cs, (c != ':') = true :=
    fun c among => bne_iff_ne.mpr fun colon => plain (colon ▸ among)
  have chars : front.toList ++ ':' :: ' ' :: rest.toList = front'.toList ++ ':' :: ' ' :: rest'.toList := by
    simpa using congrArg String.toList same
  have fronts := congrArg (List.takeWhile (· != ':')) chars
  have rests := congrArg (List.dropWhile (· != ':')) chars
  rw [List.takeWhile_append_of_pos (before plain), List.takeWhile_append_of_pos (before plain')] at fronts
  rw [List.dropWhile_append_of_pos (before plain), List.dropWhile_append_of_pos (before plain')] at rests
  exact ⟨String.toList_inj.mp (by simpa using fronts), String.toList_inj.mp (by simpa using rests)⟩

/-- Two commands are shown alike only if they are the same word by word. A failure message shows its command in this
way, and two messages are the same only if they tell of the same command, exit code and errors. -/
theorem commands_unambiguous :
    Function.Injective commandLine ∧
    (∀ r : CommandResult, r.failure = "Command failed with exit code " ++
      (toString r.code ++ ": " ++ (commandLine r.command ++ toldAfter r.errors))) ∧
    ∀ r r' : CommandResult, r.failure = r'.failure ↔
      r.code = r'.code ∧ r.command = r'.command ∧ Text.trim r.errors = Text.trim r'.errors := by
  refine ⟨readCommand_commandLine.injective, fun r => failureText_eq .., fun r r' => ?_⟩
  have codes : toString r.code = toString r'.code ↔ r.code = r'.code := ⟨Int.repr_injective, congrArg toString⟩
  rw [CommandResult.failure, CommandResult.failure, failureText_eq, failureText_eq, String.append_right_inj,
    append_colon_inj (colon_notMem_toString _) (colon_notMem_toString _), commandLine_append_toldAfter_inj,
    toldAfter_inj, codes]

example : commandLine ["sh", "-c", "it's\n", "", "é"] =
    "sh -c 'it'\"'\"'s\n' '' 'é'" := by
  decide +kernel

end BundleForge
