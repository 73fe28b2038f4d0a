import BundleForge.CommandLine.Arguments
import BundleForge.Proofs.Except
import BundleForge.Target.Flags

/-!
The mode flags of a command line that is accepted. Main statement: the flags that are picked out of the
words one by one are those that the arguments set, so no value of an option is ever taken for a flag.
-/

namespace BundleForge

namespace Text

theorem cutAt_eq_some {separator : Char} {cs before after : List Char}
    (h : cutAt separator cs = (before, some after)) : cs = before ++ separator :: after := by
  induction cs generalizing before with
  | nil => simp [cutAt] at h
  | cons c rest ih =>
    unfold cutAt at h
    split at h
    · rename_i same
      obtain ⟨rfl, rfl⟩ : [] = before ∧ rest = after := by simpa using h
      rw [same, List.nil_append]
    · generalize hr : cutAt separator rest = cut at h
      obtain ⟨front, back⟩ := cut
      obtain ⟨rfl, rfl⟩ : c :: front = before ∧ back = some after := by simpa using h
      rw [ih hr, List.cons_append]

theorem cutAt_append {separator : Char} {before : List Char} (h : separator ∉ before) (after : List Char) :
    cutAt separator (before ++ separator :: after) = (before, some after) := by
  induction before with
  | nil => simp [cutAt]
  | cons c rest ih =>
    have other : c ≠ separator := fun same => h (by simp [same])
    simp [cutAt, other, ih fun within => h (by simp [within])]

end Text

namespace ModeFlags

/-- The start of a word that gives the mode. -/
def modeStart : String := modeOption ++ "="

/-- A word that is read as a flag wherever it stands. -/
def IsFlag (word : String) : Prop :=
  word = watchOption ∨ word = modeOption ∨ modeStart.toList <+: word.toList

instance (word : String) : Decidable (IsFlag word) := inferInstanceAs (Decidable (_ ∨ _ ∨ _))

variable {flags : ModeFlags} {word value : String} {rest : List String}

/-- The letter after the hyphens tells flags from all other options. -/
theorem third_of_isFlag (h : IsFlag word) : word.toList[2]? = some 'w' ∨ word.toList[2]? = some 'm' := by
  rcases h with rfl | rfl | ⟨value, start⟩
  · exact .inl rfl
  · exact .inr rfl
  · rw [← start]
    exact .inr rfl

theorem after?_eq_some (h : word.toList = modeStart.toList ++ value.toList) :
    after? modeStart word = some value := by
  have cut : modeStart.length = modeStart.toList.length := String.length_toList.symm
  rw [after?, h, if_pos (by simp [List.isPrefixOf_iff_prefix]), cut, List.drop_left, String.ofList_toList]

theorem after?_eq_none (h : ¬ modeStart.toList <+: word.toList) : after? modeStart word = none := by
  rw [after?, if_neg (by simpa [List.isPrefixOf_iff_prefix] using h)]

theorem readOn_cons (flags : ModeFlags) (word : String) (rest : List String) :
    readOn flags (word :: rest) =
      if word = watchOption then readOn { flags with watch := true } rest
      else match after? modeStart word, rest with
        | some mode, rest => readOn { flags with production := mode = productionWord } rest
        | none, value :: rest =>
          if word = modeOption then readOn { flags with production := value = productionWord } (value :: rest)
          else readOn flags (value :: rest)
        | none, [] => flags := by
  have start : modeOption ++ "=" = modeStart := rfl
  rw [readOn.eq_def]
  dsimp only
  rw [start]
  split
  · rfl
  · cases after? modeStart word <;> cases rest <;> rfl

theorem readOn_watch : readOn flags (watchOption :: rest) = readOn { flags with watch := true } rest := by
  rw [readOn_cons, if_pos rfl]

theorem readOn_assignment (h : word.toList = modeStart.toList ++ value.toList) :
    readOn flags (word :: rest) = readOn { flags with production := value = productionWord } rest := by
  have other : word ≠ watchOption := by
    rintro rfl
    have start := congrArg (List.take 3) h
    simp [watchOption, modeStart, modeOption] at start
  rw [readOn_cons, if_neg other, after?_eq_some h]

theorem readOn_mode : readOn flags (modeOption :: value :: rest) =
    readOn { flags with production := value = productionWord } (value :: rest) := by
  have nothing : after? modeStart modeOption = none := by decide
  rw [readOn_cons, if_neg (by decide), nothing]
  exact if_pos rfl

/-- Any other word says nothing. -/
theorem readOn_other (h : ¬ IsFlag word) : readOn flags (word :: rest) = readOn flags rest := by
  obtain ⟨watch, mode, start⟩ : word ≠ watchOption ∧ word ≠ modeOption ∧
      ¬ modeStart.toList <+: word.toList := by simpa [IsFlag, not_or] using h
  rw [readOn_cons, if_neg watch, after?_eq_none start]
  cases rest with
  | nil => rfl
  | cons value rest => exact if_neg mode

end ModeFlags

namespace CommandLine

/-- The flags that arguments set. -/
def Arguments.flags (a : Arguments) : ModeFlags := ⟨a.mode = some .production, a.watch⟩

theorem mem_of_ofSpelling? {s : String} {o : Opt} (h : Opt.ofSpelling? s = some o) : s ∈ o.spellings := by
  simpa using List.find?_some h

theorem of_assignment? {s value : String} {o : Opt} (h : assignment? s = some (o, value)) :
    ∃ spelling ∈ o.spellings, s.toList = spelling.toList ++ '=' :: value.toList := by
  unfold assignment? at h
  split at h
  · rename_i before after cut
    obtain ⟨o', spelled, same⟩ := Option.map_eq_some_iff.mp h
    obtain ⟨rfl, rfl⟩ : o' = o ∧ String.ofList after = value := by simpa using same
    exact ⟨_, mem_of_ofSpelling? spelled, by simpa using Text.cutAt_eq_some cut⟩
  · cases h

theorem assignment?_mode {s value : String} (h : s.toList = ModeFlags.modeStart.toList ++ value.toList) :
    assignment? s = some (.mode, value) := by
  have cut : Text.cutAt '=' s.toList = ("--mode".toList, some value.toList) := by
    rw [h]
    have apart : '=' ∉ "--mode".toList := by decide
    exact Text.cutAt_append apart value.toList
  have spelled : Opt.ofSpelling? "--mode" = some .mode := by decide
  simp only [assignment?, cut, String.ofList_toList, spelled, Option.map_some]

theorem ofSpelling?_eq_none_of_not {s : String} (h : Opt.ofSpelling? s = none) :
    s ≠ ModeFlags.watchOption ∧ s ≠ ModeFlags.modeOption := by
  constructor <;> rintro rfl <;> exact absurd h (by decide)

/-- What a word is read as. A word that is taken as it stands is no flag. -/
inductive Reads (s : String) : Word → Prop
  | option {o : Opt} (spelled : s ∈ o.spellings) : Reads s (.option o none)
  | assignment {o : Opt} {spelling value : String} (spelled : spelling ∈ o.spellings)
      (parts : s.toList = spelling.toList ++ '=' :: value.toList) : Reads s (.option o (some value))
  | shortHelp (tail : String) : Reads s (.shortHelp tail)
  | stranger : Reads s (.stranger s)
  | plain (other : ¬ ModeFlags.IsFlag s) : Reads s (.plain s)

theorem not_isFlag {s : String} (unspelled : Opt.ofSpelling? s = none) (unassigned : assignment? s = none) :
    ¬ ModeFlags.IsFlag s := by
  obtain ⟨watch, mode⟩ := ofSpelling?_eq_none_of_not unspelled
  rintro (rfl | rfl | ⟨value, start⟩)
  · exact watch rfl
  · exact mode rfl
  · have spelled : s.toList = ModeFlags.modeStart.toList ++ (String.ofList value).toList := by
      simpa using start.symm
    have assigned := assignment?_mode spelled
    simp [unassigned] at assigned

theorem reads_ofText (s : String) : Reads s (Word.ofText s) := by
  unfold Word.ofText
  split
  · rename_i bare
    refine .plain ?_
    rintro (rfl | rfl | ⟨value, start⟩)
    · exact bare rfl
    · exact bare rfl
    · exact bare (by rw [← start]; rfl)
  cases spelled : Opt.ofSpelling? s with
  | some o => exact .option (mem_of_ofSpelling? spelled)
  | none =>
    dsimp only
    split
    · rename_i hyphen
      exact .plain (by rw [hyphen]; decide)
    cases assigned : assignment? s with
    | some assignment =>
      obtain ⟨o, value⟩ := assignment
      obtain ⟨spelling, hs, parts⟩ := of_assignment? assigned
      cases o <;> dsimp only
      · split
        · exact .assignment hs parts
        · exact .shortHelp value
      all_goals exact .assignment hs parts
    | none =>
      dsimp only
      cases shortTail? s with
      | some tail => exact .shortHelp tail
      | none =>
        dsimp only
        split
        · exact .plain (not_isFlag spelled assigned)
        · exact .stranger

/-- Arguments are accepted only when every word was taken. -/
theorem eq_nil_of_readOn {ws : List Word} {a a' : Arguments} {left : List String}
    (h : readOn a left ws = .ok a') : left = [] := by
  fun_induction readOn a left ws with
  | case1 a left none => exact List.isEmpty_iff.mp none
  | case3 a left s rest ih | case4 a left s rest ih => simpa using ih h
  | case5 a left rest ih => simpa using ih h
  | case8 a left rest ih => exact ih h
  | case9 a left o value rest a₁ set ih => exact ih h
  | case11 a left o value rest help watch a₁ set ih => exact ih h
  | case2 | case6 | case7 | case10 | case12 | case13 => cases h

theorem readOn_value {a : Arguments} {o : Opt} (help : o ≠ .help) (watch : o ≠ .watch) (value : String)
    (rest : List Word) :
    readOn a [] (.option o none :: .plain value :: rest) =
      match a.set o value with
      | .ok a₁ => readOn a₁ [] rest
      | .error stop => .error stop := by
  cases o <;> first | contradiction | rfl

/-- An option that needs a value is followed by a word that is taken as it stands. -/
theorem value_of_readOn {ws : List Word} {a a' : Arguments} {o : Opt} (help : o ≠ .help) (watch : o ≠ .watch)
    (h : readOn a [] (.option o none :: ws) = .ok a') :
    ∃ value rest a₁, ws = .plain value :: rest ∧ a.set o value = .ok a₁ ∧ readOn a₁ [] rest = .ok a' := by
  cases ws with
  | nil => cases o <;> contradiction
  | cons w rest =>
    cases w with
    | plain value =>
      rw [readOn_value help watch] at h
      split at h
      · exact ⟨value, rest, _, rfl, ‹_›, h⟩
      · cases h
    | _ => cases o <;> contradiction

/-- A word that is taken as it stands is no flag. -/
theorem of_plain {words : List String} {value : String} {rest : List Word}
    (h : Word.ofTexts words = .plain value :: rest) :
    ∃ words', words = value :: words' ∧ Word.ofTexts words' = rest ∧ ¬ ModeFlags.IsFlag value := by
  cases words with
  | nil => cases h
  | cons s words' =>
    unfold Word.ofTexts at h
    split at h
    · cases h
    · obtain ⟨first, others⟩ := List.cons.inj h
      have reads := reads_ofText s
      rw [first] at reads
      cases reads with
      | plain other => exact ⟨words', rfl, others, other⟩

/-- A text that stands for a mode is its name, and the separator stands for none. -/
theorem mode_of_valueOf {value : String} {mode : Option Mode}
    (h : valueOf (chosen .mode Mode.all Mode.name) value = .ok mode) :
    mode = some .production ↔ value = ModeFlags.productionWord := by
  unfold valueOf at h
  split at h
  · rename_i separator
    obtain rfl := Except.ok.inj h
    rw [separator]
    decide
  · obtain ⟨m, read, rfl⟩ := map_eq_ok.mp h
    unfold chosen at read
    split at read
    · rename_i choice found
      obtain rfl := Except.ok.inj read
      have name : choice.name = value := by simpa using List.find?_some found
      rw [← name]
      cases choice <;> decide
    · cases read

/-- The value of an option sets the mode if it is the mode's, and no other flag. -/
theorem flags_set {a a' : Arguments} {o : Opt} {value : String} (h : a.set o value = .ok a') :
    a'.flags =
      if o = .mode then { a.flags with production := value = ModeFlags.productionWord } else a.flags := by
  cases o with
  | help | watch => cases h
  | config =>
    obtain ⟨config, -, same⟩ := bind_eq_ok.mp h
    obtain rfl := Except.ok.inj same
    rfl
  | logLevel =>
    obtain ⟨logLevel, -, same⟩ := bind_eq_ok.mp h
    obtain rfl := Except.ok.inj same
    rfl
  | mode =>
    obtain ⟨mode, read, same⟩ := bind_eq_ok.mp h
    obtain rfl := Except.ok.inj same
    simp [Arguments.flags, mode_of_valueOf read]

/-- A word that gives an option its value in itself is read as the option is. -/
theorem readOn_of_assignment {s spelling value : String} {o : Opt} {a a' : Arguments} {rest : List String}
    (spelled : spelling ∈ o.spellings) (parts : s.toList = spelling.toList ++ '=' :: value.toList)
    (set : a.set o value = .ok a') :
    ModeFlags.readOn a.flags (s :: rest) = ModeFlags.readOn a'.flags rest := by
  rw [flags_set set]
  cases o with
  | help | watch => cases set
  | mode =>
    obtain rfl : spelling = "--mode" := List.mem_singleton.mp spelled
    exact ModeFlags.readOn_assignment parts
  | config | logLevel =>
    obtain rfl := List.mem_singleton.mp spelled
    refine ModeFlags.readOn_other fun flag => ?_
    have third := ModeFlags.third_of_isFlag flag
    rw [parts] at third
    exact absurd third (by simp)

/-- The same with the value in the word that follows. -/
theorem readOn_of_value {s value : String} {o : Opt} {a a' : Arguments} {rest : List String}
    (spelled : s ∈ o.spellings) (other : ¬ ModeFlags.IsFlag value) (set : a.set o value = .ok a') :
    ModeFlags.readOn a.flags (s :: value :: rest) = ModeFlags.readOn a'.flags rest := by
  rw [flags_set set]
  cases o with
  | help | watch => cases set
  | mode =>
    obtain rfl : s = ModeFlags.modeOption := List.mem_singleton.mp spelled
    rw [ModeFlags.readOn_mode, ModeFlags.readOn_other other, if_pos rfl]
  | config | logLevel =>
    obtain rfl := List.mem_singleton.mp spelled
    rw [ModeFlags.readOn_other (by decide), ModeFlags.readOn_other other]
    rfl

/-- The induction is over the words; the flags so far are those of the arguments so far. A word that an
option takes for its value is passed over here, and is no flag there. -/
theorem readOn_flags : ∀ (words : List String) (a : Arguments) {a' : Arguments},
    readOn a [] (Word.ofTexts words) = .ok a' → ModeFlags.readOn a.flags words = a'.flags
  | [], a, a', h => by
    obtain rfl := Except.ok.inj h
    rfl
  | s :: rest, a, a', h => by
    unfold Word.ofTexts at h
    split at h
    · exact absurd (eq_nil_of_readOn h : [separatorText] = []) (by simp)
    generalize hw : Word.ofText s = w at h
    have reads := reads_ofText s
    rw [hw] at reads
    cases reads with
    | plain | stranger => exact absurd (eq_nil_of_readOn h : [s] = []) (by simp)
    | shortHelp tail => cases h
    | @assignment o spelling value spelled parts =>
      cases set : a.set o value with
      | error stop => simp [readOn, set] at h
      | ok a₁ =>
        rw [readOn_of_assignment spelled parts set]
        exact readOn_flags rest a₁ (by simpa [readOn, set] using h)
    | @option o spelled =>
      by_cases help : o = .help
      · subst help
        cases h
      by_cases watch : o = .watch
      · subst watch
        obtain rfl : s = ModeFlags.watchOption := List.mem_singleton.mp spelled
        rw [ModeFlags.readOn_watch]
        exact readOn_flags rest { a with watch := true } h
      -- what is left has its value in the next word, so two words are passed over
      obtain ⟨value, rest', a₁, hr, set, later⟩ := value_of_readOn help watch h
      obtain ⟨words', rfl, rfl, other⟩ := of_plain hr
      rw [readOn_of_value spelled other set]
      exact readOn_flags words' a₁ later

/-- The flags that are read off a command line are those that its arguments set, for every command line
that is accepted. -/
theorem ofArguments_of_accepted {words : List String} {a : Arguments}
    (accepted : Arguments.ofTexts words = .ok a) :
    ModeFlags.ofArguments words = ⟨a.mode = some .production, a.watch⟩ :=
  readOn_flags words {} accepted

/-- Modes in both spellings, and values that look like flags. -/
theorem ofArguments_of_mixed_spellings :
    let words := ["--mode=development", "--config", "-watch --mode", "--mode", "production",
      "--log-level=debug", "--config=--watch", "--mode=--", "--mode=production", "--config", "-1"]
    let a : Arguments := { mode := some .production, config := some "-1", logLevel := some .debug }
    Arguments.ofTexts words = .ok a ∧ ModeFlags.ofArguments words = ⟨true, false⟩ := by
  intro words a
  have accepted : Arguments.ofTexts words = .ok a := by decide +kernel
  exact ⟨accepted, ofArguments_of_accepted accepted⟩

end CommandLine
end BundleForge
