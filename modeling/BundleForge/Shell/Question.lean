import BundleForge.Shell.Numeral

/-!
Questions about texts, numbers and files, tied together by "not", "and" and "or". Main statement: a
question that is only a word asks whether the word holds anything.
-/

namespace BundleForge.Shell

namespace Question

/-- Why words are no question, or have no answer. -/
inductive Fault
  | unexpected (word : String)
  | noArgument (operator : String)
  | unclosed
  | illegalNumber (text : String)
deriving DecidableEq, Repr

def Fault.message : Fault → String
  | .unexpected word => (if word = "" then "" else word ++ ": ") ++ "unexpected operator"
  | .noArgument operator => operator ++ ": argument expected"
  | .unclosed => "closing paren expected"
  | .illegalNumber text => "Illegal number: " ++ text

end Question

/-- A question. Where its words are none any more, it is faulty from there on: what stands in front is asked
first. -/
inductive Question
  | nothing
  | filled (text : String)
  | ofPath (operator : String) (name : String)
  | compared (operator : String) (first second : String)
  | not (inner : Question)
  | and (first second : Question)
  | or (first second : Question)
  | faulty (fault : Question.Fault)
deriving DecidableEq, Repr

namespace Question

/-- The operators in front of one word, the tests of emptiness left out. -/
def pathOperators : List String := [
  "-r", "-w", "-x", "-e", "-f", "-d", "-c", "-b", "-p", "-u", "-g", "-k", "-s", "-t", "-h", "-L",
  "-O", "-G", "-S"]

def isUnary (word : String) : Bool := word = "-n" || word = "-z" || pathOperators.contains word

/-- The operators between two words. -/
def isBinary (word : String) : Bool :=
  ["=", "!=", "<", ">", "-eq", "-ne", "-gt", "-ge", "-lt", "-le", "-nt", "-ot", "-ef"].contains word

/-- Whether a word stands for an operator where it is: one in front of a word does not where nothing
or an operator between words follows. -/
def isOperator (word : String) (rest : List String) : Bool :=
  if isUnary word then
    match rest with
    | [] => false
    | [_] => true
    | next :: _ => !isBinary next
  else if word = "(" then !rest.isEmpty
  else isBinary word || ["!", "-a", "-o", ")"].contains word

/-- A question about one word. -/
def unary (operator word : String) : Question :=
  if operator = "-n" then .filled word
  else if operator = "-z" then .not (.filled word)
  else .ofPath operator word

mutual

/-- Questions tied by "or". -/
def anyOf : Nat → List String → Question × List String
  | 0, words => (.nothing, words)
  | fuel + 1, words =>
    match allOf fuel words with
    | (first, "-o" :: rest) =>
      let (second, rest) := anyOf fuel rest
      (.or first second, rest)
    | read => read

/-- Questions tied by "and". -/
def allOf : Nat → List String → Question × List String
  | 0, words => (.nothing, words)
  | fuel + 1, words =>
    match negated fuel words with
    | (first, "-a" :: rest) =>
      let (second, rest) := allOf fuel rest
      (.and first second, rest)
    | read => read

def negated : Nat → List String → Question × List String
  | 0, words => (.nothing, words)
  | fuel + 1, words =>
    match words with
    | "!" :: rest =>
      let (inner, rest) := negated fuel rest
      (.not inner, rest)
    | words => primary fuel words

def primary : Nat → List String → Question × List String
  | 0, words => (.nothing, words)
  | fuel + 1, words =>
    match words with
    | [] => (.nothing, [])
    | word :: rest =>
      if word = "(" && isOperator word rest then
        if rest.head? = some ")" then (.nothing, rest.tail)
        else
          match anyOf fuel rest with
          | (inner, ")" :: rest) => (inner, rest)
          | (inner, _) => (.and inner (.faulty .unclosed), [])
      else if isUnary word && isOperator word rest then
        match rest with
        | [] => (.faulty (.noArgument word), [])
        | about :: rest => (unary word about, rest)
      else
        match rest with
        | operator :: rest' =>
          if isBinary operator then
            match rest' with
            | [] => (.faulty (.noArgument operator), [])
            | second :: rest => (.compared operator word second, rest)
          else (.filled word, rest)
        | [] => (.filled word, [])

end

/-- The question that words ask. Up to four words have a reading of their own. -/
def read : List String → Question
  | [] => .nothing
  | [a, operator, b] =>
    if isBinary operator then .compared operator a b
    else if a = "(" && b = ")" then general [operator]
    else if a = "!" then .not (general [operator, b])
    else general [a, operator, b]
  | [a, b, c, d] =>
    if a = "(" && d = ")" then general [b, c]
    else if a = "!" then
      if isBinary c then .not (.compared c b d) else .not (general [b, c, d])
    else general [a, b, c, d]
  | words => general words
where
  /-- The question that words ask by the rules for any number of words. -/
  general (words : List String) : Question :=
    match anyOf (6 * words.length + 6) words with
    | (question, []) => question
    | (question, rest) =>
      .and question (.faulty (.unexpected ((words[words.length - rest.length - 1]?).getD "")))

theorem primary_word (fuel : Nat) (word : String) : primary (fuel + 1) [word] = (.filled word, []) := by
  have hp : (decide (word = "(") && isOperator word []) = false := by
    by_cases h : word = "("
    · subst h; rfl
    · simp [h]
  have hu : (isUnary word && isOperator word []) = false := by
    cases h : isUnary word with
    | false => rfl
    | true => simp [isOperator, h]
  simp only [primary, hp, hu, Bool.false_eq_true, if_false]

theorem read_word (word : String) (h : word ≠ "!") : read [word] = .filled word := by
  have hn : negated 10 [word] = (.filled word, []) := by
    unfold negated
    split
    · simp_all
    · exact primary_word 8 word
  have hall : allOf 11 [word] = (.filled word, []) := by
    rw [allOf, hn]
  have hany : anyOf 12 [word] = (.filled word, []) := by
    rw [anyOf, hall]
  show read.general [word] = _
  rw [read.general]
  show (match anyOf 12 [word] with
    | (question, []) => question
    | (question, rest) => _) = _
  rw [hany]

end Question
end BundleForge.Shell
