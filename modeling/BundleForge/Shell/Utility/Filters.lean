import BundleForge.Shell.Filtering.Arrange
import BundleForge.Shell.Filtering.Count
import BundleForge.Shell.Filtering.Cut
import BundleForge.Shell.Filtering.Dump
import BundleForge.Shell.Filtering.Sort
import BundleForge.Shell.Filtering.Exchange
import BundleForge.Shell.Utility.Files

/-!
The commands that read files, or what they are given to read, and print what they make of it.
-/

namespace BundleForge.Shell.Run

open Filtering

/-- How bytes are shown as they are copied. -/
structure Copying where
  numbers : Bool
  fullNumbers : Bool
  squeeze : Bool
  ends : Bool
  tabs : Bool
  controls : Bool

/-- A byte as it is shown where nothing may be hidden. -/
def visibleByte (c : Copying) (b : UInt8) : List UInt8 :=
  let low (n : Nat) : List UInt8 :=
    if n < 32 then [94, UInt8.ofNat (n + 64)] else if n = 127 then [94, 63] else [UInt8.ofNat n]
  if b = 9 then if c.tabs then [94, 73] else [9]
  else if !c.controls then [b]
  else if b < 128 then low b.toNat
  else [77, 45] ++ low (b.toNat - 128)

/-- Lines as they are copied, numbered from one on. -/
def copiedLines (c : Copying) (n : Nat) (afterEmpty : Bool) : List Line → List Line
  | [] => []
  | line :: rest =>
    if c.squeeze && afterEmpty && line.isEmpty then copiedLines c n true rest
    else
      let counted := if c.fullNumbers then !line.isEmpty else c.numbers
      let number := if counted then Octets.bytesOf (Text.padLeft (toString n) 6 ++ "\t") else []
      (number ++ line.flatMap (visibleByte c) ++ if c.ends then [36] else []) ::
        copiedLines c (if counted then n + 1 else n) line.isEmpty rest

def copied (c : Copying) (bytes : List UInt8) : List UInt8 :=
  if !(c.numbers || c.fullNumbers || c.squeeze || c.ends || c.tabs || c.controls) then bytes
  else
    let made := unlines (copiedLines c 1 false (linesOf bytes))
    if bytes.getLast?.all (· = 10) then made
    else if c.ends then made.dropLast.dropLast else made.dropLast

/-- Copies what a stream gives as it comes, and tells why it gave no more, if not because it ended. -/
def copyStream (stream : Nat) : Run (Option StreamFault) :=
  iterate (fun () => do
    match ← readSome stream blockSize with
    | .error fault => return .inr (some fault)
    | .ok [] => return .inr none
    | .ok bytes => do
      printBytes bytes
      return if (← get).unprinted.isSome then .inr none else .inl ()) patience ()

/-- Copies files as they are. -/
def copyFiles : List String → Run Nat
  | [] => return 0
  | name :: rest => do
    let refuse (cause : Refusal) : Run Nat := do
      complain (unread "cat" name cause)
      let _ ← copyFiles rest
      return 1
    match ← opened name with
    | .error cause => refuse cause
    | .ok stream => do
      let fault ← copyStream stream
      closed stream
      if (← get).unprinted.isSome then return 1
      match fault with
      | some fault => refuse (refusalOf fault)
      | none => copyFiles rest

/-- Copies files, or what is read, to what is printed. -/
def cat (arguments : List String) : Run Nat :=
  withOptions "cat" { plain := "AbeEnstTuv" } 1 arguments fun o => do
    let names := if o.others.isEmpty then ["-"] else o.others
    let s ← get
    if (s.world.fileOf? s.pid 1).isNone then
      complain ("cat: standard output: " ++ Refusal.badStream.wording)
      return 1
    if (o.given.filter fun g => g.1 ≠ 'u').isEmpty then
      let status ← copyFiles names
      return if ← inputLost "cat" names then 1 else status
    else
      let (bytes, failed) ← wholeInput "cat" names
      answer (copied {
        numbers := o.has 'n', fullNumbers := o.has 'b', squeeze := o.has 's'
        ends := o.has 'E' || o.has 'A' || o.has 'e', tabs := o.has 'T' || o.has 'A' || o.has 't'
        controls := o.has 'v' || o.has 'A' || o.has 'e' || o.has 't' } bytes) failed

/-- The first lines of some bytes, line ends included. -/
def firstLines : Nat → List UInt8 → List UInt8
  | 0, _ => []
  | _, [] => []
  | n + 1, b :: rest => b :: firstLines (if b = 10 then n else n + 1) rest

theorem firstLines_prefix (n : Nat) (bytes : List UInt8) : firstLines n bytes <+: bytes := by
  induction bytes generalizing n with
  | nil => cases n <;> simp [firstLines]
  | cons b rest ih =>
    cases n with
    | zero => simp [firstLines]
    | succ n => exact (List.cons_prefix_cons).2 ⟨rfl, ih _⟩

/-- A count of lines or bytes, from the start or all but that many: `-n 3`, `-3`, `-c 5`. -/
structure Extent where
  bytes : Bool
  count : Nat
  rest : Bool
deriving DecidableEq, Repr

/-- The extent that options ask for. A sign turns the count around. -/
def extent? (turn : Char) (o : Options) : Except String Extent :=
  let bytes := o.given.any (·.1 = 'c')
  let kind := if bytes then 'c' else 'n'
  match o.value? kind with
  | none => .ok ⟨false, 10, false⟩
  | some text =>
    let cs := text.toList
    let signed := cs.head? = some '-' || cs.head? = some '+'
    match (String.ofList (if signed then cs.tail else cs)).toNat? with
    | some n => .ok ⟨bytes, n, cs.head? = some turn⟩
    | none => .error text

/-- Arguments in which a bare number of lines is spelt out. -/
def spellCount : List String → List String
  | a :: rest =>
    match a.toList with
    | '-' :: c :: cs =>
      if c.isDigit && (c :: cs).all Char.isDigit then "-n" :: String.ofList (c :: cs) :: rest
      else a :: rest
    | _ => a :: rest
  | [] => []

/-- The start of some bytes. -/
def Extent.front (e : Extent) (bytes : List UInt8) : List UInt8 :=
  if e.bytes then bytes.take (if e.rest then bytes.length - e.count else e.count)
  else if e.rest then firstLines ((linesOf bytes).length - e.count) bytes
  else firstLines e.count bytes

/-- The end of some bytes. -/
def Extent.back (e : Extent) (bytes : List UInt8) : List UInt8 :=
  if e.bytes then bytes.drop (if e.rest then e.count - 1 else bytes.length - e.count)
  else
    let lines := (linesOf bytes).length
    let skipped := if e.rest then e.count - 1 else lines - e.count
    bytes.drop (firstLines skipped bytes).length

/-- Whether the start of something is known once some bytes are. -/
def Extent.isWithin (e : Extent) (bytes : List UInt8) : Bool :=
  !e.rest && if e.bytes then e.count ≤ bytes.length else e.count ≤ bytes.count 10

/-- The start of what a stream gives. What was read too much is given back where that is possible. -/
def startOf (e : Extent) (stream : Nat) : Run (Except StreamFault (List UInt8)) := do
  match ← readUntil stream e.isWithin patience [] with
  | .error fault => return .error fault
  | .ok (bytes, _) => do
    let taken := e.front bytes
    giveBack stream (bytes.length - taken.length)
    return .ok taken

/-- The end of what a stream gives. -/
def endOf (e : Extent) (stream : Nat) : Run (Except StreamFault (List UInt8)) := do
  return (← readToEnd stream).map e.back

/-- Prints a part of each file, with a heading where there are several. -/
def printParts (command : String) (headed : Bool) (part : Nat → Run (Except StreamFault (List UInt8)))
    (first : Bool) : List String → Run Nat
  | [] => return 0
  | name :: rest => do
    let heading := (if first then "" else "\n") ++ "==> " ++
      (if name = "-" then "standard input" else name) ++ " <==\n"
    let refuse (cause : Refusal) : Run Nat := do
      complain (unread command name cause)
      let _ ← printParts command headed part first rest
      return 1
    match ← opened name with
    | .error cause => refuse cause
    | .ok stream => do
      if headed then print heading
      let bytes ← part stream
      closed stream
      match bytes with
      | .error fault => do
        complain (unread command name (refusalOf fault))
        let _ ← printParts command headed part false rest
        return 1
      | .ok bytes => do
        printBytes bytes
        printParts command headed part false rest

def countWords : List (String × Char) := [("lines", 'n'), ("bytes", 'c'), ("quiet", 'q'), ("silent", 'q')]

/-- Prints the start, or the end, of files or of what is read. -/
def printExtents (command : String) (turn : Char) (k : KnownOptions)
    (part : Extent → Nat → Run (Except StreamFault (List UInt8))) (arguments : List String) : Run Nat :=
  withOptions command k 1 (spellCount arguments) fun o => do
    match extent? turn o with
    | .error text => do
      complain (command ++ ": invalid number of " ++ (if o.has 'c' then "bytes" else "lines") ++
        ": ‘" ++ text ++ "’")
      return 1
    | .ok e =>
      let names := if o.others.isEmpty then ["-"] else o.others
      let status ← printParts command ((1 < names.length || o.has 'v') && !o.has 'q') (part e) true names
      return if ← inputLost command names then 1 else status

def head : List String → Run Nat :=
  printExtents "head" '-' { plain := "qvz", valued := "nc", words := countWords } startOf

def tail : List String → Run Nat :=
  printExtents "tail" '+' { plain := "fFqvz", valued := "nc", words := countWords } endOf

/-- The counts that are asked for, each in a column. -/
def tallyLine (o : Options) (width : Nat) (t : Tally) (name : Option String) : String :=
  let asked (letter : Char) : Bool := o.has letter || (o.given.isEmpty && letter ≠ 'm' && letter ≠ 'L')
  let columns := [('l', t.lines), ('w', t.words), ('m', t.chars), ('c', t.bytes), ('L', t.longest)]
  let shown := (columns.filter fun c => asked c.1).map fun c => Text.padLeft (toString c.2) width
  " ".intercalate (shown ++ name.toList) ++ "\n"

/-- The files that are counted, each with its name: nothing is counted of one that cannot be read, which
only shows where it was open. Tells whether there was such a one. -/
def countedFiles (input : String) : List String → Run (List (String × List UInt8) × Bool)
  | [] => return ([], false)
  | name :: rest => do
    if name = "" then
      complain "wc: invalid zero-length file name"
      return ((← countedFiles input rest).1, true)
    match ← fileBytes name with
    | .ok bytes => do
      let (others, failed) ← countedFiles input rest
      return ((name, bytes) :: others, failed)
    | .error cause => do
      complain (if name = "-" then "wc: " ++ input ++ ": " ++ cause.wording else unread "wc" name cause)
      let (others, _) ← countedFiles input rest
      return ((if name = "-" || cause = .isDirectory then [(name, [])] else []) ++ others, true)

/-- Counts lines, words, characters or bytes. Columns are as wide as the greatest size, and wider
where a size is not known beforehand. -/
def count (arguments : List String) : Run Nat :=
  withOptions "wc" { plain := "lwcmL", words := [("lines", 'l'), ("words", 'w'), ("bytes", 'c'), ("chars", 'm'),
      ("max-line-length", 'L')] } 1 arguments fun o => do
    let columns := if o.given.isEmpty then 3 else (o.given.map Prod.fst).eraseDups.length
    let digits (n : Nat) : Nat := (toString n).length
    let names := if o.others.isEmpty then ["-"] else o.others
    let s ← get
    let size? (name : String) : Option (Option Nat) :=
      let sizeOf : Node → Option Nat
        | .file content => some content.length
        | _ => none
      if name = "-" then (s.world.openFile? s.pid 0).map fun f => match f.lead with
        | .file _ => some (s.world.holding f).length
        | _ => none
      else match (s.spot name true).toOption.map fun spot => deviceAt? spot.place with
        | some (some _) => some none
        | _ => (s.lookup name true).toOption.map sizeOf
    let sizes := names.map size?
    let known := ((sizes.filterMap id).filterMap id).foldl (· + ·) 0
    let (inputs, failed) ← countedFiles (if o.others.isEmpty then "'standard input'" else "-") names
    let tallies := inputs.map fun (name, bytes) => (name, Tally.ofBytes bytes)
    let total := tallies.foldl (fun total t => total.add t.2) ⟨0, 0, 0, 0, 0⟩
    let width := if columns = 1 && names.length = 1 || sizes.head?.all Option.isNone then 1
      else max (digits known) (if (sizes.filterMap id).all Option.isSome then 1 else 7)
    print (String.join (tallies.map fun (name, t) =>
      tallyLine o width t (if o.others.isEmpty then none else some name)))
    if 1 < names.length then print (tallyLine o width total (some "total"))
    let lost ← inputLost "wc" names
    return if failed || lost then 1 else 0

/-- How lines are sorted, as options say. -/
def sorting? (o : Options) : Option Sorting := do
  let shared := o.given.foldl (fun c (letter, _) => Comparison.withLetter c letter) {}
  let keys ← (o.values 'k').mapM (sortKey? shared)
  let separator := (o.value? 't').map fun t =>
    if t = "\\0" then 0 else ((Octets.bytesOf t).headD 0)
  return { keys, order := shared, separator, stable := o.has 's', unique := o.has 'u' }

def sort (arguments : List String) : Run Nat :=
  withOptions "sort" {
    plain := "bdfinrsucmz", valued := "kto"
    words := [("reverse", 'r'), ("numeric-sort", 'n'), ("unique", 'u'), ("key", 'k'), ("field-separator", 't'),
      ("output", 'o'), ("stable", 's'), ("ignore-case", 'f'), ("check", 'c')] } 2 arguments fun o => do
    match sorting? o with
    | none => do
      let text := (o.value? 'k').getD ""
      let zero := if text.toList.head? = some '0' then "field number is zero: " else ""
      complain ("sort: " ++ zero ++ "invalid field specification ‘" ++ text ++ "’")
      return 2
    | some s =>
      let (bytes, failed) ← wholeInput "sort" o.others
      if failed then return 2
      let lines := linesOf bytes
      if o.has 'c' then
        match s.disorder? 1 lines with
        | some (n, line) => do
          complain ("sort: " ++ o.others.headD "-" ++ ":" ++ toString n ++ ": disorder: " ++ Octets.textOf line)
          return 1
        | none => return 0
      let made := unlines (s.sort lines)
      match o.value? 'o' with
      | none => answer made false
      | some name =>
        match ← writeInto name false made with
        | none => return 0
        | some cause => do
          complain ("sort: open failed: " ++ name ++ ": " ++ cause.wording)
          return 2

def uniq (arguments : List String) : Run Nat :=
  withOptions "uniq" {
    plain := "cdui", valued := "fsw"
    words := [("count", 'c'), ("repeated", 'd'), ("unique", 'u'), ("ignore-case", 'i')] } 1 arguments
    fun o => do
    let (bytes, failed) ← wholeInput "uniq" (o.others.take 1)
    if failed then return 1
    let number (letter : Char) : Nat := ((o.value? letter).bind String.toNat?).getD 0
    let r : Repeats := {
      counts := o.has 'c', onlyRepeated := o.has 'd', onlyUnique := o.has 'u', anyCase := o.has 'i'
      skipFields := number 'f', skipBytes := number 's' }
    answer (unlines (r.shown (linesOf bytes))) false

/-- What is said of a list that is none. -/
def listComplaint (fields : Bool) : ListFault → String
  | .zero => if fields then "fields are numbered from 1" else "byte/character positions are numbered from 1"
  | .decreasing => "invalid decreasing range"
  | .noRange => "invalid range with no endpoint: -"
  | .invalid text =>
    (if fields then "invalid field value ‘" else "invalid byte/character position ‘") ++ text ++ "’"

def cut (arguments : List String) : Run Nat :=
  withOptions "cut" {
    plain := "sn", valued := "bcfd"
    words := [("fields", 'f'), ("bytes", 'b'), ("characters", 'c'), ("delimiter", 'd'),
      ("only-delimited", 's'), ("complement", 'C'), ("output-delimiter", 'O')] } 1 arguments fun o => do
    let lists := o.given.filter fun g => g.1 = 'b' || g.1 = 'c' || g.1 = 'f'
    match lists with
    | [] => misused "cut" "you must specify a list of bytes, characters, or fields" 1
    | [(letter, text)] =>
      let ofFields := letter = 'f'
      let delimiter := (o.value? 'd').getD "\t"
      if !ofFields && o.has 'd' then
        misused "cut" "an input delimiter may be specified only when operating on fields" 1
      else if 1 < delimiter.utf8ByteSize then
        misused "cut" "the delimiter must be a single character" 1
      else match numberRanges text with
        | .error fault => misused "cut" (listComplaint ofFields fault) 1
        | .ok ranges =>
          let (bytes, failed) ← wholeInput "cut" o.others
          let c : Cutting := ⟨ranges, o.has 'C'⟩
          let between := (o.value? 'O').map Octets.bytesOf
          let b := (Octets.bytesOf delimiter).headD 0
          let lines := (linesOf bytes).filterMap fun line =>
            if ofFields then c.cutFields b (between.getD [b]) (o.has 's') line
            else some (c.cutBytes (between.getD []) line)
          answer (unlines lines) failed
    | _ => misused "cut" "only one list may be specified" 1

def setComplaint : SetFault → String
  | .reversedRange first last =>
    "range-endpoints of '" ++ charName first ++ "-" ++ charName last ++ "' are in reverse collating sequence order"
  | .unknownClass name => "invalid character class ‘" ++ name ++ "’"
  | .badRepeat text => "invalid repeat count ‘" ++ text ++ "’ in [c*n] construct"
  | .repeatInFirst => "the [c*] repeat construct may not appear in string1"
  | .emptySecond => "when not truncating set1, string2 must be non-empty"

def exchangeBytes (arguments : List String) : Run Nat :=
  withOptions "tr" {
    plain := "cCdst"
    words := [("complement", 'c'), ("delete", 'd'), ("squeeze-repeats", 's'), ("truncate-set1", 't')] }
    1 arguments fun o => do
    let least := if o.has 'd' == o.has 's' then 2 else 1
    let most := if o.has 'd' && !o.has 's' then 1 else 2
    match o.others with
    | [] => misused "tr" "missing operand" 1
    | first :: rest =>
      if o.others.length < least then
        complain ("tr: missing operand after ‘" ++ first ++ "’")
        complain (if o.has 'd' then "Two strings must be given when both deleting and squeezing repeats."
          else "Two strings must be given when translating.")
        complain "Try 'tr --help' for more information."
        return 1
      if most < o.others.length then
        complain ("tr: extra operand ‘" ++ (o.others[most]?).getD "" ++ "’")
        if most = 1 then
          complain "Only one string may be given when deleting without squeezing repeats."
        complain "Try 'tr --help' for more information."
        return 1
      let read : Except SetFault Exchange := do
        return {
          complement := o.has 'c' || o.has 'C', delete := o.has 'd', squeeze := o.has 's'
          truncate := o.has 't', first := ← readSet first
          second := ← rest.head?.mapM readSet }
      match read with
      | .error fault => do
        complain ("tr: " ++ setComplaint fault)
        return 1
      | .ok t =>
        let (bytes, failed) ← wholeInput "tr" []
        if failed then return 1
        match t.apply bytes with
        | .ok made => answer made false
        | .error fault => do
          complain ("tr: " ++ setComplaint fault)
          return 1

def reverseLines (arguments : List String) : Run Nat :=
  withOptions "tac" { plain := "br", valued := "s" } 1 arguments fun o => do
    let names := if o.others.isEmpty then ["-"] else o.others
    let (inputs, failed) ← files "tac" names
    let lost ← inputLost "tac" names
    answer (inputs.flatMap fun i => backwards i.2) (failed || lost)

def turnLines (arguments : List String) : Run Nat :=
  withOptions "rev" { plain := "" } 1 arguments fun o => do
    let (bytes, failed) ← wholeInput "rev" o.others
    answer (Octets.bytesOf (linesBackwards (Octets.textOf bytes))) failed

def numberLines (arguments : List String) : Run Nat :=
  withOptions "nl" { plain := "p", valued := "bwsvin" } 1 arguments fun o => do
    let (bytes, failed) ← wholeInput "nl" o.others
    let number (letter : Char) (usual : Nat) : Nat := ((o.value? letter).bind String.toNat?).getD usual
    answer (unlines (numbered (o.value? 'b' = some "a") (number 'w' 6) ((o.value? 's').getD "\t")
      (number 'v' 1) (linesOf bytes))) failed

def foldLines (arguments : List String) : Run Nat :=
  withOptions "fold" { plain := "bs", valued := "w" } 1 arguments fun o => do
    let (bytes, failed) ← wholeInput "fold" o.others
    let width := ((o.value? 'w').bind String.toNat?).getD 80
    if width = 0 then
      complain "fold: invalid number of columns: ‘0’"
      return 1
    let made := unlines ((linesOf bytes).flatMap fun line => folded width line.length line)
    answer (if bytes.getLast?.all (· = 10) then made else made.dropLast) failed

def paste (arguments : List String) : Run Nat :=
  withOptions "paste" { plain := "sz", valued := "d", words := [("serial", 's'), ("delimiters", 'd')] } 1
    arguments fun o => do
    let names := if o.others.isEmpty then ["-"] else o.others
    let separators := (setBytes ((o.value? 'd').getD "\t").toList).map Prod.fst
    let dashes := names.filter (· = "-")
    let piped ← if dashes.length ≤ 1 || o.has 's' then pure []
      else (fun i => linesOf i.1) <$> wholeInput "paste" []
    let (inputs, failed) ← files "paste" (if piped.isEmpty then names else names.filter (· ≠ "-"))
    let lines := inputs.map fun i => linesOf i.2
    let shared := (List.range dashes.length).map fun i =>
      (piped.zipIdx.filter fun p => p.2 % dashes.length = i).map Prod.fst
    let lines := if piped.isEmpty then lines else shared ++ lines
    answer (unlines (if o.has 's' then lines.map (inOneLine separators) else beside separators lines)) failed

/-- The kind of a dump, as an option says. -/
def dumpKind (o : Options) : DumpKind :=
  o.given.foldl (fun kind (letter, value) =>
    match letter with
    | 'c' => .chars
    | 'a' => .names
    | 'b' => .numbers 8 1 false
    | 'x' => .numbers 16 2 false
    | 'd' => .numbers 10 2 false
    | 'o' => .numbers 8 2 false
    | 't' =>
      let cs := value.toList
      let size := match String.ofList (cs.tail.takeWhile Char.isDigit) with
        | "" => if cs.tail.head? = some 'C' then 1 else if cs.tail.head? = some 'S' then 2 else 4
        | digits => digits.toNat?.getD 4
      match cs.head? with
      | some 'c' => .chars
      | some 'a' => .names
      | some 'x' => .numbers 16 size false
      | some 'u' => .numbers 10 size false
      | some 'd' => .numbers 10 size true
      | _ => .numbers 8 size false
    | _ => kind) (.numbers 8 2 false)

def dump (arguments : List String) : Run Nat :=
  withOptions "od" { plain := "cabxdov", valued := "AtjN" } 1 arguments fun o => do
    let (bytes, failed) ← wholeInput "od" o.others
    let bytes := bytes.drop (((o.value? 'j').bind String.toNat?).getD 0)
    let bytes := ((o.value? 'N').bind String.toNat?).elim bytes bytes.take
    let base := match o.value? 'A' with
      | some "n" => none
      | some "x" => some 16
      | some "d" => some 10
      | _ => some 8
    let rows := dumpRows (dumpKind o) base (o.has 'v') 0 [] false (bytes.length + 2) bytes
    print (lineEnds rows)
    return if failed then 1 else 0

def sixBits (arguments : List String) : Run Nat :=
  withOptions "base64" {
    plain := "di", valued := "w", words := [("decode", 'd'), ("wrap", 'w'), ("ignore-garbage", 'i')] } 1
    arguments fun o => do
    let (bytes, failed) ← wholeInput "base64" o.others
    if failed then return 1
    if o.has 'd' then
      let cs := (Octets.textOf bytes).toList.filter (· ≠ '\n')
      let (made, good) := ofSixBits cs
      printBytes made
      unless good do complain "base64: invalid input"
      return if good then 0 else 1
    let width := ((o.value? 'w').bind String.toNat?).getD 76
    let cs := toSixBits bytes
    let rows := (wrapped width cs.length cs).map String.ofList
    print (if width = 0 then String.join rows else lineEnds rows)
    return 0

/-- Prints what is read and writes it to files. -/
def tee (arguments : List String) : Run Nat :=
  withOptions "tee" { plain := "aip", words := [("append", 'a')] } 1 arguments fun o => do
    let mut status := 0
    let mut names : List String := []
    for name in o.others do
      match ← writeInto name (o.has 'a') [] with
      | none => names := names ++ [name]
      | some cause => do
        complain ("tee: " ++ name ++ ": " ++ cause.wording)
        status := 1
    let outcome ← iterate (fun (status : Nat) => do
      match ← readSome 0 blockSize with
      | .error fault => do
        complain ("tee: read error: " ++ fault.wording)
        return .inr 1
      | .ok [] => return .inr status
      | .ok bytes => do
        printBytes bytes
        for name in names do
          let _ ← writeInto name true bytes
        return .inl status) patience status
    return if ← inputLost "tee" ["-"] then 1 else outcome

/-- Numbers in a row, with a step that may be negative. -/
def sequence (arguments : List String) : Run Nat :=
  let isNumber (a : String) : Bool := (a.toList.tail.head?).any Char.isDigit
  let options := arguments.takeWhile fun a => a.toList.head? = some '-' && !isNumber a
  match Options.read { plain := "w", valued := "sf", words := [("separator", 's'), ("equal-width", 'w')] }
      (options ++ if options.getLast? = some "-s" then arguments.drop options.length |>.take 1 else []) with
  | .error fault => misused "seq" fault.message 1
  | .ok o =>
    let between := (o.value? 's').getD "\n"
    let words := arguments.drop (options.length + if options.getLast? = some "-s" then 1 else 0)
    match words.map String.toInt? with
    | [some last] => row between (o.has 'w') 1 1 last
    | [some first, some last] => row between (o.has 'w') first 1 last
    | [some first, some step, some last] =>
      if step = 0 then misused "seq" "invalid Zero increment value: ‘0’" 1
      else row between (o.has 'w') first step last
    | [] => misused "seq" "missing operand" 1
    | numbers =>
      match (words.zip numbers).find? fun n => n.2.isNone with
      | some (word, _) => misused "seq" ("invalid floating point argument: ‘" ++ word ++ "’") 1
      | none => misused "seq" ("extra operand ‘" ++ (words[3]?).getD "" ++ "’") 1
where
  row (between : String) (equal : Bool) (first step last : Int) : Run Nat := do
    let steps := ((last - first).fdiv step + 1).toNat
    let numbers := (List.range steps).map fun (i : Nat) => first + step * (i : Int)
    let width := if equal then max (toString first).length (toString last).length else 0
    let shown := numbers.map fun n =>
      let digits := toString n.natAbs
      let sign := if n < 0 then "-" else ""
      sign ++ String.ofList (List.replicate (width - sign.length - digits.length) '0') ++ digits
    unless shown.isEmpty do print (between.intercalate shown ++ "\n")
    return 0

/-- Prints a line again and again, until nobody reads it. -/
def repeatLine (arguments : List String) : Run Nat := do
  let arguments := if arguments.head? = some "--" then arguments.tail else arguments
  let line := Octets.bytesOf ((if arguments.isEmpty then "y" else " ".intercalate arguments) ++ "\n")
  let block := (List.replicate (8192 / line.length + 1) line).flatten
  iterate (fun () => do
    printBytes block
    return if (← get).unprinted.isSome then .inr 1 else .inl ()) patience ()

end BundleForge.Shell.Run
