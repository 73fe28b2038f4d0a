import BundleForge.Toml.Value

/-!
TOML documents. The text is a sequence of statements; each of them changes the table built so far
or contradicts an earlier one.
-/

namespace BundleForge.Toml

/-- One statement: a table header, a header of a table in a list, or an entry. -/
inductive Statement
  | header (key : List String)
  | listHeader (key : List String)
  | entry (key : List String) (value : Setting)

/-- The statements of a text up to the first fault, and that fault if there is one. -/
structure Script where
  statements : List Statement
  fault : Option Fault

/-- What follows a statement: an optional comment and the end of the line or of the text. -/
def endOfLine (cs : List Char) : Except Fault (List Char) :=
  match skipComment (skipBlanks cs) with
  | .error fault => .error fault
  | .ok [] => .ok []
  | .ok ('\n' :: rest) => .ok rest
  | .ok _ => .error .malformed

/-- How many steps inwards a value may take. -/
def depthLimit : Nat := 985

/-- The statement at the start of a text that is neither blank nor a comment. -/
def readStatement (cs : List Char) : Parsed Statement :=
  match cs with
  | '[' :: '[' :: rest =>
    match readKey (rest.length + 1) (skipBlanks rest) with
    | .error fault => .error fault
    | .ok (key, ']' :: ']' :: rest) => .ok (.listHeader key, rest)
    | .ok _ => .error .malformed
  | '[' :: rest =>
    match readKey (rest.length + 1) (skipBlanks rest) with
    | .error fault => .error fault
    | .ok (key, ']' :: rest) => .ok (.header key, rest)
    | .ok _ => .error .malformed
  | cs =>
    match readKey (cs.length + 1) cs with
    | .error fault => .error fault
    | .ok (key, '=' :: rest) =>
      (readValue (2 * rest.length + 2) depthLimit (skipBlanks rest)).map fun (value, rest) =>
        (.entry key value, rest)
    | .ok _ => .error .malformed

/-- Reads statements line by line. -/
def readScript (fuel : Nat) (cs : List Char) : Script :=
  match fuel with
  | 0 => ⟨[], none⟩
  | fuel + 1 =>
    match skipBlanks cs with
    | [] => ⟨[], none⟩
    | '\n' :: rest => readScript fuel rest
    | '#' :: rest =>
      match endOfLine ('#' :: rest) with
      | .error fault => ⟨[], some fault⟩
      | .ok rest => readScript fuel rest
    | cs =>
      match readStatement cs with
      | .error fault => ⟨[], some fault⟩
      | .ok (statement, rest) =>
        match endOfLine rest with
        | .error fault => ⟨[statement], some fault⟩
        | .ok rest =>
          let others := readScript fuel rest
          ⟨statement :: others.statements, others.fault⟩

/-- A table in the making: its entries, the header in force, the keys that may not be opened as
tables again (now, or once the next header comes), and the keys closed to any addition. -/
structure Draft where
  entries : List (Setting × Setting) := []
  header : List String := []
  declared : List (List String) := []
  pending : List (List String) := []
  closed : List (List String) := []

/-- The keys between a header and the last part of a dotted key. -/
def openedBy (header key : List String) : List (List String) :=
  (List.range (key.length - 1)).map fun i => header ++ key.take (i + 1)

/-- The draft when a new header begins. -/
def Draft.settle (d : Draft) : Draft := { d with declared := d.pending ++ d.declared, pending := [] }

/-- Appends an empty table to the list under a name. -/
def appendTable (name : String) (entries : List (Setting × Setting)) :
    Option (List (Setting × Setting)) :=
  match Setting.get? name entries with
  | none => some (entries ++ [(.str name, .list [.table []])])
  | some (.list items) => some (Entries.put (.str name) (.list (items ++ [.table []])) entries)
  | some _ => none

/-- The draft after one more statement, or none where it contradicts an earlier one. -/
def Draft.add (d : Draft) : Statement → Option Draft
  | .header key =>
    let d := d.settle
    if d.declared.contains key || isClosed d.closed key then none
    else (changeTable true some key d.entries).map fun entries =>
      { d with entries, header := key, declared := key :: d.declared }
  | .listHeader key =>
    let d := d.settle
    if isClosed d.closed key then none
    else
      let below (k : List String) : Bool := key.isPrefixOf k
      let declared := key :: d.declared.filter fun k => !below k
      let closed := d.closed.filter fun k => !below k
      (changeTable true (appendTable (key.getLast?.getD "")) key.dropLast d.entries).map fun entries =>
        { d with entries, header := key, declared, closed }
  | .entry key value =>
    let opened := openedBy d.header key
    if opened.any d.declared.contains then none
    else
      let full := d.header ++ key
      if isClosed d.closed full.dropLast then none
      else (changeTable true (addNew (key.getLast?.getD "") value) full.dropLast d.entries).map
        fun entries =>
          { d with
            entries
            pending := opened ++ d.pending
            closed := if isContainer value then full :: d.closed else d.closed }

/-- The statements put together, in order. -/
def assemble (d : Draft) : List Statement → Option Draft
  | [] => some d
  | statement :: rest =>
    match d.add statement with
    | some d => assemble d rest
    | none => none

/-- A carriage return before a line feed does not count. -/
def joinLineEnds : List Char → List Char
  | '\r' :: '\n' :: rest => '\n' :: joinLineEnds rest
  | c :: rest => c :: joinLineEnds rest
  | [] => []

/-- The table that a text describes. A contradiction counts before a fault further down. -/
def read (text : String) : Except Fault (List (Setting × Setting)) :=
  let cs := joinLineEnds text.toList
  let script := readScript (cs.length + 1) cs
  match assemble {} script.statements with
  | none => .error .malformed
  | some draft =>
    match script.fault with
    | some fault => .error fault
    | none => .ok draft.entries

end BundleForge.Toml
