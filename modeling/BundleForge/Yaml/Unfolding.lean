import BundleForge.Yaml.Cell

/-!
From cells to configuration values. Cells that lead to no loop become lists and tables, each once,
however often it is found; a cell that leads into a loop becomes a looped value.
-/

namespace BundleForge.Yaml

/-- What is known of each cell: nothing yet, its value, or that it leads into a loop. -/
abbrev Known := Array (Option (Option Setting))

/-- All values, if all are there. -/
def allThere {α : Type} : List (Option α) → Option (List α)
  | [] => some []
  | none :: _ => none
  | some a :: rest => (allThere rest).map (a :: ·)

/-- The value of a cell, from those of what it holds. -/
def Cell.setting? (cell : Cell) (settings : List (Option Setting)) : Option Setting :=
  match cell, allThere settings with
  | _, none => none
  | .list _, some items => some (.list items)
  | .set items, _ => some (.set items)
  | .table entries, some values => some (.table ((entries.map Prod.fst).zip values))
  | .pairs _, some values => some (.list (couples values))
where
  couples : List Setting → List Setting
    | a :: b :: rest => .tuple [a, b] :: couples rest
    | _ => []

/-- What a cell holds, keys apart. -/
def Cell.held : Cell → List Value
  | .list items => items
  | .pairs items => items.flatMap fun (a, b) => [a, b]
  | .set _ => []
  | .table entries => entries.map Prod.snd

/-- The value that something stands for, unless it leads into a loop. A cell that is met while it is
looked into leads into a loop. -/
def explore (cells : Cells) (fuel : Nat) (value : Value) : StateM Known (Option Setting) :=
  match fuel, value with
  | _, .plain v => return some v
  | 0, _ => return none
  | fuel + 1, .shared id => do
    match ((← get)[id]?).getD (some none) with
    | some answer => return answer
    | none =>
      modify fun known => known.setIfInBounds id (some none)
      match (cells[id]?).join with
      | none => return none
      | some cell =>
        let settings ← cell.held.mapM (explore cells fuel)
        let answer := cell.setting? settings
        modify fun known => known.setIfInBounds id (some answer)
        return answer

/-- How a cell is displayed inside itself. -/
def Cell.ellipsis : Cell → String
  | .list _ | .pairs _ => "[...]"
  | .set _ => "set(...)"
  | .table _ => "\x7b...\x7d"

/-- The value of a cell that leads into no loop. -/
def Known.value? (known : Known) (id : Nat) : Option Setting := (known[id]?).join.join

/-- The display of a value, given the room for it and the cells that are being displayed around it. -/
def showValue (cells : Cells) (known : Known) (room : Nat) (around : List Nat) (value : Value) :
    Except TextFault String :=
  match room, value with
  | 0, _ => .error .tooDeep
  | room, .plain v => v.display room
  | room + 1, .shared id =>
    match known.value? id, (cells[id]?).join with
    | some v, _ => v.display (room + 1)
    | none, none => .ok ""
    | none, some cell =>
      if around.contains id then .ok cell.ellipsis
      else
        match cell with
        | .list items => do
          let shown ← items.mapM (showValue cells known room (id :: around))
          return "[" ++ ", ".intercalate shown ++ "]"
        | .pairs items => do
          let inner := showValue cells known (room - 1) (id :: around)
          let shown ← items.mapM fun (a, b) => do
            let a ← inner a
            let b ← inner b
            return "(" ++ a ++ ", " ++ b ++ ")"
          return "[" ++ ", ".intercalate shown ++ "]"
        | .set items => (Setting.set items).display (room + 1)
        | .table entries => do
          let shown ← entries.mapM fun (key, value) => do
            let key ← key.display room
            let value ← showValue cells known room (id :: around) value
            return key ++ ": " ++ value
          return "\x7b" ++ ", ".intercalate shown ++ "\x7d"

/-- The value of a cell that leads into a loop. It can be opened level by level, as deep as the fuel
goes. -/
def loopedAt (cells : Cells) (known : Known) (fuel id : Nat) : Setting :=
  .looped (fun room => showValue cells known room [] (.shared id)) fun _ =>
    match fuel with
    | 0 => .null
    | fuel + 1 =>
      let inner : Value → Setting
        | .plain v => v
        | .shared id =>
          match known.value? id with
          | some v => v
          | none => loopedAt cells known fuel id
      match (cells[id]?).join with
      | some (.list items) => .list (items.map inner)
      | some (.pairs items) => .list (items.map fun (a, b) => .tuple [inner a, inner b])
      | some (.set items) => .set items
      | some (.table entries) => .table (entries.map fun (key, value) => (key, inner value))
      | none => .null

/-- How deep a looped value can be opened. -/
def loopDepth : Nat := 1000

def Document.setting (d : Document) : Except ValueFault Setting := do
  let (cells, root) ← d.values
  let (answer, known) := (explore cells (cells.size + 1) root).run (Array.replicate cells.size none)
  match answer, root with
  | some value, _ => return value
  | none, .shared id => return loopedAt cells known loopDepth id
  | none, .plain value => return value

/-- The value that a text describes; an empty text describes none. -/
def read (supply : Text.Supply) : Except ValueFault (Option Setting) :=
  match documentOf supply with
  | .error (.undecodable refusal) => .error (.undecodable refusal)
  | .error .tooDeep => .error .tooDeep
  | .error .characterTooLarge => .error (.scalar .characterTooLarge)
  | .error .codeTooLarge => .error (.scalar .codeTooLarge)
  | .error (.versionTooLong digits) => .error (.integer (.tooManyDigits digits))
  | .error _ => .error .malformed
  | .ok none => .ok none
  | .ok (some d) => d.setting.map some

end BundleForge.Yaml
