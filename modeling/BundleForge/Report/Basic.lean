import BundleForge.Report.Importers
import BundleForge.Report.Size
import BundleForge.Text.Blank

/-!
The size report of a bundle: a row for each output, largest first, and under it a row for each input
with its share. With the chains asked for, each input row is followed by the modules through which
it was imported.
-/

namespace BundleForge.Report

/-- One row: its label, its size, its share, and the chain of importers below it. -/
structure Row where
  label : String
  size : String
  share : String
  chain : List String
deriving DecidableEq, Repr

/-- A name with the number of bytes that stands in a member of its value; none stands for zero. -/
def weigh (member : String) (entry : String × Json) : Except Misfit (Int × String × Json) := do
  let bytes ← ((← entry.2.get member).getD (.int 0)).toInteger
  return (bytes, entry)

/-- The larger first; equally large ones in the order of their names. -/
def heavier (a b : Int × String × Json) : Bool :=
  b.1 < a.1 || (a.1 = b.1 && a.2.1 ≤ b.2.1)

/-- Entries by decreasing weight. -/
def sortedBy (member : String) (entries : List (String × Json)) :
    Except Misfit (List (Int × String × Json)) :=
  (entries.mapM (weigh member)).map fun weighed => weighed.mergeSort heavier

/-- The share of a part in a whole, in percent. Nothing has no share in it. -/
def share (size total : Int) : Except Misfit String :=
  if total = 0 then .ok "0.0%"
  else (quotient size total).map fun x => (x.mul (Binary64.ofInt 100)).fixed 1 ++ "%"

/-- The rows of the inputs of one output; the last one closes the branch. -/
def inputRows (importers : Importers) (total : Int) :
    List (Int × String × Json) → Except Misfit (List Row)
  | [] => .ok []
  | (size, path, _) :: rest => do
    let part ← share size total
    let sizeText ← formatSize size
    let glyph := if rest.isEmpty then "└" else "├"
    let row : Row := ⟨" " ++ glyph ++ " " ++ path, sizeText, part, importChain importers path⟩
    let others ← inputRows importers total rest
    return row :: others

/-- The rows of one output and its inputs. -/
def outputRows (importers : Importers) (output : Int × String × Json) : Except Misfit (List Row) := do
  let (total, path, value) := output
  let sizeText ← formatSize total
  let inputs ←
    match ← value.getPresent "inputs" with
    | some inputs => inputs.entries
    | none => pure []
  let inputs ← sortedBy "bytesInOutput" inputs
  let rows ← inputRows importers total inputs
  return ⟨path, sizeText, "100.0%", []⟩ :: rows

/-- All rows of a metafile, block by block. -/
def rowsOf (verbose : Bool) (metafile : Json) : Except Misfit (List Row) := do
  let outputs ← metafile.getPresent "outputs"
  let importers ← if verbose then importersOf metafile else pure []
  let outputs ←
    match outputs with
    | some outputs => outputs.entries
    | none => pure []
  let outputs ← sortedBy "bytes" outputs
  let blocks ← outputs.mapM (outputRows importers)
  return blocks.flatten

def spaces (n : Nat) : String := String.ofList (List.replicate n ' ')

/-- The lines of a chain, each further in than the one before. -/
def chainLines (depth : Nat) : List String → List String
  | [] => []
  | importer :: rest =>
    ("  " ++ spaces (3 + depth * 2) ++ "└ " ++ importer) :: chainLines (depth + 1) rest

/-- The widths of the columns of labels and sizes. -/
structure Widths where
  label : Nat
  size : Nat

def widthsOf (rows : List Row) : Widths :=
  ⟨(rows.map fun r => r.label.length).foldl max 0, (rows.map fun r => r.size.length).foldl max 0⟩

def rowLine (w : Widths) (r : Row) : String :=
  "  " ++ Text.padRight r.label w.label ++ "  " ++ Text.padLeft r.size w.size ++ "  " ++
    Text.padLeft r.share 6

/-- Whether a row starts a block of its own. -/
def startsBlock (r : Row) : Bool := r.label.toList.head? != some ' '

/-- The lines of rows. An empty line comes before each block but the first. -/
def rowLines (w : Widths) (first : Bool) : List Row → List String
  | [] => []
  | r :: rest =>
    (if startsBlock r && !first then [""] else []) ++ rowLine w r :: chainLines 0 r.chain ++
      rowLines w false rest

/-- The text of rows, with an empty line on either side; no rows have no text. -/
def layOut (rows : List Row) : String :=
  if rows.isEmpty then ""
  else "\n".intercalate ([""] ++ rowLines (widthsOf rows) true rows ++ [""])

/-- The report of a metafile. -/
def render (verbose : Bool) (metafile : Json) : Except Misfit String :=
  (rowsOf verbose metafile).map layOut

theorem layOut_nil : layOut [] = "" := rfl

end BundleForge.Report
