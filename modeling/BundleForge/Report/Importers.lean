import BundleForge.Json.Access

/-!
Who imports whom. Each module is credited to the first module that imports it, and a chain follows
these credits until it runs out or would meet a module again.
-/

namespace BundleForge.Report

/-- Each module with the first module that imports it. -/
abbrev Importers := List (String × String)

/-- Credits a module to an importer unless it is credited already. -/
def Importers.credit (importers : Importers) (module_ importer : String) : Importers :=
  if (importers.lookup module_).isSome then importers else importers ++ [(module_, importer)]

/-- Credits what one import entry names. Only texts name modules; a container can be no name. -/
def creditEntry (importer : String) (importers : Importers) (entry : Json) :
    Except Misfit Importers := do
  match ← entry.getPresent "path" with
  | some (.str module_) => return importers.credit module_ importer
  | some (.arr _) => throw (.notKey "list")
  | some (.obj _) => throw (.notKey "dict")
  | _ => return importers

/-- Credits what one module imports. -/
def creditModule (importers : Importers) (module_ : String × Json) : Except Misfit Importers := do
  match ← module_.2.getPresent "imports" with
  | none => return importers
  | some imports =>
    let imports ← imports.iterate
    imports.foldlM (creditEntry module_.1) importers

/-- The importers of every module of a metafile. -/
def importersOf (metafile : Json) : Except Misfit Importers := do
  match ← metafile.getPresent "inputs" with
  | none => return []
  | some inputs =>
    let modules ← inputs.entries
    modules.foldlM creditModule []

/-- The chain from a module on, given the modules already met. -/
def chainFrom (importers : Importers) (fuel : Nat) (met : List String) (module_ : String) :
    List String :=
  match fuel with
  | 0 => []
  | fuel + 1 =>
    match importers.lookup module_ with
    | none => []
    | some importer =>
      if importer = "" || importer ∈ met then []
      else importer :: chainFrom importers fuel (importer :: met) importer

/-- The modules through which a module was imported, nearest first. -/
def importChain (importers : Importers) (module_ : String) : List String :=
  chainFrom importers (importers.length + 1) [module_] module_

theorem chainFrom_of_not_imported {importers : Importers} {module_ : String}
    (h : importers.lookup module_ = none) (fuel : Nat) (met : List String) :
    chainFrom importers fuel met module_ = [] := by
  cases fuel <;> simp [chainFrom, h]

end BundleForge.Report
