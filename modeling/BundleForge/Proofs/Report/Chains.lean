import BundleForge.Proofs.Report.Ranking

/-!
The chains of a report. Main statement: with chains asked for, a report is the one without them, with the chain of each
input below its row; a chain goes from a module to the first one that imports it, for as long as there is one that it
has not met.
-/

namespace BundleForge.Report

/-- A module of a bundle with what it imports, in order. -/
structure Source where
  path : String
  imports : List String

/-- A module imports another. The empty text names no module. -/
def Source.Imports (source : Source) (path : String) : Prop := path ≠ "" ∧ path ∈ source.imports

instance (source : Source) (path : String) : Decidable (source.Imports path) :=
  inferInstanceAs (Decidable (path ≠ "" ∧ path ∈ source.imports))

/-- The first module that imports another. -/
def firstImporter? (sources : List Source) (path : String) : Option String :=
  (sources.find? fun source => source.Imports path).map Source.path

/-- The chain of a module: its first importer, the first importer of that one, and so on, each of them once. It ends
where no module imports the last one, or where the first that does is the module itself or in the chain. -/
structure IsChain (sources : List Source) (start : String) (chain : List String) : Prop where
  steps : List.IsChain (fun path importer => firstImporter? sources path = some importer) (start :: chain)
  distinct : (start :: chain).Nodup
  ends : ∀ importer, firstImporter? sources ((start :: chain).getLast (List.cons_ne_nil start chain)) = some importer →
    importer ∈ start :: chain

/-- The items of a member of an object; there are none where it is missing or empty. -/
def itemsIn (name : String) (value : Json) : Except Misfit (List Json) := do
  match ← value.getPresent name with
  | some inner => inner.iterate
  | none => pure []

/-- An entry of the inputs tells of a module: the path in each of its imports is a text. -/
def TellsSource (entry : String × Json) (source : Source) : Prop :=
  entry.1 = source.path ∧ ∃ items, itemsIn "imports" entry.2 = .ok items ∧
    List.Forall₂ (fun item path => item.get "path" = .ok (some (.str path))) items source.imports

/-- A metafile tells of modules, in their order. -/
def TellsSources (metafile : Json) (sources : List Source) : Prop :=
  ∃ entries, membersIn "inputs" metafile = .ok entries ∧ List.Forall₂ TellsSource entries sources

/-- Credits everything that a module imports. -/
def Importers.creditAll (importers : Importers) (source : Source) : Importers :=
  source.imports.foldl (fun credited path => if path = "" then credited else credited.credit path source.path) importers

theorem creditEntry_of_path {item : Json} {path : String} (h : item.get "path" = .ok (some (.str path)))
    (importer : String) (importers : Importers) :
    creditEntry importer importers item = .ok (if path = "" then importers else importers.credit path importer) := by
  have present : item.getPresent "path" = .ok (if path = "" then none else some (.str path)) := by
    simp only [Json.getPresent, h, Except.map, Option.bind_some, Json.present?, Json.isPresent]
    by_cases empty : path = "" <;> simp [empty]
  rw [creditEntry, present]
  by_cases empty : path = "" <;> simp [empty, bind, Except.bind, pure, Except.pure]

theorem creditModule_of_tells {entry : String × Json} {source : Source} (told : TellsSource entry source)
    (importers : Importers) : creditModule importers entry = .ok (importers.creditAll source) := by
  obtain ⟨named, items, listed, paths⟩ := told
  have opened : creditModule importers entry =
      itemsIn "imports" entry.2 >>= fun items => items.foldlM (creditEntry entry.1) importers := by
    unfold creditModule itemsIn
    cases entry.2.getPresent "imports" with
    | error misfit => rfl
    | ok found => cases found <;> rfl
  rw [opened, listed, named]
  exact foldlM_eq_of_matched paths (fun importers item path told => creditEntry_of_path told _ importers) importers

theorem importersOf_of_tells {metafile : Json} {sources : List Source} (told : TellsSources metafile sources) :
    importersOf metafile = .ok (sources.foldl Importers.creditAll []) := by
  obtain ⟨entries, listed, told⟩ := told
  have opened : importersOf metafile =
      membersIn "inputs" metafile >>= fun entries => entries.foldlM creditModule [] := by
    unfold importersOf membersIn
    cases metafile.getPresent "inputs" with
    | error misfit => rfl
    | ok found => cases found <;> rfl
  rw [opened, listed]
  exact foldlM_eq_of_matched told (fun importers entry source told => creditModule_of_tells told importers) []

theorem lookup_credit (importers : Importers) (path importer q : String) :
    (importers.credit path importer).lookup q = (importers.lookup q).or (if q = path then some importer else none) := by
  unfold Importers.credit
  by_cases credited : (importers.lookup path).isSome
  · rw [if_pos credited]
    by_cases same : q = path
    · obtain ⟨first, found⟩ := Option.isSome_iff_exists.mp credited
      rw [same, found, Option.some_or]
    · simp [same]
  · rw [if_neg credited, List.lookup_append]
    by_cases same : q = path
    · simp [same]
    · simp [same, List.lookup_cons, beq_false_of_ne same]

theorem lookup_creditAll (importers : Importers) (source : Source) (q : String) :
    (importers.creditAll source).lookup q =
      (importers.lookup q).or (if source.Imports q then some source.path else none) := by
  obtain ⟨path, imports⟩ := source
  unfold Importers.creditAll Source.Imports
  dsimp only
  induction imports generalizing importers with
  | nil => simp
  | cons first rest ih =>
    rw [List.foldl_cons, ih]
    by_cases empty : first = ""
    · by_cases none : q = "" <;> simp [empty, none]
    · rw [if_neg empty, lookup_credit, Option.or_assoc]
      congr 1
      by_cases same : q = first
      · simp [same, empty]
      · rw [if_neg same, Option.none_or]
        exact if_congr (by simp [same]) rfl rfl

/-- The credit for a module goes to the first one that imports it. -/
theorem lookup_foldl_creditAll (sources : List Source) (importers : Importers) (q : String) :
    (sources.foldl Importers.creditAll importers).lookup q = (importers.lookup q).or (firstImporter? sources q) := by
  induction sources generalizing importers with
  | nil => simp [firstImporter?]
  | cons source rest ih =>
    rw [List.foldl_cons, ih, lookup_creditAll, Option.or_assoc]
    congr 1
    by_cases first : source.Imports q <;> simp [firstImporter?, first]

/-- A chain that goes on from a module where some modules are met already. -/
structure GoesOn (next : String → Option String) (met : List String) (start : String) (chain : List String) : Prop where
  steps : List.IsChain (fun path importer => next path = some importer) (start :: chain)
  distinct : chain.Nodup
  fresh : ∀ path ∈ chain, path ∉ met
  ends : ∀ importer, next ((start :: chain).getLast (List.cons_ne_nil start chain)) = some importer →
    importer ∈ met ∨ importer ∈ chain

theorem isChain_iff {sources : List Source} {start : String} {chain : List String} :
    IsChain sources start chain ↔ GoesOn (firstImporter? sources) [start] start chain := by
  constructor
  · rintro ⟨steps, distinct, ends⟩
    rw [List.nodup_cons] at distinct
    refine ⟨steps, distinct.2, fun path among met => ?_, fun importer next => by simpa using ends importer next⟩
    exact distinct.1 (List.mem_singleton.mp met ▸ among)
  · rintro ⟨steps, distinct, fresh, ends⟩
    refine ⟨steps, ?_, fun importer next => by simpa using ends importer next⟩
    exact List.nodup_cons.mpr ⟨fun among => fresh start among List.mem_cons_self, distinct⟩

namespace GoesOn

variable {next : String → Option String} {met : List String} {start importer : String} {chain others : List String}

theorem nil (done : ∀ importer, next start = some importer → importer ∈ met) : GoesOn next met start [] :=
  ⟨.singleton start, List.nodup_nil, by simp, fun importer step => .inl (done importer step)⟩

theorem cons (step : next start = some importer) (unmet : importer ∉ met)
    (rest : GoesOn next (importer :: met) importer chain) : GoesOn next met start (importer :: chain) where
  steps := List.isChain_cons_cons.mpr ⟨step, rest.steps⟩
  distinct := List.nodup_cons.mpr ⟨fun among => rest.fresh importer among List.mem_cons_self, rest.distinct⟩
  fresh := List.forall_mem_cons.mpr
    ⟨unmet, fun path among before => rest.fresh path among (List.mem_cons_of_mem _ before)⟩
  ends after next := by
    rw [List.getLast_cons_cons] at next
    obtain met | later := rest.ends after next
    · exact (List.mem_cons.mp met).elim (fun same => .inr (same ▸ List.mem_cons_self)) .inl
    · exact .inr (List.mem_cons_of_mem _ later)

/-- What follows the first step goes on from it. -/
theorem tail (h : GoesOn next met start (importer :: chain)) :
    next start = some importer ∧ importer ∉ met ∧ GoesOn next (importer :: met) importer chain := by
  obtain ⟨steps, distinct, fresh, ends⟩ := h
  rw [List.isChain_cons_cons] at steps
  rw [List.nodup_cons] at distinct
  rw [List.forall_mem_cons] at fresh
  refine ⟨steps.1, fresh.1, steps.2, distinct.2, fun path among before => ?_, fun after next => ?_⟩
  · rcases List.mem_cons.mp before with rfl | before
    · exact distinct.1 among
    · exact fresh.2 path among before
  · obtain met | among := ends after (by rwa [List.getLast_cons_cons])
    · exact .inl (List.mem_cons_of_mem _ met)
    · exact (List.mem_cons.mp among).elim (fun same => .inl (same ▸ List.mem_cons_self)) .inr

/-- No chain ends where another one goes on. -/
theorem unique (h : GoesOn next met start chain) (h' : GoesOn next met start others) : chain = others := by
  induction chain generalizing met start others with
  | nil =>
    cases others with
    | nil => rfl
    | cons first rest =>
      obtain ⟨step, unmet, -⟩ := h'.tail
      exact absurd ((h.ends first step).resolve_right List.not_mem_nil) unmet
  | cons first rest ih =>
    obtain ⟨step, unmet, onward⟩ := h.tail
    cases others with
    | nil => exact absurd ((h'.ends first step).resolve_right List.not_mem_nil) unmet
    | cons first' rest' =>
      obtain ⟨step', -, onward'⟩ := h'.tail
      obtain rfl : first = first' := Option.some.inj (step.symm.trans step')
      rw [ih onward onward']

end GoesOn

/-- Each step meets one of the importers, so that there is room for the chain: the importers not met grow fewer. -/
theorem chainFrom_goesOn {importers : Importers} (named : ∀ path, importers.lookup path ≠ some "") {fuel : Nat}
    {met : List String} (room : ((importers.map Prod.snd).filter (· ∉ met)).length < fuel) (start : String) :
    GoesOn (importers.lookup ·) met start (chainFrom importers fuel met start) := by
  induction fuel generalizing met start with
  | zero => exact absurd room (Nat.not_lt_zero _)
  | succ fuel ih =>
    rw [chainFrom]
    cases step : importers.lookup start with
    | none => exact .nil fun importer found => by rw [step] at found; cases found
    | some importer =>
      dsimp only
      have there : importer ≠ "" := fun empty => named start (empty ▸ step)
      by_cases before : importer ∈ met
      · rw [if_pos (by simp [before])]
        exact .nil fun other found => Option.some.inj (step.symm.trans found) ▸ before
      · rw [if_neg (by simp [there, before])]
        refine .cons step before (ih (Nat.lt_of_lt_of_le ?_ (Nat.le_of_lt_succ room)) importer)
        have among : importer ∈ (importers.map Prod.snd).filter (· ∉ met) := by
          obtain ⟨front, rest, split, -⟩ := List.lookup_eq_some_iff.mp step
          exact List.mem_filter.mpr ⟨by simp [split], by simpa using before⟩
        have fewer : (importers.map Prod.snd).filter (· ∉ importer :: met) =
            ((importers.map Prod.snd).filter (· ∉ met)).filter (· ≠ importer) := by
          rw [List.filter_filter]
          exact List.filter_congr fun path _ => by simp [not_or]
        rw [fewer]
        exact List.length_filter_lt_length_iff_exists.mpr ⟨importer, among, by simp⟩

theorem isChain_importChain_iff {importers : Importers} {sources : List Source}
    (credited : ∀ path, importers.lookup path = firstImporter? sources path) (named : ∀ s ∈ sources, s.path ≠ "")
    {start : String} {chain : List String} :
    IsChain sources start chain ↔ chain = importChain importers start := by
  have next : (importers.lookup ·) = firstImporter? sources := funext credited
  have texts (path : String) : importers.lookup path ≠ some "" := by
    rw [credited]
    intro empty
    obtain ⟨source, found, same⟩ := Option.map_eq_some_iff.mp empty
    exact named source (List.mem_of_find?_eq_some found) same
  have room : ((importers.map Prod.snd).filter (· ∉ [start])).length < importers.length + 1 := by
    refine Nat.lt_succ_of_le (Nat.le_trans (List.length_filter_le ..) ?_)
    rw [List.length_map]
  have made := chainFrom_goesOn texts room start
  rw [isChain_iff, ← next]
  constructor
  · exact fun h => h.unique made
  · rintro rfl
    exact made

/-- A row of a report without chains, and the input that it shows where it shows one. -/
structure Entry where
  row : Row
  input : Option String

def Entry.withChain (chainOf : String → List String) (e : Entry) : Row :=
  { e.row with chain := e.input.elim [] chainOf }

/-- The label of an input names it after a branch. -/
def Entry.IsLabelled (e : Entry) : Prop :=
  ∀ path, e.input = some path → ∃ glyph ∈ ["├", "└"], e.row.label = " " ++ glyph ++ " " ++ path

/-- Entries whose rows come out for any importers, each input with its chain. -/
structure ComesTo (rowsWith : Importers → Except Misfit (List Row)) (inputs : List String) (entries : List Entry) :
    Prop where
  inputs : entries.filterMap Entry.input = inputs
  labelled : ∀ e ∈ entries, e.IsLabelled
  rows : ∀ importers, rowsWith importers = .ok (entries.map (Entry.withChain (importChain importers)))

/-- The inputs that a report shows, in its order. -/
def shownInputs (metafile : Json) : Except Misfit (List String) := do
  let outputs ← sortedBy "bytes" (← membersIn "outputs" metafile)
  let inputs ← outputs.mapM fun output => do sortedBy "bytesInOutput" (← membersIn "inputs" output.2.2)
  return inputs.flatten.map fun input => input.2.1

theorem comesTo_inputRows {total : Int} {inputs : List (Int × String × Json)} {rows : List Row}
    (plain : inputRows [] total inputs = .ok rows) :
    ∃ entries, ComesTo (inputRows · total inputs) (inputs.map fun input => input.2.1) entries := by
  induction inputs generalizing rows with
  | nil => exact ⟨[], rfl, by simp, fun _ => rfl⟩
  | cons input rest ih =>
    obtain ⟨size, path, _⟩ := input
    simp only [inputRows, bind_eq_ok] at plain
    obtain ⟨part, shared, written, sized, others, made, -⟩ := plain
    obtain ⟨entries, inputs, labelled, rows⟩ := ih made
    let glyph := if rest.isEmpty then "└" else "├"
    refine ⟨⟨⟨" " ++ glyph ++ " " ++ path, written, part, []⟩, some path⟩ :: entries, ?_, ?_, fun importers => ?_⟩
    · simp [inputs]
    · refine List.forall_mem_cons.mpr ⟨fun _ same => ?_, labelled⟩
      cases same
      exact ⟨glyph, by simp only [glyph]; split <;> simp, rfl⟩
    · simp only [inputRows, shared, sized, rows importers, bind, Except.bind]
      rfl

theorem outputRows_eq (importers : Importers) (total : Int) (path : String) (value : Json) :
    outputRows importers (total, path, value) = do
      let size ← formatSize total
      let inputs ← sortedBy "bytesInOutput" (← membersIn "inputs" value)
      let rows ← inputRows importers total inputs
      return ⟨path, size, "100.0%", []⟩ :: rows := by
  simp only [outputRows, membersIn]
  congr! 1
  cases value.getPresent "inputs" with
  | error misfit => rfl
  | ok found => cases found <;> rfl

theorem comesTo_outputRows {output : Int × String × Json} {rows : List Row}
    (plain : outputRows [] output = .ok rows) :
    ∃ inputs entries, (membersIn "inputs" output.2.2 >>= sortedBy "bytesInOutput") = .ok inputs ∧
      ComesTo (outputRows · output) (inputs.map fun input => input.2.1) entries := by
  obtain ⟨total, path, value⟩ := output
  simp only [outputRows_eq, bind_eq_ok] at plain
  obtain ⟨size, written, members, listed, inputs, order, branch, made, -⟩ := plain
  obtain ⟨entries, shown, labelled, rows⟩ := comesTo_inputRows made
  refine ⟨inputs, ⟨⟨path, size, "100.0%", []⟩, none⟩ :: entries, bind_eq_ok.mpr ⟨members, listed, order⟩,
    by simp [shown], List.forall_mem_cons.mpr ⟨nofun, labelled⟩, fun importers => ?_⟩
  simp only [outputRows_eq, written, listed, order, rows importers, bind, Except.bind]
  rfl

theorem comesTo_mapM {outputs : List (Int × String × Json)} {blocks : List (List Row)}
    (plain : outputs.mapM (outputRows []) = .ok blocks) :
    ∃ inputs entries,
      (outputs.mapM fun output => membersIn "inputs" output.2.2 >>= sortedBy "bytesInOutput") = .ok inputs ∧
      ComesTo (fun importers => (outputs.mapM (outputRows importers)).map List.flatten)
        (inputs.flatten.map fun input => input.2.1) entries := by
  induction outputs generalizing blocks with
  | nil => exact ⟨[], [], rfl, rfl, by simp, fun _ => rfl⟩
  | cons output rest ih =>
    simp only [List.mapM_cons, bind_eq_ok] at plain
    obtain ⟨block, first, others, made, -⟩ := plain
    obtain ⟨inputs, entries, order, shown, labelled, rows⟩ := comesTo_outputRows first
    obtain ⟨inputs', entries', order', shown', labelled', rows'⟩ := ih made
    refine ⟨inputs :: inputs', entries ++ entries', ?_, ?_, ?_, fun importers => ?_⟩
    · rw [List.mapM_cons, order, order']
      rfl
    · simp [shown, shown']
    · exact List.forall_mem_append.mpr ⟨labelled, labelled'⟩
    · obtain ⟨blocks, made, flat⟩ := map_eq_ok.mp (rows' importers)
      rw [List.mapM_cons, rows importers, made, List.map_append, ← flat]
      rfl

theorem rowsOf_eq {verbose : Bool} {metafile : Json} {importers : Importers}
    (known : (if verbose then importersOf metafile else pure []) = .ok importers) :
    rowsOf verbose metafile = (membersIn "outputs" metafile >>= sortedBy "bytes") >>= fun outputs =>
      (outputs.mapM (outputRows importers)).map List.flatten := by
  have opened : rowsOf verbose metafile = metafile.getPresent "outputs" >>= fun outputs =>
      (if verbose then importersOf metafile else pure []) >>= fun importers =>
        (outputs.elim (pure []) Json.entries >>= sortedBy "bytes") >>= fun outputs =>
          (outputs.mapM (outputRows importers)).map List.flatten := by
    unfold rowsOf
    congr! 2 with outputs
    cases verbose <;> cases outputs <;> simp only [bind_assoc, Option.elim] <;> rfl
  rw [opened, known]
  unfold membersIn
  cases metafile.getPresent "outputs" with
  | error misfit => rfl
  | ok found => cases found <;> rfl

/-- The rows of a metafile come out with chains where they do without and the importers are known. -/
theorem comesTo_rowsOf {metafile : Json} {rows : List Row} (plain : rowsOf false metafile = .ok rows) :
    ∃ inputs entries, shownInputs metafile = .ok inputs ∧ ComesTo (fun importers =>
      (membersIn "outputs" metafile >>= sortedBy "bytes") >>= fun outputs =>
        (outputs.mapM (outputRows importers)).map List.flatten) inputs entries := by
  rw [rowsOf_eq rfl, bind_eq_ok] at plain
  obtain ⟨outputs, order, made⟩ := plain
  obtain ⟨blocks, made, -⟩ := map_eq_ok.mp made
  obtain ⟨inputs, entries, order', comes⟩ := comesTo_mapM made
  refine ⟨_, entries, ?_, comes.inputs, comes.labelled, fun importers => ?_⟩
  · obtain ⟨members, listed, sorted⟩ := bind_eq_ok.mp order
    exact bind_eq_ok.mpr ⟨members, listed, bind_eq_ok.mpr ⟨outputs, sorted, bind_eq_ok.mpr ⟨inputs, order', rfl⟩⟩⟩
  · rw [order]
    exact comes.rows importers

/-- A line of a report, and the input whose row it is where it is one. -/
structure Line where
  text : String
  input : Option String

/-- A line and below it the chain of its input, one line for each module. -/
def Line.followed (chainOf : String → List String) (l : Line) : List String :=
  l.text :: (l.input.elim [] chainOf).mapIdx fun depth importer => "  " ++ spaces (3 + depth * 2) ++ "└ " ++ importer

theorem chainLines_eq (depth : Nat) (chain : List String) :
    chainLines depth chain =
      chain.mapIdx fun below importer => "  " ++ spaces (3 + (depth + below) * 2) ++ "└ " ++ importer := by
  induction chain generalizing depth with
  | nil => rfl
  | cons importer rest ih =>
    rw [chainLines, ih, List.mapIdx_cons]
    simp only [Nat.add_zero, Nat.add_assoc, Nat.add_comm 1]

/-- The lines of entries. An empty line comes before each block but the first. -/
def linesOf (w : Widths) (first : Bool) : List Entry → List Line
  | [] => []
  | e :: rest =>
    (if startsBlock e.row && !first then [⟨"", none⟩] else []) ++ ⟨rowLine w e.row, e.input⟩ :: linesOf w false rest

/-- All lines of a report; no entries have none. -/
def page (entries : List Entry) : List Line :=
  if entries.isEmpty then []
  else [⟨"", none⟩] ++ linesOf (widthsOf (entries.map Entry.row)) true entries ++ [⟨"", none⟩]

theorem rowLines_withChain (chainOf : String → List String) (w : Widths) (first : Bool) (entries : List Entry) :
    rowLines w first (entries.map (Entry.withChain chainOf)) =
      (linesOf w first entries).flatMap (Line.followed chainOf) := by
  induction entries generalizing first with
  | nil => rfl
  | cons e rest ih =>
    have alike : startsBlock (e.withChain chainOf) = startsBlock e.row := rfl
    rw [List.map_cons, rowLines, linesOf, ih, alike, chainLines_eq, List.flatMap_append, List.flatMap_cons]
    simp only [Line.followed, Nat.zero_add]
    split <;> rfl

theorem layOut_withChain (chainOf : String → List String) (entries : List Entry) :
    layOut (entries.map (Entry.withChain chainOf)) =
      "\n".intercalate ((page entries).flatMap (Line.followed chainOf)) := by
  have widths : widthsOf (entries.map (Entry.withChain chainOf)) = widthsOf (entries.map Entry.row) := by
    simp only [widthsOf, List.map_map]
    rfl
  rw [layOut, page, widths, rowLines_withChain]
  cases entries with
  | nil => rfl
  | cons => simp [Line.followed]

theorem layOut_plain (entries : List Entry) :
    layOut (entries.map (Entry.withChain fun _ => [])) = "\n".intercalate ((page entries).map Line.text) := by
  have alone : Line.followed (fun _ => []) = fun l => [l.text] := by
    funext l
    cases input : l.input <;> simp [Line.followed, input]
  rw [layOut_withChain, alone, ← List.map_eq_flatMap]

theorem inputs_linesOf (w : Widths) (first : Bool) (entries : List Entry) :
    (linesOf w first entries).filterMap Line.input = entries.filterMap Entry.input := by
  induction entries generalizing first with
  | nil => rfl
  | cons e rest ih =>
    rw [linesOf, List.filterMap_append, List.filterMap_cons, List.filterMap_cons, ih]
    split <;> rfl

theorem inputs_page (entries : List Entry) : (page entries).filterMap Line.input = entries.filterMap Entry.input := by
  unfold page
  cases entries with
  | nil => rfl
  | cons => simp [inputs_linesOf]

/-- The row of an input names it after a branch. -/
def Line.IsLabelled (l : Line) : Prop :=
  ∀ path, l.input = some path → ∃ glyph ∈ ["├", "└"], ("   " ++ glyph ++ " " ++ path).toList <+: l.text.toList

theorem isLabelled_linesOf {w : Widths} {first : Bool} {entries : List Entry} (labelled : ∀ e ∈ entries, e.IsLabelled) :
    ∀ l ∈ linesOf w first entries, l.IsLabelled := by
  induction entries generalizing first with
  | nil => simp [linesOf]
  | cons e rest ih =>
    rw [List.forall_mem_cons] at labelled
    rw [linesOf, List.forall_mem_append, List.forall_mem_cons]
    refine ⟨by split <;> simp [Line.IsLabelled], fun path shown => ?_, ih labelled.2⟩
    obtain ⟨glyph, known, label⟩ := labelled.1 path shown
    refine ⟨glyph, known, ?_⟩
    have start : "   " = "  " ++ " " := rfl
    rw [start, rowLine, label, Text.padRight]
    simp only [String.toList_append, List.append_assoc, List.prefix_append_right_inj, List.prefix_append]

theorem isLabelled_page {entries : List Entry} (labelled : ∀ e ∈ entries, e.IsLabelled) :
    ∀ l ∈ page entries, l.IsLabelled := by
  unfold page
  cases entries with
  | nil => simp
  | cons e rest =>
    rw [List.isEmpty_cons, if_neg Bool.false_ne_true, List.forall_mem_append, List.forall_mem_append]
    have blank : ∀ l ∈ [(⟨"", none⟩ : Line)], l.IsLabelled := List.forall_mem_singleton.mpr nofun
    exact ⟨⟨blank, isLabelled_linesOf labelled⟩, blank⟩

variable {metafile : Json} {sources : List Source} {text : String}

/-- A report with chains is the one without them, and below the row of each input stands its chain. -/
theorem render_chains (plain : render false metafile = .ok text) (told : TellsSources metafile sources)
    (named : ∀ s ∈ sources, s.path ≠ "") :
    ∃ (lines : List Line) (chainOf : String → List String),
      text = "\n".intercalate (lines.map Line.text) ∧
      shownInputs metafile = .ok (lines.filterMap Line.input) ∧ (∀ l ∈ lines, l.IsLabelled) ∧
      render true metafile = .ok ("\n".intercalate (lines.flatMap (Line.followed chainOf))) ∧
      ∀ path chain, IsChain sources path chain ↔ chain = chainOf path := by
  obtain ⟨rows, made, rfl⟩ := map_eq_ok.mp plain
  obtain ⟨inputs, entries, shown, comes⟩ := comesTo_rowsOf made
  have known := importersOf_of_tells told
  have unchained : rows = entries.map (Entry.withChain fun _ => []) :=
    Except.ok.inj (made.symm.trans ((rowsOf_eq rfl).trans (comes.rows [])))
  refine ⟨page entries, importChain (sources.foldl Importers.creditAll []), ?_, ?_, isLabelled_page comes.labelled, ?_,
    fun path chain => isChain_importChain_iff (fun path => ?_) named⟩
  · rw [unchained, layOut_plain]
  · rw [shown, inputs_page, comes.inputs]
  · rw [render, rowsOf_eq ((if_pos rfl).trans known), comes.rows, Except.map, layOut_withChain]
  · simp [lookup_foldl_creditAll]

/-- Two modules that import each other, the second of which imports itself as well. -/
theorem render_chains_cycle :
    let metafile : Json := .obj [
      ("outputs", .obj [("o.js", .obj [("bytes", .int 10), ("inputs", .obj [
        ("b.ts", .obj [("bytesInOutput", .int 4)]), ("a.ts", .obj [("bytesInOutput", .int 6)])])])]),
      ("inputs", .obj [
        ("a.ts", .obj [("imports", .arr [.obj [("path", .str "b.ts")]])]),
        ("b.ts", .obj [("imports", .arr [.obj [("path", .str "b.ts")], .obj [("path", .str "a.ts")]])])])]
    let sources : List Source := [⟨"a.ts", ["b.ts"]⟩, ⟨"b.ts", ["b.ts", "a.ts"]⟩]
    ∃ text, render false metafile = .ok text ∧ TellsSources metafile sources ∧ (∀ s ∈ sources, s.path ≠ "") ∧
      ∃ (lines : List Line) (chainOf : String → List String),
        text = "\n".intercalate (lines.map Line.text) ∧
        shownInputs metafile = .ok (lines.filterMap Line.input) ∧ (∀ l ∈ lines, l.IsLabelled) ∧
        render true metafile = .ok ("\n".intercalate (lines.flatMap (Line.followed chainOf))) ∧
        (∀ path chain, IsChain sources path chain ↔ chain = chainOf path) ∧ ["b.ts"] = chainOf "a.ts" := by
  intro metafile sources
  have outputs : Tells metafile [⟨"o.js", 10, [("b.ts", 4), ("a.ts", 6)]⟩] :=
    ⟨_, rfl, .cons ⟨rfl, ⟨_, rfl, rfl⟩, _, rfl, .cons ⟨rfl, _, rfl, rfl⟩ (.cons ⟨rfl, _, rfl, rfl⟩ .nil)⟩ .nil⟩
  have regular : ∀ o ∈ [(⟨"o.js", 10, [("b.ts", 4), ("a.ts", 6)]⟩ : Output)], o.IsRegular :=
    List.forall_mem_singleton.mpr ⟨by decide, by decide, by decide, by decide⟩
  obtain ⟨page, blocks, -, -, -, made⟩ := exists_page outputs (by decide) regular
  have told : TellsSources metafile sources := by
    refine ⟨_, rfl, .cons ⟨rfl, _, rfl, .cons rfl .nil⟩ (.cons ⟨rfl, _, rfl, .cons rfl (.cons rfl .nil)⟩ .nil)⟩
  have named : ∀ s ∈ sources, s.path ≠ "" := by decide
  have plain : render false metafile = .ok (layOut blocks.flatten) := by rw [render, made, Except.map]
  obtain ⟨lines, chainOf, laid, shown, labelled, chained, chains⟩ := render_chains plain told named
  have chain : IsChain sources "a.ts" ["b.ts"] := by
    refine ⟨by decide, by decide, fun importer next => ?_⟩
    have first : firstImporter? sources "b.ts" = some "a.ts" := by decide
    cases first.symm.trans next
    exact List.mem_cons_self
  exact ⟨_, plain, told, named, lines, chainOf, laid, shown, labelled, chained, chains, (chains _ _).mp chain⟩

end BundleForge.Report
