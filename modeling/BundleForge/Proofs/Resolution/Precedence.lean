import BundleForge.Resolution.Policy
import Mathlib.Data.List.Infix
import Mathlib.Tactic.Common

/-!
Which rule decides an import. Main statement: the first rule that fits decides, and then nothing else in
the request and no file counts; an import that no rule fits is looked up, and what is found counts the
same whether it comes with the request or not.
-/

namespace BundleForge

theorem Text.occursIn_iff (needle cs : List Char) : occursIn needle cs = true ↔ needle <:+: cs := by
  induction cs with
  | nil => simp [occursIn]
  | cons c cs ih => simp only [occursIn, Bool.or_eq_true, ih, List.isPrefixOf_iff_prefix, List.infix_cons_iff]

namespace Resolution

theorem startsWith_iff (start s : String) : startsWith start s = true ↔ start.toList <+: s.toList :=
  List.isPrefixOf_iff_prefix

/-- The name of the host's modules occurs in it. -/
def OfHost (path : String) : Prop := "@citizenfx".toList <:+: path.toList

/-- It starts with one of the aliased namespaces. -/
def OfNamespace (path : String) : Prop :=
  ∃ name ∈ ["@server", "@client", "@common"], name.toList <+: path.toList

/-- It starts as a relative or an absolute file path does. -/
def OfFile (path : String) : Prop := ".".toList <+: path.toList ∨ "/".toList <+: path.toList

theorem isHostModule_iff (path : String) : isHostModule path = true ↔ OfHost path :=
  Text.occursIn_iff _ _

theorem isAliased_iff (path : String) : isAliased path = true ↔ OfNamespace path := by
  simp only [isAliased, OfNamespace, aliasedNamespaces, List.any_eq_true, startsWith_iff]

theorem isFilePath_iff (path : String) : isFilePath path = true ↔ OfFile path := by
  simp only [isFilePath, OfFile, Bool.or_eq_true, startsWith_iff]

/-- A request that answers with texts where it answers. -/
structure Inquiry where
  path : String
  kind : String
  importer : String
  resolveDir : String
  located : Option Text.Spelled
  lookupError : Option Text.Spelled

def Inquiry.request (q : Inquiry) : Request where
  path := q.path
  kind := q.kind
  importer := q.importer
  resolveDir := q.resolveDir
  located := q.located.map .ofSpelled
  lookupError := q.lookupError.map .ofSpelled

/-- No rule fits the import of an inquiry, so that it is looked up. -/
structure Inquiry.LookedUp (q : Inquiry) (rootAlias : String) : Prop where
  host : ¬ OfHost q.path
  aliased : ¬ OfNamespace q.path
  static : q.kind = "import-statement"
  rooted : ¬ rootAlias.toList <+: q.path.toList
  file : ¬ OfFile q.path

instance (path : String) : Decidable (OfHost path) := decidable_of_iff _ (isHostModule_iff path)

instance (path : String) : Decidable (OfNamespace path) := decidable_of_iff _ (isAliased_iff path)

instance (path : String) : Decidable (OfFile path) := decidable_of_iff _ (isFilePath_iff path)

namespace Policy

variable (t : Tree) (cwd : Path) (rootAlias stubNamespace stubPath : String) (q : Inquiry)

/-- The policy that knows a root alias and stubs of its own, and the modules that every policy knows. -/
def withAliases : Policy := ⟨cwd, { rootAlias, stubNamespace, stubPath }⟩

/-- The rules, in the order in which they are tried. -/
theorem resolve_withAliases :
    (withAliases cwd rootAlias stubNamespace stubPath).resolve t q.request =
      if OfHost q.path then .ok (.stubbed stubPath stubNamespace)
      else if OfNamespace q.path ∨ q.kind ≠ "import-statement" then .ok .bundled
      else if rootAlias.toList <+: q.path.toList then
        .ok (.externalAbsolute ((withAliases cwd rootAlias stubNamespace stubPath).underRoot q.path))
      else if OfFile q.path then .ok .bundled
      else (withAliases cwd rootAlias stubNamespace stubPath).lookup t q.request >>=
        (withAliases cwd rootAlias stubNamespace stubPath).package q.path := by
  have kept : (isAliased q.path || decide (q.kind ≠ staticImport)) = true ↔
      OfNamespace q.path ∨ q.kind ≠ "import-statement" := by
    rw [Bool.or_eq_true, decide_eq_true_eq, isAliased_iff, staticImport]
  exact if_congr (isHostModule_iff _) rfl <| if_congr kept rfl <| if_congr (startsWith_iff ..) rfl <|
    if_congr (isFilePath_iff _) rfl rfl

theorem package_ofSpelled (p : Policy) (path : String) (found : Text.Spelled) :
    ∃ shown, p.package path (.ofSpelled found) = .ok (.externalPackage shown) := by
  unfold package
  cases found <;> simp only [Json.ofSpelled, Json.spelled?] <;> split <;> exact ⟨_, rfl⟩

theorem text_ofSpelled (s : Text.Spelled) : (Json.ofSpelled s).text = s.text := by cases s <;> rfl

/-- What a look-up decides: a specifier that is found stays outside under a path, and one that is not is
refused with the text of the look-up. -/
structure Weighs (p : Policy) (t : Tree) (q : Inquiry) : Prop where
  located : ∀ found, q.located = some found →
    ∃ shown, p.resolve t q.request = .ok (.externalPackage shown)
  refused : ∀ text, q.located = none → q.lookupError = some text →
    p.resolve t q.request = .error (.unresolved text.text)
  found : ∀ place, q.located = none → q.lookupError = none → locate t p.cwd q.path = .ok place →
    ∀ t', p.resolve t q.request = p.resolve t' { q with located := some (.whole place) }.request
  missing : ∀ specifier directory, q.located = none → q.lookupError = none →
    locate t p.cwd q.path = .error (.notFound specifier directory) →
    ∀ t', p.resolve t q.request = p.resolve t'
      { q with lookupError := some (.whole (LocateFault.notFound specifier directory).message) }.request
  ends : (q.located = none → q.lookupError = none →
      (∃ place, locate t p.cwd q.path = .ok place) ∨
        ∃ specifier directory, locate t p.cwd q.path = .error (.notFound specifier directory)) →
    (∃ shown, p.resolve t q.request = .ok (.externalPackage shown)) ∨
      ∃ text, p.resolve t q.request = .error (.unresolved text)

variable {cwd rootAlias stubNamespace stubPath q}

theorem resolve_of_lookedUp (h : q.LookedUp rootAlias) :
    (withAliases cwd rootAlias stubNamespace stubPath).resolve t q.request =
      ((withAliases cwd rootAlias stubNamespace stubPath).lookup t q.request >>=
        (withAliases cwd rootAlias stubNamespace stubPath).package q.path) := by
  rw [resolve_withAliases, if_neg h.host, if_neg (not_or.mpr ⟨h.aliased, not_not.mpr h.static⟩),
    if_neg h.rooted, if_neg h.file]

theorem weighs (h : q.LookedUp rootAlias) :
    (withAliases cwd rootAlias stubNamespace stubPath).Weighs t q := by
  set p := withAliases cwd rootAlias stubNamespace stubPath
  -- whatever answers an inquiry comes with, no other rule fits it
  have decided (t : Tree) (located lookupError : Option Text.Spelled) :
      p.resolve t { q with located, lookupError }.request =
        (p.lookup t { q with located, lookupError }.request >>= p.package q.path) :=
    resolve_of_lookedUp t ⟨h.host, h.aliased, h.static, h.rooted, h.file⟩
  obtain ⟨path, kind, importer, resolveDir, located, lookupError⟩ := q
  have packaged (found : Text.Spelled) (t : Tree) (lookupError : Option Text.Spelled) :
      ∃ shown, p.resolve t (Inquiry.mk path kind importer resolveDir (some found) lookupError).request =
        .ok (.externalPackage shown) := by
    rw [decided t (some found) lookupError]
    exact package_ofSpelled p path found
  have refused (text : Text.Spelled) (t : Tree) :
      p.resolve t (Inquiry.mk path kind importer resolveDir none (some text)).request =
        .error (.unresolved text.text) := by
    rw [decided t none (some text), ← text_ofSpelled]
    rfl
  have found {place : String} (hl : locate t p.cwd path = .ok place) (t' : Tree) :
      p.resolve t (Inquiry.mk path kind importer resolveDir none none).request =
        p.resolve t' (Inquiry.mk path kind importer resolveDir (some (.whole place)) none).request := by
    rw [decided t none none, decided t' (some _) none]
    simp [lookup, Inquiry.request, hl, Json.ofSpelled]
  have missing {specifier directory : String}
      (hl : locate t p.cwd path = .error (.notFound specifier directory)) (t' : Tree) :
      p.resolve t (Inquiry.mk path kind importer resolveDir none none).request =
        p.resolve t' (Inquiry.mk path kind importer resolveDir none
          (some (.whole (LocateFault.notFound specifier directory).message))).request := by
    rw [decided t none none, decided t' none (some _)]
    simp [lookup, Inquiry.request, hl, Json.ofSpelled, ResolveFault.ofLocate, Json.text]
  refine ⟨?_, ?_, ?_, ?_, ?_⟩
  · rintro given rfl
    exact packaged given t lookupError
  · rintro text rfl rfl
    exact refused text t
  · rintro place rfl rfl hl
    exact found hl
  · rintro specifier directory rfl rfl hl
    exact missing hl
  · intro returns
    cases located with
    | some given => exact .inl (packaged given t lookupError)
    | none =>
      cases lookupError with
      | some text => exact .inr ⟨_, refused text t⟩
      | none =>
        obtain ⟨place, hl⟩ | ⟨specifier, directory, hl⟩ := returns rfl rfl
        · rw [found hl t]
          exact .inl (packaged _ t none)
        · rw [missing hl t]
          exact .inr ⟨_, refused _ t⟩

/-- An import that a rule fits is decided by its path and kind alone. -/
theorem resolve_of_not_lookedUp (h : ¬ q.LookedUp rootAlias) :
    ∃ decision, ∀ (t : Tree) (q' : Inquiry), q'.path = q.path → q'.kind = q.kind →
      (withAliases cwd rootAlias stubNamespace stubPath).resolve t q'.request = .ok decision := by
  by_cases host : OfHost q.path
  · refine ⟨.stubbed stubPath stubNamespace, fun t q' path kind => ?_⟩
    rw [resolve_withAliases, path, if_pos host]
  by_cases kept : OfNamespace q.path ∨ q.kind ≠ "import-statement"
  · refine ⟨.bundled, fun t q' path kind => ?_⟩
    rw [resolve_withAliases, path, kind, if_neg host, if_pos kept]
  by_cases rooted : rootAlias.toList <+: q.path.toList
  · refine ⟨.externalAbsolute
      ((withAliases cwd rootAlias stubNamespace stubPath).underRoot q.path), fun t q' path kind => ?_⟩
    rw [resolve_withAliases, path, kind, if_neg host, if_neg kept, if_pos rooted]
  by_cases file : OfFile q.path
  · refine ⟨.bundled, fun t q' path kind => ?_⟩
    rw [resolve_withAliases, path, kind, if_neg host, if_neg kept, if_neg rooted, if_pos file]
  · rw [not_or, not_not] at kept
    exact absurd ⟨host, kept.1, kept.2, rooted, file⟩ h

/-- The rules of every policy that knows the host's modules and the aliased namespaces, whatever its root
alias and stubs, in their order; what a rule decides holds for every tree and whatever else is asked. -/
theorem resolve_by_first_rule (cwd : Path) (rootAlias stubNamespace stubPath : String) (t : Tree) (q : Inquiry) :
    let p := withAliases cwd rootAlias stubNamespace stubPath
    (OfHost q.path → p.resolve t q.request = .ok (.stubbed stubPath stubNamespace)) ∧
    (¬ OfHost q.path → OfNamespace q.path ∨ q.kind ≠ "import-statement" →
      p.resolve t q.request = .ok .bundled) ∧
    (¬ OfHost q.path → ¬ OfNamespace q.path → q.kind = "import-statement" →
      rootAlias.toList <+: q.path.toList →
      p.resolve t q.request = .ok (.externalAbsolute (p.underRoot q.path))) ∧
    (¬ OfHost q.path → ¬ OfNamespace q.path → q.kind = "import-statement" →
      ¬ rootAlias.toList <+: q.path.toList → OfFile q.path → p.resolve t q.request = .ok .bundled) ∧
    (¬ q.LookedUp rootAlias → ∃ decision, ∀ (t' : Tree) (q' : Inquiry),
      q'.path = q.path → q'.kind = q.kind → p.resolve t' q'.request = .ok decision) ∧
    (q.LookedUp rootAlias → p.Weighs t q) := by
  refine ⟨fun host => ?_, fun host kept => ?_, fun host aliased static rooted => ?_,
    fun host aliased static rooted file => ?_, resolve_of_not_lookedUp, weighs t⟩
  · rw [resolve_withAliases, if_pos host]
  · rw [resolve_withAliases, if_neg host, if_pos kept]
  · rw [resolve_withAliases, if_neg host, if_neg (not_or.mpr ⟨aliased, not_not.mpr static⟩), if_pos rooted]
  · rw [resolve_withAliases, if_neg host, if_neg (not_or.mpr ⟨aliased, not_not.mpr static⟩),
      if_neg rooted, if_pos file]

/-- A package that the bundler has found stays outside, also where it tells of an error as well. -/
theorem resolve_by_first_rule_left_pad :
    ∃ shown, (withAliases ⟨.root, ["srv"]⟩ "@/" "ignore" ".").resolve ⟨.dir [], fun _ => false⟩
      (Inquiry.request ⟨"left-pad", "import-statement", "", "", some (.whole "/m/left-pad.js"),
        some (.whole "no")⟩) = .ok (.externalPackage shown) :=
  ((resolve_by_first_rule ⟨.root, ["srv"]⟩ "@/" "ignore" "." ⟨.dir [], fun _ => false⟩ ⟨"left-pad",
    "import-statement", "", "", some (.whole "/m/left-pad.js"), some (.whole "no")⟩).2.2.2.2.2
    ⟨by decide, by decide, rfl, by decide, by decide⟩).located _ rfl

end Policy
end Resolution
end BundleForge
