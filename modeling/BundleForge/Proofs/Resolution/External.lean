import BundleForge.Proofs.Except
import BundleForge.Proofs.Path
import BundleForge.Proofs.Resolution.Precedence
import BundleForge.Proofs.Text.Pieces
import BundleForge.Proofs.Tree.Place
import Mathlib.Tactic.Common

/-!
Where an import goes that stays outside. Main statement: below the root alias, and for a package that is
found under an absolute path, it is the project's directory followed by the components of the import, which
no slash in the import can replace; a package that is found otherwise keeps what it was found as.
-/

namespace BundleForge

namespace Path

/-- What stands between the slashes of a text, less what is empty or a single point. -/
def components (cs : List Char) : List String :=
  ((cs.splitOn '/').map String.ofList).filter fun part => part ≠ "" ∧ part ≠ "."

theorem partsOf_eq_components (s : String) : partsOf s = components s.toList := by
  unfold partsOf components Text.pieces
  rw [Text.piecesWhere_eq_splitOnP]
  exact List.filter_congr fun part _ => by simp [isPart]

theorem isPartText_of_mem_components {cs : List Char} {part : String} (h : part ∈ components cs) :
    IsPartText part := by
  rw [← String.toList_ofList (l := cs), ← partsOf_eq_components] at h
  exact isPartText_of_mem_partsOf h

theorem joinAll_of_slashless {pieces : List String} (slashless : ∀ piece ∈ pieces, '/' ∉ piece.toList)
    (p : Path) : p.joinAll pieces = p.below (pieces.filter isPart) := by
  induction pieces generalizing p with
  | nil => exact p.below_nil.symm
  | cons piece pieces ih =>
    have first := Tree.div_of_slashless (slashless piece (by simp)) p
    have others := ih (fun other among => slashless other (by simp [among])) (p / piece)
    calc p.joinAll (piece :: pieces)
      _ = (p / piece).joinAll pieces := rfl
      _ = (p.below ([piece].filter isPart)).below (pieces.filter isPart) := by rw [others, first]
      _ = p.below ((piece :: pieces).filter isPart) := by
        rw [below_below, ← List.filter_append]
        rfl

/-- The pieces of a text, joined one by one, lead below where the path leads. -/
theorem joinAll_pieces (p : Path) (s : String) :
    p.joinAll (Text.pieces '/' s) = p.below (components s.toList) := by
  have slashless : ∀ piece ∈ Text.pieces '/' s, '/' ∉ piece.toList := by
    intro piece among slash
    obtain ⟨cs, hc, rfl⟩ := List.mem_map.mp among
    rw [String.toList_ofList] at slash
    simpa using Text.not_of_mem_piecesWhere hc _ slash
  rw [joinAll_of_slashless slashless, ← partsOf_eq_components, partsOf]

theorem components_slash (cs : List Char) : components ('/' :: cs) = components cs := by
  simp [components, List.splitOn, List.splitOnP_cons_eq_if_modifyHead]

theorem components_intercalate {parts : List String} (h : ∀ part ∈ parts, IsPartText part) :
    components (['/'].intercalate (parts.map String.toList)) = parts := by
  have kept : parts.filter (fun part => part ≠ "" ∧ part ≠ ".") = parts := by
    rw [List.filter_eq_self]
    intro part among
    simpa [isPart] using (h part among).1
  by_cases none : parts = []
  · subst none
    rfl
  · have slashless : ∀ cs ∈ parts.map String.toList, '/' ∉ cs := by
      intro cs among
      obtain ⟨part, hp, rfl⟩ := List.mem_map.mp among
      exact (h part hp).2
    rw [components, List.splitOn_intercalate '/' slashless (by simpa using none)]
    simpa [Function.comp_def] using kept

/-- Parts that are put together with slashes do not start with one. -/
theorem takeWhile_intercalate {parts : List String} (h : ∀ part ∈ parts, IsPartText part) :
    (['/'].intercalate (parts.map String.toList)).takeWhile (· == '/') = [] := by
  cases parts with
  | nil => rfl
  | cons part rest =>
    obtain ⟨there, slashless⟩ := h part (by simp)
    cases hs : part.toList with
    | nil =>
      obtain rfl := String.toList_eq_nil_iff.mp hs
      simp [isPart] at there
    | cons c cs =>
      have first : c ≠ '/' := by
        rintro rfl
        simp [hs] at slashless
      cases rest <;> simp [hs, first, List.intercalate]

/-- A path all of whose parts can be parts is what its own text is read as. -/
theorem ofString_text {p : Path} (h : ∀ part ∈ p.parts, IsPartText part) : ofString p.text = p := by
  obtain ⟨anchor, parts⟩ := p
  have joined : (anchor.text ++ "/".intercalate parts).toList =
      anchor.text.toList ++ ['/'].intercalate (parts.map String.toList) := by
    rw [String.toList_append, String.toList_intercalate]
    rfl
  have named : partsOf (anchor.text ++ "/".intercalate parts) = parts := by
    rw [partsOf_eq_components, joined]
    cases anchor with
    | relative => exact components_intercalate h
    | root => exact (components_slash _).trans (components_intercalate h)
    | doubleRoot =>
      exact (components_slash _).trans ((components_slash _).trans (components_intercalate h))
  have anchored : anchorOf (anchor.text ++ "/".intercalate parts) = anchor := by
    unfold anchorOf
    rw [joined]
    cases anchor <;> simp [Anchor.text, takeWhile_intercalate h]
  by_cases point : anchor = .relative ∧ parts = []
  · obtain ⟨rfl, rfl⟩ := point
    decide
  · have spelled : (Path.mk anchor parts).text = anchor.text ++ "/".intercalate parts := by
      simp [text, point]
    rw [spelled, ofString, named, anchored]

/-- A text that is the path's own, and that is read as no other path. -/
def SpelledBy (p : Path) (shown : String) : Prop := shown = p.text ∧ ofString shown = p

theorem spelledBy_iff {p : Path} (h : ∀ part ∈ p.parts, IsPartText part) {shown : String} :
    p.SpelledBy shown ↔ shown = p.text := by
  refine ⟨And.left, fun same => ⟨same, ?_⟩⟩
  rw [same, ofString_text h]

/-- What components add to a directory that is given as a text can be parts of a path. -/
theorem isPartText_below {base : String} {names : List String} (h : ∀ name ∈ names, IsPartText name) :
    ∀ part ∈ ((ofString base).below names).parts, IsPartText part := by
  intro part among
  obtain among | among := List.mem_append.mp among
  · exact isPartText_of_mem_partsOf among
  · exact h part among

end Path

namespace Resolution

open BundleForge.Path (components IsPartText)

/-- The root alias decides an import, and something follows it. -/
structure Request.Rooted (r : Request) (rules : Rules) (rest : List Char) : Prop where
  host : rules.isHost r.path = false
  aliased : rules.isInternal r.path = false
  static : r.kind = "import-statement"
  rooted : r.path.toList = rules.rootAlias.toList ++ rest

/-- No rule decides an import, so that it is looked up. -/
structure Request.Unruled (r : Request) (rules : Rules) : Prop where
  host : rules.isHost r.path = false
  aliased : rules.isInternal r.path = false
  static : r.kind = "import-statement"
  rooted : ¬ rules.rootAlias.toList <+: r.path.toList
  file : ¬ OfFile r.path

theorem ofSpelled_of_spelled? {located : Json} {found : Text.Spelled} (h : located.spelled? = some found) :
    located = .ofSpelled found := by
  cases located with
  | str | halved =>
    obtain rfl := Option.some.inj h
    rfl
  | null | bool | int | real | arr | obj => cases h

namespace Policy

variable {t : Tree} {p : Policy} {r : Request}

theorem underRoot_eq {path : String} {rest : List Char} (h : path.toList = p.rules.rootAlias.toList ++ rest) :
    p.underRoot path = (p.cwd.below (components rest)).text := by
  have left : path.toList.drop p.rules.rootAlias.length = rest := by
    rw [h, ← String.length_toList, List.drop_left]
  rw [underRoot, left, Path.joinAll_pieces, String.toList_ofList]

theorem package_eq_ok_iff {path : String} {located : Json} {decision : Decision} :
    p.package path located = .ok decision ↔ ∃ found, located = .ofSpelled found ∧
      decision = .externalPackage (if (Path.ofString found.text).isAbsolute
        then .whole (p.cwd.below ("node_modules" :: components path.toList)).text else found) := by
  have modules : p.cwd / "node_modules" = p.cwd.below ["node_modules"] :=
    Tree.div_of_isName (by decide +kernel) _
  have joined : (p.cwd / "node_modules").joinAll (Text.pieces '/' path) =
      p.cwd.below ("node_modules" :: components path.toList) := by
    rw [modules, Path.joinAll_pieces, Path.below_below]
    rfl
  unfold package
  rw [joined]
  constructor
  · intro h
    split at h
    · rename_i found hf
      refine ⟨found, ofSpelled_of_spelled? hf, ?_⟩
      split at h <;> rename_i absolute
      · simpa [absolute] using h.symm
      · simpa [absolute] using h.symm
    · cases h
  · rintro ⟨found, rfl, rfl⟩
    have spelled : (Json.ofSpelled found).spelled? = some found := by cases found <;> rfl
    rw [spelled]
    dsimp only
    split <;> rfl

theorem resolve_of_rooted {rest : List Char} (h : r.Rooted p.rules rest) :
    p.resolve t r = .ok (.externalAbsolute (p.cwd.below (components rest)).text) := by
  have static : r.kind = staticImport := h.static
  have rooted : startsWith p.rules.rootAlias r.path = true :=
    (startsWith_iff ..).mpr ⟨rest, h.rooted.symm⟩
  simp [resolve, h.host, h.aliased, static, rooted, underRoot_eq h.rooted]

theorem resolve_of_unruled (h : r.Unruled p.rules) :
    p.resolve t r = (p.lookup t r >>= p.package r.path) := by
  have static : r.kind = staticImport := h.static
  have rooted : startsWith p.rules.rootAlias r.path = false := by
    rw [Bool.eq_false_iff, ne_eq, startsWith_iff]
    exact h.rooted
  have file : isFilePath r.path = false := by
    rw [Bool.eq_false_iff, ne_eq, isFilePath_iff]
    exact h.file
  simp [resolve, h.host, h.aliased, static, rooted, file]

/-- An import that is neither rooted nor looked up is decided without an external path. -/
theorem resolve_cases (p : Policy) (t : Tree) (r : Request) :
    (∃ rest, r.Rooted p.rules rest) ∨ r.Unruled p.rules ∨
      p.resolve t r = .ok (.stubbed p.rules.stubPath p.rules.stubNamespace) ∨ p.resolve t r = .ok .bundled := by
  unfold resolve
  split_ifs with host kept rooted file
  · exact .inr (.inr (.inl rfl))
  · exact .inr (.inr (.inr rfl))
  · simp only [Bool.or_eq_true, decide_eq_true_eq, not_or, not_not, Bool.not_eq_true] at host kept
    obtain ⟨rest, split⟩ := (startsWith_iff ..).mp rooted
    exact .inl ⟨rest, host, kept.1, kept.2, split.symm⟩
  · exact .inr (.inr (.inr rfl))
  · simp only [Bool.or_eq_true, decide_eq_true_eq, not_or, not_not, Bool.not_eq_true] at host kept
    rw [startsWith_iff] at rooted
    rw [isFilePath_iff] at file
    exact .inr (.inl ⟨host, kept.1, kept.2, rooted, file⟩)

theorem resolve_eq_externalAbsolute_iff {shown : String} :
    p.resolve t r = .ok (.externalAbsolute shown) ↔
      ∃ rest, r.Rooted p.rules rest ∧ shown = (p.cwd.below (components rest)).text := by
  constructor
  · intro h
    obtain ⟨rest, rooted⟩ | unruled | stubbed | bundled := p.resolve_cases t r
    · refine ⟨rest, rooted, ?_⟩
      rw [resolve_of_rooted rooted] at h
      exact (Decision.externalAbsolute.inj (Except.ok.inj h)).symm
    · rw [resolve_of_unruled unruled, bind_eq_ok] at h
      obtain ⟨located, -, packaged⟩ := h
      obtain ⟨found, -, external⟩ := package_eq_ok_iff.mp packaged
      cases external
    · rw [stubbed] at h
      cases h
    · rw [bundled] at h
      cases h
  · rintro ⟨rest, rooted, rfl⟩
    exact resolve_of_rooted rooted

theorem resolve_eq_externalPackage_iff {shown : Text.Spelled} :
    p.resolve t r = .ok (.externalPackage shown) ↔
      r.Unruled p.rules ∧ ∃ found, p.lookup t r = .ok (.ofSpelled found) ∧
        shown = if (Path.ofString found.text).isAbsolute
          then .whole (p.cwd.below ("node_modules" :: components r.path.toList)).text else found := by
  constructor
  · intro h
    obtain ⟨rest, rooted⟩ | unruled | stubbed | bundled := p.resolve_cases t r
    · rw [resolve_of_rooted rooted] at h
      cases h
    · rw [resolve_of_unruled unruled, bind_eq_ok] at h
      obtain ⟨located, looked, packaged⟩ := h
      obtain ⟨found, rfl, external⟩ := package_eq_ok_iff.mp packaged
      exact ⟨unruled, found, looked, Decision.externalPackage.inj external⟩
    · rw [stubbed] at h
      cases h
    · rw [bundled] at h
      cases h
  · rintro ⟨unruled, found, looked, rfl⟩
    rw [resolve_of_unruled unruled, bind_eq_ok]
    exact ⟨_, looked, package_eq_ok_iff.mpr ⟨found, rfl, rfl⟩⟩

/-- What stays outside, and under which path. The directory of the project is given by any text and the
rules are any rules. An import below the root alias goes to the components of what follows the alias, below
the directory; a package that was found under an absolute path, whichever it is, goes to the components of
the import itself among the modules of the directory, and one that was found otherwise to what it was found
as. The bundler is told of these two that they are outside, and of no other import. -/
theorem external_path_below (base : String) (rules : Rules) (t : Tree) (r : Request) :
    let cwd := Path.ofString base
    let p : Policy := ⟨cwd, rules⟩
    (∀ shown, p.resolve t r = .ok (.externalAbsolute shown) ↔
      ∃ rest, r.Rooted rules rest ∧ (cwd.below (components rest)).SpelledBy shown) ∧
    (∀ shown, p.resolve t r = .ok (.externalPackage shown) ↔
      r.Unruled rules ∧ ∃ found, p.lookup t r = .ok (.ofSpelled found) ∧
        if (Path.ofString found.text).isAbsolute then
          ∃ whole, shown = .whole whole ∧
            (cwd.below ("node_modules" :: components r.path.toList)).SpelledBy whole
        else shown = found) ∧
    ∀ decision : Decision,
      (decision.toHook.get "external" = .ok (some (.bool true)) ↔
        (∃ shown, decision = .externalAbsolute shown) ∨ ∃ shown, decision = .externalPackage shown) ∧
      (decision = .bundled → decision.toHook = .null) ∧
      (∀ path namespace_, decision = .stubbed path namespace_ → decision.toHook.get "external" = .ok none) := by
  intro cwd p
  have parts (cs : List Char) : ∀ part ∈ (cwd.below (components cs)).parts, IsPartText part :=
    Path.isPartText_below fun _ => Path.isPartText_of_mem_components
  have modules (cs : List Char) :
      ∀ part ∈ (cwd.below ("node_modules" :: components cs)).parts, IsPartText part := by
    refine Path.isPartText_below fun name among => ?_
    obtain rfl | among := List.mem_cons.mp among
    · exact ⟨by decide, by decide⟩
    · exact Path.isPartText_of_mem_components among
  refine ⟨fun shown => ?_, fun shown => ?_, fun decision => ⟨?_, ?_, ?_⟩⟩
  · simp only [resolve_eq_externalAbsolute_iff, Path.spelledBy_iff (parts _)]
    rfl
  · rw [resolve_eq_externalPackage_iff]
    refine and_congr_right fun _ => exists_congr fun found => and_congr_right fun _ => ?_
    split
    · simp only [Path.spelledBy_iff (modules _), exists_eq_right]
      rfl
    · rfl
  · cases decision with
    | bundled => simp [Decision.toHook, Json.get]
    | stubbed path namespace_ =>
      have inside : (Decision.stubbed path namespace_).toHook.get "external" = .ok none := rfl
      simp [inside]
    | externalAbsolute shown => exact iff_of_true rfl (.inl ⟨shown, rfl⟩)
    | externalPackage shown => exact iff_of_true rfl (.inr ⟨shown, rfl⟩)
  · rintro rfl
    rfl
  · rintro path namespace_ rfl
    rfl

/-- Slashes in front of what follows the alias lead nowhere else. -/
example : resolve ⟨.ofString "/srv", {}⟩ ⟨.dir [], fun _ => false⟩
    (Inquiry.request ⟨"@//etc/./x/", "import-statement", "", "", none, none⟩) =
      .ok (.externalAbsolute "/srv/etc/x") := by
  decide +kernel

end Policy
end Resolution
end BundleForge
