import BundleForge.Proofs.Hardening.Run
import BundleForge.Proofs.Tree.Asking

/-!
A pass over a tree in which links may stand anywhere. Main statements: which scripts a walk comes upon, and
how it ends, is told by the outline of the tree and its locks, whatever was done to the bytes of files; a pass
hardens the scripts that it comes upon, each by the names that lead to it and in the order of these names, and
touches nothing else; they stand below its directory, and are different files, unless a link leads there.
-/

namespace BundleForge

/-- Several actions in turn, and then several more. -/
theorem Action.run_each_append {α ε σ : Type} {f : α → Action ε σ Unit} {xs ys : List α} {s s' : σ}
    {events : List Event} (h : (each f xs).run s = ⟨.ok (), s', events⟩) :
    (each f (xs ++ ys)).run s =
      ⟨((each f ys).run s').result, ((each f ys).run s').state, events ++ ((each f ys).run s').events⟩ := by
  induction xs generalizing s events with
  | nil =>
    cases h
    rfl
  | cons x xs ih =>
    simp only [each, List.cons_append] at h ⊢
    generalize hd : (f x).run s = done at h
    obtain ⟨result, mid, first⟩ := done
    cases result with
    | error fault =>
      rw [run_bind_error hd] at h
      cases h
    | ok =>
      rw [run_bind_ok hd] at h ⊢
      generalize hr : (each f xs).run mid = rest at h
      obtain ⟨result, last, second⟩ := rest
      cases h
      rw [ih hr]
      simp

namespace Hardening

/-- A script that a pass comes upon: the names that lead to it from the directory of the pass, and the
place of the file, free of links. -/
structure Visit where
  names : List String
  place : List String

/-- A visit finds a script at the end of its way. -/
structure Visit.Finds (t : Tree) (d : Path) (v : Visit) : Prop where
  script : isScript (v.names.getLast?.getD "") = true
  named : ∀ name ∈ v.names, isName name = true
  leads : t.realPlace (d.below v.names) = .ok v.place
  file : t.top.outlineAt v.place = some .file

theorem Visit.Finds.contentAt {t : Tree} {d : Path} {v : Visit} (finds : v.Finds t d) :
    t.top.contentAt v.place = some ((t.top.contentAt v.place).getD []) := by
  obtain ⟨content, there⟩ := Node.outlineAt_eq_file_iff.mp finds.file
  rw [there, Option.getD_some]

/-- What a part of a walk has done, the part that deals with the names of a region: it hardened scripts,
in the order of the names that lead to them, and did nothing else. -/
structure Visited (pass : Pass) (t : Tree) (d : Path) (region : List String → Prop) (s : Progress)
    (visits : List Visit) (done : Done WalkFault Progress Unit) : Prop where
  turns : (Action.each pass.hardenFile (visits.map fun v => d.below v.names)).run s =
    ⟨.ok (), done.state, done.events⟩
  ordered : (visits.map Visit.names).Pairwise (· < ·)
  inside : ∀ v ∈ visits, region v.names
  finds : ∀ v ∈ visits, v.Finds t d

/-- The outline of a tree is as it was. -/
abbrev Shaped (t : Tree) (s : Progress) : Prop := Kept t [] (fun _ => False) s

/-- What hardening several scripts in turn has changed. -/
structure Roamed (t : Tree) (d : Path) (s : Progress) (visits : List Visit) (s' : Progress) : Prop where
  results : s'.results.map Result.path =
    s.results.map Result.path ++ visits.map fun v => d.below v.names
  handed : ∃ handed : List Visit, handed.Sublist visits ∧ s'.calls = s.calls + handed.length
  others : ∀ place, (∀ v ∈ visits, v.place ≠ place) →
    s'.tree.top.contentAt place = s.tree.top.contentAt place
  shaped : Shaped t s'

/-- A part of a walk, the part that deals with the names of a region. Whatever was done to the bytes of files
before it, it hardens the same scripts, in the order of the names that lead to them, and ends in the same way. -/
structure Tours (pass : Pass) (t : Tree) (d : Path) (region : List String → Prop)
    (a : Action WalkFault Progress Unit) (visits : List Visit) (result : Except WalkFault Unit) : Prop where
  turns : ∀ s, Shaped t s → a.run s =
    (Action.each pass.hardenFile (visits.map fun v => d.below v.names) >>= fun _ => .ofExcept result).run s
  ordered : (visits.map Visit.names).Pairwise (· < ·)
  inside : ∀ v ∈ visits, region v.names
  finds : ∀ v ∈ visits, v.Finds t d

namespace Pass

variable {pass : Pass} {t : Tree} {d : Path} {names : List String} {s : Progress}
  {region later : List String → Prop} {visits xs : List Visit} {v : Visit}

/-- Hardening one script hands over its text at most once and changes no other file. -/
theorem roamed_replace (finds : v.Finds t d) (shaped : Shaped t s) {content : List UInt8}
    (hc : s.tree.top.contentAt v.place = some content) :
    Roamed t d s [v] (s.replace pass.hardener (d.below v.names) v.place content) := by
  refine ⟨by simp [Progress.replace], ?_, ?_, shaped.replace finds.file fun _ => False.elim⟩
  · unfold Progress.replace runsFor
    cases Tree.decodeText content with
    | ok source => exact ⟨[v], List.Sublist.refl _, rfl⟩
    | error fault => exact ⟨[], List.nil_sublist _, rfl⟩
  · intro place other
    have apart : place ≠ v.place := (other v (by simp)).symm
    unfold Progress.replace
    cases pass.hardener.rewrite s.calls content with
    | error fault => rfl
    | ok bytes => exact (Node.contentAt_setAt hc bytes place).trans (if_neg apart)

theorem run_hardenFile_of_finds (fails : pass.hardener.Fails) (clean : Tree.hasNull d = false)
    (finds : v.Finds t d) (shaped : Shaped t s) :
    ∃ content s' events, s.tree.top.contentAt v.place = some content ∧
      s' = s.replace pass.hardener (d.below v.names) v.place content ∧
      (pass.hardenFile (d.below v.names)).run s = ⟨.ok (), s', events⟩ ∧ Roamed t d s [v] s' := by
  obtain ⟨content, hc⟩ := Node.outlineAt_eq_file_iff.mp ((shaped.outline v.place).trans finds.file)
  have leads := (shaped.realPlace (d.below v.names)).trans finds.leads
  obtain ⟨events, hr⟩ := run_hardenFile fails (Tree.hasNull_below clean finds.named) leads hc
  exact ⟨content, _, events, hc, rfl, hr, roamed_replace finds shaped hc⟩

/-- Scripts that are found are hardened in turn, whatever becomes of each. -/
theorem run_each_hardenFile (fails : pass.hardener.Fails) (clean : Tree.hasNull d = false)
    (finds : ∀ v ∈ visits, v.Finds t d) (shaped : Shaped t s) :
    ∃ s' events, (Action.each pass.hardenFile (visits.map fun v => d.below v.names)).run s =
      ⟨.ok (), s', events⟩ ∧ Roamed t d s visits s' := by
  induction visits generalizing s with
  | nil => exact ⟨s, [], rfl, by simp, ⟨[], List.nil_sublist _, rfl⟩, fun _ _ => rfl, shaped⟩
  | cons v visits ih =>
    have found := finds v (by simp)
    obtain ⟨-, mid, first, -, -, hv, one⟩ := run_hardenFile_of_finds fails clean found shaped
    obtain ⟨s', rest, hr, more⟩ := ih (fun w hw => finds w (by simp [hw])) one.shaped
    refine ⟨s', first ++ rest, ?_, ?_, ?_, ?_, more.shaped⟩
    · simp only [List.map_cons, Action.each]
      rw [Action.run_bind_ok hv, hr]
    · rw [more.results, one.results]
      simp
    · obtain ⟨h₁, sub₁, calls₁⟩ := one.handed
      obtain ⟨h₂, sub₂, calls₂⟩ := more.handed
      exact ⟨h₁ ++ h₂, sub₁.append sub₂, by rw [calls₂, calls₁, List.length_append, Nat.add_assoc]⟩
    · intro place other
      rw [more.others place fun w hw => other w (by simp [hw]),
        one.others place fun w hw => other w (by simp_all)]

end Pass

namespace Visited

variable {pass : Pass} {t : Tree} {d : Path} {s : Progress} {region later : List String → Prop}
  {visits : List Visit} {done : Done WalkFault Progress Unit}

/-- Nothing was hardened. -/
theorem none (h : done.state = s) (quiet : done.events = []) : Visited pass t d region s [] done :=
  ⟨by rw [h, quiet]; rfl, by simp, by simp, by simp⟩

theorem mono (h : Visited pass t d region s visits done) (sub : ∀ q, region q → later q) :
    Visited pass t d later s visits done :=
  ⟨h.turns, h.ordered, fun v hv => sub _ (h.inside v hv), h.finds⟩

theorem roamed (h : Visited pass t d region s visits done) (fails : pass.hardener.Fails)
    (clean : Tree.hasNull d = false) (shaped : Shaped t s) : Roamed t d s visits done.state := by
  obtain ⟨s', events, hr, roamed⟩ := Pass.run_each_hardenFile fails clean h.finds shaped
  rw [h.turns] at hr
  cases hr
  exact roamed

end Visited

namespace Tours

variable {pass : Pass} {t : Tree} {d : Path} {names : List String} {s : Progress}
  {region later : List String → Prop} {a b : Action WalkFault Progress Unit} {visits xs ys : List Visit}
  {result last : Except WalkFault Unit}

/-- Nothing is hardened. -/
theorem none (quiet : ∀ s, Shaped t s → a.run s = ⟨result, s, []⟩) : Tours pass t d region a [] result :=
  ⟨quiet, by simp, by simp, by simp⟩

theorem mono (h : Tours pass t d region a visits result) (sub : ∀ q, region q → later q) :
    Tours pass t d later a visits result :=
  ⟨h.turns, h.ordered, fun v hv => sub _ (h.inside v hv), h.finds⟩

theorem congr (h : Tours pass t d region a visits result) (same : ∀ s, Shaped t s → b.run s = a.run s) :
    Tours pass t d region b visits result :=
  ⟨fun s shaped => (same s shaped).trans (h.turns s shaped), h.ordered, h.inside, h.finds⟩

theorem run_eq (h : Tours pass t d region a visits result) (fails : pass.hardener.Fails)
    (clean : Tree.hasNull d = false) (shaped : Shaped t s) :
    ∃ s' events, (Action.each pass.hardenFile (visits.map fun v => d.below v.names)).run s = ⟨.ok (), s', events⟩ ∧
      a.run s = ⟨result, s', events⟩ ∧ Roamed t d s visits s' := by
  obtain ⟨s', events, hr, roamed⟩ := Pass.run_each_hardenFile fails clean h.finds shaped
  refine ⟨s', events, hr, ?_, roamed⟩
  rw [h.turns s shaped, Action.run_bind_ok hr, Action.run_ofExcept, List.append_nil]

theorem visited (h : Tours pass t d region a visits result) (fails : pass.hardener.Fails)
    (clean : Tree.hasNull d = false) (shaped : Shaped t s) : Visited pass t d region s visits (a.run s) := by
  obtain ⟨s', events, hr, ha, -⟩ := h.run_eq fails clean shaped
  exact ⟨by rw [hr, ha], h.ordered, h.inside, h.finds⟩

/-- A script that is hardened. -/
theorem one (fails : pass.hardener.Fails) (clean : Tree.hasNull d = false) {v : Visit} (inside : region v.names)
    (finds : v.Finds t d) : Tours pass t d region (pass.hardenFile (d.below v.names)) [v] (.ok ()) := by
  refine ⟨fun s shaped => ?_, by simp, by simpa using inside, by simpa using finds⟩
  obtain ⟨-, s', events, -, -, hr, -⟩ := Pass.run_hardenFile_of_finds fails clean finds shaped
  have alone : (Action.each pass.hardenFile [d.below v.names]).run s = ⟨.ok (), s', events⟩ := by
    simp only [Action.each]
    rw [Action.run_bind_ok hr, Action.run_pure, List.append_nil]
  rw [List.map_singleton, Action.run_bind_ok alone, hr, Action.run_ofExcept, List.append_nil]

/-- One region after another, if all of the second come after the first. -/
theorem andThen (fails : pass.hardener.Fails) (clean : Tree.hasNull d = false)
    (first : Tours pass t d region a xs result) (before : ∀ q r, region q → later r → q < r)
    (second : Tours pass t d later b ys last) :
    ∃ zs closing, Tours pass t d (fun q => region q ∨ later q) (a >>= fun _ => b) zs closing ∧
      (closing = result ∨ closing = last) := by
  cases result with
  | error fault =>
    refine ⟨xs, .error fault, ⟨fun s shaped => ?_, first.ordered, fun v hv => .inl (first.inside v hv), first.finds⟩,
      .inl rfl⟩
    obtain ⟨s', events, -, ha, -⟩ := first.run_eq fails clean shaped
    rw [← first.turns s shaped, ha, Action.run_bind_error ha]
  | ok =>
    refine ⟨xs ++ ys, last, ⟨fun s shaped => ?_, ?_, fun v hv => ?_, fun v hv => ?_⟩, .inr rfl⟩
    · obtain ⟨mid, events, turns, ha, roamed⟩ := first.run_eq fails clean shaped
      obtain ⟨s', others, turns', hb, -⟩ := second.run_eq fails clean roamed.shaped
      have whole : (Action.each pass.hardenFile ((xs ++ ys).map fun v => d.below v.names)).run s =
          ⟨.ok (), s', events ++ others⟩ := by
        rw [List.map_append, Action.run_each_append turns, turns']
      rw [Action.run_bind_ok ha, hb, Action.run_bind_ok whole, Action.run_ofExcept, List.append_nil]
    · rw [List.map_append, List.pairwise_append]
      refine ⟨first.ordered, second.ordered, fun q hq r hr => ?_⟩
      obtain ⟨x, hx, rfl⟩ := List.mem_map.mp hq
      obtain ⟨y, hy, rfl⟩ := List.mem_map.mp hr
      exact before _ _ (first.inside x hx) (second.inside y hy)
    · exact (List.mem_append.mp hv).imp (first.inside v) (second.inside v)
    · exact (List.mem_append.mp hv).elim (first.finds v) (second.finds v)

/-- In a tree without links each script that a walk comes upon is a file of its own. -/
theorem distinct (h : Tours pass t d region a visits result) (plain : t.top.Plain) :
    (visits.map Visit.place).Nodup := by
  have spelled : visits.map Visit.place = (visits.map Visit.names).map (d.place ++ ·) := by
    rw [List.map_map]
    refine List.map_congr_left fun v among => ?_
    have finds := h.finds v among
    rw [Tree.eq_of_realPlace plain finds.leads, Path.place_below_names finds.named, Function.comp_apply]
  have apart : (visits.map Visit.names).Nodup :=
    h.ordered.imp (by rintro x _ lt rfl; exact List.lt_irrefl x lt)
  rw [spelled]
  exact List.pairwise_map.mpr (apart.imp fun ne same => ne (List.append_cancel_left same))

end Tours

namespace Pass

variable {pass : Pass} {t : Tree} {d : Path} {names : List String} {s : Progress}

/-- An entry through which a script is found is hardened. -/
theorem run_visit_of_finds (fails : pass.hardener.Fails) (clean : Tree.hasNull d = false)
    (descend : Path → Action WalkFault Progress Unit) {v : Visit} (inside : v.names ≠ [])
    (finds : v.Finds t d) (shaped : Shaped t s) :
    (pass.visit descend (d.below v.names)).run s = (pass.hardenFile (d.below v.names)).run s := by
  obtain ⟨content, s', events, hc, -, hr, -⟩ := run_hardenFile_of_finds fails clean finds shaped
  have leads := (shaped.realPlace (d.below v.names)).trans finds.leads
  have node := Tree.node_of_realPlace leads (Node.at?_of_contentAt hc)
  have hdir : s.tree.isDir (d.below v.names) = .ok false := by
    simp [Tree.isDir, Tree.ask, Tree.hasNull_below clean finds.named, node, Node.isDirNode]
  have hfile : s.tree.isFile (d.below v.names) = .ok true := by
    simp [Tree.isFile, Tree.ask, Tree.hasNull_below clean finds.named, node, Node.isFileNode]
  unfold visit
  rw [Action.run_bind_ok (run_asks_ok hdir), if_neg Bool.false_ne_true,
    Action.run_bind_ok (run_asks_ok hfile), if_pos rfl, name_below d inside, if_pos finds.script, hr]
  rfl

/-- What an entry is to a walk, whatever was done to the bytes of files: a script that it hardens, a directory that
it goes down into, or something that it leaves as it is. -/
theorem visit_cases (fails : pass.hardener.Fails) (clean : Tree.hasNull d = false) (inside : names ≠ [])
    (named : ∀ name ∈ names, isName name = true) :
    (∃ place, Visit.Finds t d ⟨names, place⟩ ∧ ∀ descend s, Shaped t s →
      (pass.visit descend (d.below names)).run s = (pass.hardenFile (d.below names)).run s) ∨
    ((∃ place, t.realPlace (d.below names) = .ok place) ∧ ∀ descend s, Shaped t s →
      (pass.visit descend (d.below names)).run s = (descend (d.below names)).run s) ∨
    ∃ result, result ≠ .error .bottomless ∧ ∀ descend s, Shaped t s →
      (pass.visit descend (d.below names)).run s = ⟨result, s, []⟩ := by
  by_cases found : ∃ place, Visit.Finds t d ⟨names, place⟩
  · obtain ⟨place, finds⟩ := found
    exact .inl ⟨place, finds, fun descend s shaped =>
      run_visit_of_finds (v := ⟨names, place⟩) fails clean descend inside finds shaped⟩
  right
  cases hdir : t.isDir (d.below names) with
  | error fault =>
    refine .inr ⟨.error (.refused fault), nofun, fun descend s shaped => ?_⟩
    rw [visit, Action.run_bind_error (run_asks_error ((shaped.isDir _).trans hdir))]
  | ok dir =>
    cases dir with
    | true =>
      obtain ⟨place, -, leads, -⟩ := Tree.realPlace_of_ask hdir
      refine .inl ⟨⟨place, leads⟩, fun descend s shaped => ?_⟩
      rw [visit, Action.run_bind_ok (run_asks_ok ((shaped.isDir _).trans hdir)), if_pos rfl]
      rfl
    | false =>
      right
      cases hfile : t.isFile (d.below names) with
      | error fault =>
        refine ⟨.error (.refused fault), nofun, fun descend s shaped => ?_⟩
        rw [visit, Action.run_bind_ok (run_asks_ok ((shaped.isDir _).trans hdir)), if_neg Bool.false_ne_true,
          Action.run_bind_error (run_asks_error ((shaped.isFile _).trans hfile))]
        rfl
      | ok file =>
        refine ⟨.ok (), nofun, fun descend s shaped => ?_⟩
        rw [visit, Action.run_bind_ok (run_asks_ok ((shaped.isDir _).trans hdir)), if_neg Bool.false_ne_true,
          Action.run_bind_ok (run_asks_ok ((shaped.isFile _).trans hfile)), name_below d inside]
        cases file with
        | false => rfl
        | true =>
          have other : ¬ isScript (names.getLast?.getD "") = true := by
            intro script
            obtain ⟨place, n, leads, ha, isFile⟩ := Tree.realPlace_of_ask hfile
            have there : t.top.outlineAt place = some .file := by
              cases n <;> simp_all [Node.outlineAt, Node.outline, Node.isFileNode]
            exact found ⟨place, script, named, leads, there⟩
          rw [if_pos rfl, if_neg other]
          rfl

/-- What a directory is to a walk, whatever was done to the bytes of files: the system refuses it, or its entries are
dealt with in the order of their names. -/
theorem walk_cases (clean : Tree.hasNull (d.below names) = false) (proper : t.top.Proper) :
    (∃ fault, ∀ depth s, Shaped t s →
      (pass.walk (depth + 1) (d.below names)).run s = ⟨.error (.refused fault), s, []⟩) ∨
    ∃ entries : List String, entries.Pairwise (· < ·) ∧ (∀ entry ∈ entries, isName entry = true) ∧
      ∀ depth s, Shaped t s → (pass.walk (depth + 1) (d.below names)).run s =
        (Action.each (pass.visit (pass.walk depth)) (entries.map fun entry => d.below (names ++ [entry]))).run s := by
  cases hl : entriesOf t (d.below names) with
  | error fault =>
    obtain ⟨cause, rfl⟩ : ∃ cause, fault = .refused cause := by
      rcases Tree.list_cases t clean with ⟨cause, refused⟩ | ⟨-, entries, -, -, listed, -⟩
      · simp only [entriesOf, refused, Except.error.injEq] at hl
        exact ⟨_, hl.symm⟩
      · simp [entriesOf, listed] at hl
    refine .inl ⟨cause, fun depth s shaped => ?_⟩
    rw [walk, Action.run_bind_ok (Action.run_state s), shaped.entriesOf, hl,
      Action.run_bind_error (Action.run_ofExcept _ s)]
    rfl
  | ok paths =>
    obtain ⟨entries, ordered, owns, rfl⟩ := entriesOf_eq_ok proper hl
    refine .inr ⟨entries, ordered, owns, fun depth s shaped => ?_⟩
    rw [walk, Action.run_bind_ok (Action.run_state s), shaped.entriesOf, hl,
      Action.run_bind_ok (Action.run_ofExcept _ s)]
    simp only [Path.below_below]
    rfl

/-- The entries of a directory are dealt with one after another. -/
theorem each_tours (fails : pass.hardener.Fails) (clean : Tree.hasNull d = false)
    {visit : Path → Action WalkFault Progress Unit} {beyond : Prop} {entries : List String}
    (sorted : entries.Pairwise (· < ·))
    (deals : ∀ entry ∈ entries, ∃ visits result,
      Tours pass t d (names ++ [entry] <+: ·) (visit (d.below (names ++ [entry]))) visits result ∧
        (result = .error .bottomless → beyond)) :
    ∃ visits result, Tours pass t d (fun q => ∃ entry ∈ entries, names ++ [entry] <+: q)
      (Action.each visit (entries.map fun entry => d.below (names ++ [entry]))) visits result ∧
        (result = .error .bottomless → beyond) := by
  induction entries with
  | nil => exact ⟨[], .ok (), .none fun s _ => rfl, nofun⟩
  | cons entry rest ih =>
    obtain ⟨below, sorted⟩ := List.pairwise_cons.mp sorted
    obtain ⟨xs, result, first, bounded⟩ := deals entry (by simp)
    obtain ⟨ys, last, second, bounded'⟩ := ih sorted fun other ho => deals other (by simp [ho])
    have before : ∀ q r, names ++ [entry] <+: q → (∃ other ∈ rest, names ++ [other] <+: r) → q < r := by
      rintro q r hq ⟨other, ho, hr⟩
      exact lt_of_siblings (below other ho) hq hr
    obtain ⟨zs, closing, both, ends⟩ := first.andThen fails clean before second
    refine ⟨zs, closing, both.mono ?_, ?_⟩
    · rintro q (hq | ⟨other, ho, hq⟩)
      · exact ⟨entry, by simp, hq⟩
      · exact ⟨other, by simp [ho], hq⟩
    · rcases ends with rfl | rfl
      · exact bounded
      · exact bounded'

/-- So many names below a directory lead somewhere. -/
def LeadsFar (t : Tree) (d : Path) (count : Nat) : Prop :=
  ∃ names place, (∀ name ∈ names, isName name = true) ∧ names.length = count ∧ t.realPlace (d.below names) = .ok place

/-- A walk comes to scripts in their order. It is bottomless only where as many names as it may go down lead
somewhere. -/
theorem walk_tours (fails : pass.hardener.Fails) (clean : Tree.hasNull d = false)
    (proper : t.top.Proper) (depth : Nat) (named : ∀ name ∈ names, isName name = true) :
    ∃ visits result, Tours pass t d (names <+: ·) (pass.walk depth (d.below names)) visits result ∧
      (result = .error .bottomless → depth = 0 ∨ LeadsFar t d (names.length + depth)) := by
  induction depth generalizing names with
  | zero => exact ⟨[], _, .none fun _ _ => rfl, fun _ => .inl rfl⟩
  | succ depth ih =>
    rcases @walk_cases pass t d names (Tree.hasNull_below clean named) proper with
      ⟨fault, refused⟩ | ⟨entries, sorted, owns, lists⟩
    · exact ⟨[], _, .none (refused depth), nofun⟩
    have deals : ∀ entry ∈ entries, ∃ visits result, Tours pass t d (names ++ [entry] <+: ·)
        (pass.visit (pass.walk depth) (d.below (names ++ [entry]))) visits result ∧
          (result = .error .bottomless → LeadsFar t d (names.length + (depth + 1))) := by
      intro entry he
      have named' : ∀ name ∈ names ++ [entry], isName name = true := by
        simpa [or_imp, forall_and] using ⟨named, owns entry he⟩
      rcases visit_cases (t := t) fails clean (by simp) named' with ⟨place, finds, deal⟩ | ⟨⟨place, leads⟩, deal⟩ |
        ⟨result, bounded, deal⟩
      · exact ⟨_, _, (Tours.one fails clean List.prefix_rfl finds).congr (deal _), nofun⟩
      · obtain ⟨visits, result, tours, ended⟩ := ih named'
        refine ⟨visits, result, tours.congr (deal _), fun bottomless => ?_⟩
        rcases ended bottomless with rfl | ⟨deeper, place, owned, long, leads⟩
        · exact ⟨names ++ [entry], place, named', by simp, leads⟩
        · exact ⟨deeper, place, owned, by simp at long; omega, leads⟩
      · exact ⟨[], result, .none (deal _), fun bottomless => absurd bottomless bounded⟩
    obtain ⟨visits, result, tours, ended⟩ := each_tours fails clean sorted deals
    refine ⟨visits, result, (tours.congr (lists depth)).mono ?_, fun bottomless => .inr (ended bottomless)⟩
    rintro q ⟨entry, -, hq⟩
    exact (List.prefix_append names [entry]).trans hq

theorem walk_visited (fails : pass.hardener.Fails) (clean : Tree.hasNull d = false)
    (proper : t.top.Proper) (depth : Nat) (named : ∀ name ∈ names, isName name = true)
    (shaped : Shaped t s) :
    ∃ visits, Visited pass t d (names <+: ·) s visits ((pass.walk depth (d.below names)).run s) := by
  obtain ⟨visits, _, tours, -⟩ := walk_tours fails clean proper depth named
  exact ⟨visits, tours.visited fails clean shaped⟩

/-- A directory with two links to one script beside it. -/
def linkedTree : Tree where
  top := .dir [
    ("src", .dir [("a.js", .file [0x61])]),
    ("dist", .dir [("x.js", .link "../src/a.js"), ("y.js", .link "../src/a.js")])]

theorem proper_linkedTree : linkedTree.top.Proper := by
  refine Node.proper_dir (by decide +kernel) ?_
  simp only [List.mem_cons, List.not_mem_nil, or_false, forall_eq_or_imp, forall_eq]
  refine ⟨Node.proper_dir (by decide +kernel) ?_, Node.proper_dir (by decide +kernel) ?_⟩
  · simpa using (Node.plain_file [0x61]).proper
  · simpa using Node.proper_link "../src/a.js"

theorem walk_linkedTree :
    Tree.walk linkedTree.top Tree.linkLimit [] ["dist"] = .ok ⟨["dist"], true⟩ ∧
    ∀ name ∈ ["x.js", "y.js"],
      Tree.walk linkedTree.top Tree.linkLimit [] ["dist", name] = .ok ⟨["src", "a.js"], true⟩ := by
  have top : linkedTree.top.outlineAt [] = some (.dir ["src", "dist"]) := rfl
  have dist : linkedTree.top.outlineAt ["dist"] = some (.dir ["x.js", "y.js"]) := rfl
  have src : linkedTree.top.outlineAt ["src"] = some (.dir ["a.js"]) := rfl
  have script : linkedTree.top.outlineAt ["src", "a.js"] = some .file := rfl
  have pieces : Text.pieces '/' "../src/a.js" = ["..", "src", "a.js"] := by decide +kernel
  have named : ∀ name ∈ ["dist", "src", "a.js", "x.js", "y.js"], isName name = true := by decide +kernel
  have enter (rest : List String) :
      Tree.walk linkedTree.top Tree.linkLimit [] ("dist" :: rest) =
        Tree.walk linkedTree.top Tree.linkLimit ["dist"] rest := by
    rw [Tree.walk_name (named "dist" (by simp)) top]
    simp [dist]
  have follow : Tree.walk linkedTree.top 39 ["dist"] ["..", "src", "a.js"] = .ok ⟨["src", "a.js"], true⟩ := by
    rw [Tree.walk_up dist, List.dropLast_singleton, Tree.walk_name (named "src" (by simp)) top]
    simp only [List.nil_append, src]
    rw [Tree.walk_name (named "a.js" (by simp)) src]
    simp [script, Tree.walk]
  refine ⟨by rw [enter, Tree.walk], fun name hn => ?_⟩
  have link : linkedTree.top.outlineAt ["dist", name] = some (.link "../src/a.js") := by
    revert name
    decide +kernel
  rw [enter, Tree.walk_name (named name (by simp_all)) dist]
  simp only [List.singleton_append, link]
  have relative : "../src/a.js".toList.head? ≠ some '/' := by decide +kernel
  simpa [Tree.linkLimit, pieces, relative] using follow

def linkedDirectory : Path := .ofString "/dist"

theorem realPlace_linkedTree :
    linkedTree.realPlace linkedDirectory = .ok ["dist"] ∧
    ∀ name ∈ ["x.js", "y.js"],
      linkedTree.realPlace (linkedDirectory.below [name]) = .ok ["src", "a.js"] := by
  obtain ⟨hd, hl⟩ := walk_linkedTree
  have short : linkedDirectory.text.utf8ByteSize < Tree.pathLimit ∧ ∀ name ∈ ["x.js", "y.js"],
      (linkedDirectory.below [name]).text.utf8ByteSize < Tree.pathLimit := by decide +kernel
  exact ⟨Tree.realPlace_of_walk short.1 hd,
    fun name hn => Tree.realPlace_of_walk (short.2 name hn) (hl name hn)⟩

theorem finds_linkedTree : ∀ name ∈ ["x.js", "y.js"],
    Visit.Finds linkedTree linkedDirectory ⟨[name], ["src", "a.js"]⟩ := by
  intro name hn
  have scripts : ∀ name ∈ ["x.js", "y.js"], isScript name = true ∧ isName name = true := by
    decide +kernel
  exact ⟨(scripts name hn).1, by simpa using (scripts name hn).2, realPlace_linkedTree.2 name hn, rfl⟩

/-- The script is hardened through the first link, and what came of it once more through the second. -/
theorem run_linkedTree :
    let done := clientPass.run linkedDirectory linkedTree 0
    done.state.results.map Result.path =
      [linkedDirectory.below ["x.js"], linkedDirectory.below ["y.js"]] ∧
    done.state.tree.top.contentAt ["src", "a.js"] = some (Text.Utf8.encode "/*h*//*h*/a") := by
  intro done
  have fails : clientPass.hardener.Fails := clientObfuscator.hardener_fails
  have clean : Tree.hasNull linkedDirectory = false := by decide +kernel
  let s : Progress := { tree := linkedTree, calls := 0 }
  have shaped : Shaped linkedTree s := ⟨fun _ => rfl, rfl, fun _ => False.elim⟩
  have listed : entriesOf linkedTree linkedDirectory =
      .ok [linkedDirectory.below ["x.js"], linkedDirectory.below ["y.js"]] := by
    have listing : linkedTree.list linkedDirectory = .ok ["x.js", "y.js"] :=
      Tree.list_of_realPlace clean realPlace_linkedTree.1 rfl rfl
    have sorted : ["x.js", "y.js"].mergeSort (· ≤ ·) = ["x.js", "y.js"] :=
      List.mergeSort_of_pairwise (by decide +kernel)
    simp only [entriesOf, listing, sorted]
    rfl
  have hx := finds_linkedTree "x.js" (by simp)
  have hy := finds_linkedTree "y.js" (by simp)
  obtain ⟨c₁, s₁, e₁, hc₁, hs₁, first, roamed⟩ := run_hardenFile_of_finds fails clean hx shaped
  obtain rfl : [0x61] = c₁ := Option.some.inj hc₁
  obtain ⟨c₂, s₂, e₂, hc₂, hs₂, second, -⟩ := run_hardenFile_of_finds fails clean hy roamed.shaped
  rw [← run_visit_of_finds fails clean (clientPass.walk 4095) (by simp) hx shaped] at first
  rw [← run_visit_of_finds fails clean (clientPass.walk 4095) (by simp) hy roamed.shaped] at second
  have hd : done.state = s₂ := by
    show ((clientPass.walk (4095 + 1) linkedDirectory).run s).state = s₂
    rw [walk, Action.run_bind_ok (Action.run_state s), listed, Action.run_bind_ok (Action.run_ofExcept _ s)]
    simp only [Action.each]
    rw [Action.run_bind_ok first, Action.run_bind_ok second]
    rfl
  have rewritten : some c₂ = some (Text.Utf8.encode "/*h*/a") := by
    rw [← hc₂, hs₁]
    decide +kernel
  obtain rfl := Option.some.inj rewritten
  rw [hd, hs₂, hs₁]
  exact ⟨rfl, by decide +kernel⟩

end Pass
end Hardening
end BundleForge
