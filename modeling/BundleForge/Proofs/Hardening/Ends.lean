import BundleForge.Proofs.Hardening.Visits

/-!
The end of a pass over a tree in which links may lead in circles. Main statement: a pass comes to its end or the
system refuses something, and the walk comes to the same without any bound on its depth: it goes down no more
directories than the links that a path may lead through, and the height of the tree between them, allow.
-/

namespace BundleForge.Hardening.Pass

variable {pass : Pass} {p d : Path} {t : Tree} {f g : Path → Action WalkFault Progress Unit}

theorem visit_more (more : ∀ s, ((f p).run s).result ≠ .error .bottomless → (g p).run s = (f p).run s)
    {s : Progress} (bounded : ((pass.visit f p).run s).result ≠ .error .bottomless) :
    (pass.visit g p).run s = (pass.visit f p).run s := by
  unfold visit at bounded ⊢
  cases asked : s.tree.isDir p with
  | error fault => rw [Action.run_bind_error (run_asks_error asked), Action.run_bind_error (run_asks_error asked)]
  | ok dir =>
    rw [Action.run_bind_ok (run_asks_ok asked)] at bounded ⊢
    rw [Action.run_bind_ok (run_asks_ok asked)]
    cases dir with
    | false => rfl
    | true =>
      rw [if_pos rfl] at bounded ⊢
      rw [if_pos rfl, more s bounded]

theorem each_more {entries : List Path}
    (more : ∀ entry s, ((f entry).run s).result ≠ .error .bottomless → (g entry).run s = (f entry).run s)
    {s : Progress} (bounded : ((Action.each f entries).run s).result ≠ .error .bottomless) :
    (Action.each g entries).run s = (Action.each f entries).run s := by
  induction entries generalizing s with
  | nil => rfl
  | cons entry rest ih =>
    simp only [Action.each] at bounded ⊢
    generalize ran : (f entry).run s = done at bounded
    obtain ⟨result, mid, events⟩ := done
    have same := more entry s
    rw [ran] at same
    cases result with
    | error fault =>
      rw [Action.run_bind_error ran] at bounded ⊢
      rw [Action.run_bind_error (same bounded)]
    | ok =>
      rw [Action.run_bind_ok ran] at bounded ⊢
      rw [Action.run_bind_ok (same (by simp)), ih bounded]

/-- A walk that is not bottomless is the same where it may go further down. -/
theorem walk_more {depth further : Nat} (more : depth ≤ further) {s : Progress}
    (bounded : ((pass.walk depth p).run s).result ≠ .error .bottomless) :
    (pass.walk further p).run s = (pass.walk depth p).run s := by
  induction depth generalizing further p s with
  | zero => exact absurd rfl bounded
  | succ depth ih =>
    obtain ⟨further, rfl⟩ := Nat.exists_eq_succ_of_ne_zero (by omega : further ≠ 0)
    rw [walk, Action.run_bind_ok (Action.run_state s)] at bounded ⊢
    rw [walk, Action.run_bind_ok (Action.run_state s)]
    cases listed : entriesOf s.tree p with
    | error fault => rfl
    | ok entries =>
      rw [listed, Action.run_bind_ok (Action.run_ofExcept _ s)] at bounded
      rw [Action.run_bind_ok (Action.run_ofExcept _ s), Action.run_bind_ok (Action.run_ofExcept _ s)]
      have same : (Action.each (pass.visit (pass.walk further)) entries).run s =
          (Action.each (pass.visit (pass.walk depth)) entries).run s :=
        each_more (fun entry s => visit_more fun s => ih (by omega)) bounded
      rw [same]

/-- A walk ends where it may go further down than names lead anywhere. -/
theorem walk_ne_bottomless (fails : pass.hardener.Fails) (clean : Tree.hasNull d = false) (proper : t.top.Proper)
    {depth : Nat} (pos : depth ≠ 0) (near : ¬ LeadsFar t d depth) {s : Progress} (shaped : Shaped t s) :
    ((pass.walk depth d).run s).result ≠ .error .bottomless := by
  obtain ⟨visits, result, tours, ended⟩ := @walk_tours pass t d [] fails clean proper depth (List.forall_mem_nil _)
  rw [Path.below_nil] at tours
  obtain ⟨s', events, -, ran, -⟩ := tours.run_eq fails clean shaped
  rw [ran]
  intro bottomless
  rcases ended bottomless with none | far
  · exact pos none
  · exact near (by simpa using far)

/-- No more names lead anywhere than a path has bytes for, nor more than are within reach. -/
theorem LeadsFar.le {count : Nat} (far : LeadsFar t d count) : count < Tree.pathLimit ∧ count ≤ t.reach := by
  obtain ⟨names, place, named, rfl, leads⟩ := far
  have size := Tree.length_le_size_below d named
  have short := (Tree.spot_of_realPlace leads).1
  exact ⟨by omega, Tree.length_le_reach named leads⟩

/-- A directory that leads to itself, and one below it that leads back up. -/
def circularTree : Tree where
  top := .dir [("dist", .dir [
    ("a.js", .file [0x61]), ("again", .link "."), ("b", .dir [("up", .link "../../dist")])])]

theorem proper_circularTree : circularTree.top.Proper := by
  refine Node.proper_dir (by decide +kernel) ?_
  simp only [List.mem_singleton, forall_eq]
  refine Node.proper_dir (by decide +kernel) ?_
  simp only [List.mem_cons, List.not_mem_nil, or_false, forall_eq_or_imp, forall_eq]
  refine ⟨(Node.plain_file [0x61]).proper, Node.proper_link ".", Node.proper_dir (by decide +kernel) ?_⟩
  simpa using Node.proper_link "../../dist"

end BundleForge.Hardening.Pass
