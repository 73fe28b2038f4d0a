import BundleForge.Proofs.Hardening.Null
import BundleForge.Proofs.Hardening.Walk

/-!
A whole pass over a tree without links. Main statement: the scripts before the first obstacle are
settled in order, each with its own result; those that succeeded hold what the tool made of them, and
everything else in the tree is as it was.
-/

namespace BundleForge.Hardening

namespace Progress

variable {o : Obfuscator} {d : Path} {base : List String} {s : Progress} {x : Script} {xs : List Script}

/-- The bytes of a script once it is settled, and those of all other files. -/
theorem contentAt_settle (old : s.tree.top.contentAt (base ++ x.names) = some x.content)
    (place : List String) :
    (s.settle o d base x).tree.top.contentAt place =
      if place = base ++ x.names then some ((o.rewrite s.calls x.content).toOption.getD x.content)
      else s.tree.top.contentAt place := by
  unfold settle
  cases o.rewrite s.calls x.content with
  | ok bytes => exact Node.contentAt_setAt old bytes place
  | error fault =>
    by_cases h : place = base ++ x.names
    · simp [h, old, Except.toOption]
    · simp [h]

theorem results_settle_all (o : Obfuscator) (d : Path) (base : List String) (xs : List Script)
    (s : Progress) :
    (xs.foldl (settle o d base) s).results =
      s.results ++ (o.rewrites s.calls xs).map fun y => ⟨d.below y.1.names, faultOf y.2⟩ := by
  induction xs generalizing s with
  | nil => simp [Obfuscator.rewrites]
  | cons x xs ih =>
    rw [List.foldl_cons, ih]
    simp [settle, Obfuscator.rewrites]

/-- Of several scripts each is settled on its own. -/
theorem contentAt_settle_all
    (olds : ∀ x ∈ xs, s.tree.top.contentAt (base ++ x.names) = some x.content)
    (distinct : (xs.map Script.names).Nodup) :
    (∀ y ∈ o.rewrites s.calls xs,
      (xs.foldl (settle o d base) s).tree.top.contentAt (base ++ y.1.names) =
        some (y.2.toOption.getD y.1.content)) ∧
    ∀ place, (∀ x ∈ xs, place ≠ base ++ x.names) →
      (xs.foldl (settle o d base) s).tree.top.contentAt place = s.tree.top.contentAt place := by
  induction xs generalizing s with
  | nil => simp [Obfuscator.rewrites]
  | cons x xs ih =>
    rw [List.map_cons, List.nodup_cons] at distinct
    have apart : ∀ y ∈ xs, base ++ x.names ≠ base ++ y.names := by
      intro y hy same
      exact distinct.1 (List.mem_map.mpr ⟨y, hy, (List.append_cancel_left same).symm⟩)
    have one := contentAt_settle (o := o) (d := d) (olds x (by simp))
    have olds' : ∀ y ∈ xs,
        (s.settle o d base x).tree.top.contentAt (base ++ y.names) = some y.content := by
      intro y hy
      rw [one, if_neg (apart y hy).symm]
      exact olds y (by simp [hy])
    obtain ⟨later, frame⟩ := ih olds' distinct.2
    refine ⟨?_, ?_⟩
    · intro y hy
      rw [Obfuscator.rewrites, List.mem_cons] at hy
      rcases hy with rfl | hy
      · rw [List.foldl_cons, frame _ apart, one, if_pos rfl]
      · exact later y hy
    · intro place other
      rw [List.foldl_cons, frame place fun y hy => other y (by simp [hy]), one,
        if_neg (other x (by simp))]

end Progress

/-- What a pass has done once it has settled some scripts: each has its result, those that succeeded hold
what they were replaced by, and the rest of the tree is as it was. -/
structure Hardened (o : Obfuscator) (t : Tree) (d : Path) (calls : Nat) (xs : List Script) (s : Progress) :
    Prop where
  results : s.results = (o.rewrites calls xs).map fun y => ⟨d.below y.1.names, faultOf y.2⟩
  contents : ∀ y ∈ o.rewrites calls xs,
    s.tree.contentBelow d y.1.names = some (y.2.toOption.getD y.1.content)
  others : ∀ place, (∀ base, t.realPlace d = .ok base → ∀ x ∈ xs, place ≠ base ++ x.names) →
    s.tree.top.contentAt place = t.top.contentAt place
  outline : ∀ place, s.tree.top.outlineAt place = t.top.outlineAt place
  locked : s.tree.locked = t.locked

theorem hardened_none (o : Obfuscator) (t : Tree) (d : Path) (calls : Nat) :
    Hardened o t d calls [] { tree := t, calls } :=
  ⟨rfl, by simp [Obfuscator.rewrites], fun _ _ => rfl, fun _ => rfl, rfl⟩

theorem hardened_of_swept {pass : Pass} {o : Obfuscator} {t : Tree} {d : Path} {base : List String}
    {calls : Nat} {xs : List Script} {region : List String → Prop} {done : Done WalkFault Progress Unit}
    (h : Setting pass o d base t) (swept : Swept o t d base region { tree := t, calls } xs done) :
    Hardened o t d calls xs done.state := by
  have stands : ∀ x ∈ xs, x.StandsIn t d := fun x hx => ((swept.mem_iff x).mp hx).2.1
  have olds : ∀ x ∈ xs, t.top.contentAt (base ++ x.names) = some x.content := fun x hx =>
    (h.contentBelow _).symm.trans (stands x hx).2
  have distinct : (xs.map Script.names).Nodup :=
    swept.ordered.imp (by rintro a _ lt rfl; exact List.lt_irrefl a lt)
  obtain ⟨contents, others⟩ := Progress.contentAt_settle_all (s := { tree := t, calls })
    (o := o) (d := d) olds distinct
  have kept : Kept t base (fun _ => False) { tree := t, calls } :=
    ⟨fun _ => rfl, rfl, fun _ _ => rfl⟩
  have after := kept.settle_all (o := o) (d := d) fun x hx =>
    ⟨h.outlineAt_of_standsIn (stands x hx), id⟩
  rw [swept.state]
  refine ⟨?_, ?_, ?_, after.outline, after.locked⟩
  · simpa using Progress.results_settle_all o d base xs { tree := t, calls }
  · intro y hy
    rw [Tree.contentBelow, after.realPlace d, h.root]
    exact contents y hy
  · intro place other
    exact others place (other base h.root)

namespace Pass

def clientObfuscator : Obfuscator where
  scratch := .ofString "/tmp/scratch"
  tool := .ofRules "/*h*/" []

def clientPass : Pass where
  hardener := clientObfuscator.hardener
  level := .info
  label := "client"
  root := .ofString "/"

/-- A directory beside a script whose name starts with its own, and a locked directory. -/
def clientTree : Tree where
  top := .dir [("dist", .dir [
    ("a-b.js", .file [0x61]), ("a", .dir [("z.js", .file [0x7a, 0xff])]),
    ("m", .dir [("c.js", .file [])]), ("n.js", .file [])])]
  locked p := p.name == "m"

theorem plain_clientTree : clientTree.top.Plain := by
  refine Node.plain_dir (by decide +kernel) ?_
  simp only [List.mem_singleton, forall_eq]
  refine Node.plain_dir (by decide +kernel) ?_
  simp only [List.mem_cons, List.not_mem_nil, or_false, forall_eq_or_imp, forall_eq]
  refine ⟨Node.plain_file _, ?_, ?_, Node.plain_file _⟩
  · exact Node.plain_dir (by decide +kernel) (by simpa using Node.plain_file _)
  · exact Node.plain_dir (by decide +kernel) (by simpa using Node.plain_file _)

end Pass
end BundleForge.Hardening
