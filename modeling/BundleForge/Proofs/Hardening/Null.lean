import BundleForge.Hardening.Pass
import BundleForge.Proofs.Tree.Place

/-!
Null characters in the path of a pass. Main statement: a pass ends with a path that no file can have
exactly when it was started on one, whatever the tree and the hardener are.
-/

namespace BundleForge

/-- A sequence of actions breaks off in one of them. -/
theorem Action.error_of_run_bind {ε σ α β : Type} {a : Action ε σ α} {f : α → Action ε σ β} {s : σ}
    {fault : ε} (h : ((a >>= f).run s).result = .error fault) :
    (a.run s).result = .error fault ∨
      ∃ x, (a.run s).result = .ok x ∧ ((f x).run (a.run s).state).result = .error fault := by
  generalize hd : a.run s = done
  obtain ⟨result, state, events⟩ := done
  cases result with
  | error fault' =>
    rw [run_bind_error hd] at h
    obtain rfl := Except.error.inj h
    exact .inl rfl
  | ok x =>
    rw [run_bind_ok hd] at h
    exact .inr ⟨x, rfl, h⟩

namespace Tree

theorem hasNull_of_ask {t : Tree} {question : Node → Bool} {p : Path}
    (h : t.ask question p = .ok true) : hasNull p = false := by
  unfold ask at h
  cases hn : hasNull p with
  | false => rfl
  | true => simp [hn] at h

theorem readText_ne_nullInPath {t : Tree} {p : Path} (clean : hasNull p = false) :
    t.readText p ≠ .error .nullInPath := by
  unfold readText readBytes decodeText
  simp only [clean, Bool.false_eq_true, if_false]
  split
  · split <;> simp
  · rename_i fault h
    split at h <;> simp_all
    · rintro rfl
      simp at h
    · rintro rfl
      simp at h

theorem writeText_ne_nullInPath {t : Tree} {p : Path} (clean : hasNull p = false) (text : String) :
    t.writeText p text ≠ .error .nullInPath := by
  unfold writeText write
  simp only [clean, Bool.false_eq_true, if_false]
  split
  · simp
  · split <;> simp

end Tree

namespace Hardening

/-- A hardener that breaks off only in ways in which a script can fail. -/
def Hardener.Fails (h : Hardener) : Prop := ∀ earlier source, h.harden earlier source ≠ .error (.file .nullInPath)

namespace Pass

variable {pass : Pass} {p : Path}

theorem onFile_eq_error {α : Type} {x : Except FileFault α} {s : Progress} {fault : FileFault}
    (h : ((onFile x).run s).result = .error (.file fault)) : x = .error fault := by
  cases x with
  | ok a => cases h
  | error other =>
    obtain rfl : other = fault := by simpa [onFile] using h
    rfl

theorem replaceScript_ne_nullInPath (fails : pass.hardener.Fails) (clean : Tree.hasNull p = false)
    (s : Progress) : ((pass.replaceScript p).run s).result ≠ .error (.file .nullInPath) := by
  intro h
  unfold replaceScript at h
  rw [Action.run_bind_ok (Action.run_state s)] at h
  rcases Action.error_of_run_bind h with h | ⟨source, -, h⟩
  · exact Tree.readText_ne_nullInPath clean (onFile_eq_error h)
  rcases Action.error_of_run_bind h with h | ⟨hardened, -, h⟩
  · exact fails _ source h
  rcases Action.error_of_run_bind h with h | ⟨t, -, h⟩
  · exact Tree.writeText_ne_nullInPath clean hardened (onFile_eq_error h)
  · cases h

theorem hardenFile_ne_nullInPath (fails : pass.hardener.Fails) (clean : Tree.hasNull p = false)
    (s : Progress) : ((pass.hardenFile p).run s).result ≠ .error .nullInPath := by
  intro h
  unfold hardenFile at h
  rcases Action.error_of_run_bind h with h | ⟨result, hr, h⟩
  · simp at h
  split at h
  · cases h
  · rw [Action.run_attempt] at hr
    exact replaceScript_ne_nullInPath fails clean s (Except.ok.inj hr)
  · cases h

theorem asks_eq_error {question : Tree → Path → Except SystemFault Bool} {s : Progress}
    {fault : WalkFault} (h : ((asks question p).run s).result = .error fault) : fault ≠ .nullInPath := by
  simp only [asks, Action.run] at h
  cases hq : question s.tree p with
  | ok b => simp [hq] at h
  | error refused =>
    obtain rfl : WalkFault.refused refused = fault := by simpa [hq] using h
    simp

theorem asks_eq_ok {question : Tree → Path → Except SystemFault Bool} {s : Progress} {b : Bool}
    (h : ((asks question p).run s).result = .ok b) : question s.tree p = .ok b := by
  simp only [asks, Action.run] at h
  cases hq : question s.tree p with
  | ok b' => simpa [hq] using h
  | error refused => simp [hq] at h

theorem each_ne_nullInPath {visit : Path → Action WalkFault Progress Unit} {entries : List Path}
    (h : ∀ entry ∈ entries, ∀ s, ((visit entry).run s).result ≠ .error .nullInPath) (s : Progress) :
    ((Action.each visit entries).run s).result ≠ .error .nullInPath := by
  induction entries generalizing s with
  | nil => simp [Action.each]
  | cons entry rest ih =>
    intro he
    rcases Action.error_of_run_bind he with he | ⟨-, -, he⟩
    · exact h entry (by simp) s he
    · exact ih (fun other ho => h other (by simp [ho])) _ he

/-- Nothing stands at a path that holds a null character, so no walk comes to one. -/
theorem walk_ne_nullInPath (fails : pass.hardener.Fails) (depth : Nat) (clean : Tree.hasNull p = false)
    (s : Progress) : ((pass.walk depth p).run s).result ≠ .error .nullInPath := by
  induction depth generalizing p s with
  | zero => simp [walk]
  | succ depth ih =>
    intro h
    rw [walk, Action.run_bind_ok (Action.run_state s)] at h
    rcases Action.error_of_run_bind h with h | ⟨entries, -, h⟩
    · have listed : entriesOf s.tree p ≠ .error .nullInPath := by
        rcases Tree.list_cases s.tree clean with ⟨cause, refused⟩ | ⟨-, names, -, -, listed, -⟩
        · simp [entriesOf, refused]
        · simp [entriesOf, listed]
      exact listed h
    · refine each_ne_nullInPath (fun entry _ s' => ?_) _ h
      intro hv
      rcases Action.error_of_run_bind hv with hv | ⟨dir, hd, hv⟩
      · exact asks_eq_error hv rfl
      cases dir with
      | true => exact ih (Tree.hasNull_of_ask (asks_eq_ok hd)) _ hv
      | false =>
        rcases Action.error_of_run_bind hv with hv | ⟨file, hf, hv⟩
        · exact asks_eq_error hv rfl
        cases file with
        | false => cases hv
        | true =>
          have entryClean := Tree.hasNull_of_ask (asks_eq_ok hf)
          simp only [if_true] at hv
          split at hv
          · exact hardenFile_ne_nullInPath fails entryClean _ hv
          · cases hv

theorem run_walk_of_hasNull (pass : Pass) (null : Tree.hasNull p = true) (depth : Nat) (s : Progress) :
    (pass.walk (depth + 1) p).run s = ⟨.error .nullInPath, s, []⟩ := by
  have unlisted : s.tree.list p = .error .nullInPath := by simp [Tree.list, null]
  rw [walk, Action.run_bind_ok (Action.run_state s)]
  simp only [entriesOf, unlisted]
  rfl

theorem run_of_hasNull (pass : Pass) (null : Tree.hasNull p = true) (t : Tree) (calls : Nat) :
    pass.run p t calls = ⟨.error .nullInPath, { tree := t, calls }, []⟩ :=
  run_walk_of_hasNull pass null 4095 { tree := t, calls }

/-- A pass ends with a path that no file can have exactly when it was started on one. -/
theorem run_nullInPath_iff (pass : Pass) (fails : pass.hardener.Fails) (t : Tree) (calls : Nat) :
    (pass.run p t calls).result = .error .nullInPath ↔ Tree.hasNull p = true := by
  cases clean : Tree.hasNull p with
  | true => simp [run_of_hasNull pass clean]
  | false =>
    simp only [Bool.false_eq_true, iff_false]
    exact walk_ne_nullInPath fails Tree.pathLimit clean { tree := t, calls }

end Pass
end Hardening
end BundleForge
