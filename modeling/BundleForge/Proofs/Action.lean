import BundleForge.Action

/-!
What holds of the state through an action, and of the value that it gives. Main statement: what two actions
keep they keep in turn.
-/

namespace BundleForge.Action

variable {ε ε' σ α β : Type} {inv : σ → Prop} {given : α → Prop} {last : β → Prop}

/-- An action that keeps what holds of the state; its value, if it gives one, is as said. -/
structure Ensures (inv : σ → Prop) (given : α → Prop) (a : Action ε σ α) : Prop where
  keeps : ∀ s, inv s → inv (a.run s).state
  gives : ∀ s, inv s → ∀ x, (a.run s).result = .ok x → given x

namespace Ensures

theorem pure {x : α} (h : given x) : Ensures inv given (Pure.pure x : Action ε σ α) :=
  ⟨fun _ holds => holds, fun _ _ _ same => Except.ok.inj same ▸ h⟩

theorem fail (fault : ε) : Ensures inv given (Action.fail fault : Action ε σ α) :=
  ⟨fun _ holds => holds, fun _ _ _ impossible => nomatch impossible⟩

theorem emit (events : List Event) : Ensures inv (fun _ => True) (Action.emit events : Action ε σ Unit) :=
  ⟨fun _ holds => holds, fun _ _ _ _ => trivial⟩

theorem bind {a : Action ε σ α} {f : α → Action ε σ β} (first : Ensures inv given a)
    (second : ∀ x, given x → Ensures inv last (f x)) : Ensures inv last (a >>= f) := by
  have both (s : σ) (holds : inv s) : inv ((a >>= f).run s).state ∧
      ∀ y, ((a >>= f).run s).result = .ok y → last y := by
    have kept := first.keeps s holds
    have gives := first.gives s holds
    generalize ran : a.run s = done at kept gives
    obtain ⟨result, state, events⟩ := done
    cases result with
    | error fault =>
      rw [run_bind_error ran]
      exact ⟨kept, fun _ impossible => nomatch impossible⟩
    | ok x =>
      rw [run_bind_ok ran]
      have next := second x (gives x rfl)
      exact ⟨next.keeps state kept, next.gives state kept⟩
  exact ⟨fun s holds => (both s holds).1, fun s holds => (both s holds).2⟩

/-- An attempt has a value in any case. -/
theorem attempt {a : Action ε σ α} (h : Ensures inv given a) :
    Ensures inv (fun x : Except ε α => ∀ y, x = .ok y → given y) (Action.attempt a : Action ε' σ _) :=
  ⟨h.keeps, fun s holds _ same y made => h.gives s holds y (Except.ok.inj same ▸ made)⟩

end Ensures
end BundleForge.Action
