import BundleForge.Event

/-!
Actions: computations that pass a state on, leave events behind and may break off with a fault. What
was done before the fault stays done. Main statements: the monad laws that later proofs use, and
that the events of two actions in turn are the events of the first and then those of the second.
-/

namespace BundleForge

/-- What came of an action: a value or a fault, the state it left, and the events on the way. -/
structure Done (ε σ α : Type) where
  result : Except ε α
  state : σ
  events : List Event

def Action (ε σ α : Type) : Type := σ → Done ε σ α

namespace Action

variable {ε ε' σ α β : Type}

def run (a : Action ε σ α) (s : σ) : Done ε σ α := a s

def ret (x : α) : Action ε σ α := fun s => ⟨.ok x, s, []⟩

/-- The second action follows when the first gave a value. -/
def andThen (a : Action ε σ α) (f : α → Action ε σ β) : Action ε σ β := fun s =>
  let first := a s
  match first.result with
  | .ok x =>
    let second := f x first.state
    ⟨second.result, second.state, first.events ++ second.events⟩
  | .error fault => ⟨.error fault, first.state, first.events⟩

instance : Monad (Action ε σ) where
  pure := ret
  bind := andThen

/-- Breaks off. -/
def fail (fault : ε) : Action ε σ α := fun s => ⟨.error fault, s, []⟩

def emit (events : List Event) : Action ε σ Unit := fun s => ⟨.ok (), s, events⟩

def state : Action ε σ σ := fun s => ⟨.ok s, s, []⟩

def put (s : σ) : Action ε σ Unit := fun _ => ⟨.ok (), s, []⟩

/-- A value that was computed without an effect, or its fault. -/
def ofExcept (x : Except ε α) : Action ε σ α := fun s => ⟨x, s, []⟩

/-- The result of an action as a value, whatever it is. -/
def attempt (a : Action ε σ α) : Action ε' σ (Except ε α) := fun s =>
  let done := a s
  ⟨.ok done.result, done.state, done.events⟩

/-- An action for each item in turn, up to the first fault. -/
def each (f : α → Action ε σ Unit) : List α → Action ε σ Unit
  | [] => pure ()
  | x :: rest => do
    f x
    each f rest

@[simp] theorem run_pure (x : α) (s : σ) : (pure x : Action ε σ α).run s = ⟨.ok x, s, []⟩ := rfl

@[simp] theorem run_fail (fault : ε) (s : σ) :
    (fail fault : Action ε σ α).run s = ⟨.error fault, s, []⟩ := rfl

@[simp] theorem run_emit (events : List Event) (s : σ) :
    (emit events : Action ε σ Unit).run s = ⟨.ok (), s, events⟩ := rfl

@[simp] theorem run_state (s : σ) : (state : Action ε σ σ).run s = ⟨.ok s, s, []⟩ := rfl

@[simp] theorem run_ofExcept (x : Except ε α) (s : σ) :
    (ofExcept x : Action ε σ α).run s = ⟨x, s, []⟩ := rfl

@[simp] theorem run_attempt (a : Action ε σ α) (s : σ) :
    (attempt a : Action ε' σ (Except ε α)).run s =
      ⟨.ok (a.run s).result, (a.run s).state, (a.run s).events⟩ := rfl

theorem run_bind_ok {a : Action ε σ α} {f : α → Action ε σ β} {s s' : σ} {x : α}
    {events : List Event} (h : a.run s = ⟨.ok x, s', events⟩) :
    (a >>= f).run s =
      ⟨((f x).run s').result, ((f x).run s').state, events ++ ((f x).run s').events⟩ := by
  simp only [run] at h ⊢
  show andThen a f s = _
  simp [andThen, h]

theorem run_bind_error {a : Action ε σ α} {f : α → Action ε σ β} {s s' : σ} {fault : ε}
    {events : List Event} (h : a.run s = ⟨.error fault, s', events⟩) :
    (a >>= f).run s = ⟨.error fault, s', events⟩ := by
  simp only [run] at h ⊢
  show andThen a f s = _
  simp [andThen, h]

end Action
end BundleForge
