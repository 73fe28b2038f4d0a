import BundleForge.Action
import Mathlib.Tactic.Common

/-!
What bundlers are told, read off all that happens. Main statements: what is done with one bundler after
another splits into the messages sent to each; an action leaves nothing behind but what its parts do.
-/

namespace BundleForge

/-- The start of a bundler. -/
def Event.isStart : Event → Bool
  | .spawned .. => true
  | _ => false

/-- The start of a bundler, or a message to one. -/
def Event.isOutgoing : Event → Bool
  | .spawned .. | .sent _ => true
  | _ => false

theorem isOutgoing_log {l : Level} {severity : Severity} {text : String} {e : Event}
    (h : e ∈ l.log severity text) : e.isOutgoing = false := by
  unfold Level.log at h
  split at h
  · obtain rfl := List.mem_singleton.mp h
    rfl
  · cases h

/-- The messages that are sent before a bundler is started, and those that are sent after each start. -/
def talks : List Event → List Json × List (List Json)
  | [] => ([], [])
  | .spawned .. :: rest => ([], (talks rest).1 :: (talks rest).2)
  | .sent message :: rest => (message :: (talks rest).1, (talks rest).2)
  | _ :: rest => talks rest

/-- The messages to each bundler, in the order in which the bundlers were started. -/
def conversations (events : List Event) : List (List Json) := (talks events).2

theorem talks_append_of_quiet {events : List Event} (h : ∀ e ∈ events, e.isOutgoing = false)
    (rest : List Event) : talks (events ++ rest) = talks rest := by
  induction events with
  | nil => rfl
  | cons e events ih =>
    have later := ih fun other ho => h other (by simp [ho])
    have quiet := h e (by simp)
    cases e with
    | spawned | sent => cases quiet
    | printed | read | closedInput | terminated | rebuilt | obfuscated => exact later

theorem talks_append_of_unstarted {events : List Event} (h : ∀ e ∈ events, e.isStart = false)
    (rest : List Event) :
    talks (events ++ rest) = ((talks events).1 ++ (talks rest).1, (talks rest).2) := by
  induction events with
  | nil => rfl
  | cons e events ih =>
    have later := ih fun other ho => h other (by simp [ho])
    have unstarted := h e (by simp)
    cases e with
    | spawned => cases unstarted
    | sent message => simp [talks, later]
    | printed | read | closedInput | terminated | rebuilt | obfuscated => simpa [talks] using later

namespace Action

variable {ε ε' σ α β : Type} {p : Event → Prop}

/-- Everything that an action leaves behind is of one sort. -/
def Emits (p : Event → Prop) (a : Action ε σ α) : Prop := ∀ s, ∀ e ∈ (a.run s).events, p e

theorem emits_pure (x : α) : Emits p (pure x : Action ε σ α) := fun _ _ h => by cases h

theorem emits_fail (fault : ε) : Emits p (fail fault : Action ε σ α) := fun _ _ h => by cases h

theorem emits_state : Emits p (state : Action ε σ σ) := fun _ _ h => by cases h

theorem emits_ofExcept (x : Except ε α) : Emits p (ofExcept x : Action ε σ α) := fun _ _ h => by cases h

theorem emits_emit {events : List Event} (h : ∀ e ∈ events, p e) :
    Emits p (emit events : Action ε σ Unit) := fun _ => h

theorem Emits.bind {a : Action ε σ α} {f : α → Action ε σ β} (first : Emits p a)
    (second : ∀ x, Emits p (f x)) : Emits p (a >>= f) := by
  intro s e he
  generalize hd : a.run s = done at *
  obtain ⟨result, state, events⟩ := done
  have early : ∀ e ∈ events, p e := by
    have := first s
    rwa [hd] at this
  cases result with
  | error fault =>
    rw [run_bind_error hd] at he
    exact early e he
  | ok x =>
    rw [run_bind_ok hd] at he
    rcases List.mem_append.mp he with he | he
    · exact early e he
    · exact second x state e he

theorem Emits.attempt {a : Action ε σ α} (h : Emits p a) :
    Emits p (attempt a : Action ε' σ (Except ε α)) := h

theorem Emits.each {f : α → Action ε σ Unit} {items : List α} (h : ∀ x ∈ items, Emits p (f x)) :
    Emits p (each f items) := by
  induction items with
  | nil => exact emits_pure ()
  | cons x rest ih => exact (h x (by simp)).bind fun _ => ih fun y hy => h y (by simp [hy])

end Action
end BundleForge
