import Mathlib.Data.List.Forall2

/-!
Lists matched item by item. Main statements: what holds of the items of one list holds in its way of their matches,
and two matchings in turn are one.
-/

namespace BundleForge

variable {α β γ : Type} {R : α → β → Prop} {as : List α} {bs : List β} {cs : List γ}

theorem map_eq_of_matched {f : α → γ} {g : β → γ} (matched : List.Forall₂ R as bs)
    (same : ∀ a b, R a b → f a = g b) : as.map f = bs.map g := by
  rw [← List.forall₂_eq_eq_eq, List.forall₂_map_left_iff, List.forall₂_map_right_iff]
  exact matched.imp same

theorem forall_mem_of_matched {P : α → Prop} {Q : β → Prop} (matched : List.Forall₂ R as bs)
    (step : ∀ a b, R a b → P a → Q b) (all : ∀ a ∈ as, P a) : ∀ b ∈ bs, Q b := by
  induction matched with
  | nil => exact fun _ absent => absurd absent List.not_mem_nil
  | cons first _ ih =>
    rw [List.forall_mem_cons] at all ⊢
    exact ⟨step _ _ first all.1, ih all.2⟩

theorem matched_trans {S : β → γ → Prop} {T : α → γ → Prop} (matched : List.Forall₂ R as bs)
    (matched' : List.Forall₂ S bs cs) (step : ∀ a b c, R a b → S b c → T a c) : List.Forall₂ T as cs := by
  induction matched generalizing cs with
  | nil =>
    cases matched'
    exact .nil
  | cons first _ ih =>
    obtain _ | ⟨first', others⟩ := matched'
    exact .cons (step _ _ _ first first') (ih others)

/-- Steps that all go through are steps of their matches. -/
theorem foldlM_eq_of_matched {ε σ : Type} {f : σ → α → Except ε σ} {g : σ → β → σ} (matched : List.Forall₂ R as bs)
    (step : ∀ s a b, R a b → f s a = .ok (g s b)) (s : σ) : as.foldlM f s = .ok (bs.foldl g s) := by
  induction matched generalizing s with
  | nil => rfl
  | cons first _ ih =>
    have onward := step s _ _ first
    rw [List.foldlM_cons, onward]
    exact ih _

end BundleForge
