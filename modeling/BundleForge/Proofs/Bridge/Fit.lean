import BundleForge.Bridge.Session
import Mathlib.Tactic.Common

/-!
When the members of a message fit the use that a conversation makes of them. Main statement: each sort
of message is made sense of exactly when its members fit, and what it breaks off with otherwise is
never a wrong value of the right kind.
-/

namespace BundleForge.Bridge

/-- Something that is computed exactly under a condition. The misfit otherwise is no wrong value. -/
def Fits {α : Type} : Bool → Except Misfit α → Prop
  | true, x => ∃ a, x = .ok a
  | false, x => ∃ misfit, x = .error misfit ∧ misfit.sort ≠ .value

namespace Fits

variable {α β : Type} {b c : Bool} {x : Except Misfit α}

theorem bind {f : α → Except Misfit β} (first : Fits b x) (second : ∀ a, x = .ok a → Fits c (f a)) :
    Fits (b && c) (x >>= f) := by
  cases b with
  | false =>
    obtain ⟨misfit, rfl, sort⟩ := first
    exact ⟨misfit, rfl, sort⟩
  | true =>
    obtain ⟨a, rfl⟩ := first
    exact second a rfl

theorem map (f : α → β) (h : Fits b x) : Fits b (x.map f) := by
  cases b with
  | false =>
    obtain ⟨misfit, rfl, sort⟩ := h
    exact ⟨misfit, rfl, sort⟩
  | true =>
    obtain ⟨a, rfl⟩ := h
    exact ⟨f a, rfl⟩

theorem mapM {f : α → Except Misfit β} {p : α → Bool} (h : ∀ a, Fits (p a) (f a)) (items : List α) :
    Fits (items.all p) (items.mapM f) := by
  induction items with
  | nil => exact ⟨[], rfl⟩
  | cons item rest ih =>
    rw [List.mapM_cons, List.all_cons]
    refine (h item).bind fun a _ => ?_
    rw [← Bool.and_true (rest.all p)]
    exact ih.bind fun as _ => ⟨a :: as, rfl⟩

end Fits

/-- A value that can be gone through. -/
def isIterable (j : Json) : Bool :=
  match j.kind with
  | .str | .arr | .obj => true
  | .null | .bool | .int | .real => false

theorem fits_iterate (j : Json) : Fits (isIterable j) j.iterate := by
  cases j with
  | arr | obj | str | halved => exact ⟨_, rfl⟩
  | null | bool | int | real => exact ⟨_, rfl, by simp [Misfit.sort]⟩

/-- A member that can be gone through, where it counts as present. -/
def listable (name : String) (message : List (String × Json)) : Bool :=
  ((message.lookup name).bind Json.present?).all isIterable

/-- A member that is an object, where it counts as present. -/
def tabled (name : String) (message : List (String × Json)) : Bool :=
  ((message.lookup name).bind Json.present?).all fun value => value.kind == .obj

theorem fits_listMember (name : String) (message : List (String × Json)) :
    Fits (listable name message) (listMember name message) := by
  unfold listable listMember
  cases (message.lookup name).bind Json.present? with
  | none => exact ⟨[], rfl⟩
  | some value => exact fits_iterate value

/-- An error that points at its place by an object, where it points at one at all. -/
def placed : Json → Bool
  | .obj members => tabled "location" members
  | _ => true

theorem fits_errorText (error : Json) : Fits (placed error) (errorText error) := by
  cases error with
  | obj members =>
    simp only [placed, tabled, errorText]
    cases (members.lookup "location").bind Json.present? with
    | none => exact ⟨_, rfl⟩
    | some location =>
      cases location with
      | obj place =>
        dsimp only
        split <;> exact ⟨_, rfl⟩
      | null | bool | int | real | str | halved | arr => exact ⟨_, rfl, by simp [Misfit.sort]⟩
  | null | bool | int | real | str | halved | arr => exact ⟨_, rfl⟩

theorem fits_errorsText (errors : List Json) : Fits (errors.all placed) (errorsText errors) :=
  (Fits.mapM fits_errorText errors).map _

namespace Session

/-- The files of a result: they are gone through where there are any; otherwise the metafile has to be
an object, and its outputs one, where they count as present. -/
def namesFiles (message : List (String × Json)) : Bool :=
  match (message.lookup "outputFiles").filter fun j => j.kind != .null with
  | some files => isIterable files
  | none => tabled "metafile" message &&
    ((message.lookup "metafile").bind Json.present?).all fun
      | .obj metafile => tabled "outputs" metafile
      | _ => true

/-- The errors that a message reports are placed. -/
def errorsPlaced (message : List (String × Json)) : Bool :=
  match message.lookup "errors" with
  | some (.arr errors) => errors.all placed
  | _ => true

theorem fits_rebuildOf (message : List (String × Json)) :
    Fits (listable "errors" message && listable "warnings" message) (rebuildOf message) := by
  refine (fits_listMember _ message).bind fun errors _ => ?_
  rw [← Bool.and_true (listable "warnings" message)]
  exact (fits_listMember _ message).bind fun warnings _ => ⟨_, rfl⟩

theorem fits_emittedBy (message : List (String × Json)) :
    Fits (namesFiles message)
      (emittedBy message (((message.lookup "metafile").bind Json.present?).getD (.obj []))) := by
  unfold namesFiles emittedBy tabled
  cases (message.lookup "outputFiles").filter fun j => j.kind != .null with
  | some files => exact (fits_iterate files).map _
  | none =>
    cases (message.lookup "metafile").bind Json.present? with
    | none => exact ⟨[], rfl⟩
    | some metafile =>
      cases metafile with
      | obj members =>
        simp only [Option.all_some, Json.kind, beq_self_eq_true, Bool.true_and, Option.getD_some,
          Json.getPresent, Json.get, Except.map]
        cases hv : (members.lookup "outputs").bind Json.present? with
        | none => exact ⟨[], rfl⟩
        | some outputs =>
          cases outputs with
          | obj files => exact ⟨_, rfl⟩
          | null | bool | int | real | str | halved | arr => exact ⟨_, rfl, by simp [Misfit.sort]⟩
      | null | bool | int | real | str | halved | arr => exact ⟨_, rfl, by simp [Misfit.sort]⟩

theorem fits_outcomeOf (message : List (String × Json)) :
    Fits (namesFiles message && listable "warnings" message) (outcomeOf message) := by
  refine (fits_emittedBy message).bind fun emitted _ => ?_
  rw [← Bool.and_true (listable "warnings" message)]
  exact (fits_listMember _ message).bind fun warnings _ => ⟨_, rfl⟩

theorem placed_ofSpelled (s : Text.Spelled) : placed (.ofSpelled s) = true := by cases s <;> rfl

/-- Only a list has items that point at a place. -/
theorem all_placed_of_iterate {value : Json} {items : List Json} (h : value.iterate = .ok items)
    (other : value.kind ≠ .arr) : items.all placed = true := by
  cases value with
  | str s =>
    obtain rfl := Except.ok.inj h
    simp [placed]
  | halved codes =>
    obtain rfl := Except.ok.inj h
    simp [placed_ofSpelled]
  | obj members =>
    obtain rfl := Except.ok.inj h
    simp [placed]
  | arr items => exact absurd rfl other
  | null | bool | int | real => simp [Json.iterate] at h

theorem all_placed_of_listMember {message : List (String × Json)} {errors : List Json}
    (h : listMember "errors" message = .ok errors) : errors.all placed = errorsPlaced message := by
  unfold listMember at h
  unfold errorsPlaced
  cases hl : message.lookup "errors" with
  | none =>
    obtain rfl : [] = errors := by simpa [hl] using h
    rfl
  | some value =>
    simp only [hl, Option.bind_some, Json.present?] at h
    by_cases hk : value.kind = .arr
    · cases value with
      | arr items =>
        obtain rfl : items = errors := by
          cases items <;> simpa [Json.isPresent, Json.iterate] using h
        rfl
      | null | bool | int | real | str | halved | obj => simp [Json.kind] at hk
    · have placed_all : errors.all placed = true := by
        by_cases hp : value.isPresent = true
        · exact all_placed_of_iterate (by simpa [hp] using h) hk
        · obtain rfl : [] = errors := by simpa [hp] using h
          rfl
      rw [placed_all]
      cases value with
      | arr => exact absurd rfl hk
      | null | bool | int | real | str | halved | obj => rfl

theorem fits_errorOf (message : List (String × Json)) :
    Fits (listable "errors" message && errorsPlaced message) (errorOf message) := by
  refine (fits_listMember _ message).bind fun errors he => ?_
  rw [← all_placed_of_listMember he, ← Bool.and_true (errors.all placed)]
  exact (fits_errorsText errors).bind fun details _ => ⟨_, rfl⟩

/-- What is made of a reported error is always one of the bundler's own. -/
theorem errorOf_eq_ok {message : List (String × Json)} {fault : Fault} (h : errorOf message = .ok fault) :
    ∃ text errors, fault = .bundler text errors := by
  unfold errorOf at h
  simp only [bind, Except.bind] at h
  split at h
  · simp at h
  · split at h
    · simp at h
    · obtain rfl := Except.ok.inj h
      exact ⟨_, _, rfl⟩

end Session
end BundleForge.Bridge
