import BundleForge.Proofs.Talks
import BundleForge.Report.Basic
import Mathlib.Data.List.Basic

/-!
What the console shows at a level, and actions that differ in the level only. Main statements: at the lower
of two levels exactly those lines are printed that are printed at the higher one and have a severity that
is allowed; actions that are alike but for that are so when they are done in turn.
-/

namespace BundleForge

/-- The severity of what is printed, by its stream and its tag. What has no tag is a report. -/
def Event.severity? : Event → Option Severity
  | .printed .errors _ => some .error
  | .printed .output text =>
    if Severity.debug.tag.toList.isPrefixOf text.toList then some .debug
    else if Severity.info.tag.toList.isPrefixOf text.toList then some .info
    else some .report
  | _ => none

/-- Whether an event is seen at a level: a line where its severity is allowed, and anything else always. -/
def Level.shows (l : Level) (e : Event) : Bool := e.severity?.all l.allows

/-- A text that is not taken for a line of another severity. -/
def IsUntagged (text : String) : Prop := Severity.debug.tag.toList.isPrefixOf text.toList = false

section Lines

variable {low high : Level}

theorem shows_of_severity?_eq_none {e : Event} (h : e.severity? = none) (l : Level) : l.shows e = true := by
  simp [Level.shows, h]

theorem shows_line (l : Level) {s : Severity} {text : String} (report : s = .report → IsUntagged text) :
    l.shows (.printed s.stream (s.tag ++ text)) = l.allows s := by
  cases s with
  | error => rfl
  | info => simp [Level.shows, Event.severity?, Severity.stream, Severity.tag, List.isPrefixOf]
  | debug => simp [Level.shows, Event.severity?, Severity.stream, Severity.tag, List.isPrefixOf]
  | report =>
    have untagged : Severity.debug.tag.toList.isPrefixOf text.toList = false := report rfl
    -- a report may look like an information, which is allowed where a report is
    have same : l.allows .info = l.allows .report := rfl
    simp only [Level.shows, Event.severity?, Severity.stream, String.toList_append,
      show Severity.report.tag.toList = [] from rfl, List.nil_append, untagged, Bool.false_eq_true, if_false]
    split <;> simp [same]

/-- A line is logged at the lower level when it is logged at the higher one and seen at the lower. -/
theorem log_eq_filter (le : low.rank ≤ high.rank) {s : Severity} {text : String}
    (report : s = .report → IsUntagged text) : low.log s text = (high.log s text).filter low.shows := by
  unfold Level.log
  cases allowed : low.allows s with
  | true => simp [Level.allows_mono le allowed, shows_line low report, allowed]
  | false => cases high.allows s <;> simp [shows_line low report, allowed]

/-- A report is empty or starts with an empty line. -/
theorem isUntagged_render {verbose : Bool} {metafile : Json} {text : String}
    (h : Report.render verbose metafile = .ok text) : IsUntagged text := by
  unfold Report.render at h
  cases rows : Report.rowsOf verbose metafile with
  | error fault =>
    rw [rows] at h
    cases h
  | ok rows' =>
    rw [rows] at h
    obtain rfl : Report.layOut rows' = text := Except.ok.inj h
    unfold Report.layOut IsUntagged
    split
    · rfl
    · obtain ⟨line, lines, some⟩ := List.exists_cons_of_ne_nil
        (List.append_ne_nil_of_right_ne_nil (Report.rowLines (Report.widthsOf rows') true rows')
          (List.cons_ne_nil "" []))
      simp [String.toList_intercalate, some, Severity.tag, List.isPrefixOf]

end Lines

/-- Two results that are the same fault, or values that belong together. -/
inductive Agree {ε α : Type} (V : α → α → Prop) : Except ε α → Except ε α → Prop
  | ok {x y : α} (h : V x y) : Agree V (.ok x) (.ok y)
  | error (fault : ε) : Agree V (.error fault) (.error fault)

theorem Agree.eq {ε α : Type} {x y : Except ε α} (h : Agree Eq x y) : x = y := by
  cases h with
  | ok same => rw [same]
  | error => rfl

theorem Agree.refl {ε α : Type} (x : Except ε α) : Agree Eq x x := by
  cases x with
  | ok x => exact .ok rfl
  | error fault => exact .error fault

/-- The first has come to the same as the second, and shows of its events what is seen at a level. -/
structure Dimmed {ε σ α : Type} (low : Level) (R : σ → σ → Prop) (V : α → α → Prop) (x y : Done ε σ α) :
    Prop where
  result : Agree V x.result y.result
  state : R x.state y.state
  events : x.events = y.events.filter low.shows

/-- Two actions of which, from states that belong together, the first comes to the same as the second, and
shows of its events what is seen at a level. -/
def Dims {ε σ α : Type} (low : Level) (R : σ → σ → Prop) (V : α → α → Prop) (a b : Action ε σ α) : Prop :=
  ∀ s s', R s s' → Dimmed low R V (a.run s) (b.run s')

namespace Dims

open BundleForge.Action

variable {ε ε' σ α β : Type} {low high : Level} {R : σ → σ → Prop} {V : α → α → Prop} {W : β → β → Prop}

theorem pure {x y : α} (h : V x y) : Dims low R V (Pure.pure x : Action ε σ α) (Pure.pure y) :=
  fun _ _ related => ⟨.ok h, related, rfl⟩

theorem fail (fault : ε) : Dims low R V (Action.fail fault : Action ε σ α) (Action.fail fault) :=
  fun _ _ related => ⟨.error fault, related, rfl⟩

theorem emit {events events' : List Event} (h : events = events'.filter low.shows) :
    Dims low R Eq (Action.emit events : Action ε σ Unit) (Action.emit events') :=
  fun _ _ related => ⟨.ok rfl, related, h⟩

/-- A line at either level. -/
theorem log (le : low.rank ≤ high.rank) {s : Severity} {text : String}
    (report : s = .report → IsUntagged text) :
    Dims low R Eq (Action.emit (low.log s text) : Action ε σ Unit) (Action.emit (high.log s text)) :=
  emit (log_eq_filter le report)

theorem state : Dims low R R (Action.state : Action ε σ σ) Action.state :=
  fun _ _ related => ⟨.ok related, related, rfl⟩

theorem ofExcept (x : Except ε α) : Dims low R Eq (Action.ofExcept x : Action ε σ α) (Action.ofExcept x) :=
  fun _ _ related => ⟨.refl x, related, rfl⟩

/-- An action that prints nothing is the same at all levels. -/
theorem of_silent {a : Action ε σ α} (silent : Emits (fun e => e.severity? = none) a) : Dims low Eq Eq a a := by
  rintro s _ rfl
  refine ⟨.refl _, rfl, ?_⟩
  exact (List.filter_eq_self.mpr fun e member => shows_of_severity?_eq_none (silent s e member) low).symm

theorem bind {a b : Action ε σ α} {f g : α → Action ε σ β} (first : Dims low R V a b)
    (second : ∀ x y, V x y → Dims low R W (f x) (g y)) : Dims low R W (a >>= f) (b >>= g) := by
  intro s s' related
  have done := first s s' related
  generalize ha : a.run s = x at done
  generalize hb : b.run s' = y at done
  obtain ⟨result, state, events⟩ := x
  obtain ⟨result', state', events'⟩ := y
  obtain ⟨agree, states, shown⟩ := done
  cases agree with
  | error fault =>
    rw [run_bind_error ha, run_bind_error hb]
    exact ⟨.error fault, states, shown⟩
  | ok h =>
    rw [run_bind_ok ha, run_bind_ok hb]
    have next := second _ _ h state state' states
    exact ⟨next.result, next.state, by
      dsimp only at shown
      rw [shown, next.events, List.filter_append]⟩

/-- What follows one value of both. -/
theorem follow {a b : Action ε σ α} {f g : α → Action ε σ β} (first : Dims low R Eq a b)
    (second : ∀ x, Dims low R W (f x) (g x)) : Dims low R W (a >>= f) (b >>= g) :=
  first.bind fun x y same => by
    rw [same]
    exact second y

theorem attempt {a b : Action ε σ α} (h : Dims low R Eq a b) :
    Dims low R Eq (Action.attempt a : Action ε' σ (Except ε α)) (Action.attempt b) := by
  intro s s' related
  have done := h s s' related
  exact ⟨.ok done.result.eq, done.state, done.events⟩

theorem each {f g : α → Action ε σ Unit} {items : List α} (h : ∀ x ∈ items, Dims low R Eq (f x) (g x)) :
    Dims low R Eq (Action.each f items) (Action.each g items) := by
  induction items with
  | nil => exact pure rfl
  | cons x rest ih => exact (h x (by simp)).follow fun _ => ih fun y hy => h y (by simp [hy])

end Dims
end BundleForge
