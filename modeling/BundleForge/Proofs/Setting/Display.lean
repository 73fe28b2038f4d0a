import BundleForge.Setting.Basic
import Mathlib.Tactic.Common

/-!
Which values have a text. Main statement: a value has one only where there is room for the values that stand
one inside the other in it, and where its numbers can be written it is refused for lack of room only.
-/

namespace BundleForge

namespace Number

/-- Whether a whole number has no more digits than are written. -/
def isShort (n : Int) : Bool := n.natAbs < Nat.pow 10 digitLimit

theorem writeInteger_of_isShort {n : Int} (h : isShort n = true) : writeInteger n = .ok (toString n) := by
  simp only [isShort, decide_eq_true_eq] at h
  exact writeInteger_of_lt h

end Number

namespace Setting

mutual

/-- How many values stand one inside the other in a value. -/
def height : Setting → Nat
  | .list items | .tuple items => heights items + 1
  | .set [] => 1
  | .set (item :: rest) => heights (item :: rest) + 2
  | .table entries => entryHeights entries + 1
  | _ => 1

def heights : List Setting → Nat
  | [] => 0
  | item :: rest => max (height item) (heights rest)

def entryHeights : List (Setting × Setting) → Nat
  | [] => 0
  | (key, value) :: rest => max (max (height key) (height value)) (entryHeights rest)

end

mutual

/-- Whether all whole numbers in a value are short enough to be written and it nowhere leads back into
itself. -/
def isWritable : Setting → Bool
  | .int n => Number.isShort n
  | .list items | .tuple items | .set items => allWritable items
  | .table entries => entriesWritable entries
  | .looped .. => false
  | _ => true

def allWritable : List Setting → Bool
  | [] => true
  | item :: rest => isWritable item && allWritable rest

def entriesWritable : List (Setting × Setting) → Bool
  | [] => true
  | (key, value) :: rest => isWritable key && isWritable value && entriesWritable rest

end

end Setting

/-- What is made of a value of some height: it comes only where there is room for that, and where the
numbers can be written nothing else keeps it from coming. -/
structure Shows {α : Type} (writable : Prop) (height room : Nat) (x : Except TextFault α) : Prop where
  fits : ∀ a, x = .ok a → height ≤ room
  refused : writable → ∀ fault, x = .error fault → fault = .tooDeep ∧ room < height

namespace Shows

variable {α β : Type} {writable others : Prop} {height other room : Nat} {x : Except TextFault α}

theorem ok (h : height ≤ room) (a : α) : Shows writable height room (.ok a : Except TextFault α) :=
  ⟨fun _ _ => h, fun _ _ impossible => (nomatch impossible)⟩

theorem imp (h : Shows writable height room x) (w : others → writable) : Shows others height room x :=
  ⟨h.fits, fun all => h.refused (w all)⟩

theorem within (h : Shows writable height room x) (n : Nat) : Shows writable (height + n) (room + n) x :=
  ⟨fun a made => Nat.add_le_add_right (h.fits a made) n,
    fun all fault told => (h.refused all fault told).imp_right fun short => Nat.add_lt_add_right short n⟩

theorem bind (h : Shows writable height room x) {f : α → Except TextFault β}
    (next : ∀ a, Shows others other room (f a)) :
    Shows (writable ∧ others) (max height other) room (x >>= f) := by
  cases x with
  | error fault =>
    refine ⟨fun _ impossible => (nomatch impossible), fun all told same => ?_⟩
    obtain ⟨deep, short⟩ := h.refused all.1 fault rfl
    exact ⟨(Except.error.inj same).symm.trans deep, by omega⟩
  | ok a =>
    have enough := h.fits a rfl
    refine ⟨fun b made => ?_, fun all fault told => ?_⟩
    · exact Nat.max_le.mpr ⟨enough, (next a).fits b made⟩
    · obtain ⟨deep, short⟩ := (next a).refused all.2 fault told
      exact ⟨deep, by omega⟩

/-- What is only put together takes no room. -/
theorem map (h : Shows writable height room x) (f : α → β) :
    Shows writable height room (x >>= fun a => .ok (f a)) := by
  have last (a : α) : Shows True 0 room (.ok (f a) : Except TextFault β) := .ok (Nat.zero_le room) (f a)
  have mapped := h.bind last
  rw [Nat.max_zero] at mapped
  exact mapped.imp fun all => ⟨all, trivial⟩

end Shows

namespace Setting

theorem height_pos (v : Setting) : 0 < v.height := by
  cases v with
  | set items => cases items <;> simp [height]
  | _ => simp [height]

theorem heights_pos (item : Setting) (rest : List Setting) : 0 < heights (item :: rest) :=
  Nat.lt_of_lt_of_le item.height_pos (Nat.le_max_left ..)

mutual

/-- A value is displayed only where there is room for it. The recursion is over the value, one case for
each that holds others. -/
theorem shows_display (room : Nat) (v : Setting) :
    Shows (v.isWritable = true) v.height room (v.display room) := by
  cases room with
  | zero =>
    have none : v.display 0 = .error .tooDeep := by cases v <;> rfl
    rw [none]
    exact ⟨fun _ impossible => (nomatch impossible),
      fun _ fault same => ⟨(Except.error.inj same).symm, v.height_pos⟩⟩
  | succ room =>
    cases v with
    | null | bool | real | str | halved | bytes | date | clock | moment =>
      exact .ok (Nat.le_add_left 1 room) _
    | int n =>
      refine ⟨fun _ _ => Nat.le_add_left 1 room, fun short fault told => ?_⟩
      have written : (Setting.int n).display (room + 1) = .ok (toString n) := by
        rw [display, Number.writeInteger_of_isShort (by simpa [isWritable] using short)]
        rfl
      rw [written] at told
      cases told
    | list items | tuple items => exact ((shows_displayAll room items).map _).within 1
    | set items =>
      cases items with
      | nil => exact .ok (Nat.le_add_left 1 room) _
      | cons item rest =>
        -- the list that the members stand in takes room of its own
        have inner := (shows_displayAll (room - 1) (item :: rest)).map fun shown =>
          if shown.isEmpty then "set()" else "\x7b" ++ ", ".intercalate shown ++ "\x7d"
        have nonempty : 0 < heights (item :: rest) := heights_pos item rest
        refine ⟨fun shown made => ?_, fun all fault told => ?_⟩
        · have enough := inner.fits shown made
          simp only [height]
          omega
        · obtain ⟨deep, short⟩ := inner.refused all fault told
          exact ⟨deep, by simp only [height]; omega⟩
    | table entries => exact ((shows_displayEntries room entries).map _).within 1
    | looped => exact ⟨fun _ _ => Nat.le_add_left 1 room, fun never => by cases never⟩

theorem shows_displayAll (room : Nat) (items : List Setting) :
    Shows (allWritable items = true) (heights items) room (displayAll room items) := by
  match items with
  | [] => exact .ok (Nat.zero_le room) _
  | item :: rest =>
    exact ((shows_display room item).bind fun shown => (shows_displayAll room rest).map _).imp
      (Bool.and_eq_true ..).mp

theorem shows_displayEntries (room : Nat) (entries : List (Setting × Setting)) :
    Shows (entriesWritable entries = true) (entryHeights entries) room (displayEntries room entries) := by
  match entries with
  | [] => exact .ok (Nat.zero_le room) _
  | (key, value) :: rest =>
    rw [entryHeights, Nat.max_assoc]
    refine ((shows_display room key).bind fun _ => (shows_display room value).bind fun _ =>
      (shows_displayEntries room rest).map _).imp fun all => ?_
    simpa [entriesWritable, and_assoc] using all

end

/-- A value has a text only where there is room for it. -/
theorem shows_text (v : Setting) : Shows (v.isWritable = true) v.height textRoom v.text := by
  cases v with
  | str | halved | date | clock | moment => exact .ok (by simp [height, textRoom]) _
  | _ => exact shows_display textRoom _

theorem text_eq_tooDeep {v : Setting} (writable : v.isWritable = true) (short : textRoom < v.height) :
    v.text = .error .tooDeep := by
  cases made : v.text with
  | ok s => exact absurd (v.shows_text.fits s made) (Nat.not_le.mpr short)
  | error fault => rw [(v.shows_text.refused writable fault made).1]

end Setting

/-- The ways in which a reader of values refuses: as too deep, and with complaints of its own. -/
structure Refusals (ε : Type) where
  tooDeep : ε
  isOwn : ε → Prop

/-- A reading of values that makes texts of some of them. It succeeds only where there is room for each
of these; where their numbers can be written, it is refused as too deep only where there is not. -/
structure Reads {ε α : Type} (refusals : Refusals ε) (texts : List Setting) (result : α → Prop)
    (x : Except ε α) : Prop where
  settled : ∀ a, x = .ok a → result a ∧ ∀ value ∈ texts, value.height ≤ Setting.textRoom
  refused : (∀ value ∈ texts, value.isWritable = true) → ∀ fault, x = .error fault →
    refusals.isOwn fault ∨ fault = refusals.tooDeep ∧ ∃ value ∈ texts, Setting.textRoom < value.height

namespace Reads

variable {ε α β : Type} {refusals : Refusals ε} {texts others : List Setting} {result : α → Prop}
  {final : β → Prop} {x : Except ε α}

theorem ok {a : α} (h : result a) : Reads refusals [] result (.ok a) :=
  ⟨fun b same => by cases same; exact ⟨h, by simp⟩, fun _ _ impossible => (nomatch impossible)⟩

theorem own {fault : ε} (h : refusals.isOwn fault) : Reads refusals texts result (.error fault) :=
  ⟨fun _ impossible => (nomatch impossible), fun _ _ same => by cases same; exact .inl h⟩

theorem bind {f : α → Except ε β} (first : Reads refusals texts result x)
    (second : ∀ a, result a → Reads refusals others final (f a)) :
    Reads refusals (texts ++ others) final (x >>= f) := by
  cases x with
  | error fault =>
    refine ⟨fun _ impossible => (nomatch impossible), fun writable fault same => ?_⟩
    cases Except.error.inj same
    have left := (List.forall_mem_append.mp writable).1
    obtain own | ⟨deep, value, member, short⟩ := first.refused left _ rfl
    · exact .inl own
    · exact .inr ⟨deep, value, List.mem_append_left _ member, short⟩
  | ok a =>
    obtain ⟨holds, fit⟩ := first.settled a rfl
    have next := second a holds
    constructor
    · intro b made
      obtain ⟨ends, others_fit⟩ := next.settled b made
      exact ⟨ends, List.forall_mem_append.mpr ⟨fit, others_fit⟩⟩
    · intro writable fault made
      have right := (List.forall_mem_append.mp writable).2
      obtain own | ⟨deep, value, member, short⟩ := next.refused right fault made
      · exact .inl own
      · exact .inr ⟨deep, value, List.mem_append_right _ member, short⟩

/-- The last step of a reading makes no more texts. -/
theorem map {f : α → β} (first : Reads refusals texts result x) (h : ∀ a, result a → final (f a)) :
    Reads refusals texts final (x >>= fun a => .ok (f a)) := by
  rw [← List.append_nil texts]
  exact first.bind fun a holds => ok (h a holds)

theorem mono {weaker : α → Prop} (h : Reads refusals texts result x) (w : ∀ a, result a → weaker a) :
    Reads refusals texts weaker x :=
  ⟨fun a made => (h.settled a made).imp_left (w a), h.refused⟩

/-- What is made is the result of the reading. -/
theorem itself (h : Reads refusals texts result x) : Reads refusals texts (fun a => x = .ok a) x :=
  ⟨fun a made => ⟨made, (h.settled a made).2⟩, h.refused⟩

/-- A complaint handed on stays one. -/
theorem mapError {ε' : Type} {handed : Refusals ε'} (h : Reads refusals texts result x) {f : ε → ε'}
    (own : ∀ fault, refusals.isOwn fault → handed.isOwn (f fault))
    (deep : ∀ value ∈ texts, f refusals.tooDeep = handed.tooDeep) :
    Reads handed texts result (x.mapError f) := by
  cases x with
  | ok a =>
    exact ⟨fun b same => h.settled b (congrArg Except.ok (Except.ok.inj same)), fun _ _ no => (nomatch no)⟩
  | error fault =>
    refine ⟨fun _ impossible => (nomatch impossible), fun writable _ same => ?_⟩
    cases Except.error.inj same
    obtain complaint | ⟨rfl, value, member, short⟩ := h.refused writable fault rfl
    · exact .inl (own fault complaint)
    · exact .inr ⟨deep value member, value, member, short⟩

/-- What makes no texts is refused with a complaint of its own. -/
theorem isOwn (h : Reads refusals [] result x) {fault : ε} (same : x = .error fault) :
    refusals.isOwn fault := by
  obtain own | ⟨-, value, member, -⟩ := h.refused (by simp) fault same
  · exact own
  · exact absurd member List.not_mem_nil

end Reads

/-- Where the numbers can be written, a text is refused as too deep only. -/
def TextFault.refusals : Refusals TextFault where
  tooDeep := .tooDeep
  isOwn _ := False

theorem reads_text (value : Setting) :
    Reads TextFault.refusals [value] (fun s => value.text = .ok s) value.text := by
  have shows := value.shows_text
  constructor
  · exact fun s made => ⟨made, by simpa using shows.fits s made⟩
  · intro writable fault told
    obtain ⟨deep, short⟩ := shows.refused (writable value (by simp)) fault told
    exact .inr ⟨deep, value, by simp, short⟩

end BundleForge
