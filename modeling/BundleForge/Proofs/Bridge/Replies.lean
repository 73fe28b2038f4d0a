import BundleForge.Proofs.Bridge.Progress

/-!
A whole conversation: a build is asked for, its result is awaited, and then the bundler is listened to.
Main statement: what passes over the wire is the request and then, item by item, the reading of the item
and the one reply that it asks for, if any; nothing is read ahead of a reply.
-/

namespace BundleForge.Bridge

/-- An item that ends the wait for a result. -/
def Item.settles (item : Item) : Bool := item.effect != .passes

/-- An item that a listener does not survive. -/
def Item.breaks (item : Item) : Bool := item.effect == .breaks

def Item.isResult (item : Item) : Bool := item.effect == .result

/-- The items up to the first of a sort, that one included. -/
def upTo (stops : Item → Bool) : List Item → List Item
  | [] => []
  | item :: rest => item :: if stops item then [] else upTo stops rest

/-- Whether the wait for a result ends with one. -/
def settled (items : List Item) : Bool := (upTo Item.settles items).getLast?.any Item.isResult

/-- The items that a conversation reads: those up to the first that settles the wait for a result and,
when that one is a result, those that a listener takes after it. -/
def heard (items : List Item) : List Item :=
  let first := upTo Item.settles items
  if settled items then first ++ upTo Item.breaks (items.drop first.length) else first

/-- The items up to the first of a sort are those before it and, among the others, those up to it. -/
theorem upTo_append {stops : Item → Bool} {before : List Item} (h : ∀ item ∈ before, stops item = false)
    (rest : List Item) : upTo stops (before ++ rest) = before ++ upTo stops rest := by
  induction before with
  | nil => rfl
  | cons item before ih =>
    simp only [List.mem_cons, forall_eq_or_imp] at h
    simp [upTo, h.1, ih h.2]

/-- Items that settle nothing have no say in how the wait for a result ends. -/
theorem settled_append {before : List Item} (h : ∀ item ∈ before, item.settles = false) (rest : List Item) :
    settled (before ++ rest) = settled rest := by
  unfold settled
  rw [upTo_append h, List.getLast?_append]
  cases last : (upTo Item.settles rest).getLast? with
  | some item => rfl
  | none =>
    rw [Option.none_or, Option.any_none, Option.any_eq_false]
    intro item among
    have passes : item.effect = .passes := by
      simpa [Item.settles] using h item (List.mem_of_getLast? among)
    simp [Item.isResult, passes]

theorem heard_of_split {items rest : List Item} (split : upTo Item.settles items ++ rest = items) :
    heard items = upTo Item.settles items ++ if settled items then upTo Item.breaks rest else [] := by
  have remaining : items.drop (upTo Item.settles items).length = rest :=
    calc items.drop (upTo Item.settles items).length
      _ = (upTo Item.settles items ++ rest).drop (upTo Item.settles items).length := by rw [split]
      _ = rest := List.drop_left ..
  unfold heard
  dsimp only
  rw [remaining]
  split_ifs <;> simp

/-- What a loop over the items that are still unread has done: it took them turn by turn, up to the
first of a sort. -/
structure Carried {α : Type} (stops : Item → Bool) (items : List Item) (done : Done Fault Wire α) :
    Prop where
  turns : ∃ turns : List Turn, traffic done.events = turns.flatMap Turn.events ∧
    turns.map Turn.item = upTo stops items ∧ ∀ t ∈ turns, t.Answered
  unread : upTo stops items ++ done.state.unread = items
  writesLeft : done.state.writesLeft = none

namespace Session

variable {s : Session} {w : Wire} {item : Item} {items : List Item}

theorem settles_of_passes (expected : s.expectsItem item = true) (comes : (s.respond item).comes = .ok none) :
    item.settles = false := by
  rw [Item.settles, effect_eq expected, comes]
  rfl

theorem breaks_of_survived (expected : s.expectsItem item = true) (survived : (s.respond item).Survived) :
    item.breaks = false := by
  rw [Item.breaks, effect_eq expected]
  cases comes : (s.respond item).comes with
  | ok outcome => cases outcome <;> rfl
  | error fault =>
    rw [Effect.of, if_pos (survived fault comes)]
    rfl

theorem settles_of_fault {fault : Fault} (expected : s.expectsItem item = true)
    (comes : (s.respond item).comes = .error fault) : item.settles = true ∧ item.isResult = false := by
  rw [Item.settles, Item.isResult, effect_eq expected, comes, Effect.of]
  split <;> decide

theorem settles_of_outcome {outcome : Outcome} (expected : s.expectsItem item = true)
    (comes : (s.respond item).comes = .ok (some outcome)) : item.settles = true ∧ item.isResult = true := by
  rw [Item.settles, Item.isResult, effect_eq expected, comes, Effect.of]
  decide

theorem breaks_of_fault {fault : Fault} (expected : s.expectsItem item = true)
    (comes : (s.respond item).comes = .error fault) (course : fault.course ≠ .goesOn) : item.breaks = true := by
  rw [Item.breaks, effect_eq expected, comes, Effect.of, if_neg course]
  rfl

/-- Where no write fails, the wait for a result ends with the first item that settles it. -/
theorem Awaited.reached {done : Done Fault Wire Outcome} (ends : s.Awaited w w.unread done)
    (writable : w.writesLeft = none) (expected : ∀ item ∈ w.unread, s.expectsItem item = true) :
    upTo Item.settles w.unread ++ done.state.unread = w.unread := by
  generalize unread : w.unread = items at ends expected
  cases ends with
  | exhausted => simp [upTo, unread]
  | refused refused => simp [refused.2] at writable
  | failed _ comes => simp [upTo, settles_of_fault (expected _ List.mem_cons_self) comes]
  | settled _ comes => simp [upTo, settles_of_outcome (expected _ List.mem_cons_self) comes]

/-- It comes to an outcome exactly when that item is a result. -/
theorem Awaited.brings_iff {done : Done Fault Wire Outcome} (ends : s.Awaited w items done)
    (writable : w.writesLeft = none) (expected : ∀ item ∈ items, s.expectsItem item = true) :
    (∃ outcome, done.result = .ok outcome) ↔ Bridge.settled items = true := by
  cases ends with
  | exhausted => simp [upTo, Bridge.settled]
  | refused refused => simp [refused.2] at writable
  | failed _ comes => simp [upTo, Bridge.settled, settles_of_fault (expected _ List.mem_cons_self) comes]
  | settled _ comes => simp [upTo, Bridge.settled, settles_of_outcome (expected _ List.mem_cons_self) comes]

/-- Where no write fails, a listener ends with the first item that breaks off the reading. -/
theorem Listened.reached {done : Done Fault Wire Unit} (ends : s.Listened w w.unread done)
    (writable : w.writesLeft = none) (expected : ∀ item ∈ w.unread, s.expectsItem item = true) :
    upTo Item.breaks w.unread ++ done.state.unread = w.unread := by
  generalize unread : w.unread = items at ends expected
  cases ends with
  | exhausted => simp [upTo, unread]
  | refused refused => simp [refused.2] at writable
  | ended _ comes course =>
    simp [upTo, breaks_of_fault (expected _ List.mem_cons_self) comes (by simp [course])]
  | lost _ comes course =>
    simp [upTo, breaks_of_fault (expected _ List.mem_cons_self) comes (by simp [course])]

section Carrying

variable {α : Type} {stops : Item → Bool} {done : Done Fault Wire α}

/-- A session that has taken turns over a wire whose writes succeed, up to an item it stops at. -/
theorem Conducted.carried (conducted : s.Conducted w done) (writable : w.writesLeft = none)
    (expected : ∀ item ∈ w.unread, s.expectsItem item = true)
    (reached : upTo stops w.unread ++ done.state.unread = w.unread) : Carried stops w.unread done := by
  obtain ⟨⟨turns, passed, items, took⟩, written, left⟩ := conducted
  refine ⟨⟨turns, passed, List.append_cancel_right (items.trans reached.symm), fun t among => ?_⟩, reached,
    by simp [left, writable]⟩
  obtain responded | ⟨-, limited, -⟩ := took t among
  · have read : t.item ∈ w.unread := by
      rw [← items]
      exact List.mem_append_left _ (List.mem_map_of_mem among)
    rw [responded]
    exact turn_answered (expected t.item read)
  · simp [writable] at limited

/-- What is passed on a course is not stopped at, so that the course is carried up to where it ends. -/
theorem Course.carried {goes : Response → Prop} {Ends : Wire → List Item → Done Fault Wire α → Prop}
    (course : s.Course goes Ends w w.unread done) (conducted : s.Conducted w done)
    (writable : w.writesLeft = none) (expected : ∀ item ∈ w.unread, s.expectsItem item = true)
    (passes : ∀ {item}, s.expectsItem item = true → goes (s.respond item) → stops item = false)
    (reached : ∀ {w done}, Ends w w.unread done → w.writesLeft = none →
      (∀ item ∈ w.unread, s.expectsItem item = true) →
      upTo stops w.unread ++ done.state.unread = w.unread) : Carried stops w.unread done := by
  refine conducted.carried writable expected ?_
  obtain ⟨before, rest, split, passed, done, ends⟩ := course
  have goOn : ∀ item ∈ before, stops item = false :=
    fun item among => passes (expected item (by simp [split, among])) (passed.went item among)
  have others : ∀ item ∈ rest, s.expectsItem item = true :=
    fun item among => expected item (by simp [split, among])
  rw [split, upTo_append goOn, List.append_assoc]
  exact congrArg (before ++ ·) (reached ends (by simp [past, writable]) others)

end Carrying

theorem awaitResult_brings_iff (writable : w.writesLeft = none)
    (expected : ∀ item ∈ w.unread, s.expectsItem item = true) :
    (∃ outcome, ((s.awaitResult w.unread).run w).result = .ok outcome) ↔ settled w.unread = true := by
  have course := awaitResult_course (w := w) s rfl
  generalize (s.awaitResult w.unread).run w = done at course
  obtain ⟨before, rest, split, passed, done, ends⟩ := course
  have goOn : ∀ item ∈ before, item.settles = false :=
    fun item among => settles_of_passes (expected item (by simp [split, among])) (passed.went item among)
  have others : ∀ item ∈ rest, s.expectsItem item = true :=
    fun item among => expected item (by simp [split, among])
  rw [split, settled_append goOn]
  exact ends.brings_iff (by simp [past, writable]) others

/-- The wait for a result takes the items up to the first that does not pass, and comes to an outcome
exactly when that one is a result. -/
theorem awaitResult_carried (silent : s.Silent)
    (expected : ∀ item ∈ items, s.expectsItem item = true) (writable : w.writesLeft = none)
    (unread : w.unread = items) :
    Carried Item.settles items ((s.awaitResult items).run w) ∧
      ((∃ outcome, ((s.awaitResult items).run w).result = .ok outcome) ↔ settled items = true) := by
  subst unread
  exact ⟨(awaitResult_course s rfl).carried (awaitResult_conducted silent w) writable expected settles_of_passes
    Awaited.reached, awaitResult_brings_iff writable expected⟩

/-- A listener takes the items up to the first that breaks off the reading. -/
theorem listenTo_carried (silent : s.Silent)
    (expected : ∀ item ∈ items, s.expectsItem item = true) (writable : w.writesLeft = none)
    (unread : w.unread = items) : Carried Item.breaks items ((s.listenTo items).run w) := by
  subst unread
  exact (listenTo_course s rfl).carried (listenTo_conducted silent w) writable expected breaks_of_survived
    Listened.reached

theorem run_start (o : Options) (writable : w.writesLeft = none) :
    (s.start o).run w =
      ⟨((s.awaitResult w.unread).run w).result, ((s.awaitResult w.unread).run w).state,
        .sent (s.buildMessage o) :: ((s.awaitResult w.unread).run w).events⟩ := by
  have unlimited : w.written = w := by
    obtain ⟨unread, left, fault, reported⟩ := w
    obtain rfl : left = none := writable
    rfl
  have started := run_start_written (s := s) (w := w) o (by simp [writable])
  rwa [unlimited] at started

/-- A conversation in which every write succeeds hears the items that are to be heard, and no others. -/
theorem converse_hears (silent : s.Silent) (o : Options)
    (expected : ∀ item ∈ w.unread, s.expectsItem item = true) (writable : w.writesLeft = none) :
    heard w.unread ++ ((s.converse o).run w).state.unread = w.unread := by
  obtain ⟨⟨-, split, writable'⟩, comes⟩ := awaitResult_carried silent expected writable rfl
  have started := run_start (s := s) o writable
  generalize (s.awaitResult w.unread).run w = done at split writable' comes started
  obtain ⟨result, state, events⟩ := done
  rw [heard_of_split split]
  unfold converse
  cases result with
  | error fault =>
    have unsettled : settled w.unread = false := by simpa using comes
    rw [Action.run_bind_error started, unsettled]
    simpa using split
  | ok outcome =>
    have settles : settled w.unread = true := comes.mp ⟨outcome, rfl⟩
    have later : ∀ item ∈ state.unread, s.expectsItem item = true := by
      intro item among
      refine expected item ?_
      rw [← split]
      exact List.mem_append_right _ among
    have heard := (listenTo_carried silent later writable' rfl).unread
    rw [Action.run_bind_ok started, run_listen, settles, if_pos rfl, List.append_assoc]
    exact (congrArg _ heard).trans split

/-- A conversation about a server bundle. -/
def ofServer : Session where
  label := "server"
  level := .debug
  policy := some { cwd := .ofString "/app" }
  onRebuild rebuild := [.rebuilt rebuild]
  tree := { top := .dir [] }

def serverOptions : Options where
  entryPoints := ["/app/server.ts"]
  platform := "node"
  format := "cjs"
  target := ["node16"]
  outDir := "/app/dist"
  minify := false
  sourcemap := false

/-- A request before the result, and a malformed line and a request after it. -/
def serverItems : List Item := [
  .line "\x7b\"type\":\"resolve\",\"id\":1,\"path\":\"uuid\",\"kind\":\"import-statement\",\"located\":\"uuid\"\x7d",
  .line "\x7b\"type\":\"result\",\"outputFiles\":[]\x7d",
  .line "no message",
  .line "\x7b\"type\":\"load\",\"id\":2\x7d",
  .broken "the bundler is gone",
  .line "\x7b\"type\":\"load\",\"id\":3\x7d"]

end Session
end BundleForge.Bridge
