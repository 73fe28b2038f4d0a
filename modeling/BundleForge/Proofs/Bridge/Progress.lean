import BundleForge.Proofs.Bridge.Turn

/-!
How far a session gets, whatever its items are and however many of its writes succeed. Main statements: the
wait for a result, and a listener, deal with the items up to one that they do not go on after, and with
each by its response, one turn for each; a reply that cannot be written ends either of them.
-/

namespace BundleForge.Bridge

/-- The wire once one message more was written. -/
def Wire.written (w : Wire) : Wire := { w with writesLeft := w.writesLeft.map (· - 1) }

/-- Whether a listener goes on after a fault. -/
def Fault.verdict (fault : Fault) : Except Fault Bool :=
  match fault.course with
  | .goesOn => .ok true
  | .ends => .ok false
  | .lost => .error fault

/-- A response that a listener goes on after. -/
def Response.Survived (x : Response) : Prop := ∀ fault, x.comes = .error fault → fault.course = .goesOn

theorem Response.result_on {x : Response} {w : Wire} {r : Except Fault (Option Outcome)}
    (written : ¬ x.Refused w) (comes : x.comes = r) : x.on w = ⟨r, x.after w, x.events⟩ := by
  rw [on_of_written written, comes]

namespace Session

variable {s : Session} {w : Wire} {item : Item} {items before rest : List Item}

/-- A console line of a session. -/
def line (s : Session) (severity : Severity) (text : String) : List Event :=
  s.level.log severity ("[" ++ s.label ++ "]: " ++ text)

/-- What a listener puts down about a fault, unless it is lost. -/
def complaint (s : Session) (fault : Fault) : List Event :=
  match fault.course with
  | .goesOn => s.line .error ("Watch session error: " ++ fault.message)
  | .ends => s.line .error ("Watch session closed: " ++ fault.message)
  | .lost => []

def complaints (s : Session) (x : Response) : List Event :=
  match x.comes with
  | .ok _ => []
  | .error fault => s.complaint fault

/-- What a listener does about an item. -/
def deeds (s : Session) (item : Item) : List Event := (s.respond item).events ++ s.complaints (s.respond item)

/-- What is left behind of an item that is read and dealt with. -/
def marks (s : Session) (item : Item) : List Event := .read :: s.deeds item

/-- How many of the items have a reply. -/
def replyCount (s : Session) (items : List Item) : Nat := items.countP fun item => (s.respond item).reply.isSome

theorem replyCount_cons (s : Session) (item : Item) (rest : List Item) :
    s.replyCount (item :: rest) = (s.respond item).reply.toList.length + s.replyCount rest := by
  unfold replyCount
  rw [List.countP_cons]
  cases (s.respond item).reply <;> simp [Nat.add_comm]

/-- The wire once items were dealt with, with the rest still to come. -/
def past (s : Session) (w : Wire) (before rest : List Item) : Wire :=
  { w with
    unread := rest
    writesLeft := w.writesLeft.map (· - s.replyCount before)
    reported := w.reported || before.any fun item => (s.respond item).reports }

theorem past_nil (unread : w.unread = rest) : s.past w [] rest = w := by
  obtain ⟨_, left, fault, reported⟩ := w
  obtain rfl : _ = rest := unread
  cases left <;> simp [past, replyCount]

theorem past_cons (s : Session) (w : Wire) (item : Item) (before rest others : List Item) :
    s.past w (item :: before) rest =
      s.past ((s.respond item).after { w with unread := others }) before rest := by
  obtain ⟨unread, left, fault, reported⟩ := w
  cases left <;> simp [past, Response.after, replyCount_cons, Nat.sub_sub, Bool.or_assoc]

/-- Items that were dealt with over a wire, each with a response that a session goes on after: every reply
to them was written. -/
structure Passed (s : Session) (goes : Response → Prop) (w : Wire) (before : List Item) : Prop where
  went : ∀ item ∈ before, goes (s.respond item)
  written : ∀ count, w.writesLeft = some count → s.replyCount before ≤ count

/-- What a session has done with the items of a wire: it passed some of them, and ended as it does at the
others. -/
inductive Course {α : Type} (s : Session) (goes : Response → Prop)
    (Ends : Wire → List Item → Done Fault Wire α → Prop) (w : Wire) (items : List Item) :
    Done Fault Wire α → Prop
  | after (before rest : List Item) (split : items = before ++ rest) (passed : s.Passed goes w before)
      (done : Done Fault Wire α) (ends : Ends (s.past w before rest) rest done) :
      Course s goes Ends w items ⟨done.result, done.state, before.flatMap s.marks ++ done.events⟩

section Courses

variable {α : Type} {goes : Response → Prop} {Ends : Wire → List Item → Done Fault Wire α → Prop}
  {done : Done Fault Wire α}

/-- It ends at the first item. -/
theorem Course.last (unread : w.unread = items) (ends : Ends w items done) :
    Course s goes Ends w items done :=
  .after [] items rfl ⟨by simp, by simp [replyCount]⟩ done (by rwa [past_nil unread])

/-- It passes the first item. -/
theorem Course.next (went : goes (s.respond item)) (written : ¬ (s.respond item).Refused w)
    (later : Course s goes Ends ((s.respond item).after { w with unread := rest }) rest done) :
    Course s goes Ends w (item :: rest) ⟨done.result, done.state, s.marks item ++ done.events⟩ := by
  obtain ⟨before, others, rfl, passed, done, ends⟩ := later
  have whole : (⟨done.result, done.state, s.marks item ++ (before.flatMap s.marks ++ done.events)⟩ :
      Done Fault Wire α) =
      ⟨done.result, done.state, (item :: before).flatMap s.marks ++ done.events⟩ := by
    simp
  rw [whole]
  refine .after (item :: before) others rfl ⟨?_, ?_⟩ done (by rwa [past_cons s w item before others])
  · simpa using ⟨went, passed.went⟩
  · intro count left
    have bound := passed.written (count - (s.respond item).reply.toList.length)
      (by simp [Response.after, left])
    rw [replyCount_cons]
    -- a reply that was written took one of the writes
    have first : (s.respond item).reply.toList.length ≤ count := by
      cases reply : (s.respond item).reply with
      | none => simp
      | some message =>
        have some_left : count ≠ 0 := by
          rintro rfl
          exact written ⟨by simp [reply], left⟩
        simpa using Nat.one_le_iff_ne_zero.mpr some_left
    omega

end Courses

section Steps

variable {w' : Wire} {events : List Event}

theorem run_advance (w : Wire) (unread : List Item) :
    (advance unread).run w = ⟨.ok (), { w with unread }, [.read]⟩ := rfl

theorem run_awaitResult_passes
    (h : (s.take item).run { w with unread := rest } = ⟨.ok none, w', events⟩) :
    (s.awaitResult (item :: rest)).run w =
      ⟨((s.awaitResult rest).run w').result, ((s.awaitResult rest).run w').state,
        .read :: (events ++ ((s.awaitResult rest).run w').events)⟩ := by
  rw [awaitResult, Action.run_bind_ok (run_advance w rest), Action.run_bind_ok h]
  rfl

theorem run_awaitResult_result {outcome : Outcome}
    (h : (s.take item).run { w with unread := rest } = ⟨.ok (some outcome), w', events⟩) :
    (s.awaitResult (item :: rest)).run w = ⟨.ok outcome, w', .read :: events⟩ := by
  rw [awaitResult, Action.run_bind_ok (run_advance w rest), Action.run_bind_ok h]
  simp

theorem run_awaitResult_fault {fault : Fault}
    (h : (s.take item).run { w with unread := rest } = ⟨.error fault, w', events⟩) :
    (s.awaitResult (item :: rest)).run w = ⟨.error fault, w', .read :: events⟩ := by
  rw [awaitResult, Action.run_bind_ok (run_advance w rest), Action.run_bind_error h]
  rfl

theorem run_listenTo_goesOn
    (h : (s.hear item).run { w with unread := rest } = ⟨.ok true, w', events⟩) :
    (s.listenTo (item :: rest)).run w =
      ⟨((s.listenTo rest).run w').result, ((s.listenTo rest).run w').state,
        .read :: (events ++ ((s.listenTo rest).run w').events)⟩ := by
  rw [listenTo, Action.run_bind_ok (run_advance w rest), Action.run_bind_ok h]
  rfl

theorem run_listenTo_ends (h : (s.hear item).run { w with unread := rest } = ⟨.ok false, w', events⟩) :
    (s.listenTo (item :: rest)).run w = ⟨.ok (), w', .read :: events⟩ := by
  rw [listenTo, Action.run_bind_ok (run_advance w rest), Action.run_bind_ok h]
  simp

theorem run_listenTo_lost {fault : Fault}
    (h : (s.hear item).run { w with unread := rest } = ⟨.error fault, w', events⟩) :
    (s.listenTo (item :: rest)).run w = ⟨.error fault, w', .read :: events⟩ := by
  rw [listenTo, Action.run_bind_ok (run_advance w rest), Action.run_bind_error h]
  rfl

theorem run_listen : s.listen.run w = (s.listenTo w.unread).run w := rfl

end Steps

/-- How the wait for a result ends: no item is left, a reply is refused, an item breaks it off, or one
brings the result. -/
inductive Awaited (s : Session) (w : Wire) : List Item → Done Fault Wire Outcome → Prop
  | exhausted : Awaited s w [] ⟨.error (.bundler "Bundling engine exited before reporting a result" []), w, []⟩
  | refused {item : Item} {rest : List Item} (h : (s.respond item).Refused w) :
      Awaited s w (item :: rest)
        ⟨.error (.system w.writeFault), { w with unread := rest }, .read :: (s.respond item).told⟩
  | failed {item : Item} {rest : List Item} {fault : Fault} (h : ¬ (s.respond item).Refused w)
      (comes : (s.respond item).comes = .error fault) :
      Awaited s w (item :: rest)
        ⟨.error fault, (s.respond item).after { w with unread := rest }, .read :: (s.respond item).events⟩
  | settled {item : Item} {rest : List Item} {outcome : Outcome} (h : ¬ (s.respond item).Refused w)
      (comes : (s.respond item).comes = .ok (some outcome)) :
      Awaited s w (item :: rest)
        ⟨.ok outcome, (s.respond item).after { w with unread := rest }, .read :: (s.respond item).events⟩

/-- The wait for a result passes the items that come to nothing. -/
theorem awaitResult_course (s : Session) (unread : w.unread = items) :
    Course s (fun x => x.comes = .ok none) s.Awaited w items ((s.awaitResult items).run w) := by
  induction items generalizing w with
  | nil => exact .last unread .exhausted
  | cons item rest ih =>
    have taken := run_take s item { w with unread := rest }
    by_cases refused : (s.respond item).Refused w
    · rw [run_awaitResult_fault (taken.trans (Response.on_of_refused refused))]
      exact .last unread (.refused refused)
    have written : ¬ (s.respond item).Refused { w with unread := rest } := refused
    cases comes : (s.respond item).comes with
    | error fault =>
      rw [run_awaitResult_fault (taken.trans (Response.result_on written comes))]
      exact .last unread (.failed refused comes)
    | ok outcome =>
      cases outcome with
      | some outcome =>
        rw [run_awaitResult_result (taken.trans (Response.result_on written comes))]
        exact .last unread (.settled refused comes)
      | none =>
        rw [run_awaitResult_passes (taken.trans (Response.result_on written comes))]
        have quiet : s.marks item = .read :: (s.respond item).events := by simp [marks, deeds, complaints, comes]
        have course := Course.next comes refused (ih (w := (s.respond item).after { w with unread := rest }) rfl)
        rwa [quiet, List.cons_append] at course

/-- A listener goes on after a fault as its course has it, and puts it down. -/
theorem run_hear (s : Session) (item : Item) (w : Wire) :
    (s.hear item).run w =
      match ((s.respond item).on w).result with
      | .ok _ => ⟨.ok true, ((s.respond item).on w).state, ((s.respond item).on w).events⟩
      | .error fault =>
        ⟨fault.verdict, ((s.respond item).on w).state, ((s.respond item).on w).events ++ s.complaint fault⟩ := by
  generalize taken : (s.respond item).on w = done
  obtain ⟨result, state, events⟩ := done
  have attempted : (Action.attempt (s.take item) : Step (Except Fault (Option Outcome))).run w =
      ⟨.ok result, state, events⟩ := by
    rw [Action.run_attempt, run_take, taken]
  unfold hear
  rw [Action.run_bind_ok attempted]
  cases result with
  | ok => simp
  | error fault =>
    dsimp only
    unfold Fault.verdict complaint
    cases fault.course with
    | goesOn =>
      rw [Action.run_bind_ok (run_say s .error _ state)]
      simp [line]
    | ends =>
      rw [Action.run_bind_ok (run_say s .error _ state)]
      simp [line]
    | lost => simp

/-- How a listener ends: no item is left, or it ends in good order or is lost, at a reply that is refused
or at an item. -/
inductive Listened (s : Session) (w : Wire) : List Item → Done Fault Wire Unit → Prop
  | exhausted : Listened s w [] ⟨.ok (), w, []⟩
  | refused {item : Item} {rest : List Item} (h : (s.respond item).Refused w) :
      Listened s w (item :: rest)
        ⟨.ok (), { w with unread := rest },
          .read :: ((s.respond item).told ++ s.complaint (.system w.writeFault))⟩
  | ended {item : Item} {rest : List Item} {fault : Fault} (h : ¬ (s.respond item).Refused w)
      (comes : (s.respond item).comes = .error fault) (course : fault.course = .ends) :
      Listened s w (item :: rest)
        ⟨.ok (), (s.respond item).after { w with unread := rest }, s.marks item⟩
  | lost {item : Item} {rest : List Item} {fault : Fault} (h : ¬ (s.respond item).Refused w)
      (comes : (s.respond item).comes = .error fault) (course : fault.course = .lost) :
      Listened s w (item :: rest)
        ⟨.error fault, (s.respond item).after { w with unread := rest }, s.marks item⟩

/-- A listener passes the items that come to nothing worse than an error of the bundler. -/
theorem listenTo_course (s : Session) (unread : w.unread = items) :
    Course s Response.Survived s.Listened w items ((s.listenTo items).run w) := by
  induction items generalizing w with
  | nil => exact .last unread .exhausted
  | cons item rest ih =>
    have heard := run_hear s item { w with unread := rest }
    by_cases refused : (s.respond item).Refused w
    · rw [Response.on_of_refused (w := { w with unread := rest }) refused] at heard
      rw [run_listenTo_ends heard]
      exact .last unread (.refused refused)
    rw [Response.on_of_written (w := { w with unread := rest }) refused] at heard
    have passes (survived : (s.respond item).Survived)
        (goesOn : (s.hear item).run { w with unread := rest } =
          ⟨.ok true, (s.respond item).after { w with unread := rest }, s.deeds item⟩) :
        Course s Response.Survived s.Listened w (item :: rest) ((s.listenTo (item :: rest)).run w) := by
      rw [run_listenTo_goesOn goesOn]
      exact .next survived refused (ih rfl)
    cases comes : (s.respond item).comes with
    | ok outcome =>
      rw [comes] at heard
      refine passes (fun fault h => by simp [comes] at h) ?_
      rw [heard]
      simp [deeds, complaints, comes]
    | error fault =>
      rw [comes] at heard
      dsimp only at heard
      have noted : (s.respond item).events ++ s.complaint fault = s.deeds item := by
        simp [deeds, complaints, comes]
      rw [noted] at heard
      cases course : fault.course with
      | goesOn =>
        refine passes (fun other h => ?_) ?_
        · obtain rfl : fault = other := by simpa [comes] using h
          exact course
        · rw [heard]
          simp [Fault.verdict, course]
      | ends =>
        rw [Fault.verdict, course] at heard
        rw [run_listenTo_ends heard]
        exact .last unread (.ended refused comes course)
      | lost =>
        rw [Fault.verdict, course] at heard
        rw [run_listenTo_lost heard]
        exact .last unread (.lost refused comes course)

/-- An item was read, and the reply to it was written, if there is one; or it was not, since the writes of
the wire had come to their end. -/
def Took (s : Session) (w w' : Wire) (t : Turn) : Prop :=
  t = s.turn t.item ∨ t.reply = none ∧ w.writesLeft.isSome = true ∧ w'.writesLeft = some 0

/-- What passes over a wire while a session is busy with its items: turn by turn, an item and the reply that
the session's response has for it. -/
structure Conducted {α : Type} (s : Session) (w : Wire) (done : Done Fault Wire α) : Prop where
  turns : ∃ turns : List Turn, traffic done.events = turns.flatMap Turn.events ∧
    turns.map Turn.item ++ done.state.unread = w.unread ∧ ∀ t ∈ turns, s.Took w done.state t
  writes : ∃ written, done.state.writesLeft = w.writesLeft.map (· - written)

section Traffic

variable {α : Type} {done : Done Fault Wire α}

theorem traffic_complaint (s : Session) (fault : Fault) : traffic (s.complaint fault) = [] := by
  unfold complaint
  split
  · exact traffic_log ..
  · exact traffic_log ..
  · rfl

theorem traffic_complaints (s : Session) (x : Response) : traffic (s.complaints x) = [] := by
  unfold complaints
  split
  · rfl
  · exact traffic_complaint ..

theorem traffic_events (silent : s.Silent) (item : Item) :
    .read :: traffic (s.respond item).events = (s.turn item).events := by
  rw [Response.events, traffic_append, traffic_told silent, turn, Turn.events]
  cases (s.respond item).reply <;> rfl

theorem traffic_marks (silent : s.Silent) (item : Item) : traffic (s.marks item) = (s.turn item).events := by
  rw [marks, deeds, traffic_read, traffic_append, traffic_complaints, List.append_nil, traffic_events silent]

theorem traffic_flatMap_marks (silent : s.Silent) (items : List Item) :
    traffic (items.flatMap s.marks) = (items.map s.turn).flatMap Turn.events := by
  induction items with
  | nil => rfl
  | cons item rest ih => simp [traffic_marks silent, ih]

theorem Conducted.nil (w : Wire) (result : Except Fault α) (unread : w.unread = []) :
    s.Conducted w ⟨result, w, []⟩ :=
  ⟨⟨[], rfl, by simp [unread], by simp⟩, 0, by cases w.writesLeft <;> rfl⟩

/-- The last item is responded to. -/
theorem Conducted.responded {result : Except Fault α} {events : List Event} (unread : w.unread = item :: rest)
    (passed : traffic events = (s.turn item).events) :
    s.Conducted w ⟨result, (s.respond item).after { w with unread := rest }, events⟩ :=
  ⟨⟨[s.turn item], by simp [passed], by simp [unread, turn, Response.after], by simp [Took, turn]⟩, _, rfl⟩

/-- The reply to the last item is refused. -/
theorem Conducted.refused {result : Except Fault α} {events : List Event} (unread : w.unread = item :: rest)
    (refused : (s.respond item).Refused w) (passed : traffic events = [.read]) :
    s.Conducted w ⟨result, { w with unread := rest }, events⟩ :=
  ⟨⟨[⟨item, none⟩], by simp [passed, Turn.events], by simp [unread],
    by simp [Took, refused.2]⟩, 0, by simp [refused.2]⟩

theorem Awaited.conducted {done : Done Fault Wire Outcome} (silent : s.Silent)
    (ends : s.Awaited w w.unread done) : s.Conducted w done := by
  generalize unread : w.unread = items at ends
  cases ends with
  | exhausted => exact .nil w _ unread
  | refused h => exact .refused unread h (by simp [traffic_told silent])
  | failed => exact .responded unread (by rw [traffic_read, traffic_events silent])
  | settled => exact .responded unread (by rw [traffic_read, traffic_events silent])

theorem Listened.conducted {done : Done Fault Wire Unit} (silent : s.Silent)
    (ends : s.Listened w w.unread done) : s.Conducted w done := by
  generalize unread : w.unread = items at ends
  cases ends with
  | exhausted => exact .nil w _ unread
  | refused h => exact .refused unread h (by simp [traffic_told silent, traffic_complaint])
  | ended => exact .responded unread (traffic_marks silent _)
  | lost => exact .responded unread (traffic_marks silent _)

/-- A session takes turns on its course. -/
theorem Course.conducted {goes : Response → Prop} {Ends : Wire → List Item → Done Fault Wire α → Prop}
    (silent : s.Silent) (course : s.Course goes Ends w w.unread done)
    (ended : ∀ {w : Wire} {done : Done Fault Wire α}, Ends w w.unread done → s.Conducted w done) :
    s.Conducted w done := by
  obtain ⟨before, rest, split, -, done, ends⟩ := course
  obtain ⟨⟨turns, passed, items, took⟩, written, left⟩ := ended ends
  refine ⟨⟨before.map s.turn ++ turns, ?_, ?_, ?_⟩, s.replyCount before + written, ?_⟩
  · rw [traffic_append, traffic_flatMap_marks silent, passed, List.flatMap_append]
  · have same : (before.map s.turn).map Turn.item = before := by simp [Function.comp_def, turn]
    rw [List.map_append, List.append_assoc, items, same, split]
    rfl
  · intro t among
    obtain among | among := List.mem_append.mp among
    · obtain ⟨item, -, rfl⟩ := List.mem_map.mp among
      exact .inl rfl
    · refine (took t among).imp_right fun unwritten => ⟨unwritten.1, ?_, unwritten.2.2⟩
      simpa [past] using unwritten.2.1
  · rw [left, past]
    cases w.writesLeft <;> simp [Nat.sub_sub]

/-- Turns after turns. -/
theorem Conducted.andThen {β : Type} {after : Done Fault Wire β} (first : s.Conducted w done)
    (second : s.Conducted done.state after) :
    s.Conducted w ⟨after.result, after.state, done.events ++ after.events⟩ := by
  obtain ⟨⟨turns, passed, items, took⟩, written, left⟩ := first
  obtain ⟨⟨turns', passed', items', took'⟩, written', left'⟩ := second
  refine ⟨⟨turns ++ turns', by simp [passed, passed'], ?_, ?_⟩, written + written', ?_⟩
  · rw [List.map_append, List.append_assoc, items', items]
  · intro t among
    obtain among | among := List.mem_append.mp among
    · exact (took t among).imp_right fun unwritten =>
        ⟨unwritten.1, unwritten.2.1, by simp [left', unwritten.2.2]⟩
    · refine (took' t among).imp_right fun unwritten => ⟨unwritten.1, ?_, unwritten.2.2⟩
      simpa [left] using unwritten.2.1
  · rw [left', left]
    cases w.writesLeft <;> simp [Nat.sub_sub]

/-- Whatever its items are, a session that waits for a result takes turns. -/
theorem awaitResult_conducted (silent : s.Silent) (w : Wire) :
    s.Conducted w ((s.awaitResult w.unread).run w) :=
  (awaitResult_course s rfl).conducted silent (Awaited.conducted silent)

/-- Whatever its items are, a listener takes turns. -/
theorem listenTo_conducted (silent : s.Silent) (w : Wire) : s.Conducted w ((s.listenTo w.unread).run w) :=
  (listenTo_course s rfl).conducted silent (Listened.conducted silent)

end Traffic

/-- A build, and then the listening, where the build came to an outcome. -/
def converse (s : Session) (o : Options) : Step Unit := do
  let _ ← s.start o
  s.listen

/-- A build whose request cannot be written breaks off. -/
theorem run_start_refused (o : Options) (h : w.writesLeft = some 0) :
    (s.start o).run w = ⟨.error (.system w.writeFault), w, []⟩ := by
  have sent := replies_send (s.buildMessage o) w
  rw [if_pos h] at sent
  exact Action.run_bind_error sent

theorem run_start_written (o : Options) (h : w.writesLeft ≠ some 0) :
    (s.start o).run w =
      ⟨((s.awaitResult w.unread).run w.written).result, ((s.awaitResult w.unread).run w.written).state,
        .sent (s.buildMessage o) :: ((s.awaitResult w.unread).run w.written).events⟩ := by
  have sent := replies_send (s.buildMessage o) w
  rw [if_neg h] at sent
  rw [start, Action.run_bind_ok sent, Action.run_bind_ok (Action.run_state _)]
  rfl

/-- A conversation whose request can be written takes turns after it. -/
theorem converse_conducted (silent : s.Silent) (o : Options) (h : w.writesLeft ≠ some 0) :
    ∃ done : Done Fault Wire Unit, s.Conducted w.written done ∧
      (s.converse o).run w = ⟨done.result, done.state, .sent (s.buildMessage o) :: done.events⟩ := by
  have waited := awaitResult_conducted silent w.written
  have started := run_start_written (s := s) o h
  rw [show w.written.unread = w.unread from rfl] at waited
  generalize (s.awaitResult w.unread).run w.written = done at waited started
  obtain ⟨result, state, events⟩ := done
  unfold converse
  cases result with
  | error fault => exact ⟨⟨.error fault, state, events⟩, ⟨waited.turns, waited.writes⟩, Action.run_bind_error started⟩
  | ok outcome =>
    have listened := listenTo_conducted silent state
    refine ⟨_, waited.andThen listened, ?_⟩
    rw [Action.run_bind_ok started, run_listen]
    rfl

end Session
end BundleForge.Bridge
