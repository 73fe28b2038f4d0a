import BundleForge.Proofs.Action
import BundleForge.Proofs.Bridge.Contained
import BundleForge.Proofs.Bridge.Progress

/-!
Watch sessions that are listened to at the same time. In one step a reader reads one item of its session and
deals with it; the steps of several readers come in any order. Main statement: each session does what it does
when it is listened to alone, as far as its reader has come, and all of them together do an interleaving of
that. To wait for the sessions one after another is one such order.
-/

namespace BundleForge.Bridge

/-- The reader of a watch session: its wire, and how it ended, once it has. -/
structure Reader where
  session : Session
  wire : Wire
  ending : Option (Except Fault Unit) := none

namespace Reader

/-- How a reader ends with an item, unless it goes on. -/
def endingOf : Except Fault Bool → Option (Except Fault Unit)
  | .ok true => none
  | .ok false => some (.ok ())
  | .error fault => some (.error fault)

/-- One step of a reader over the files as they are: it reads an item and deals with it, or it sees that there
are no more. -/
def turn (t : Tree) (r : Reader) : Reader × List Event :=
  match r.ending, r.wire.unread with
  | some _, _ => (r, [])
  | none, [] => ({ r with ending := some (.ok ()) }, [])
  | none, item :: rest =>
    let done := ((r.session.onTree t).hear item).run { r.wire with unread := rest }
    ({ r with wire := done.state, ending := endingOf done.result }, .read :: done.events)

/-- Some steps of a reader, and what it did in them. -/
def turns : Nat → Reader → Reader × List Event
  | 0, r => (r, [])
  | n + 1, r =>
    let next := r.turn r.session.tree
    let last := turns n next.1
    (last.1, next.2 ++ last.2)

/-- What the session comes to when it is listened to alone. -/
def alone (r : Reader) : Done Fault Wire Unit := r.session.listen.run r.wire

/-- Every item still to come can be used as its type has it. -/
def Expected (r : Reader) : Prop := ∀ item ∈ r.wire.unread, r.session.expectsItem item = true

end Reader

namespace Session

variable {s : Session} {w w' : Wire} {item : Item} {rest : List Item} {events : List Event}

theorem hear_onTree (h : s.expectsItem item = true) (t : Tree) : (s.onTree t).hear item = s.hear item := by
  unfold hear
  rw [take_onTree h]
  rfl

theorem listenTo_onTree {items : List Item} (expected : ∀ item ∈ items, s.expectsItem item = true) (t : Tree) :
    (s.onTree t).listenTo items = s.listenTo items := by
  induction items with
  | nil => rfl
  | cons item rest ih =>
    have others := ih fun item among => expected item (by simp [among])
    rw [listenTo, listenTo, hear_onTree (expected item (by simp)), others]

section

variable {α : Type} {unread : List Item}

/-- What is still to come stays as it is. -/
abbrev Leaves (unread : List Item) (a : Step α) : Prop := a.Ensures (·.unread = unread) fun _ => True

theorem leaves_say (severity : Severity) (text : String) : Leaves unread (s.say severity text) := .emit _

theorem leaves_take (item : Item) : Leaves unread (s.take item) := by
  refine ⟨fun w holds => ?_, fun _ _ _ _ => trivial⟩
  rwa [run_take, Response.unread_on]

/-- To hear an item is not to read another. -/
theorem leaves_hear (item : Item) : Leaves unread (s.hear item) := by
  refine (leaves_take item).attempt.bind fun came _ => ?_
  cases came with
  | ok => exact .pure trivial
  | error fault =>
    dsimp only
    split
    · exact (leaves_say _ _).bind fun _ _ => .pure trivial
    · exact (leaves_say _ _).bind fun _ _ => .pure trivial
    · exact .fail _

end

theorem emits_hear {p : Event → Prop} (takes : Takes p)
    (rebuilds : ∀ rebuild, ∀ e ∈ s.onRebuild rebuild, p e) (item : Item) : (s.hear item).Emits p := by
  refine (emits_take takes rebuilds item).attempt.bind fun came => ?_
  cases came with
  | ok => exact Action.emits_pure _
  | error fault =>
    dsimp only
    split
    · exact (emits_say takes _ _).bind fun _ => Action.emits_pure _
    · exact (emits_say takes _ _).bind fun _ => Action.emits_pure _
    · exact Action.emits_fail _

end Session

namespace Reader

variable {r : Reader} {t : Tree} {item : Item} {rest : List Item}

theorem turn_of_ended (h : r.ending.isSome = true) (t : Tree) : r.turn t = (r, []) := by
  obtain ⟨ending, he⟩ := Option.isSome_iff_exists.mp h
  simp [turn, he]

theorem turns_of_ended (h : r.ending.isSome = true) (n : Nat) : r.turns n = (r, []) := by
  induction n with
  | zero => rfl
  | succ n ih => simp [turns, turn_of_ended h, ih]

theorem turn_of_nil (begun : r.ending = none) (h : r.wire.unread = []) (t : Tree) :
    r.turn t = ({ r with ending := some (.ok ()) }, []) := by
  simp [turn, begun, h]

theorem turn_of_cons (begun : r.ending = none) (h : r.wire.unread = item :: rest) (t : Tree) :
    r.turn t =
      ({ r with
          wire := (((r.session.onTree t).hear item).run { r.wire with unread := rest }).state
          ending := endingOf (((r.session.onTree t).hear item).run { r.wire with unread := rest }).result },
        .read :: (((r.session.onTree t).hear item).run { r.wire with unread := rest }).events) := by
  simp [turn, begun, h]

/-- A step does not depend on the files, if every look-up tells what the bundler found. -/
theorem turn_eq (expected : r.Expected) (t t' : Tree) : r.turn t = r.turn t' := by
  cases he : r.ending with
  | some ending => rw [turn_of_ended (by simp [he]), turn_of_ended (by simp [he])]
  | none =>
    cases hu : r.wire.unread with
    | nil => rw [turn_of_nil he hu, turn_of_nil he hu]
    | cons item rest =>
      have first : r.session.expectsItem item = true := expected item (by simp [hu])
      rw [turn_of_cons he hu, turn_of_cons he hu, Session.hear_onTree first, Session.hear_onTree first]

theorem session_turn (r : Reader) (t : Tree) : (r.turn t).1.session = r.session := by
  unfold turn
  split <;> rfl

theorem unread_turn (r : Reader) (t : Tree) : (r.turn t).1.wire.unread <:+ r.wire.unread := by
  cases he : r.ending with
  | some ending => rw [turn_of_ended (by simp [he])]
  | none =>
    cases hu : r.wire.unread with
    | nil => rw [turn_of_nil he hu, hu]
    | cons item rest =>
      have left : (r.turn t).1.wire.unread = rest := by
        rw [turn_of_cons he hu]
        exact (Session.leaves_hear item).keeps _ rfl
      rw [left]
      exact List.suffix_cons item rest

theorem Expected.turn (expected : r.Expected) (t : Tree) : (r.turn t).1.Expected := by
  intro item among
  rw [session_turn]
  exact expected item ((r.unread_turn t).subset among)

theorem emits_turn {p : Event → Prop} (takes : Session.Takes p)
    (rebuilds : ∀ rebuild, ∀ e ∈ r.session.onRebuild rebuild, p e) (t : Tree) : ∀ e ∈ (r.turn t).2, p e := by
  intro e he
  unfold turn at he
  split at he
  · cases he
  · cases he
  · obtain rfl | he := List.mem_cons.mp he
    · exact takes.read
    · exact Session.emits_hear (s := r.session.onTree t) takes rebuilds _ _ e he

theorem turns_of_last {last : Reader} {events : List Event} (h : r.turn r.session.tree = (last, events))
    (ended : last.ending.isSome = true) (n : Nat) : r.turns (n + 1) = (last, events) := by
  rw [turns, h, turns_of_ended ended]
  simp

/-- What holds between some steps of a reader and its session when that is listened to alone: the steps do the
beginning of it; all of it, once the reader has ended; and a step for each item and one more are enough. -/
structure Follows (begun : Reader) (n : Nat) (after : Reader × List Event) : Prop where
  events : after.2 <+: begun.alone.events
  ended : ∀ ending, after.1.ending = some ending →
    after.2 = begun.alone.events ∧ ending = begun.alone.result ∧ after.1.wire = begun.alone.state
  enough : begun.wire.unread.length < n → after.1.ending.isSome = true

/-- A reader that has ended as its session ends. -/
theorem follows_of_done {n : Nat} {last : Reader} {ending : Except Fault Unit} {events : List Event}
    (h : r.alone = ⟨ending, last.wire, events⟩) (ended : last.ending = some ending) :
    r.Follows n (last, events) := by
  refine ⟨by rw [h], fun other ho => ?_, fun _ => by simp [ended]⟩
  obtain rfl := Option.some.inj (ended.symm.trans ho)
  rw [h]
  exact ⟨rfl, rfl, rfl⟩

/-- Induction on the steps: each one takes an item off, or is the last. -/
theorem turns_follows (begun : r.ending = none) (n : Nat) : r.Follows n (r.turns n) := by
  induction n generalizing r with
  | zero => exact ⟨List.nil_prefix, by simp [turns, begun], by simp⟩
  | succ n ih =>
    cases hu : r.wire.unread with
    | nil =>
      rw [turns_of_last (turn_of_nil begun hu _) rfl]
      refine follows_of_done ?_ rfl
      rw [alone, Session.run_listen, hu]
      rfl
    | cons item rest =>
      have left : ((r.session.hear item).run { r.wire with unread := rest }).state.unread = rest :=
        (Session.leaves_hear item).keeps _ rfl
      have step := turn_of_cons begun hu r.session.tree
      rw [show r.session.onTree r.session.tree = r.session from rfl] at step
      have listened : r.alone = (r.session.listenTo (item :: rest)).run r.wire := by
        rw [alone, Session.run_listen, hu]
      generalize hd : (r.session.hear item).run { r.wire with unread := rest } = done at left step
      obtain ⟨result, state, events⟩ := done
      rcases result with fault | goes
      · rw [turns_of_last step rfl]
        exact follows_of_done (listened.trans (Session.run_listenTo_lost hd)) rfl
      cases goes with
      | false =>
        rw [turns_of_last step rfl]
        exact follows_of_done (listened.trans (Session.run_listenTo_ends hd)) rfl
      | true =>
        obtain ⟨later, ended, enough⟩ := @ih { r with wire := state, ending := none } rfl
        have rest_alone : ({ r with wire := state, ending := none } : Reader).alone =
            (r.session.listenTo rest).run state := by
          rw [alone, Session.run_listen, left]
        rw [rest_alone] at later ended
        rw [Session.run_listenTo_goesOn hd] at listened
        rw [turns, step, show endingOf (.ok true) = none from rfl]
        refine ⟨?_, fun ending he => ?_, fun more => ?_⟩
        · rw [listened]
          simpa [List.prefix_append_right_inj] using later
        · obtain ⟨same, result, wire⟩ := ended ending he
          rw [listened]
          exact ⟨by simp [same], result, wire⟩
        · refine enough ?_
          rw [hu, List.length_cons] at more
          show state.unread.length < n
          rw [left]
          omega

end Reader

/-- One step of all that goes on: a reader takes its turn, or the files change by something else. -/
inductive Move
  | turn (number : Nat)
  | outside (t : Tree)

def Move.isTurnOf (number : Nat) : Move → Bool
  | .turn other => other == number
  | .outside _ => false

/-- The files after a move; a reader leaves them as they are. -/
def Move.treeAfter (t : Tree) : Move → Tree
  | .turn _ => t
  | .outside t' => t'

/-- The files as they are, and the readers of all watch sessions. -/
structure Listening where
  tree : Tree
  readers : List Reader

namespace Listening

/-- What a move comes to, and what is done in it, with the number of the reader that did it. -/
def step (l : Listening) : Move → Listening × List (Nat × Event)
  | .outside t => ({ l with tree := t }, [])
  | .turn number =>
    match l.readers[number]? with
    | none => (l, [])
    | some r =>
      ({ l with readers := l.readers.set number (r.turn l.tree).1 }, (r.turn l.tree).2.map (number, ·))

def run (l : Listening) : List Move → Listening × List (Nat × Event)
  | [] => (l, [])
  | move :: moves =>
    let next := l.step move
    let last := next.1.run moves
    (last.1, next.2 ++ last.2)

end Listening

/-- What one of several did, of all that was done. -/
def doneBy (number : Nat) (tagged : List (Nat × Event)) : List Event :=
  (tagged.filter (·.1 == number)).map Prod.snd

/-- A history that is put together from others, each of them in its own order. -/
inductive Interleaved : (Nat → List Event) → List Event → Prop
  | nil : Interleaved (fun _ => []) []
  | cons (number : Nat) (e : Event) {parts : Nat → List Event} {whole : List Event}
    (rest : Interleaved parts whole) :
    Interleaved (Function.update parts number (e :: parts number)) (e :: whole)

theorem doneBy_append (number : Nat) (a b : List (Nat × Event)) :
    doneBy number (a ++ b) = doneBy number a ++ doneBy number b := by
  simp [doneBy]

theorem doneBy_map (number other : Nat) (events : List Event) :
    doneBy number (events.map (other, ·)) = if other = number then events else [] := by
  unfold doneBy
  split
  · rename_i same
    simp [List.filter_map, Function.comp_def, same]
  · rename_i apart
    simp [List.filter_map, Function.comp_def, apart]

/-- All that was done is put together from what each did. -/
theorem interleaved_doneBy (tagged : List (Nat × Event)) :
    Interleaved (fun number => doneBy number tagged) (tagged.map Prod.snd) := by
  induction tagged with
  | nil => exact .nil
  | cons first rest ih =>
    obtain ⟨number, e⟩ := first
    have parts : (fun other => doneBy other ((number, e) :: rest)) =
        Function.update (fun other => doneBy other rest) number (e :: doneBy number rest) := by
      funext other
      by_cases own : other = number
      · subst own
        simp [doneBy]
      · simp [doneBy, own, Ne.symm own]
    rw [parts]
    exact .cons number e ih

/-- What is left of it is put together from what is left of each part. -/
theorem interleaved_filter (tagged : List (Nat × Event)) (p : Event → Bool) :
    Interleaved (fun number => (doneBy number tagged).filter p) ((tagged.map Prod.snd).filter p) := by
  have kept := interleaved_doneBy (tagged.filter fun e => p e.2)
  have parts (number : Nat) :
      doneBy number (tagged.filter fun e => p e.2) = (doneBy number tagged).filter p := by
    simp only [doneBy, List.filter_map, List.filter_filter]
    congr 1
    exact List.filter_congr fun e _ => Bool.and_comm ..
  rw [List.filter_map]
  simpa only [parts, Function.comp_def] using kept

namespace Listening

variable {l : Listening} {r : Reader} {number : Nat}

theorem step_turn (h : l.readers[number]? = some r) :
    l.step (.turn number) =
      ({ l with readers := l.readers.set number (r.turn l.tree).1 }, (r.turn l.tree).2.map (number, ·)) := by
  simp only [step, h]

theorem step_turn_of_none (h : l.readers[number]? = none) : l.step (.turn number) = (l, []) := by
  simp only [step, h]

/-- Another's turn leaves a reader as it is. -/
theorem step_turn_other (h : l.readers[number]? = some r) {other : Nat} (apart : other ≠ number) :
    (l.step (.turn other)).1.readers[number]? = some r ∧ doneBy number (l.step (.turn other)).2 = [] := by
  cases hr : l.readers[other]? with
  | none => exact ⟨by rwa [step_turn_of_none hr], by rw [step_turn_of_none hr]; rfl⟩
  | some r' =>
    rw [step_turn hr]
    exact ⟨by simpa [apart] using h, by rw [doneBy_map, if_neg apart]⟩

theorem step_turn_own (h : l.readers[number]? = some r) :
    (l.step (.turn number)).1.readers[number]? = some (r.turn l.tree).1 ∧
      doneBy number (l.step (.turn number)).2 = (r.turn l.tree).2 := by
  obtain ⟨bound, -⟩ := List.getElem?_eq_some_iff.mp h
  rw [step_turn h]
  exact ⟨by simp [bound], by rw [doneBy_map, if_pos rfl]⟩

/-- Induction on the moves: the turns of the others, and what becomes of the files meanwhile, leave a reader
where it is. -/
theorem run_turns (expected : r.Expected) (h : l.readers[number]? = some r) (moves : List Move) :
    (l.run moves).1.readers[number]? = some (r.turns (moves.countP (Move.isTurnOf number))).1 ∧
      doneBy number (l.run moves).2 = (r.turns (moves.countP (Move.isTurnOf number))).2 := by
  induction moves generalizing l r with
  | nil => exact ⟨h, rfl⟩
  | cons move moves ih =>
    rw [run, doneBy_append]
    cases move with
    | outside t =>
      have steps : (Move.outside t :: moves).countP (Move.isTurnOf number) =
          moves.countP (Move.isTurnOf number) := List.countP_cons_of_neg (by simp [Move.isTurnOf])
      rw [steps]
      exact ih (l := { l with tree := t }) expected h
    | turn other =>
      by_cases own : other = number
      · subst own
        have steps : (Move.turn other :: moves).countP (Move.isTurnOf other) =
            moves.countP (Move.isTurnOf other) + 1 := List.countP_cons_of_pos (by simp [Move.isTurnOf])
        obtain ⟨next, first⟩ := step_turn_own h
        obtain ⟨last, later⟩ := ih (expected.turn l.tree) next
        rw [last, later, first, steps, Reader.turns, Reader.turn_eq expected r.session.tree l.tree]
        exact ⟨rfl, rfl⟩
      · have steps : (Move.turn other :: moves).countP (Move.isTurnOf number) =
            moves.countP (Move.isTurnOf number) := List.countP_cons_of_neg (by simp [Move.isTurnOf, own])
        obtain ⟨same, nothing⟩ := step_turn_other h own
        rw [steps, nothing]
        exact ih expected same

/-- Nothing is done by a reader that is not there. -/
theorem doneBy_run_of_none (h : l.readers[number]? = none) (moves : List Move) :
    doneBy number (l.run moves).2 = [] := by
  induction moves generalizing l with
  | nil => rfl
  | cons move moves ih =>
    rw [run, doneBy_append]
    cases move with
    | outside t => exact ih (l := { l with tree := t }) h
    | turn other =>
      cases hr : l.readers[other]? with
      | none =>
        rw [step_turn_of_none hr]
        exact ih h
      | some r =>
        have apart : other ≠ number := by
          rintro rfl
          cases h.symm.trans hr
        rw [step_turn hr, doneBy_map, if_neg apart]
        exact ih (l := { l with readers := l.readers.set other (r.turn l.tree).1 }) (by simpa using h)

theorem tree_step (l : Listening) (move : Move) : (l.step move).1.tree = move.treeAfter l.tree := by
  cases move with
  | outside t => rfl
  | turn number =>
    cases h : l.readers[number]? with
    | none => rw [step_turn_of_none h]; rfl
    | some r => rw [step_turn h]; rfl

/-- The files change by nothing that a reader does. -/
theorem tree_run (l : Listening) (moves : List Move) :
    (l.run moves).1.tree = moves.foldl Move.treeAfter l.tree := by
  induction moves generalizing l with
  | nil => rfl
  | cons move moves ih => rw [run, ih, tree_step, List.foldl_cons]

/-- What the readers do is of a sort, if what is done after a rebuild is. -/
theorem emits_run {p : Event → Prop} (takes : Session.Takes p)
    (rebuilds : ∀ r ∈ l.readers, ∀ rebuild, ∀ e ∈ r.session.onRebuild rebuild, p e) (moves : List Move) :
    ∀ e ∈ (l.run moves).2.map Prod.snd, p e := by
  induction moves generalizing l with
  | nil => simp [run]
  | cons move moves ih =>
    intro e he
    rw [run, List.map_append, List.mem_append] at he
    cases move with
    | outside t =>
      obtain he | he := he
      · cases he
      · exact ih (l := { l with tree := t }) rebuilds e he
    | turn number =>
      cases hr : l.readers[number]? with
      | none =>
        rw [step_turn_of_none hr] at he
        obtain he | he := he
        · cases he
        · exact ih rebuilds e he
      | some r =>
        rw [step_turn hr] at he
        have own := rebuilds r (List.mem_of_getElem? hr)
        obtain he | he := he
        · rw [List.map_map, Function.comp_def, List.map_id'] at he
          exact Reader.emits_turn takes own l.tree e he
        · refine ih (fun r' among => ?_) e he
          obtain among | rfl := List.mem_or_eq_of_mem_set among
          · exact rebuilds r' among
          · rwa [Reader.session_turn]

end Listening

namespace Engine

/-- The fault of a listener that is lost. -/
def lostBy : Except Fault Unit → Option Fault
  | .ok () => none
  | .error fault => some fault

theorem run_listenTo {ε : Type} {w : Watcher} {r : Running} {result : Except Fault Unit} {state : Wire}
    {events : List Event}
    (h : (w.session.onTree r.tree).listen.run w.process.wire = ⟨result, state, events⟩) :
    ∃ w', (listenTo w : Action ε Running _).run r = ⟨.ok (w', lostBy result), r, events⟩ := by
  have talk : (converse (w.session.onTree r.tree).listen w.process : Action ε Running _).run r =
      ⟨.ok (result, { w.process with wire := state }), r, events⟩ := by
    unfold converse Action.run at *
    rw [h]
  refine ⟨⟨w.session.onTree r.tree, { w.process with wire := { state with unread := [] } }⟩, ?_⟩
  unfold listenTo
  rw [Action.run_bind_ok (Action.run_state r)]
  dsimp only
  rw [show { w.session with tree := r.tree } = w.session.onTree r.tree from rfl, Action.run_bind_ok talk]
  cases result <;> simp [lostBy]

theorem run_listenAll_alone {ε : Type} {watchers : List Watcher}
    (expected : ∀ w ∈ watchers, ∀ item ∈ w.process.wire.unread, w.session.expectsItem item = true) (r : Running) :
    ∃ watchers', (listenAll watchers : Action ε Running _).run r =
      ⟨.ok (watchers', watchers.filterMap fun w => lostBy (w.session.listen.run w.process.wire).result), r,
        watchers.flatMap fun w => (w.session.listen.run w.process.wire).events⟩ := by
  induction watchers with
  | nil => exact ⟨[], rfl⟩
  | cons w rest ih =>
    obtain ⟨watchers', others⟩ := ih fun w among => expected w (by simp [among])
    have alone : (w.session.onTree r.tree).listen.run w.process.wire = w.session.listen.run w.process.wire := by
      rw [Session.run_listen, Session.run_listen, Session.listenTo_onTree (expected w (by simp))]
    generalize heard : w.session.listen.run w.process.wire = done at alone
    obtain ⟨result, state, events⟩ := done
    obtain ⟨w', first⟩ := run_listenTo (ε := ε) alone
    unfold listenAll
    rw [Action.run_bind_ok first]
    dsimp only
    rw [Action.run_bind_ok others]
    refine ⟨w' :: watchers', ?_⟩
    cases result <;> simp [heard, lostBy]

/-- To wait is to listen to the sessions one after another, and each does what it does alone. -/
theorem run_wait_alone {ε : Type} {r : Running}
    (expected : ∀ w ∈ r.watchers, ∀ item ∈ w.process.wire.unread, w.session.expectsItem item = true) :
    ∃ watchers', (wait : Action ε Running _).run r =
      ⟨.ok (r.watchers.filterMap fun w => lostBy (w.session.listen.run w.process.wire).result),
        { r with watchers := watchers' },
        r.watchers.flatMap fun w => (w.session.listen.run w.process.wire).events⟩ := by
  obtain ⟨watchers', all⟩ := run_listenAll_alone (ε := ε) expected r
  have set : (setWatchers watchers' : Action ε Running Unit).run r =
      ⟨.ok (), { r with watchers := watchers' }, []⟩ := rfl
  refine ⟨watchers', ?_⟩
  unfold wait
  rw [Action.run_bind_ok (Action.run_state r), Action.run_bind_ok all]
  dsimp only
  rw [Action.run_bind_ok set]
  simp

end Engine
end BundleForge.Bridge
