import BundleForge.Proofs.Bridge.Build
import BundleForge.Proofs.Bridge.Turn
import BundleForge.Proofs.Talks
import BundleForge.Proofs.Tree.Within

/-!
What a build has to do with the tree outside its output directory and with the builds before it. Main
statements: a build whose process stays below a place changes nothing else, and what stands elsewhere
makes no difference to its result and to the messages sent to its process.
-/

namespace BundleForge

namespace Resolution.Policy

/-- A request that tells what was found is decided without a look at the tree. -/
theorem resolve_eq_of_tells (p : Policy) (t t' : Tree) {r : Request}
    (h : p.looksUp r = true → tells r = true) : p.resolve t r = p.resolve t' r := by
  unfold resolve
  split_ifs with host internal root file
  · rfl
  · rfl
  · rfl
  · rfl
  have hr : tells r = true := h (by simp_all [looksUp])
  unfold tells at hr
  unfold lookup
  cases hl : r.located with
  | some located => rfl
  | none =>
    cases he : r.lookupError with
    | some error => rfl
    | none => simp [hl, he] at hr

end Resolution.Policy

namespace Bridge

/-- A write that is refused leaves everything as it is; one that succeeds leaves the message behind. -/
theorem run_send_cases (message : Json) (w : Wire) :
    (send message).run w = ⟨.error (.system w.writeFault), w, []⟩ ∨
      ∃ left, (send message).run w = ⟨.ok (), { w with writesLeft := left }, [.sent message]⟩ := by
  obtain ⟨unread, left, fault, reported⟩ := w
  rcases left with _ | _ | left
  · exact .inr ⟨none, rfl⟩
  · exact .inl rfl
  · exact .inr ⟨some left, rfl⟩

namespace Session

variable {s : Session} {w : Wire}

/-- The session over another tree. -/
def onTree (s : Session) (t : Tree) : Session := { s with tree := t }

theorem answerResolve_onTree {message : List (String × Json)} (h : s.expects message (.str "resolve") = true)
    (t : Tree) : (s.onTree t).answerResolve message = s.answerResolve message := by
  unfold answerResolve
  cases hp : s.policy with
  | none => simp only [onTree, hp]
  | some policy =>
    simp only [expects, hp, Option.all_some, Bool.or_eq_true, Bool.not_eq_true'] at h
    have same := policy.resolve_eq_of_tells t s.tree (r := .ofMembers message) fun looks => by
      simpa [looks] using h
    simp only [onTree, hp, same]
    rfl

theorem handle_onTree {message : List (String × Json)} {kind : Json} (h : s.expects message kind = true)
    (t : Tree) : (s.onTree t).handle message kind = s.handle message kind := by
  unfold handle
  split
  · rw [answerResolve_onTree h]
  · rfl
  · rfl
  · rfl
  · rfl
  · rfl

theorem take_onTree {item : Item} (h : s.expectsItem item = true) (t : Tree) :
    (s.onTree t).take item = s.take item := by
  cases item with
  | broken | unreadable | undecodable => rfl
  | line text =>
    cases hm : readMessage text with
    | error fault => simp only [take, hm]
    | ok m =>
      have expected : s.expects m.1 m.2 = true := by
        simpa [expectsItem, Item.message?, hm, Except.toOption] using h
      simpa only [take, hm] using handle_onTree expected t

theorem awaitResult_onTree {items : List Item} (expected : ∀ item ∈ items, s.expectsItem item = true) (t : Tree) :
    (s.onTree t).awaitResult items = s.awaitResult items := by
  induction items with
  | nil => rfl
  | cons item rest ih =>
    rw [awaitResult, awaitResult, take_onTree (expected item (by simp)),
      ih fun next h => expected next (by simp [h])]

/-- What a build comes to does not depend on the tree, if every look-up tells what the bundler found. -/
theorem start_onTree (o : Options) (expected : ∀ item ∈ w.unread, s.expectsItem item = true) (t : Tree) :
    ((s.onTree t).start o).run w = (s.start o).run w := by
  have request : (s.onTree t).buildMessage o = s.buildMessage o := rfl
  unfold start
  rw [request]
  rcases run_send_cases (s.buildMessage o) w with refused | ⟨left, sent⟩
  · rw [Action.run_bind_error refused, Action.run_bind_error refused]
  · rw [Action.run_bind_ok sent, Action.run_bind_ok sent, Action.run_bind_ok (Action.run_state _),
      Action.run_bind_ok (Action.run_state _), awaitResult_onTree expected]

section

variable {p : Event → Prop}

/-- A sort of events that takes in all that a conversation does by itself. -/
structure Takes (p : Event → Prop) : Prop where
  sent : ∀ message, p (.sent message)
  printed : ∀ stream text, p (.printed stream text)
  read : p .read

theorem Takes.log (takes : Takes p) {l : Level} {severity : Severity} {text : String} :
    ∀ e ∈ l.log severity text, p e := by
  intro e he
  unfold Level.log at he
  split at he
  · obtain rfl := List.mem_singleton.mp he
    exact takes.printed _ _
  · cases he

theorem emits_send (takes : Takes p) (message : Json) : (send message : Step Unit).Emits p := by
  intro w e he
  rcases run_send_cases message w with refused | ⟨left, sent⟩
  · rw [refused] at he
    cases he
  · rw [sent] at he
    obtain rfl := List.mem_singleton.mp he
    exact takes.sent message

theorem emits_say (takes : Takes p) (severity : Severity) (text : String) : (s.say severity text).Emits p :=
  Action.emits_emit takes.log

/-- What an item leaves behind is of a sort, if what is done after a rebuild is. -/
theorem emits_take (takes : Takes p) (rebuilds : ∀ rebuild, ∀ e ∈ s.onRebuild rebuild, p e) (item : Item) :
    (s.take item).Emits p := by
  have told : ∀ e ∈ (s.respond item).told, p e := by
    obtain none | ⟨text, logged⟩ | ⟨rebuild, handed⟩ := told_cases s item
    · simp [none]
    · rw [logged]
      exact takes.log
    · rw [handed]
      exact rebuilds rebuild
  intro w e he
  rw [run_take] at he
  unfold Response.on at he
  split at he
  · exact told e he
  · obtain among | among := List.mem_append.mp he
    · exact told e among
    · obtain ⟨reply, -, rfl⟩ := List.mem_map.mp among
      exact takes.sent reply

theorem emits_awaitResult (takes : Takes p) (rebuilds : ∀ rebuild, ∀ e ∈ s.onRebuild rebuild, p e)
    (items : List Item) : (s.awaitResult items).Emits p := by
  induction items with
  | nil => exact Action.emits_fail _
  | cons item rest ih =>
    refine Action.Emits.bind (fun w e he => ?_) fun _ =>
      (emits_take takes rebuilds item).bind fun outcome => ?_
    · obtain rfl := List.mem_singleton.mp he
      exact takes.read
    · split
      · exact Action.emits_pure _
      · exact ih

theorem emits_start (takes : Takes p) (rebuilds : ∀ rebuild, ∀ e ∈ s.onRebuild rebuild, p e) (o : Options) :
    (s.start o).Emits p :=
  (emits_send takes _).bind fun _ => Action.emits_state.bind fun _ => emits_awaitResult takes rebuilds _

end

end Session

namespace Process

/-- The end of a process is the same under another number. -/
theorem stop_renumbered (p : Process) (number : Nat) :
    ({ p with number := number } : Process).stop = ({ p.stop.1 with number := number }, p.stop.2) := by
  unfold stop poll
  split <;> split <;> rfl

theorem finish_renumbered (p : Process) (number : Nat) :
    ({ p with number := number } : Process).finish = ({ p.finish.1 with number := number }, p.finish.2) := by
  have same : ({ p with number := number } : Process).outlasts = p.outlasts := rfl
  unfold finish
  rw [stop_renumbered, same]
  cases p.outlasts <;> rfl

theorem quiet_stop (p : Process) : ∀ e ∈ p.stop.2, e.isOutgoing = false := by
  unfold stop
  split <;> simp [Event.isOutgoing]

theorem quiet_finish (p : Process) : ∀ e ∈ p.finish.2, e.isOutgoing = false := by
  unfold finish
  dsimp only
  split
  · intro e he
    rcases List.mem_append.mp he with he | he
    · obtain rfl := List.mem_singleton.mp he
      rfl
    · exact p.quiet_stop e he
  · simp [closeInput, Event.isOutgoing]

end Process

namespace Fault

theorem quiet_endOf (fault : Fault) (p : Process) : ∀ e ∈ (fault.endOf p).2, e.isOutgoing = false := by
  cases fault with
  | bundler => exact p.quiet_finish
  | _ => exact p.quiet_stop

theorem seenFrom_renumbered (fault : Fault) (p : Process) (number : Nat) :
    fault.seenFrom (fault.endOf { p with number := number }).1 = fault.seenFrom (fault.endOf p).1 := by
  cases fault with
  | bundler text errors =>
    simp only [seenFrom, endOf, Process.finish_renumbered]
    rfl
  | _ => rfl

end Fault

/-- A process that writes and takes away files only below a place, and no links. -/
structure Script.StaysBelow (own : List String) (script : Script) : Prop where
  files : ∀ entry ∈ script.files,
    (∀ part ∈ entry.1.parts, isName part = true) ∧ own <+: entry.1.parts ∧ entry.2.Plain
  removed : ∀ p ∈ script.removed, (∀ part ∈ p.parts, isName part = true) ∧ own <+: p.parts

namespace Engine

variable {e : Engine} {job : Job} {r r' : Running} {script : Script} {own area : List String}

theorem within_startEffect (below : script.StaysBelow own) : Tree.Within own (startEffect script) :=
  (Tree.within_installAll below.files).comp
    (.foldl fun p hp => Tree.within_removeDir (below.removed p hp).1 (below.removed p hp).2)

/-- What the next process does to a tree when it starts, if another is to be had. -/
def nextEffect (next : Option Script) (t : Tree) : Tree :=
  match next with
  | none => t
  | some script => startEffect script t

theorem within_nextEffect {next : Option Script} (below : ∀ script, next = some script → script.StaysBelow own) :
    Tree.Within own (nextEffect next) := by
  cases next with
  | none => exact .none
  | some script => exact within_startEffect (below script rfl)

/-- A build leaves of the tree what its process makes of it, and leaves the other processes alone. -/
theorem run_build_state (e : Engine) (job : Job) (r : Running) :
    ((e.build job).run r).state.tree = nextEffect r.scripts.head? r.tree ∧
      ((e.build job).run r).state.scripts = r.scripts.tail := by
  cases hs : r.scripts with
  | nil =>
    rw [run_build_of_none hs]
    exact ⟨rfl, hs⟩
  | cons script rest =>
    cases hf : script.startFault with
    | some fault =>
      rw [run_build_of_startFault hs hf]
      exact ⟨rfl, rfl⟩
    | none =>
      rw [run_build_of_start hs hf]
      unfold closing
      cases (e.conversation job r script).result with
      | error fault => exact ⟨rfl, rfl⟩
      | ok outcome =>
        dsimp only
        split <;> exact ⟨rfl, rfl⟩

/-- The messages that a build sends to its process. -/
def messages (e : Engine) (job : Job) (r : Running) : List Json :=
  match r.scripts with
  | [] => []
  | script :: _ =>
    match script.startFault with
    | some _ => []
    | none => (talks (e.conversation job r script).events).1

theorem quiet_closing (e : Engine) (job : Job) (r : Running) (script : Script) (rest : List Script) :
    ∀ event ∈ (e.closing job r script rest).events, event.isOutgoing = false := by
  unfold closing
  cases (e.conversation job r script).result with
  | error fault => exact fault.quiet_endOf _
  | ok outcome =>
    dsimp only
    split
    · simp
    · exact Process.quiet_finish _

theorem talks_opening (e : Engine) (job : Job) (rest : List Event) :
    talks (e.opening job ++ rest) = ([], (talks rest).1 :: (talks rest).2) := by
  unfold opening
  rw [List.append_assoc, talks_append_of_quiet fun _ => isOutgoing_log]
  rfl

/-- A build starts one bundler, and what it sends is sent to that one. -/
theorem talks_build (rebuilds : ∀ rebuild, ∀ event ∈ job.onRebuild rebuild, event.isStart = false)
    (rest : List Event) :
    talks (((e.build job).run r).events ++ rest) =
      ([], (e.messages job r ++ (talks rest).1) :: (talks rest).2) := by
  unfold messages
  cases hs : r.scripts with
  | nil =>
    rw [run_build_of_none hs, talks_opening]
    rfl
  | cons script others =>
    cases hf : script.startFault with
    | some fault =>
      rw [run_build_of_startFault hs hf, talks_opening]
      simp [hf]
    | none =>
      have unstarted : ∀ event ∈ (e.conversation job r script).events, event.isStart = false :=
        Session.emits_start (s := e.sessionOn job (startEffect script r.tree)) (p := fun event => event.isStart = false)
          ⟨fun _ => rfl, fun _ _ => rfl, rfl⟩ rebuilds job.options _
      rw [run_build_of_start hs hf]
      simp only [hf, List.append_assoc]
      rw [talks_opening, talks_append_of_unstarted unstarted,
        talks_append_of_quiet (quiet_closing e job r script others)]

/-- The conversation of a build does not depend on what was done before it. -/
theorem conversation_eq (expected : ∀ item ∈ script.items, (e.sessionOn job r.tree).expectsItem item = true) :
    e.conversation job r script = e.conversation job r' script :=
  Session.start_onTree (s := e.sessionOn job (startEffect script r'.tree)) job.options expected
    (startEffect script r.tree)

/-- What a build comes to, and what it sends, depends on its process alone. -/
theorem build_eq (same : r.scripts.head? = r'.scripts.head?)
    (expected : ∀ script, r.scripts.head? = some script →
      ∀ item ∈ script.items, (e.sessionOn job r.tree).expectsItem item = true) :
    ((e.build job).run r).result = ((e.build job).run r').result ∧ e.messages job r = e.messages job r' := by
  cases hs : r.scripts with
  | nil =>
    have hs' : r'.scripts = [] := by simpa [hs] using same.symm
    rw [run_build_of_none hs, run_build_of_none hs']
    exact ⟨rfl, by simp [messages, hs, hs']⟩
  | cons script rest =>
    obtain ⟨rest', hs'⟩ : ∃ rest', r'.scripts = script :: rest' := by
      cases hs' : r'.scripts with
      | nil => simp [hs, hs'] at same
      | cons other rest' =>
        obtain rfl : script = other := by simpa [hs, hs'] using same
        exact ⟨rest', rfl⟩
    cases hf : script.startFault with
    | some fault =>
      rw [run_build_of_startFault hs hf, run_build_of_startFault hs' hf]
      exact ⟨rfl, by simp [messages, hs, hs', hf]⟩
    | none =>
      have conversed : e.conversation job r script = e.conversation job r' script :=
        conversation_eq (expected script (by simp [hs]))
      rw [run_build_of_start hs hf, run_build_of_start hs' hf]
      refine ⟨?_, by simp [messages, hs, hs', hf, conversed]⟩
      have numbered : e.heardOut job r script = { e.heardOut job r' script with number := r.started } := by
        unfold heardOut
        rw [conversed]
        rfl
      unfold closing
      rw [numbered, conversed]
      cases (e.conversation job r' script).result with
      | error fault => exact congrArg Except.error (fault.seenFrom_renumbered _ _)
      | ok outcome =>
        dsimp only
        split <;> rfl

end Engine
end Bridge
end BundleForge
