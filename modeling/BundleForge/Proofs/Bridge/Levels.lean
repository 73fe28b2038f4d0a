import BundleForge.Bridge.Engine
import BundleForge.Proofs.Levels

/-!
Conversations and engines at two levels. Main statement: what a session or an engine does and comes to is the
same at every level, and of its lines the lower level shows those that are allowed at it.
-/

namespace BundleForge.Bridge

open BundleForge.Action

/-- The session at a lower level. What it does after a rebuild shows what is seen at that level. -/
def Session.dimmed (low : Level) (s : Session) : Session :=
  { s with level := low, onRebuild := fun rebuild => (s.onRebuild rebuild).filter low.shows }

variable {low : Level}

section Conversations

variable {s : Session}

theorem dims_misfits {α : Type} (x : Except Misfit α) : Dims low Eq Eq (misfits x) (misfits x) := .ofExcept _

theorem silent_send (message : Json) : Emits (fun e => e.severity? = none) (send message) := by
  intro w e member
  simp only [send, run] at member
  split at member
  · cases member
  · rw [List.mem_singleton.mp member]; rfl
  · rw [List.mem_singleton.mp member]; rfl

theorem dims_send (message : Json) : Dims low Eq Eq (send message) (send message) :=
  .of_silent (silent_send message)

theorem dims_setReported : Dims low Eq Eq setReported setReported := .of_silent fun _ _ member => nomatch member

theorem dims_advance (unread : List Item) : Dims low Eq Eq (advance unread) (advance unread) :=
  .of_silent fun _ _ member => by rw [List.mem_singleton.mp member]; rfl

namespace Session

theorem dims_say (le : low.rank ≤ s.level.rank) {severity : Severity} (tagged : severity ≠ .report)
    (text : String) : Dims low Eq Eq ((s.dimmed low).say severity text) (s.say severity text) :=
  .log le fun report => absurd report tagged

theorem dims_answerResolve (le : low.rank ≤ s.level.rank) (message : List (String × Json)) :
    Dims low Eq Eq ((s.dimmed low).answerResolve message) (s.answerResolve message) := by
  unfold answerResolve
  cases policy : s.policy with
  | none =>
    simp only [dimmed, policy]
    exact dims_send _
  | some policy' =>
    simp only [dimmed, policy]
    split
    · exact (dims_say le (by simp) _).follow fun _ => dims_send _
    · exact dims_send _
    · exact .fail _
    · exact .fail _
    · exact .fail _

theorem dims_handle (le : low.rank ≤ s.level.rank) (message : List (String × Json)) (kind : Json) :
    Dims low Eq Eq ((s.dimmed low).handle message kind) (s.handle message kind) := by
  unfold handle
  split
  · exact (dims_answerResolve le message).follow fun _ => .pure rfl
  · exact (dims_send _).follow fun _ => .pure rfl
  · exact (dims_misfits _).follow fun rebuild => (Dims.emit rfl).follow fun _ => .pure rfl
  · exact (dims_misfits _).follow fun outcome => .pure rfl
  · exact dims_setReported.follow fun _ => (dims_misfits _).follow fun fault => .fail fault
  · exact (dims_say le (by simp) _).follow fun _ => .pure rfl

theorem dims_take (le : low.rank ≤ s.level.rank) (item : Item) :
    Dims low Eq Eq ((s.dimmed low).take item) (s.take item) := by
  unfold take
  split
  · exact .fail _
  · exact .fail _
  · exact .fail _
  · split
    · exact dims_handle le _ _
    · exact .fail _

theorem dims_awaitResult (le : low.rank ≤ s.level.rank) (items : List Item) :
    Dims low Eq Eq ((s.dimmed low).awaitResult items) (s.awaitResult items) := by
  induction items with
  | nil => exact .fail _
  | cons item rest ih =>
    refine (dims_advance rest).follow fun _ => (dims_take le item).follow fun outcome => ?_
    cases outcome with
    | some outcome => exact .pure rfl
    | none => exact ih

theorem dims_start (le : low.rank ≤ s.level.rank) (o : Options) :
    Dims low Eq Eq ((s.dimmed low).start o) (s.start o) :=
  (dims_send _).follow fun _ => Dims.state.bind fun w w' same => by
    rw [same]
    exact dims_awaitResult le _

theorem dims_hear (le : low.rank ≤ s.level.rank) (item : Item) :
    Dims low Eq Eq ((s.dimmed low).hear item) (s.hear item) := by
  refine (dims_take le item).attempt.follow fun taken => ?_
  cases taken with
  | ok => exact .pure rfl
  | error fault =>
    dsimp only
    split
    · exact (dims_say le (by simp) _).follow fun _ => .pure rfl
    · exact (dims_say le (by simp) _).follow fun _ => .pure rfl
    · exact .fail fault

theorem dims_listenTo (le : low.rank ≤ s.level.rank) (items : List Item) :
    Dims low Eq Eq ((s.dimmed low).listenTo items) (s.listenTo items) := by
  induction items with
  | nil => exact .pure rfl
  | cons item rest ih =>
    refine (dims_advance rest).follow fun _ => (dims_hear le item).follow fun on => ?_
    cases on with
    | true => exact ih
    | false => exact .pure rfl

theorem dims_listen (le : low.rank ≤ s.level.rank) :
    Dims low Eq Eq (s.dimmed low).listen s.listen :=
  Dims.state.bind fun w w' same => by
    rw [same]
    exact dims_listenTo le _

end Session
end Conversations

def Watcher.dimmed (low : Level) (w : Watcher) : Watcher := { w with session := w.session.dimmed low }

def Job.dimmed (low : Level) (job : Job) : Job :=
  { job with onRebuild := fun rebuild => (job.onRebuild rebuild).filter low.shows }

def Engine.dimmed (low : Level) (e : Engine) : Engine := { e with level := low }

/-- The state of a run at a lower level: the open watch sessions are held at that level, and all else is
the same. -/
structure Dusk (low : Level) (r r' : Running) : Prop where
  same : r = { r' with watchers := r'.watchers.map (Watcher.dimmed low) }
  loud : ∀ w ∈ r'.watchers, low.rank ≤ w.session.level.rank

namespace Engine

variable {ε : Type} {e : Engine}

theorem dims_spawn : Dims low (Dusk low) Eq (e.dimmed low).spawn e.spawn := by
  rintro _ ⟨tree, scripts, started, ended, watchers, hardenings⟩ ⟨rfl, loud⟩
  cases scripts with
  | nil => exact ⟨.error _, ⟨rfl, loud⟩, rfl⟩
  | cons script rest =>
    cases fault : script.startFault with
    | some fault' =>
      simp only [spawn, Action.run, fault]
      exact ⟨.error _, ⟨rfl, loud⟩, rfl⟩
    | none =>
      simp only [spawn, Action.run, fault]
      exact ⟨.ok rfl, ⟨rfl, loud⟩, rfl⟩

theorem dims_converse {α : Type} {step step' : Step α} (h : Dims low Eq Eq step step') (p : Process) :
    Dims low (Dusk low) Eq (converse step p : Action ε Running _) (converse step' p) := by
  intro r r' related
  have done := h p.wire p.wire rfl
  have process := congrArg (fun wire => { p with wire }) done.state
  exact ⟨.ok (Prod.ext done.result.eq process), related, done.events⟩

/-- What is seen of the end of a process is no line. -/
theorem filter_ending {ended : Process × List Event} (h : ∀ e ∈ ended.2, e.severity? = none) (low : Level) :
    ended.2.filter low.shows = ended.2 :=
  List.filter_eq_self.mpr fun e member => shows_of_severity?_eq_none (h e member) low

theorem dims_ending {ended : Process × List Event} (h : ∀ e ∈ ended.2, e.severity? = none) :
    Dims low (Dusk low) Eq (ending ended : Action ε Running _) (ending ended) := by
  rintro _ r' ⟨rfl, loud⟩
  exact ⟨.ok rfl, ⟨rfl, loud⟩, (filter_ending h low).symm⟩

theorem severity?_stop (p : Process) : ∀ e ∈ p.stop.2, e.severity? = none := by
  unfold Process.stop
  split <;> simp [Event.severity?]

theorem severity?_finish (p : Process) : ∀ e ∈ p.finish.2, e.severity? = none := by
  have closing : ∀ e ∈ p.closeInput.2, e.severity? = none := by simp [Process.closeInput, Event.severity?]
  unfold Process.finish
  dsimp only
  split
  · exact List.forall_mem_append.mpr ⟨closing, severity?_stop p⟩
  · exact closing

theorem dims_breakOff {α : Type} {V : α → α → Prop} (p : Process) (fault : Fault) :
    Dims low (Dusk low) V (breakOff p fault : Action Fault Running α) (breakOff p fault) := by
  cases fault with
  | bundler text errors => exact (dims_ending (severity?_finish p)).follow fun _ => .fail _
  | unresolved | system | reading | undecodable | integer | name | misfit =>
    exact (dims_ending (severity?_stop p)).follow fun _ => .fail _

theorem dims_openWatch {w : Watcher} (le : low.rank ≤ w.session.level.rank) :
    Dims low (Dusk low) Eq (openWatch (w.dimmed low)) (openWatch w) := by
  rintro _ r' ⟨rfl, loud⟩
  refine ⟨.ok rfl, ⟨by simp [openWatch, Action.run], ?_⟩, rfl⟩
  exact List.forall_mem_append.mpr ⟨loud, List.forall_mem_singleton.mpr le⟩

/-- A build at the lower level. -/
theorem dims_build (le : low.rank ≤ e.level.rank) (job : Job) :
    Dims low (Dusk low) Eq ((e.dimmed low).build (job.dimmed low)) (e.build job) := by
  unfold build
  refine (Dims.log le (by simp)).follow fun _ => dims_spawn.follow fun process => Dims.state.bind ?_
  rintro _ r' ⟨rfl, -⟩
  let session : Session := {
    label := job.label, level := e.level, policy := job.policy, onRebuild := job.onRebuild, tree := r'.tree }
  refine (dims_converse (Session.dims_start (s := session) le job.options) process).follow fun heard => ?_
  obtain ⟨result, process⟩ := heard
  cases result with
  | error fault => exact dims_breakOff process fault
  | ok outcome =>
    show Dims low _ _ (if job.options.watch = true then _ else _) (if job.options.watch = true then _ else _)
    split
    · exact (dims_openWatch (w := ⟨session, process⟩) le).follow fun _ => .pure rfl
    · exact (dims_ending (severity?_finish process)).follow fun _ => .pure rfl

theorem dims_listenTo {w : Watcher} (le : low.rank ≤ w.session.level.rank) :
    Dims low (Dusk low) (fun x y => x = (y.1.dimmed low, y.2) ∧ low.rank ≤ y.1.session.level.rank)
      (listenTo (w.dimmed low) : Action ε Running _) (listenTo w) := by
  refine Dims.state.bind ?_
  rintro _ r' ⟨rfl, -⟩
  let session : Session := { w.session with tree := r'.tree }
  exact (dims_converse (Session.dims_listen (s := session) le) w.process).follow fun done => .pure ⟨rfl, le⟩

theorem dims_listenAll {watchers : List Watcher} (loud : ∀ w ∈ watchers, low.rank ≤ w.session.level.rank) :
    Dims low (Dusk low)
      (fun x y => x = (y.1.map (Watcher.dimmed low), y.2) ∧ ∀ w ∈ y.1, low.rank ≤ w.session.level.rank)
      (listenAll (watchers.map (Watcher.dimmed low)) : Action ε Running _) (listenAll watchers) := by
  induction watchers with
  | nil => exact .pure ⟨rfl, by simp⟩
  | cons w rest ih =>
    obtain ⟨first, others⟩ := List.forall_mem_cons.mp loud
    refine (dims_listenTo first).bind fun x y heard => (ih others).bind fun xs ys all => .pure ⟨?_, ?_⟩
    · rw [heard.1, all.1]
      rfl
    · exact List.forall_mem_cons.mpr ⟨heard.2, all.2⟩

theorem dims_wait : Dims low (Dusk low) Eq (wait : Action ε Running (List Fault)) wait := by
  refine Dims.state.bind fun r r' dusk => ?_
  rw [dusk.same]
  refine (dims_listenAll dusk.loud).bind fun x y all => ?_
  obtain ⟨watchers, lost⟩ := y
  obtain ⟨rfl, loud⟩ := all
  have set : Dims low (Dusk low) Eq (setWatchers (watchers.map (Watcher.dimmed low)) : Action ε Running Unit)
      (setWatchers watchers) := by
    rintro _ r' ⟨rfl, -⟩
    exact ⟨.ok rfl, ⟨rfl, loud⟩, rfl⟩
  exact set.follow fun _ => .pure rfl

theorem dims_stopAll (watchers : List Watcher) :
    Dims low (Dusk low) Eq (stopAll (watchers.map (Watcher.dimmed low)) : Action ε Running Unit)
      (stopAll watchers) := by
  induction watchers with
  | nil => exact .pure rfl
  | cons w rest ih => exact (dims_ending (severity?_stop w.process)).follow fun _ => ih

theorem dims_close : Dims low (Dusk low) Eq (close : Action ε Running Unit) close := by
  refine Dims.state.bind fun r r' dusk => ?_
  rw [dusk.same]
  have cleared : Dims low (Dusk low) Eq (setWatchers [] : Action ε Running Unit) (setWatchers []) := by
    rintro _ r' ⟨rfl, -⟩
    exact ⟨.ok rfl, ⟨rfl, fun _ none => nomatch none⟩, rfl⟩
  exact (dims_stopAll r'.watchers).follow fun _ => cleared

end Engine
end BundleForge.Bridge
