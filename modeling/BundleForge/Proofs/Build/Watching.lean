import BundleForge.Proofs.Bridge.Readers
import BundleForge.Proofs.Build.Attempt
import BundleForge.Proofs.Build.Kept
import BundleForge.Proofs.Build.Levels

/-!
The watch sessions of a run. Main statement: however the readers of the sessions take turns, each session is
answered, tells of its rebuilds under the name of its own target and ends as if it were the only one; the
console shows an interleaving of what they print, and nothing is hardened and no file changed on a rebuild.
-/

namespace BundleForge

namespace Bridge

/-- A build opens no watch session but its own. -/
theorem Engine.session_of_build (e : Engine) (job : Job) (r : Running) :
    ∀ w ∈ ((e.build job).run r).state.watchers,
      w ∈ r.watchers ∨ (job.options.watch = true ∧ ∃ t, w.session = e.sessionOn job t) := by
  cases hs : r.scripts with
  | nil =>
    rw [run_build_of_none hs]
    exact fun w among => .inl among
  | cons script rest =>
    cases hf : script.startFault with
    | some fault =>
      rw [run_build_of_startFault hs hf]
      exact fun w among => .inl among
    | none =>
      rw [run_build_of_start hs hf]
      unfold closing
      cases (e.conversation job r script).result with
      | error fault => exact fun w among => .inl among
      | ok outcome =>
        dsimp only
        split
        · rename_i watch
          intro w among
          obtain among | among := List.mem_append.mp among
          · exact .inl among
          · obtain rfl := List.mem_singleton.mp among
            exact .inr ⟨watch, _, rfl⟩
        · exact fun w among => .inl among

/-- A session that notes something at each rebuild, before anything else is done. -/
def Session.noting (noted : Rebuild → List Event) (s : Session) : Session :=
  { s with onRebuild := fun rebuild => noted rebuild ++ s.onRebuild rebuild }

/-- The reader of a watch session at its start. -/
def Reader.ofWatcher (noted : Rebuild → List Event) (w : Watcher) : Reader where
  session := w.session.noting noted
  wire := w.process.wire

end Bridge

namespace Build

open Bridge

namespace Builder

variable {b : Builder} {e : Engine} {flags : ModeFlags} {targets : List Target}

/-- A watch session of one of the targets, as the driver opens it. -/
def OfTarget (b : Builder) (e : Engine) (flags : ModeFlags) (targets : List Target) (w : Watcher) : Prop :=
  flags.watch = true ∧ ∃ target ∈ targets, ∃ t, w.session = e.sessionOn (b.job target flags) t

theorem ensures_ofTarget (bundles : b.bundle = e.build) (flags : ModeFlags) (targets : List Target) :
    Action.Ensures (fun r => ∀ w ∈ r.watchers, b.OfTarget e flags targets w)
      (fun results => results.map TargetResult.name = targets.map Target.name) (b.run flags targets) := by
  refine ensures_run_of (fun _ holds _ _ => holds) fun target among => ?_
  refine ⟨fun r holds w opened => ?_, fun _ _ _ _ => trivial⟩
  rw [bundles] at opened
  obtain old | ⟨watch, t, session⟩ := e.session_of_build (b.job target flags) r w opened
  · exact holds w old
  · exact ⟨watch, target, among, t, session⟩

/-- What is printed of a rebuild goes under the name of its target. -/
theorem onRebuild_named (b : Builder) (target : Target) (rebuild : Rebuild) :
    ∃ severity text,
      b.onRebuild target rebuild = b.level.log severity ("[" ++ target.name ++ "]: " ++ text) := by
  unfold onRebuild
  split <;> exact ⟨_, _, rfl⟩

theorem OfTarget.named {w : Watcher} (h : b.OfTarget e flags targets w) :
    ∃ target ∈ targets, w.session.label = target.name ∧ w.session.onRebuild = b.onRebuild target ∧
      ∀ rebuild, ∃ severity text,
        w.session.onRebuild rebuild = b.level.log severity ("[" ++ target.name ++ "]: " ++ text) := by
  obtain ⟨watch, target, among, t, session⟩ := h
  have callback : w.session.onRebuild = b.onRebuild target := by
    rw [session]
    simp [Engine.sessionOn, job, watch]
  refine ⟨target, among, by rw [session]; rfl, callback, fun rebuild => ?_⟩
  rw [callback]
  exact b.onRebuild_named target rebuild

/-- The readers of all watch sessions that a run has opened take turns, and the files change meanwhile by
whatever else goes on. Something may be noted at each rebuild. -/
theorem watchers_interleave (b : Builder) (e : Engine) (bundles : b.bundle = e.build) (flags : ModeFlags)
    (targets : List Target) (t : Tree) (scripts : List Script) (noted : Rebuild → List Event)
    (soft : ∀ rebuild, ∀ event ∈ noted rebuild, ∀ source command, event ≠ .obfuscated source command)
    (expected : ∀ w ∈ ((b.run flags targets).run { tree := t, scripts }).state.watchers,
      ∀ item ∈ w.process.wire.unread, w.session.expectsItem item = true)
    (moves : List Move) :
    let r := ((b.run flags targets).run { tree := t, scripts }).state
    let done := Listening.run ⟨r.tree, r.watchers.map (Reader.ofWatcher noted)⟩ moves
    (∀ number w, r.watchers[number]? = some w →
      (∃ reader, done.1.readers[number]? = some reader ∧
        (Reader.ofWatcher noted w).Follows (moves.countP (Move.isTurnOf number))
          (reader, doneBy number done.2)) ∧
      ∃ target ∈ targets, w.session.label = target.name ∧ w.session.onRebuild = b.onRebuild target ∧
        ∀ rebuild, ∃ severity text,
          w.session.onRebuild rebuild = b.level.log severity ("[" ++ target.name ++ "]: " ++ text)) ∧
    (∀ number, r.watchers[number]? = none → doneBy number done.2 = []) ∧
    Interleaved (fun number => (doneBy number done.2).filter isLine) ((done.2.map Prod.snd).filter isLine) ∧
    (∀ event ∈ done.2.map Prod.snd, ∀ source command, event ≠ .obfuscated source command) ∧
    done.1.tree = moves.foldl Move.treeAfter r.tree := by
  intro r done
  have known : ∀ w ∈ r.watchers, b.OfTarget e flags targets w :=
    (ensures_ofTarget bundles flags targets).keeps _ fun _ none => nomatch none
  refine ⟨fun number w opened => ⟨?_, ?_⟩, fun number none => ?_, interleaved_filter _ _, ?_,
    Listening.tree_run _ _⟩
  · have among := List.mem_of_getElem? opened
    have reader : (r.watchers.map (Reader.ofWatcher noted))[number]? = some (Reader.ofWatcher noted w) := by
      rw [List.getElem?_map, opened]
      rfl
    have usable : (Reader.ofWatcher noted w).Expected := expected w among
    obtain ⟨last, events⟩ := Listening.run_turns usable
      (show (Listening.mk r.tree (r.watchers.map (Reader.ofWatcher noted))).readers[number]? = _ from reader) moves
    refine ⟨_, last, ?_⟩
    rw [events]
    exact Reader.turns_follows rfl _
  · exact (known w (List.mem_of_getElem? opened)).named
  · exact Listening.doneBy_run_of_none (by simpa using none) moves
  · refine Listening.emits_run ⟨by simp, by simp, by simp⟩ (fun reader among rebuild event he => ?_) moves
    obtain ⟨w, opened, rfl⟩ := List.mem_map.mp among
    obtain he | he := List.mem_append.mp he
    · exact soft rebuild event he
    · obtain ⟨target, -, -, -, named⟩ := (known w opened).named
      obtain ⟨severity, text, logged⟩ := named rebuild
      rw [logged] at he
      have line := isLine_log he
      rintro source command rfl
      cases line

/-- A bundler that rebuilds once, and one that asks for a look-up before a rebuild that fails. -/
def rebuildingScripts : List Script := [
  { items := [
      .line "\x7b\"type\":\"result\",\"outputFiles\":[]\x7d",
      .line "\x7b\"type\":\"rebuild\"\x7d"]
    hangs := true },
  { items := [
      .line "\x7b\"type\":\"result\",\"outputFiles\":[]\x7d",
      .line "\x7b\"type\":\"resolve\",\"path\":\"uuid\",\"kind\":\"import-statement\",\"located\":\"uuid\"\x7d",
      .line "\x7b\"type\":\"rebuild\",\"errors\":[\"lost\"]\x7d"]
    hangs := true }]

/-- What is left of a run over two targets that are watched. -/
def siteWatch : Running :=
  (((siteEquipment.builder .info).run ⟨false, true⟩ (Target.defaults.take 2)).run
    { tree := { top := .dir [] }, scripts := rebuildingScripts }).state

/-- The readers of its sessions, each rebuild noted as it comes. -/
def siteListening : Listening :=
  ⟨siteWatch.tree, siteWatch.watchers.map (Reader.ofWatcher fun rebuild => [.rebuilt rebuild])⟩

/-- Turns of the second session and of the first, while a file comes to be. -/
def takingTurns : List Move :=
  [.turn 1, .turn 0, .outside { top := .dir [("a", .file [])] }, .turn 1, .turn 0, .turn 1]

/-- Both sessions have done all that they do alone, each under the name of its own target. -/
theorem watchers_interleave_two :
    siteWatch.watchers.map (fun w => w.process.wire.unread.length) = [1, 2] ∧
    (∀ w ∈ siteWatch.watchers, ∀ item ∈ w.process.wire.unread, w.session.expectsItem item = true) ∧
    (∀ rebuild : Rebuild, ∀ event ∈ [Event.rebuilt rebuild],
      ∀ source command, event ≠ .obfuscated source command) ∧
    (∀ number w, siteWatch.watchers[number]? = some w →
      doneBy number (siteListening.run takingTurns).2 =
        (Reader.ofWatcher (fun rebuild => [.rebuilt rebuild]) w).alone.events) ∧
    Interleaved (fun number => (doneBy number (siteListening.run takingTurns).2).filter isLine)
      (((siteListening.run takingTurns).2.map Prod.snd).filter isLine) := by
  have lengths : siteWatch.watchers.map (fun w => w.process.wire.unread.length) = [1, 2] := by
    decide +kernel
  have expected : ∀ w ∈ siteWatch.watchers, ∀ item ∈ w.process.wire.unread,
      w.session.expectsItem item = true := by decide +kernel
  have soft : ∀ rebuild : Rebuild, ∀ event ∈ [Event.rebuilt rebuild],
      ∀ source command, event ≠ .obfuscated source command := by simp
  have all := watchers_interleave (siteEquipment.builder .info) (siteEquipment.engine.dimmed .info) rfl
    ⟨false, true⟩ (Target.defaults.take 2) { top := .dir [] } rebuildingScripts
    (fun rebuild => [.rebuilt rebuild]) soft
  rw [← siteWatch] at all
  obtain ⟨own, -, interleaved, -⟩ := all expected takingTurns
  refine ⟨lengths, expected, soft, ?_⟩
  rw [siteListening]
  clear all expected soft
  -- what the run comes to is not to be computed again
  generalize siteWatch = r at *
  refine ⟨fun number w opened => ?_, interleaved⟩
  obtain ⟨⟨reader, -, follows⟩, -⟩ := own number w opened
  have size : [1, 2][number]? = some w.process.wire.unread.length := by
    rw [← lengths, List.getElem?_map, opened]
    rfl
  have enough : w.process.wire.unread.length < takingTurns.countP (Move.isTurnOf number) := by
    match number, size with
    | 0, size =>
      rw [← Option.some.inj size]
      decide
    | 1, size =>
      rw [← Option.some.inj size]
      decide
    | n + 2, size => cases size
  obtain ⟨ending, ended⟩ := Option.isSome_iff_exists.mp (follows.enough enough)
  exact (follows.ended ending ended).1

end Builder
end Build
end BundleForge
