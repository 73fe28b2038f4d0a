import BundleForge.Build.Builder
import BundleForge.Proofs.Hardening.Null

/-!
What becomes of one target: the driver says what it builds, the bundler builds it, and in a production
build the outcome is reported and hardened. Main statement: each of these steps leaves its trace in the
result of the target exactly when it is taken, and a target whose build fails gets no further.
-/

namespace BundleForge.Build

/-- One line on the console. -/
def isLine : Event → Bool
  | .printed .. => true
  | _ => false

theorem isLine_log {l : Level} {severity : Severity} {text : String} {e : Event}
    (h : e ∈ l.log severity text) : isLine e = true := by
  unfold Level.log at h
  split at h
  · obtain rfl := List.mem_singleton.mp h
    rfl
  · cases h

/-- A fault that a build is known to break off with: an error of the bundler, an import that cannot be
resolved, or a refusal of the system. -/
def isBuildFault : Bridge.Fault → Bool
  | .bundler .. | .unresolved _ | .system _ => true
  | _ => false

/-- A metafile that is reported, or told to be none. -/
def isRenderable (metafile : Json) : Bool :=
  match Report.render true metafile with
  | .ok _ => true
  | .error misfit => misfit.sort ≠ .range && misfit.sort ≠ .depth

/-- What a build comes to, as far as the driver is prepared for it. -/
def isForeseen : Except Bridge.Fault Bridge.Outcome → Bool
  | .ok outcome => isRenderable outcome.metafile
  | .error fault => isBuildFault fault

/-- One target that was dealt with: the state before, the lines that announce it, what came of the call
of the bundler, and what followed. -/
structure Attempt where
  target : Target
  before : Bridge.Running
  lead : List Event
  built : Done Bridge.Fault Bridge.Running Bridge.Outcome
  trail : List Event
  after : Bridge.Running

def Attempt.events (a : Attempt) : List Event := a.lead ++ a.built.events ++ a.trail

namespace Builder

/-- The hardening pass over the output of a target. -/
def passOver (b : Builder) (t : Target) (r : Bridge.Running) :
    Done Hardening.WalkFault Hardening.Progress Unit :=
  (b.pass t).run (b.outputDirectory t) r.tree r.hardenings

end Builder

namespace Attempt

/-- Whether the output of the target is hardened: in a production build that succeeded, where the target
wants it. -/
def hardens (flags : ModeFlags) (a : Attempt) : Bool :=
  flags.production && a.target.harden && a.built.result.isOk

/-- A pass over an output directory that no directory can be. -/
def spoils (b : Builder) (flags : ModeFlags) (a : Attempt) : Bool :=
  a.hardens flags && Tree.hasNull (b.outputDirectory a.target)

/-- The bundler is called for the target, once the driver has announced it. -/
structure Calls (b : Builder) (flags : ModeFlags) (a : Attempt) : Prop where
  lead : ∀ e ∈ a.lead, isLine e = true
  built : a.built = (b.bundle (b.job a.target flags)).run a.before

/-- A result that tells what was done for a target. -/
structure Tells (b : Builder) (flags : ModeFlags) (a : Attempt) (result : TargetResult) : Prop where
  name : result.name = a.target.name
  exclusive :
    (∃ o, a.built.result = .ok o ∧ result.outcome = some o ∧ result.error = none) ∨
    ∃ fault, a.built.result = .error fault ∧ result.outcome = none ∧ result.error = some fault.message
  report : ∀ text, result.report = some text ↔
    flags.production = true ∧ ∃ o, result.outcome = some o ∧ Report.render true o.metafile = .ok text
  idle : a.hardens flags = false →
    result.hardening = [] ∧ result.hardeningError = none ∧ a.after = a.built.state ∧
      ∀ e ∈ a.trail, isLine e = true
  hardened : a.hardens flags = true →
    let pass := b.passOver a.target a.built.state
    result.hardening = pass.state.results ∧
    (∀ text, result.hardeningError = some text ↔
      ∃ fault, pass.result = .error fault ∧ fault.message = text) ∧
    a.after = { a.built.state with tree := pass.state.tree, hardenings := pass.state.calls } ∧
    ∃ lines lines', a.trail = lines ++ pass.events ++ lines' ∧ ∀ e ∈ lines ++ lines', isLine e = true

/-- A result without a hardening, for a target whose output is not hardened. -/
theorem Tells.of_not_hardens {b : Builder} {flags : ModeFlags} {a : Attempt} {result : TargetResult}
    (skipped : a.hardens flags = false) (name : result.name = a.target.name)
    (exclusive :
      (∃ o, a.built.result = .ok o ∧ result.outcome = some o ∧ result.error = none) ∨
      ∃ fault, a.built.result = .error fault ∧ result.outcome = none ∧ result.error = some fault.message)
    (report : ∀ text, result.report = some text ↔
      flags.production = true ∧ ∃ o, result.outcome = some o ∧ Report.render true o.metafile = .ok text)
    (idle : result.hardening = [] ∧ result.hardeningError = none ∧ a.after = a.built.state ∧
      ∀ e ∈ a.trail, isLine e = true) : a.Tells b flags result :=
  ⟨name, exclusive, report, fun _ => idle, fun hardens => by simp [skipped] at hardens⟩

end Attempt

namespace Builder

variable {b : Builder} {flags : ModeFlags} {t : Target} {r : Bridge.Running}

theorem run_say {ε σ : Type} (b : Builder) (t : Target) (severity : Severity) (text : String) (s : σ) :
    (b.say t severity text : Action ε σ Unit).run s = ⟨.ok (), s, b.lines t severity text⟩ := rfl

theorem isLine_lines {severity : Severity} {text : String} {e : Event}
    (h : e ∈ b.lines t severity text) : isLine e = true := isLine_log h

/-- A report that can be printed or told to be none is printed or told to be none. -/
theorem run_printReport {o : Bridge.Outcome} (h : isRenderable o.metafile = true) :
    ∃ events, (b.printReport t o).run r = ⟨.ok (Report.render true o.metafile).toOption, r, events⟩ ∧
      ∀ e ∈ events, isLine e = true := by
  unfold printReport
  unfold isRenderable at h
  cases hr : Report.render true o.metafile with
  | ok report =>
    refine ⟨b.level.log .report report ++ [], rfl, ?_⟩
    simp only [List.append_nil]
    exact fun e => isLine_log
  | error misfit =>
    simp only [hr, ne_eq, decide_not, Bool.and_eq_true, Bool.not_eq_true', decide_eq_false_iff_not] at h
    dsimp only
    rw [if_neg (not_or.mpr h), Action.run_bind_ok (run_say b t .error _ r)]
    refine ⟨_, rfl, ?_⟩
    simp only [Action.run_pure, List.append_nil]
    exact fun e => isLine_lines

theorem run_runPass :
    (b.runPass t).run r =
      ⟨.ok ((b.passOver t r).result, (b.passOver t r).state.results),
        { r with tree := (b.passOver t r).state.tree, hardenings := (b.passOver t r).state.calls },
        (b.passOver t r).events⟩ := rfl

/-- A hardening that is started on a path that a directory can have gives the results of its pass. -/
theorem run_harden (fails : b.hardener.Fails) (clean : Tree.hasNull (b.outputDirectory t) = false)
    (result : TargetResult) (blank : result.hardeningError = none) :
    ∃ error lines, (b.harden t result).run r =
      ⟨.ok { result with hardening := (b.passOver t r).state.results, hardeningError := error },
        { r with tree := (b.passOver t r).state.tree, hardenings := (b.passOver t r).state.calls },
        (b.passOver t r).events ++ lines⟩ ∧
      (∀ text, error = some text ↔
        ∃ fault, (b.passOver t r).result = .error fault ∧ fault.message = text) ∧
      ∀ e ∈ lines, isLine e = true := by
  have possible : (b.passOver t r).result ≠ .error .nullInPath := by
    intro h
    have null := (Hardening.Pass.run_nullInPath_iff (b.pass t) fails _ _).mp h
    simp [null] at clean
  unfold harden
  rw [Action.run_bind_ok run_runPass]
  dsimp only
  cases hp : (b.passOver t r).result with
  | ok ended =>
    refine ⟨none, [], ?_, by simp, by simp⟩
    rw [← blank]
    rfl
  | error fault =>
    have told : ∀ text, some fault.message = some text ↔
        ∃ fault', (.error fault : Except Hardening.WalkFault Unit) = .error fault' ∧
          fault'.message = text := by simp
    cases fault with
    | nullInPath => exact absurd hp possible
    | refused | bottomless =>
      dsimp only
      rw [Action.run_bind_ok (run_say b t .error _ _)]
      simp only [Action.run_pure, List.append_nil]
      exact ⟨_, _, rfl, told, fun e => isLine_lines⟩

/-- A hardening that is started on a path that no directory can have ends the run. -/
theorem run_harden_of_hasNull (null : Tree.hasNull (b.outputDirectory t) = true) (result : TargetResult) :
    (b.harden t result).run r = ⟨.error (.walk .nullInPath), r, []⟩ := by
  have spoilt : b.passOver t r = _ := Hardening.Pass.run_of_hasNull (b.pass t) null r.tree r.hardenings
  unfold harden
  rw [Action.run_bind_ok run_runPass, spoilt]
  rfl

/-- The lines that announce a target. -/
def announcement (b : Builder) (flags : ModeFlags) (t : Target) : List Event :=
  b.lines t .info ("Building " ++ t.entryModule ++ " (" ++ (b.job t flags).options.platform ++ ", " ++
    (b.job t flags).options.format ++ ")")

/-- What follows the call of the bundler. -/
def followUp (b : Builder) (flags : ModeFlags) (t : Target) :
    Except Bridge.Fault Bridge.Outcome → Task TargetResult
  | .ok outcome => b.afterBuild t flags outcome
  | .error fault => b.afterFault t fault

def built (b : Builder) (flags : ModeFlags) (t : Target) (r : Bridge.Running) :
    Done Bridge.Fault Bridge.Running Bridge.Outcome := (b.bundle (b.job t flags)).run r

def attempt (b : Builder) (flags : ModeFlags) (t : Target) (r : Bridge.Running) : Attempt where
  target := t
  before := r
  lead := b.announcement flags t
  built := b.built flags t r
  trail := ((b.followUp flags t (b.built flags t r).result).run (b.built flags t r).state).events
  after := ((b.followUp flags t (b.built flags t r).result).run (b.built flags t r).state).state

theorem run_runTarget (b : Builder) (flags : ModeFlags) (t : Target) (r : Bridge.Running) :
    (b.runTarget flags t).run r =
      ⟨((b.followUp flags t (b.built flags t r).result).run (b.built flags t r).state).result,
        (b.attempt flags t r).after, (b.attempt flags t r).events⟩ := by
  have called : (Action.attempt (b.bundle (b.job t flags)) :
      Task (Except Bridge.Fault Bridge.Outcome)).run r =
      ⟨.ok (b.built flags t r).result, (b.built flags t r).state, (b.built flags t r).events⟩ := rfl
  unfold runTarget
  dsimp only
  rw [Action.run_bind_ok (run_say b t .info _ r), Action.run_bind_ok called]
  simp only [Attempt.events, attempt, announcement]
  cases (b.built flags t r).result <;> simp [followUp]

/-- The result of a target that was built, once its report is settled. -/
def reported (t : Target) (o : Bridge.Outcome) : TargetResult where
  name := t.name
  outcome := some o
  report := (Report.render true o.metafile).toOption

theorem run_afterBuild_of_development (dev : flags.production = false) (o : Bridge.Outcome) :
    ∃ lines, (b.afterBuild t flags o).run r =
      ⟨.ok { name := t.name, outcome := some o }, r, lines⟩ ∧ ∀ e ∈ lines, isLine e = true := by
  unfold afterBuild
  dsimp only
  rw [Action.run_bind_ok (run_say b t .info _ r)]
  simp only [dev, Bool.false_eq_true, if_false, Action.run_pure, List.append_nil]
  exact ⟨_, rfl, fun e => isLine_lines⟩

/-- In a production build a report comes first, and then the hardening where the target wants it. -/
theorem run_afterBuild_of_production (prod : flags.production = true) {o : Bridge.Outcome}
    (h : isRenderable o.metafile = true) :
    ∃ lines, (∀ e ∈ lines, isLine e = true) ∧
      if t.harden then
        (b.afterBuild t flags o).run r =
          ⟨((b.harden t (reported t o)).run r).result, ((b.harden t (reported t o)).run r).state,
            lines ++ ((b.harden t (reported t o)).run r).events⟩
      else (b.afterBuild t flags o).run r = ⟨.ok (reported t o), r, lines⟩ := by
  obtain ⟨events, hr, hlines⟩ := run_printReport (b := b) (t := t) (r := r) h
  unfold afterBuild
  dsimp only
  rw [Action.run_bind_ok (run_say b t .info _ r)]
  simp only [prod, if_true]
  rw [Action.run_bind_ok hr]
  dsimp only
  split
  · refine ⟨_ ++ events, ?_, by rw [← List.append_assoc]; rfl⟩
    intro e he
    rcases List.mem_append.mp he with he | he
    · exact isLine_lines he
    · exact hlines e he
  · rw [Action.run_bind_ok (run_say b t .info _ r)]
    simp only [Action.run_pure, List.append_nil]
    refine ⟨_ ++ (events ++ _), ?_, rfl⟩
    intro e he
    simp only [List.mem_append] at he
    rcases he with he | he | he
    · exact isLine_lines he
    · exact hlines e he
    · exact isLine_lines he

theorem toOption_eq_some {ε α : Type} {x : Except ε α} {a : α} : x.toOption = some a ↔ x = .ok a := by
  cases x <;> simp [Except.toOption]

theorem run_afterFault {fault : Bridge.Fault} (h : isBuildFault fault = true) :
    ∃ lines, (b.afterFault t fault).run r = ⟨.ok { name := t.name, error := some fault.message }, r, lines⟩ ∧
      ∀ e ∈ lines, isLine e = true := by
  have failed : ∃ lines, (do
      b.say t .error ("Build failed: " ++ fault.message)
      return { name := t.name, error := some fault.message } : Task TargetResult).run r =
        ⟨.ok { name := t.name, error := some fault.message }, r, lines⟩ ∧ ∀ e ∈ lines, isLine e = true := by
    rw [Action.run_bind_ok (run_say b t .error _ r)]
    simp only [Action.run_pure, List.append_nil]
    exact ⟨_, rfl, fun e => isLine_lines⟩
  cases fault with
  | bundler | unresolved | system => exact failed
  | reading | undecodable | integer | name | misfit => simp [isBuildFault] at h

theorem attempt_calls (b : Builder) (flags : ModeFlags) (t : Target) (r : Bridge.Running) :
    (b.attempt flags t r).Calls b flags :=
  ⟨fun _ => isLine_lines, rfl⟩

/-- A target is told of, unless its output directory spoils the run. -/
theorem attempt_tells (foreseen : isForeseen (b.built flags t r).result = true) (fails : b.hardener.Fails)
    (sound : (b.attempt flags t r).spoils b flags = false) :
    ∃ result, ((b.runTarget flags t).run r).result = .ok result ∧
      (b.attempt flags t r).Tells b flags result := by
  rw [run_runTarget]
  unfold attempt Attempt.spoils Attempt.hardens at *
  dsimp only at *
  generalize b.built flags t r = built at *
  obtain ⟨came, state, events⟩ := built
  dsimp only at *
  cases came with
  | error fault =>
    obtain ⟨lines, hr, hlines⟩ := run_afterFault (b := b) (t := t) (r := state) foreseen
    refine ⟨{ name := t.name, error := some fault.message }, ?_, ?_⟩
    · simp only [followUp, hr]
    · refine .of_not_hardens ?_ rfl (.inr ⟨fault, rfl, rfl, rfl⟩) (by simp) ?_
      · simp [Attempt.hardens, Except.isOk, Except.toBool]
      · simpa [followUp, hr] using hlines
  | ok o =>
    cases prod : flags.production with
    | false =>
      obtain ⟨lines, hr, hlines⟩ := run_afterBuild_of_development (b := b) (t := t) (r := state) prod o
      refine ⟨{ name := t.name, outcome := some o }, ?_, ?_⟩
      · simp only [followUp, hr]
      · refine .of_not_hardens ?_ rfl (.inl ⟨o, rfl, rfl, rfl⟩) (by simp [prod]) ?_
        · simp [Attempt.hardens, prod]
        · simpa [followUp, hr] using hlines
    | true =>
      obtain ⟨lines, hlines, hr⟩ := run_afterBuild_of_production (b := b) (t := t) (r := state) prod foreseen
      have report : ∀ text, (reported t o).report = some text ↔
          flags.production = true ∧ ∃ o', (reported t o).outcome = some o' ∧
            Report.render true o'.metafile = .ok text := by
        intro text
        simp [reported, prod, toOption_eq_some]
      cases wants : t.harden with
      | false =>
        simp only [wants, Bool.false_eq_true, if_false] at hr
        refine ⟨reported t o, ?_, ?_⟩
        · simp only [followUp, hr]
        · refine .of_not_hardens ?_ rfl (.inl ⟨o, rfl, rfl, rfl⟩) report ?_
          · simp [Attempt.hardens, wants]
          · simpa [followUp, hr, reported] using hlines
      | true =>
        have clean : Tree.hasNull (b.outputDirectory t) = false := by
          simpa [prod, wants, Except.isOk, Except.toBool] using sound
        obtain ⟨error, lines', hh, herror, hlines'⟩ :=
          run_harden (b := b) (t := t) (r := state) fails clean (reported t o) rfl
        simp only [wants, if_true, hh] at hr
        refine ⟨{ reported t o with hardening := (b.passOver t state).state.results, hardeningError := error },
          ?_, ?_⟩
        · simp only [followUp, hr]
        · refine ⟨rfl, .inl ⟨o, rfl, rfl, rfl⟩, report, ?_, ?_⟩
          · simp [Attempt.hardens, prod, wants, Except.isOk, Except.toBool]
          · intro _
            simp only [followUp, hr]
            refine ⟨trivial, herror, trivial, lines, lines', by simp, ?_⟩
            intro e he
            rcases List.mem_append.mp he with he | he
            · exact hlines e he
            · exact hlines' e he

/-- An output directory that no directory can be ends the run, before anything is hardened. -/
theorem attempt_spoils (foreseen : isForeseen (b.built flags t r).result = true)
    (spoils : (b.attempt flags t r).spoils b flags = true) :
    ((b.runTarget flags t).run r).result = .error (.walk .nullInPath) ∧
      (b.attempt flags t r).after = (b.attempt flags t r).built.state ∧
      ∀ e ∈ (b.attempt flags t r).trail, isLine e = true := by
  rw [run_runTarget]
  unfold attempt Attempt.spoils Attempt.hardens at *
  simp only [Bool.and_eq_true] at spoils
  obtain ⟨⟨⟨prod, wants⟩, came⟩, null⟩ := spoils
  dsimp only
  generalize b.built flags t r = built at *
  obtain ⟨result, state, events⟩ := built
  dsimp only at *
  cases result with
  | error fault => cases came
  | ok o =>
    obtain ⟨lines, hlines, hr⟩ := run_afterBuild_of_production (b := b) (t := t) (r := state) prod foreseen
    simp only [wants, if_true, run_harden_of_hasNull null] at hr
    simpa [followUp, hr] using hlines

/-- A run deals with its first target and then goes on from there. -/
theorem run_cons_of_told {result : TargetResult} (told : ((b.runTarget flags t).run r).result = .ok result)
    (rest : List Target) :
    (b.run flags (t :: rest)).run r =
      ⟨((b.run flags rest).run (b.attempt flags t r).after).result.map (result :: ·),
        ((b.run flags rest).run (b.attempt flags t r).after).state,
        (b.attempt flags t r).events ++ ((b.run flags rest).run (b.attempt flags t r).after).events⟩ := by
  have ran := run_runTarget b flags t r
  rw [ran] at told
  dsimp only at told
  rw [told] at ran
  have hd : (b.run flags (t :: rest)).run r = _ := Action.run_bind_ok ran
  rw [hd]
  generalize hl : (b.run flags rest).run (b.attempt flags t r).after = later
  obtain ⟨results, state, events⟩ := later
  cases results with
  | ok results =>
    rw [Action.run_bind_ok hl]
    simp [Except.map]
  | error crash =>
    rw [Action.run_bind_error hl]
    simp [Except.map]

end Builder
end BundleForge.Build
