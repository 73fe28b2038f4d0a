import BundleForge.Proofs.Bridge.Progress
import BundleForge.Proofs.Bridge.Upkeep

/-!
What a build says of a process that went wrong. Main statement: the text of an error names the exit code of
the process exactly when that is not zero and it was not the bundler's own error that ended the build; the
errors that go with it, and every outcome, are those of the conversation.
-/

namespace BundleForge.Bridge

/-- The exit code that a process has in the end: it is told to end if it is still there when its input has
been closed for a while. -/
def Script.lastCode (script : Script) : Int :=
  if script.hangs && !script.hasEnded then terminatedCode else script.exitCode

/-- The last item that was read, of some items, is an error that the bundler reports. -/
def EndsOnError (items unread : List Item) : Prop :=
  ∃ before item message, items = before ++ item :: unread ∧ item.message? = some (message, .str "error")

namespace Process

theorem code_finish_of_running {p : Process} (running : p.code = none) :
    p.finish.1.code = some p.script.lastCode := by
  unfold finish Script.lastCode outlasts
  cases hangs : p.script.hangs <;> cases ended : p.script.hasEnded <;>
    simp [running, ended, wait, stop, poll, terminate]

theorem reported_finish (p : Process) : p.finish.1.wire.reported = p.wire.reported := by
  unfold finish stop poll
  dsimp only
  split
  · split <;> split <;> rfl
  · rfl

end Process

namespace Session

variable {s : Session} {w : Wire} {item : Item} {items before rest : List Item}

/-- Only an error of the bundler is reported, and it does come to a fault. -/
theorem reports_iff (s : Session) (item : Item) :
    (s.respond item).reports = true ↔ ∃ message, item.message? = some (message, .str "error") := by
  cases h : item.message? with
  | none =>
    obtain ⟨fault, responds⟩ := respond_of_no_message h s
    simp [responds]
  | some m =>
    obtain ⟨message, kind⟩ := m
    rw [respond_of_message h]
    unfold responseTo
    split
    · unfold resolving
      split
      · simp
      · dsimp only
        split <;> simp
    · simp
    · split <;> simp
    · simp
    · simp
    · rename_i error
      simpa using error

theorem comes_of_reports (h : (s.respond item).reports = true) : ∃ fault, (s.respond item).comes = .error fault := by
  obtain ⟨message, sort⟩ := (reports_iff s item).mp h
  rw [respond_of_message sort]
  show ∃ fault, fitted (errorOf message) >>= Except.error = Except.error fault
  cases fitted (errorOf message) <;> exact ⟨_, rfl⟩

/-- An error that a wait for a result ends with was reported exactly when the last item read reports one. -/
theorem reported_iff_of_course {done : Done Fault Wire Outcome} (fresh : w.reported = false)
    (course : s.Course (fun x => x.comes = .ok none) s.Awaited w items done) {text : String} {errors : List Json}
    (h : done.result = .error (.bundler text errors)) :
    done.state.reported = true ↔ EndsOnError items done.state.unread := by
  obtain ⟨before, rest, rfl, passed, done, ends⟩ := course
  have quiet : ∀ item ∈ before, (s.respond item).reports = false := by
    intro item among
    by_contra reports
    obtain ⟨fault, comes⟩ := comes_of_reports (by simpa using reports)
    simp [passed.went item among] at comes
  have past_reported (rest : List Item) : (s.past w before rest).reported = false := by
    simpa [past, fresh] using quiet
  cases ends with
  | exhausted =>
    refine iff_of_false (by simp [past_reported]) ?_
    rintro ⟨others, item, message, split, sort⟩
    have among : item ∈ before := by
      rw [← List.append_nil before, split]
      simp
    have reports := (reports_iff s item).mpr ⟨message, sort⟩
    simp [quiet item among] at reports
  | refused => cases h
  | settled => cases h
  | @failed item rest fault written comes =>
    have last : (s.respond item).reports = true ↔ EndsOnError (before ++ item :: rest) rest := by
      rw [reports_iff]
      constructor
      · rintro ⟨message, sort⟩
        exact ⟨before, item, message, rfl, sort⟩
      · rintro ⟨others, item', message, split, sort⟩
        obtain ⟨-, same⟩ : before = others ∧ item :: rest = item' :: rest :=
          List.append_inj' split (by simp)
        obtain rfl := (List.cons.inj same).1
        exact ⟨message, sort⟩
    have state : ((s.respond item).after { s.past w before (item :: rest) with unread := rest }).reported =
        (s.respond item).reports := by
      simp [Response.after, past_reported]
    rw [Response.unread_after, ← last]
    exact iff_of_eq (congrArg (· = true) state)

/-- An error that a build ends with was reported exactly when the last item read reports one. -/
theorem start_reported_iff (o : Options) (fresh : w.reported = false) {text : String} {errors : List Json}
    (h : ((s.start o).run w).result = .error (.bundler text errors)) :
    ((s.start o).run w).state.reported = true ↔ EndsOnError w.unread ((s.start o).run w).state.unread := by
  by_cases spent : w.writesLeft = some 0
  · rw [run_start_refused o spent] at h
    cases h
  · rw [run_start_written o spent] at h ⊢
    have course : s.Course _ s.Awaited w.written w.unread ((s.awaitResult w.unread).run w.written) :=
      awaitResult_course s rfl
    have told := reported_iff_of_course (w := w.written) fresh course h
    exact told

end Session

namespace Engine

variable {e : Engine} {job : Job} {r : Running} {script : Script} {rest : List Script}

theorem append_code_ne (text : String) (code : Int) : text ++ " (exit code " ++ toString code ++ ")" ≠ text := by
  intro same
  have length := congrArg String.length same
  have open_ : " (exit code ".length = 12 := by decide
  simp only [String.length_append] at length
  omega

/-- The text of an error is left as it is exactly when the error was reported or the exit code is zero. -/
theorem withExitCode_spec (text : String) {p : Process} {code : Int} (h : p.code = some code) :
    (withExitCode text p = text ↔ p.wire.reported = true ∨ code = 0) ∧
      (withExitCode text p ≠ text → withExitCode text p = text ++ " (exit code " ++ toString code ++ ")") := by
  unfold withExitCode
  rw [h]
  split
  · contradiction
  · rename_i zero
    obtain rfl : code = 0 := Option.some.inj zero
    simp
  · rename_i nonzero same
    obtain rfl : code = _ := Option.some.inj same
    have other : code ≠ 0 := by
      rintro rfl
      exact nonzero rfl
    cases p.wire.reported with
    | true => simp
    | false => exact ⟨by simpa [other] using append_code_ne text code, fun _ => rfl⟩

/-- What a build reports of its process, whatever the process does from its start on, and whether the build
is to be watched or not. An error of the conversation is reported with the same errors. Its text is the same
when the last item read was an error that the bundler reports, and when the process ends with zero; otherwise
the exit code follows it. An outcome of the conversation is the build's, however the process ends. -/
theorem build_reports (e : Engine) (job : Job) (r : Running) (script : Script) (rest : List Script)
    (scripts : r.scripts = script :: rest) (starts : script.startFault = none) :
    let talk := e.conversation job r script
    let built := (e.build job).run r
    (∀ text errors, talk.result = .error (.bundler text errors) →
      ∃ p said, built.state.ended = r.ended ++ [p] ∧ p.code = some script.lastCode ∧
        built.result = .error (.bundler said errors) ∧
        (said = text ↔ EndsOnError script.items talk.state.unread ∨ script.lastCode = 0) ∧
        (said ≠ text → said = text ++ " (exit code " ++ toString script.lastCode ++ ")")) ∧
    ∀ outcome, talk.result = .ok outcome → built.result = .ok outcome := by
  intro talk built
  have run : built = _ := run_build_of_start scripts starts
  refine ⟨fun text errors breaks => ?_, fun outcome settles => ?_⟩
  · have broke : (e.conversation job r script).result = .error (.bundler text errors) := breaks
    let p := e.heardOut job r script
    have code : p.finish.1.code = some script.lastCode := p.code_finish_of_running rfl
    have reported : p.finish.1.wire.reported = true ↔ EndsOnError script.items talk.state.unread := by
      rw [p.reported_finish]
      exact Session.start_reported_iff job.options rfl broke
    obtain ⟨kept, named⟩ := withExitCode_spec text code
    refine ⟨p.finish.1, withExitCode text p.finish.1, ?_, code, ?_, by rw [kept, reported], named⟩
    · rw [run]
      unfold closing
      rw [broke]
      rfl
    · rw [run]
      unfold closing
      rw [broke]
      rfl
  · have conversed : (e.conversation job r script).result = .ok outcome := settles
    rw [run]
    unfold closing
    rw [conversed]
    dsimp only
    split <;> rfl

/-- A bundler that says nothing, breaks its pipe and does not end by itself. -/
def muteScript : Script := { hangs := true, brokenInput := true }

/-- Such a bundler is told to end, and that is what its build reports. -/
theorem build_reports_termination :
    let r : Running := { tree := { top := .dir [] }, scripts := [muteScript] }
    muteScript.startFault = none ∧
    ∃ p, ((serverEngine.build watchJob).run r).state.ended = [p] ∧ p.code = some (-15) ∧
      ((serverEngine.build watchJob).run r).result =
        .error (.bundler "Bundling engine exited before reporting a result (exit code -15)" []) := by
  intro r
  obtain ⟨broken, -⟩ := build_reports serverEngine watchJob r muteScript [] rfl rfl
  obtain ⟨p, said, ended, code, result, kept, named⟩ := broken _ _ rfl
  have unreported : ¬ EndsOnError muteScript.items (serverEngine.conversation watchJob r muteScript).state.unread := by
    rintro ⟨before, item, message, split, -⟩
    simpa using congrArg List.length (show [] = _ from split)
  have changed := named (by simpa [kept] using ⟨unreported, show muteScript.lastCode ≠ 0 by decide⟩)
  refine ⟨rfl, p, ended, code, ?_⟩
  rw [result, changed]
  rfl

end Engine
end BundleForge.Bridge
