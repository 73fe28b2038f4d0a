import BundleForge.Proofs.Bridge.Contained
import BundleForge.Proofs.Bridge.Escapes
import BundleForge.Proofs.Build.Attempt
import BundleForge.Proofs.Report.Sizes

/-!
What bundlers may write without a build going amiss. Main statement: a build whose process writes lines
that do not escape, and tells of no huge size, comes to an outcome that can be reported or breaks off in
a way that the driver is prepared for, whatever else its process does.
-/

namespace BundleForge

/-- A whole number of bytes that a double can count. -/
def Json.isByteCount : Json → Bool
  | .int n => decide (n.natAbs < 2 ^ 53)
  | _ => false

theorem Json.not_isHuge_of_isByteCount {size : Json} (h : size.isByteCount = true) : ¬ size.isHuge := by
  cases size with
  | int n =>
    have near : n.natAbs < 2 ^ 53 := of_decide_eq_true h
    have far : 2 ^ 53 ≤ Binary64.rangeEnd := by decide +kernel
    rintro (⟨negative, same⟩ | ⟨m, hm, huge⟩)
    · cases same
    · obtain rfl : n = m := Except.ok.inj hm
      omega
  | null | bool | real | str | halved | arr | obj => cases h

namespace Build

theorem isRenderable_of_sizes {metafile : Json} (near : ∀ size ∈ Report.sizesOf metafile, ¬ size.isHuge) :
    isRenderable metafile = true := by
  unfold isRenderable
  cases h : Report.render true metafile with
  | ok text => rfl
  | error misfit =>
    have kind := Report.rangeOnly_render true metafile misfit h
    have inRange : misfit.sort ≠ .range := fun far =>
      have ⟨size, among, huge⟩ := kind.2 far
      near size among huge
    simp [kind.1, inRange]

end Build

namespace Bridge

/-- What a read may give in a build that goes as foreseen: a refusal of the system, or a line that the
conversation does not break off at and that tells of no size beyond all doubles. -/
def Item.Sound (s : Session) : Item → Prop
  | .broken _ => True
  | .line text => s.escapes text = false ∧
      ∀ message outcome, readMessage text = .ok (message, .str "result") →
        Session.outcomeOf message = .ok outcome → ∀ size ∈ Report.sizesOf outcome.metafile, ¬ size.isHuge
  | .unreadable _ | .undecodable _ => False

/-- Whether a line, if it is a message, tells of byte counts only. -/
def countsBytes (line : String) : Bool :=
  match readMessage line with
  | .ok (message, _) =>
    (Report.sizesOf (((message.lookup "metafile").bind Json.present?).getD (.obj []))).all Json.isByteCount
  | .error _ => true

theorem metafile_of_outcomeOf {message : List (String × Json)} {outcome : Outcome}
    (h : Session.outcomeOf message = .ok outcome) :
    outcome.metafile = ((message.lookup "metafile").bind Json.present?).getD (.obj []) := by
  simp only [Session.outcomeOf, bind, Except.bind] at h
  split at h
  · cases h
  · split at h
    · cases h
    · obtain rfl := Except.ok.inj h
      rfl

/-- A line that does not escape and tells of byte counts only, or a refusal of the system. -/
def Item.isSound (s : Session) : Item → Bool
  | .broken _ => true
  | .line text => !s.escapes text && countsBytes text
  | .unreadable _ | .undecodable _ => false

theorem Item.sound_of_isSound {s : Session} {item : Item} (h : item.isSound s = true) : item.Sound s := by
  cases item with
  | broken text => trivial
  | unreadable | undecodable => cases h
  | line text =>
    simp only [isSound, Bool.and_eq_true, Bool.not_eq_true'] at h
    obtain ⟨stays, counts⟩ := h
    refine ⟨stays, fun message outcome hm ho size among => Json.not_isHuge_of_isByteCount ?_⟩
    rw [metafile_of_outcomeOf ho] at among
    simp only [countsBytes, hm, List.all_eq_true] at counts
    exact counts size among

theorem Item.Sound.expected {s : Session} {item : Item} (h : item.Sound s) : s.expectsItem item = true := by
  cases item with
  | line text => exact Session.expectsItem_of_not_escapes h.1
  | broken | unreadable | undecodable => rfl

/-- What an item comes to, as far as the driver is prepared for it. -/
def Foreseen : Except Fault (Option Outcome) → Prop
  | .ok none => True
  | .ok (some outcome) => Build.isRenderable outcome.metafile = true
  | .error fault => Build.isBuildFault fault = true

namespace Session

variable {s : Session} {w : Wire}

/-- An outcome is brought by a result. -/
theorem result_of_comes {text : String} {outcome : Outcome} (expected : s.expectsItem (.line text) = true)
    (comes : (s.respond (.line text)).comes = .ok (some outcome)) :
    ∃ message, readMessage text = .ok (message, .str "result") ∧ outcomeOf message = .ok outcome := by
  have effect := effect_eq expected
  rw [comes] at effect
  cases read : readMessage text with
  | error fault => simp [respond, read] at comes
  | ok m =>
    obtain ⟨message, kind⟩ := m
    simp only [Item.effect, read] at effect
    obtain rfl : kind = .str "result" := effectOf_eq_result effect
    refine ⟨message, rfl, ?_⟩
    simp only [respond, read, responseTo] at comes
    cases brought : outcomeOf message with
    | error fault => simp [brought, fitted, Except.map] at comes
    | ok other => simpa [brought, fitted, Except.map] using comes

theorem foreseen_respond {item : Item} (sound : item.Sound s) : Foreseen (s.respond item).comes := by
  cases item with
  | broken text => rfl
  | unreadable | undecodable => exact sound.elim
  | line text =>
    have expected := sound.expected
    cases comes : (s.respond (.line text)).comes with
    | ok outcome =>
      cases outcome with
      | none => trivial
      | some outcome =>
        obtain ⟨message, read, brought⟩ := result_of_comes expected comes
        exact Build.isRenderable_of_sizes (sound.2 message outcome read brought)
    | error fault =>
      obtain ⟨text, errors, rfl⟩ := Fault.course_eq_goesOn (course_of_not_escapes sound.1 comes)
      rfl

theorem Awaited.foreseen {items : List Item} {done : Done Fault Wire Outcome} (ends : s.Awaited w items done)
    (sound : ∀ item ∈ items, item.Sound s) : Build.isForeseen done.result = true := by
  cases ends with
  | exhausted => rfl
  | refused => rfl
  | failed _ comes =>
    have foreseen := foreseen_respond (sound _ List.mem_cons_self)
    rw [comes] at foreseen
    exact foreseen
  | settled _ comes =>
    have foreseen := foreseen_respond (sound _ List.mem_cons_self)
    rw [comes] at foreseen
    exact foreseen

theorem foreseen_awaitResult (sound : ∀ item ∈ w.unread, item.Sound s) :
    Build.isForeseen ((s.awaitResult w.unread).run w).result = true := by
  have course := awaitResult_course (w := w) s rfl
  generalize (s.awaitResult w.unread).run w = done at course
  obtain ⟨before, rest, split, -, done, ends⟩ := course
  have others : ∀ item ∈ rest, item.Sound s := fun item among => sound item (by simp [split, among])
  exact ends.foreseen others

theorem foreseen_start (o : Options) (sound : ∀ item ∈ w.unread, item.Sound s) :
    Build.isForeseen ((s.start o).run w).result = true := by
  by_cases spent : w.writesLeft = some 0
  · rw [run_start_refused o spent]
    rfl
  · rw [run_start_written o spent]
    exact foreseen_awaitResult (w := w.written) sound

end Session

theorem Fault.isBuildFault_seenFrom {fault : Fault} (h : Build.isBuildFault fault = true) (p : Process) :
    Build.isBuildFault (fault.seenFrom p) = true := by
  cases fault with
  | bundler => rfl
  | _ => exact h

/-- A build whose process writes nothing but sound items comes to what the driver is prepared for. -/
theorem Engine.foreseen_build {e : Engine} {job : Job} {r : Running}
    (sound : ∀ script, r.scripts.head? = some script →
      ∀ item ∈ script.items, item.Sound (e.sessionOn job r.tree)) :
    Build.isForeseen ((e.build job).run r).result = true := by
  cases hs : r.scripts with
  | nil =>
    rw [run_build_of_none hs]
    rfl
  | cons script rest =>
    cases hf : script.startFault with
    | some fault =>
      rw [run_build_of_startFault hs hf]
      rfl
    | none =>
      rw [run_build_of_start hs hf]
      have came : Build.isForeseen (e.conversation job r script).result = true :=
        Session.foreseen_start job.options (s := e.sessionOn job (startEffect script r.tree))
          (sound script (by simp [hs]))
      unfold closing
      cases hc : (e.conversation job r script).result with
      | error fault =>
        rw [hc] at came
        exact fault.isBuildFault_seenFrom came _
      | ok outcome =>
        rw [hc] at came
        dsimp only
        split <;> exact came

end Bridge
end BundleForge
