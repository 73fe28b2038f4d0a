import BundleForge.Proofs.Bridge.Replies

/-!
What a line of the bundler can break a conversation off with. Not every line that is no proper message
ends in an error of the bundler: a member of a kind that cannot be used, a value too deep inside others
and a number with too many digits are faults of their own. Main statement: exactly which sequences of
lines end a build, or a listener, in such a way.
-/

namespace BundleForge.Bridge.Session

/-- A line that a conversation breaks off at with no error of the bundler: it cannot be read although it
is well formed, or a member of its message does not fit the use made of it. -/
def escapes (s : Session) (line : String) : Bool :=
  match readMessage line with
  | .ok (message, kind) => !s.expects message kind
  | .error (.malformed _) => false
  | .error .tooDeep | .error (.integer _) => true

/-- A line that is no message because of a number with too many digits. -/
def overlong (line : String) : Bool :=
  match readMessage line with
  | .error (.integer _) => true
  | _ => false

/-- A line that a listener does not survive in good order. It takes a number with too many digits for
the end of the conversation. -/
def loses (s : Session) (line : String) : Bool := s.escapes line && !overlong line

/-- A line after which no result is awaited any more. -/
def decides (s : Session) (line : String) : Bool := s.escapes line || (Item.line line).settles

variable {s : Session} {w : Wire} {message : List (String × Json)} {kind : Json} {line : String}
  {lines : List String}

/-- A message whose members do not fit the use made of them breaks the conversation off, unless it is
the policy's to decide. -/
theorem responseTo_misfits (bare : s.policy = none) (h : s.expects message kind = false) :
    ∃ misfit, (s.responseTo message kind).comes = .error (.misfit misfit) ∧ misfit.sort ≠ .value := by
  unfold responseTo
  split
  · simp [expects, bare] at h
  · simp [expects] at h
  · have fits : Fits (s.expects message (.str "rebuild")) _ := fits_rebuildOf message
    rw [h] at fits
    obtain ⟨misfit, hr, sort⟩ := fits
    rw [hr]
    exact ⟨misfit, rfl, sort⟩
  · have fits : Fits (s.expects message (.str "result")) _ := fits_outcomeOf message
    rw [h] at fits
    obtain ⟨misfit, ho, sort⟩ := fits
    rw [ho]
    exact ⟨misfit, rfl, sort⟩
  · have fits : Fits (s.expects message (.str "error")) _ := fits_errorOf message
    rw [h] at fits
    obtain ⟨misfit, he, sort⟩ := fits
    rw [he]
    exact ⟨misfit, rfl, sort⟩
  · unfold expects at h
    split at h <;> simp_all

theorem respond_of_escapes (bare : s.policy = none) (h : s.escapes line = true) :
    ∃ fault, (s.respond (.line line)).comes = .error fault ∧
      fault.course = if s.loses line then .lost else .ends := by
  rw [loses, h, Bool.true_and]
  cases hm : readMessage line with
  | ok m =>
    obtain ⟨message, kind⟩ := m
    have unfit : s.expects message kind = false := by simpa [escapes, hm] using h
    obtain ⟨misfit, comes, sort⟩ := responseTo_misfits bare unfit
    refine ⟨.misfit misfit, ?_, ?_⟩
    · simpa only [respond, hm] using comes
    · simp [Fault.course, sort, overlong, hm]
  | error fault =>
    cases fault with
    | malformed text => simp [escapes, hm] at h
    | tooDeep =>
      refine ⟨.misfit .tooDeep, by simp [respond, hm, Fault.ofLine], ?_⟩
      simp [overlong, hm, Fault.course, Misfit.sort]
    | integer fault =>
      refine ⟨.integer fault, by simp [respond, hm, Fault.ofLine], ?_⟩
      simp [overlong, hm, Fault.course]

theorem expectsItem_of_not_escapes (h : s.escapes line = false) : s.expectsItem (.line line) = true := by
  cases hm : readMessage line with
  | ok m =>
    have fits : s.expects m.1 m.2 = true := by simpa [escapes, hm] using h
    simpa [expectsItem, Item.message?, hm, Except.toOption] using fits
  | error fault => simp [expectsItem, Item.message?, hm, Except.toOption]

theorem not_breaks_of_not_escapes (h : s.escapes line = false) : (Item.line line).breaks = false := by
  cases hm : readMessage line with
  | ok m => simp [Item.breaks, Item.effect, hm, effectOf_ne_breaks]
  | error fault =>
    cases fault with
    | malformed text => simp [Item.breaks, Item.effect, hm]
    | tooDeep => simp [escapes, hm] at h
    | integer fault => simp [escapes, hm] at h

theorem course_of_not_escapes {fault : Fault} (h : s.escapes line = false)
    (comes : (s.respond (.line line)).comes = .error fault) : fault.course = .goesOn := by
  by_contra course
  have breaks := breaks_of_fault (expectsItem_of_not_escapes h) comes course
  rw [not_breaks_of_not_escapes h] at breaks
  cases breaks

/-- A listener goes on after the lines that do not escape. -/
theorem survived_iff (bare : s.policy = none) :
    (s.respond (.line line)).Survived ↔ s.escapes line = false := by
  refine ⟨fun survived => ?_, fun stays fault comes => course_of_not_escapes stays comes⟩
  by_contra escaped
  rw [Bool.not_eq_false] at escaped
  obtain ⟨fault, comes, course⟩ := respond_of_escapes bare escaped
  rw [survived fault comes] at course
  split at course <;> cases course

/-- The wait for a result is over with the lines that come to something. -/
theorem decides_iff (bare : s.policy = none) :
    s.decides line = true ↔ (s.respond (.line line)).comes ≠ .ok none := by
  cases escaped : s.escapes line with
  | true =>
    obtain ⟨fault, comes, -⟩ := respond_of_escapes bare escaped
    simp [decides, escaped, comes]
  | false =>
    have expected := expectsItem_of_not_escapes escaped
    cases comes : (s.respond (.line line)).comes with
    | error fault => simp [decides, settles_of_fault expected comes]
    | ok outcome =>
      cases outcome with
      | none => simp [decides, escaped, settles_of_passes expected comes]
      | some outcome => simp [decides, settles_of_outcome expected comes]

/-- A fault that a listener does not go on after comes of a line that escapes, and its course tells whether
the listener is lost. -/
theorem course_of_comes {fault : Fault} (bare : s.policy = none)
    (comes : (s.respond (.line line)).comes = .error fault) (course : fault.course ≠ .goesOn) :
    s.escapes line = true ∧ fault.course = if s.loses line then .lost else .ends := by
  have escaped : s.escapes line = true := by
    by_contra stays
    exact course ((survived_iff bare).mpr (Bool.eq_false_iff.mpr stays) fault comes)
  obtain ⟨other, same, course⟩ := respond_of_escapes bare escaped
  obtain rfl : fault = other := Except.error.inj (comes.symm.trans same)
  exact ⟨escaped, course⟩

/-- What the bundler may tell a build: an outcome, or an error of its own. -/
def Told (result : Except Fault Outcome) : Prop :=
  (∃ outcome, result = .ok outcome) ∨ ∃ text errors, result = .error (.bundler text errors)

theorem told_ok (outcome : Outcome) : Told (.ok outcome) := .inl ⟨outcome, rfl⟩

theorem told_error_iff {fault : Fault} : Told (.error fault) ↔ fault.course = .goesOn := by
  constructor
  · rintro (⟨outcome, same⟩ | ⟨text, errors, same⟩)
    · cases same
    · obtain rfl := Except.error.inj same
      rfl
  · intro course
    obtain ⟨text, errors, rfl⟩ := Fault.course_eq_goesOn course
    exact .inr ⟨text, errors, rfl⟩

/-- Where no write fails, the wait for a result is told of one exactly when the line that decides does not
escape. -/
theorem Awaited.told_iff {done : Done Fault Wire Outcome} (bare : s.policy = none)
    (ends : s.Awaited w (lines.map .line) done) (writable : w.writesLeft = none) :
    Told done.result ↔ ∀ line, lines.find? s.decides = some line → s.escapes line = false := by
  generalize same : lines.map Item.line = items at ends
  cases ends with
  | exhausted =>
    obtain rfl : lines = [] := by simpa using same
    simp [told_error_iff, Fault.course]
  | refused refused => simp [refused.2] at writable
  | @failed item rest fault _ comes =>
    obtain ⟨line, others, rfl, rfl, rfl⟩ := List.map_eq_cons_iff.mp same
    rw [List.find?_cons_of_pos ((decides_iff bare).mpr (by simp [comes])), told_error_iff]
    have survived : (s.respond (.line line)).Survived ↔ fault.course = .goesOn := by
      simp [Response.Survived, comes]
    simp [← survived, survived_iff bare]
  | @settled item rest outcome _ comes =>
    obtain ⟨line, others, rfl, rfl, rfl⟩ := List.map_eq_cons_iff.mp same
    rw [List.find?_cons_of_pos ((decides_iff bare).mpr (by simp [comes]))]
    have survived : (s.respond (.line line)).Survived := by simp [Response.Survived, comes]
    simpa [told_ok] using (survived_iff bare).mp survived

/-- Where no write fails, a listener comes back exactly when it is not lost at a line that escapes. -/
theorem Listened.returns_iff {done : Done Fault Wire Unit} (bare : s.policy = none)
    (ends : s.Listened w (lines.map .line) done) (writable : w.writesLeft = none) :
    done.result = .ok () ↔ ∀ line, lines.find? s.escapes = some line → s.loses line = false := by
  generalize same : lines.map Item.line = items at ends
  cases ends with
  | exhausted =>
    obtain rfl : lines = [] := by simpa using same
    simp
  | refused refused => simp [refused.2] at writable
  | @ended item rest fault _ comes course =>
    obtain ⟨line, others, rfl, rfl, rfl⟩ := List.map_eq_cons_iff.mp same
    obtain ⟨escaped, lost⟩ := course_of_comes bare comes (by simp [course])
    rw [List.find?_cons_of_pos escaped]
    simpa [course] using lost
  | @lost item rest fault _ comes course =>
    obtain ⟨line, others, rfl, rfl, rfl⟩ := List.map_eq_cons_iff.mp same
    obtain ⟨escaped, lost⟩ := course_of_comes bare comes (by simp [course])
    rw [List.find?_cons_of_pos escaped]
    simpa [course] using lost

/-- A session that passes no line of a sort ends where the first of them is still to come. -/
theorem Course.atFirst {α : Type} {goes : Response → Prop}
    {Ends : Wire → List Item → Done Fault Wire α → Prop} {done : Done Fault Wire α} {sort : String → Bool}
    (course : s.Course goes Ends w (lines.map .line) done)
    (passes : ∀ {line}, goes (s.respond (.line line)) → sort line = false) (writable : w.writesLeft = none) :
    ∃ (others : List String) (w' : Wire) (done' : Done Fault Wire α),
      Ends w' (others.map .line) done' ∧ w'.writesLeft = none ∧ done.result = done'.result ∧
        lines.find? sort = others.find? sort := by
  generalize same : lines.map Item.line = items at course
  obtain ⟨before, rest, rfl, passed, done, ends⟩ := course
  obtain ⟨first, others, rfl, rfl, rfl⟩ := List.map_eq_append_iff.mp same
  have goOn : ∀ line ∈ first, ¬ sort line = true := fun line among =>
    Bool.eq_false_iff.mp (passes (passed.went (.line line) (List.mem_map_of_mem among)))
  refine ⟨others, _, done, ends, by simp [past, writable], rfl, ?_⟩
  rw [List.find?_append, List.find?_eq_none.mpr goOn, Option.none_or]

theorem told_awaitResult_iff (bare : s.policy = none) (lines : List String)
    (writable : w.writesLeft = none) :
    Told ((s.awaitResult (lines.map .line)).run w).result ↔
      ∀ line, lines.find? s.decides = some line → s.escapes line = false := by
  -- what the wire has unread is not looked at
  have same : ((s.awaitResult (lines.map .line)).run w).result =
      ((s.awaitResult (lines.map .line)).run { w with unread := lines.map .line }).result := by
    cases lines <;> rfl
  have course := awaitResult_course (w := { w with unread := lines.map .line }) s rfl
  have passes {line : String} (comes : (s.respond (.line line)).comes = .ok none) :
      s.decides line = false := by
    rwa [← Bool.not_eq_true, decides_iff bare, not_not]
  obtain ⟨others, w', done, ends, unlimited, result, first⟩ := course.atFirst passes writable
  rw [same, result, first]
  exact ends.told_iff bare unlimited

theorem returns_listenTo_iff (bare : s.policy = none) (lines : List String)
    (writable : w.writesLeft = none) :
    ((s.listenTo (lines.map .line)).run w).result = .ok () ↔
      ∀ line, lines.find? s.escapes = some line → s.loses line = false := by
  have same : ((s.listenTo (lines.map .line)).run w).result =
      ((s.listenTo (lines.map .line)).run { w with unread := lines.map .line }).result := by
    cases lines <;> rfl
  have course := listenTo_course (w := { w with unread := lines.map .line }) s rfl
  obtain ⟨others, w', done, ends, unlimited, result, first⟩ := course.atFirst (survived_iff bare).mp writable
  rw [same, result, first]
  exact ends.returns_iff bare unlimited

end BundleForge.Bridge.Session
