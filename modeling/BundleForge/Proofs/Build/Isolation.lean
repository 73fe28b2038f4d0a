import BundleForge.Proofs.Bridge.Upkeep
import BundleForge.Proofs.Build.Sound
import BundleForge.Proofs.Hardening.Contained
import BundleForge.Proofs.Hardening.Run

/-!
Two runs that differ in one bundler. Main statement: whatever the bundler of one target does below its
output directory, and however it fails, the other targets have the same results, the other bundlers are
sent the same messages, and all files outside that directory end up the same.
-/

namespace BundleForge.Build

theorem isOutgoing_of_isLine {e : Event} (h : isLine e = true) : e.isOutgoing = false := by
  cases e with
  | printed => rfl
  | _ => cases h

/-- What is told of two targets that were dealt with in the same way is the same. -/
theorem Attempt.Tells.unique {b : Builder} {flags : ModeFlags} {a a' : Attempt} {x y : TargetResult}
    (hx : a.Tells b flags x) (hy : a'.Tells b flags y) (target : a.target = a'.target)
    (built : a.built.result = a'.built.result)
    (passed : a.hardens flags = true →
      (b.passOver a.target a.built.state).result = (b.passOver a'.target a'.built.state).result ∧
      (b.passOver a.target a.built.state).state.results =
        (b.passOver a'.target a'.built.state).state.results) : x = y := by
  have names : x.name = y.name := by rw [hx.name, hy.name, target]
  have outcomes : x.outcome = y.outcome ∧ x.error = y.error := by
    rcases hx.exclusive with ⟨o, hr, ho, he⟩ | ⟨fault, hr, ho, he⟩ <;>
      rcases hy.exclusive with ⟨o', hr', ho', he'⟩ | ⟨fault', hr', ho', he'⟩ <;>
      rw [← built, hr] at hr'
    · obtain rfl := Except.ok.inj hr'
      exact ⟨ho.trans ho'.symm, he.trans he'.symm⟩
    · cases hr'
    · cases hr'
    · obtain rfl := Except.error.inj hr'
      exact ⟨ho.trans ho'.symm, he.trans he'.symm⟩
  have reports : x.report = y.report := by
    refine Option.ext fun text => ?_
    rw [hx.report, hy.report, outcomes.1]
  have same : a.hardens flags = a'.hardens flags := by rw [hardens, hardens, target, built]
  have hardenings : x.hardening = y.hardening ∧ x.hardeningError = y.hardeningError := by
    cases h : a.hardens flags with
    | false =>
      obtain ⟨hardening, error, -⟩ := hx.idle h
      obtain ⟨hardening', error', -⟩ := hy.idle (same ▸ h)
      exact ⟨hardening.trans hardening'.symm, error.trans error'.symm⟩
    | true =>
      obtain ⟨hardening, errors, -⟩ := hx.hardened h
      obtain ⟨hardening', errors', -⟩ := hy.hardened (same ▸ h)
      obtain ⟨ended, results⟩ := passed h
      refine ⟨hardening.trans (results.trans hardening'.symm), Option.ext fun text => ?_⟩
      rw [errors, errors', ended]
  cases x
  cases y
  exact TargetResult.mk.injEq .. ▸ ⟨names, outcomes.1, outcomes.2, reports, hardenings.1, hardenings.2⟩

/-- Two lists that may differ at one place, with so many items before it and after it. -/
def SameBut {α : Type} (earlier later : Nat) (xs ys : List α) : Prop :=
  ∃ before x y after, before.length = earlier ∧ after.length = later ∧
    xs = before ++ x :: after ∧ ys = before ++ y :: after

/-- Two runs over targets that come to the same for all of them but one: the results, the messages that
the bundlers are sent, and the files outside the place of the one. -/
structure Isolated (area : List String) (earlier later : Nat)
    (first second : Done Crash Bridge.Running (List TargetResult)) : Prop where
  results : ∃ xs ys, first.result = .ok xs ∧ second.result = .ok ys ∧ SameBut earlier later xs ys
  sent : SameBut earlier later (conversations first.events) (conversations second.events)
  files : ∀ place, ¬ area <+: place →
    first.state.tree.top.contentAt place = second.state.tree.top.contentAt place

/-- A target whose output a run hardens, once it is built. -/
def isHardened (flags : ModeFlags) (t : Target) : Bool := flags.production && t.harden

theorem Attempt.isHardened_of_hardens {flags : ModeFlags} {a : Attempt} (h : a.hardens flags = true) :
    isHardened flags a.target = true := by
  unfold hardens at h
  exact ((Bool.and_eq_true ..).mp h).1

namespace Builder

/-- A builder whose bundlers are processes of an engine and whose hardener makes the same of a source
each time, for runs that do not watch. -/
structure Runs (b : Builder) (e : Bridge.Engine) (o : Hardening.Obfuscator) (flags : ModeFlags) : Prop where
  bundle : b.bundle = e.build
  hardener : b.hardener = o.hardener
  steady : ∀ earlier later source, o.tool earlier source = o.tool later source
  once : flags.watch = false

/-- A process that a target can be given: it writes only below the output directory of the target, and
nothing that a build goes amiss over. -/
structure Suits (b : Builder) (e : Bridge.Engine) (flags : ModeFlags) (t : Target) (script : Bridge.Script) :
    Prop where
  below : script.StaysBelow (b.outputDirectory t).place
  sound : ∀ item ∈ script.items, item.Sound (e.sessionOn (b.job t flags) { top := .dir [] })

section

variable {b : Builder} {e : Bridge.Engine} {o : Hardening.Obfuscator} {flags : ModeFlags} {t : Target}
  {r r' : Bridge.Running} {area : List String} {turns : List (List String)}

theorem Runs.built_eq (runs : b.Runs e o flags) (t : Target) (r : Bridge.Running) :
    b.built flags t r = (e.build (b.job t flags)).run r := by
  rw [built, runs.bundle]

theorem Runs.steady_pass (runs : b.Runs e o flags) (t : Target) : (b.pass t).hardener.Steady := by
  intro earlier later source
  simp only [pass, runs.hardener, Hardening.Obfuscator.hardener, Hardening.Obfuscator.obfuscate,
    runs.steady earlier later]

theorem Runs.unstarted_job (runs : b.Runs e o flags) (t : Target) :
    ∀ rebuild, ∀ event ∈ (b.job t flags).onRebuild rebuild, event.isStart = false := by
  simp [job, runs.once]

/-- The next process suits a target, if another is to be had. -/
abbrev Suited (b : Builder) (e : Bridge.Engine) (flags : ModeFlags) (t : Target)
    (next : Option Bridge.Script) : Prop :=
  ∀ script, next = some script → b.Suits e flags t script

theorem foreseen_built (runs : b.Runs e o flags) (suited : b.Suited e flags t r.scripts.head?) :
    isForeseen (b.built flags t r).result = true := by
  rw [runs.built_eq]
  exact Bridge.Engine.foreseen_build fun script hs item hi => (suited script hs).sound item hi

/-- No hardening pass is asked for over a directory that none can be. -/
abbrev Clean (b : Builder) (flags : ModeFlags) (t : Target) : Prop :=
  isHardened flags t = true → Tree.hasNull (b.outputDirectory t) = false

/-- The output directory of a target, if it is hardened, is found by way of these places. -/
abbrev Turns (b : Builder) (flags : ModeFlags) (t : Target) (turns : List (List String)) : Prop :=
  isHardened flags t = true → ∀ w ∈ (b.outputDirectory t).turns, w ∈ turns

theorem told (runs : b.Runs e o flags) (suited : b.Suited e flags t r.scripts.head?) (clean : b.Clean flags t) :
    ∃ result, ((b.runTarget flags t).run r).result = .ok result ∧
      (b.attempt flags t r).Tells b flags result := by
  refine attempt_tells (foreseen_built runs suited) ?_ ?_
  · rw [runs.hardener]
    exact o.hardener_fails
  · rw [Attempt.spoils, Bool.and_eq_false_iff]
    cases h : (b.attempt flags t r).hardens flags with
    | false => exact .inl rfl
    | true => exact .inr (clean (Attempt.isHardened_of_hardens h))

theorem target_attempt (b : Builder) (flags : ModeFlags) (t : Target) (r : Bridge.Running) :
    (b.attempt flags t r).target = t := rfl

theorem built_attempt (b : Builder) (flags : ModeFlags) (t : Target) (r : Bridge.Running) :
    (b.attempt flags t r).built = b.built flags t r := rfl

/-- What follows the call of the bundler changes no more than the tree, and that as the pass does. -/
theorem after_cases {result : TargetResult} (tells : (b.attempt flags t r).Tells b flags result) :
    (b.attempt flags t r).after.scripts = (b.built flags t r).state.scripts ∧
    (b.attempt flags t r).after.tree =
      if (b.attempt flags t r).hardens flags then (b.passOver t (b.built flags t r).state).state.tree
      else (b.built flags t r).state.tree := by
  cases h : (b.attempt flags t r).hardens flags with
  | false =>
    obtain ⟨-, -, after, -⟩ := tells.idle h
    simp [after, built_attempt]
  | true =>
    obtain ⟨-, -, after, -⟩ := tells.hardened h
    simp [after, built_attempt, target_attempt]

/-- A target changes nothing outside its output directory, and uses up the next process. -/
theorem after_confined (runs : b.Runs e o flags) (suited : b.Suited e flags t r.scripts.head?)
    (clean : b.Clean flags t) (plain : r.tree.top.Plain) :
    Tree.Spares (b.outputDirectory t).place r.tree (b.attempt flags t r).after.tree ∧
      (b.attempt flags t r).after.scripts = r.scripts.tail := by
  obtain ⟨result, -, tells⟩ := told runs suited clean
  obtain ⟨scripts, tree⟩ := after_cases tells
  obtain ⟨built, tail⟩ := Bridge.Engine.run_build_state e (b.job t flags) r
  rw [← runs.built_eq] at built tail
  have within := Bridge.Engine.within_nextEffect fun script hs => (suited script hs).below
  have first := within.confined r.tree plain
  rw [← built] at first
  refine ⟨?_, scripts.trans tail⟩
  rw [tree]
  split
  · exact first.trans (Hardening.Pass.run_confined (runs.steady_pass t) _ first.plain' _)
  · exact first

theorem quiet_trail (runs : b.Runs e o flags) {result : TargetResult}
    (tells : (b.attempt flags t r).Tells b flags result) :
    ∀ event ∈ (b.attempt flags t r).trail, event.isOutgoing = false := by
  cases h : (b.attempt flags t r).hardens flags with
  | false =>
    obtain ⟨-, -, -, lines⟩ := tells.idle h
    exact fun event he => isOutgoing_of_isLine (lines event he)
  | true =>
    obtain ⟨-, -, -, lines, lines', trail, hl⟩ := tells.hardened h
    have quiet : ∀ source, ((b.pass t).hardener.event source).isOutgoing = false := by
      simp [pass, runs.hardener, Hardening.Obfuscator.hardener, Hardening.Obfuscator.event, Event.isOutgoing]
    have passed := Hardening.Pass.quiet_walk quiet Tree.pathLimit (b.outputDirectory t)
    intro event he
    rw [trail] at he
    rcases List.mem_append.mp he with he | he
    · rcases List.mem_append.mp he with he | he
      · exact isOutgoing_of_isLine (hl event (by simp [he]))
      · exact passed _ event he
    · exact isOutgoing_of_isLine (hl event (by simp [he]))

/-- For a target one bundler is started, and the messages are sent to that one. -/
theorem talks_attempt (runs : b.Runs e o flags) {result : TargetResult}
    (tells : (b.attempt flags t r).Tells b flags result) (rest : List Event) :
    talks ((b.attempt flags t r).events ++ rest) =
      ([], (e.messages (b.job t flags) r ++ (talks rest).1) :: (talks rest).2) := by
  have lead : ∀ event ∈ (b.attempt flags t r).lead, event.isOutgoing = false :=
    fun event he => isOutgoing_of_isLine ((attempt_calls b flags t r).lead event he)
  have built : (b.attempt flags t r).built = (e.build (b.job t flags)).run r := runs.built_eq t r
  rw [Attempt.events, List.append_assoc, List.append_assoc, talks_append_of_quiet lead, built,
    Bridge.Engine.talks_build (runs.unstarted_job t), talks_append_of_quiet (quiet_trail runs tells)]

theorem built_respects (runs : b.Runs e o flags) (suited : b.Suited e flags t r.scripts.head?)
    (apart : Apart area (b.outputDirectory t).place) (matched : Tree.Matched area turns r.tree r'.tree)
    (same : r.scripts.head? = r'.scripts.head?) :
    (b.built flags t r).result = (b.built flags t r').result ∧
      e.messages (b.job t flags) r = e.messages (b.job t flags) r' ∧
      Tree.Matched area turns (b.built flags t r).state.tree (b.built flags t r').state.tree := by
  have expected : ∀ script, r.scripts.head? = some script →
      ∀ item ∈ script.items, (e.sessionOn (b.job t flags) r.tree).expectsItem item = true :=
    fun script hs item hi => ((suited script hs).sound item hi).expected
  obtain ⟨results, messages⟩ := Bridge.Engine.build_eq same expected
  have within := Bridge.Engine.within_nextEffect fun script hs => (suited script hs).below
  rw [runs.built_eq, runs.built_eq]
  refine ⟨results, messages, ?_⟩
  rw [(Bridge.Engine.run_build_state e _ r).1, (Bridge.Engine.run_build_state e _ r').1, ← same]
  exact within.matched apart matched

/-- What is done for a target does not depend on the tree outside its output directory, nor on the
processes that are there for other targets. -/
theorem target_respects (runs : b.Runs e o flags) (suited : b.Suited e flags t r.scripts.head?)
    (clean : b.Clean flags t) (among : b.Turns flags t turns) (apart : Apart area (b.outputDirectory t).place)
    (matched : Tree.Matched area turns r.tree r'.tree) (same : r.scripts.head? = r'.scripts.head?) :
    ∃ x, (((b.runTarget flags t).run r).result = .ok x ∧ (b.attempt flags t r).Tells b flags x) ∧
      (((b.runTarget flags t).run r').result = .ok x ∧ (b.attempt flags t r').Tells b flags x) ∧
      Tree.Matched area turns (b.attempt flags t r).after.tree (b.attempt flags t r').after.tree := by
  obtain ⟨results, -, built⟩ := built_respects runs suited apart matched same
  obtain ⟨x, hx, tells⟩ := told runs suited clean
  obtain ⟨y, hy, tells'⟩ := told runs (fun script hs => suited script (same.trans hs)) clean
  have passed (h : (b.attempt flags t r).hardens flags = true) :=
    Hardening.Pass.run_respects (runs.steady_pass t) (among (Attempt.isHardened_of_hardens h)) apart built
      (b.built flags t r).state.hardenings (b.built flags t r').state.hardenings
  obtain rfl : x = y := by
    refine tells.unique tells' rfl results fun h => ?_
    obtain ⟨ended, hardened, -⟩ := passed h
    exact ⟨by simpa only [target_attempt, built_attempt, passOver] using ended,
      by simpa only [target_attempt, built_attempt, passOver] using hardened⟩
  refine ⟨x, ⟨hx, tells⟩, ⟨hy, tells'⟩, ?_⟩
  have hardens : (b.attempt flags t r).hardens flags = (b.attempt flags t r').hardens flags := by
    simp only [Attempt.hardens, attempt, results]
  rw [(after_cases tells).2, (after_cases tells').2, ← hardens]
  split
  · rename_i h
    exact (passed h).2.2
  · exact built

end

/-- Two runs that came to their ends: the results, the messages to each bundler, and trees that are alike
but for a place. -/
structure Paired (area : List String) (xs ys : List TargetResult) (told told' : List (List Json))
    (first second : Done Crash Bridge.Running (List TargetResult)) : Prop where
  result : first.result = .ok xs
  result' : second.result = .ok ys
  sent : talks first.events = ([], told)
  sent' : talks second.events = ([], told')
  alike : Tree.Alike area first.state.tree second.state.tree

section

variable {b : Builder} {e : Bridge.Engine} {o : Hardening.Obfuscator} {flags : ModeFlags} {t : Target}
  {r r' : Bridge.Running} {area : List String} {turns : List (List String)} {rest : List Target}

/-- Both runs deal with a target first. -/
theorem Paired.cons (runs : b.Runs e o flags) {x y : TargetResult}
    (first : ((b.runTarget flags t).run r).result = .ok x ∧ (b.attempt flags t r).Tells b flags x)
    (second : ((b.runTarget flags t).run r').result = .ok y ∧ (b.attempt flags t r').Tells b flags y)
    {xs ys : List TargetResult} {told told' : List (List Json)}
    (later : Paired area xs ys told told' ((b.run flags rest).run (b.attempt flags t r).after)
      ((b.run flags rest).run (b.attempt flags t r').after)) :
    Paired area (x :: xs) (y :: ys) (e.messages (b.job t flags) r :: told)
      (e.messages (b.job t flags) r' :: told') ((b.run flags (t :: rest)).run r)
      ((b.run flags (t :: rest)).run r') := by
  rw [run_cons_of_told first.1, run_cons_of_told second.1]
  refine ⟨?_, ?_, ?_, ?_, later.alike⟩
  · simp [later.result, Except.map]
  · simp [later.result', Except.map]
  · rw [talks_attempt runs first.2, later.sent]
    simp
  · rw [talks_attempt runs second.2, later.sent']
    simp

theorem suited_of_zip (suits : ∀ pair ∈ (t :: rest).zip r.scripts, b.Suits e flags pair.1 pair.2) :
    b.Suited e flags t r.scripts.head? ∧ ∀ pair ∈ rest.zip r.scripts.tail, b.Suits e flags pair.1 pair.2 := by
  unfold Suited
  cases hs : r.scripts with
  | nil => simp
  | cons script scripts =>
    rw [hs] at suits
    exact ⟨fun other ho => suits (t, other) (by simp_all),
      fun pair hp => suits pair (List.mem_cons_of_mem _ hp)⟩

/-- Runs from trees that are matched for a place, and with the same processes, come to the same for
targets that are built somewhere else. -/
theorem run_alike (runs : b.Runs e o flags) {targets : List Target} (clean : ∀ t ∈ targets, b.Clean flags t)
    (among : ∀ t ∈ targets, b.Turns flags t turns)
    (apart : ∀ t ∈ targets, Apart area (b.outputDirectory t).place)
    (suits : ∀ pair ∈ targets.zip r.scripts, b.Suits e flags pair.1 pair.2)
    (matched : Tree.Matched area turns r.tree r'.tree) (same : r.scripts = r'.scripts) :
    ∃ xs told, xs.length = targets.length ∧ told.length = targets.length ∧
      Paired area xs xs told told ((b.run flags targets).run r) ((b.run flags targets).run r') := by
  induction targets generalizing r r' with
  | nil => exact ⟨[], [], rfl, rfl, rfl, rfl, rfl, rfl, matched.toAlike⟩
  | cons t rest ih =>
    have clean' := clean t (by simp)
    have apart' := apart t (by simp)
    obtain ⟨suited, others⟩ := suited_of_zip suits
    have heads : r.scripts.head? = r'.scripts.head? := by rw [same]
    obtain ⟨-, scripts⟩ := after_confined runs suited clean' matched.plain
    obtain ⟨-, scripts'⟩ := after_confined runs (heads ▸ suited) clean' matched.plain'
    obtain ⟨-, messages, -⟩ := built_respects runs suited apart' matched heads
    obtain ⟨x, first, second, after⟩ :=
      target_respects runs suited clean' (among t (by simp)) apart' matched heads
    obtain ⟨xs, sent, lx, ls, later⟩ := ih (fun t ht => clean t (by simp [ht]))
      (fun t ht => among t (by simp [ht])) (fun t ht => apart t (by simp [ht])) (by rwa [scripts]) after
      (by rw [scripts, scripts', same])
    have paired := later.cons runs first second
    rw [← messages] at paired
    exact ⟨x :: xs, _ :: sent, by simp [lx], by simp [ls], paired⟩

/-- Runs that differ in the process of one target come to the same for all the others. -/
theorem run_paired (runs : b.Runs e o flags) {earlier later : List Target} {target : Target}
    {before after : List Bridge.Script} {one other : Bridge.Script} (aligned : before.length = earlier.length)
    (clean : ∀ t ∈ earlier ++ target :: later, b.Clean flags t)
    (among : ∀ t ∈ earlier ++ later, b.Turns flags t turns)
    (apart : ∀ t ∈ earlier ++ later, Apart (b.outputDirectory target).place (b.outputDirectory t).place)
    (suits : ∀ pair ∈ (earlier ++ target :: later).zip (before ++ one :: after),
      b.Suits e flags pair.1 pair.2)
    (suits' : b.Suits e flags target other) (hr : r.scripts = before ++ one :: after)
    (hr' : r'.scripts = before ++ other :: after)
    (matched : Tree.Matched (b.outputDirectory target).place turns r.tree r'.tree) :
    ∃ xs x y zs sent m n sent', xs.length = earlier.length ∧ zs.length = later.length ∧
      sent.length = earlier.length ∧ sent'.length = later.length ∧
      Paired (b.outputDirectory target).place (xs ++ x :: zs) (xs ++ y :: zs) (sent ++ m :: sent')
        (sent ++ n :: sent') ((b.run flags (earlier ++ target :: later)).run r)
        ((b.run flags (earlier ++ target :: later)).run r') := by
  induction earlier generalizing before r r' with
  | nil =>
    obtain rfl := List.length_eq_zero_iff.mp aligned
    have clean' := clean target (by simp)
    rw [List.nil_append, List.nil_append, ← List.nil_append (one :: after), ← hr] at suits
    obtain ⟨suited, others⟩ := suited_of_zip suits
    have suited' : b.Suited e flags target r'.scripts.head? := by
      simp [Suited, hr', suits']
    obtain ⟨x, hx⟩ := told runs suited clean'
    obtain ⟨y, hy⟩ := told runs suited' clean'
    obtain ⟨first, scripts⟩ := after_confined runs suited clean' matched.plain
    obtain ⟨second, scripts'⟩ := after_confined runs suited' clean' matched.plain'
    obtain ⟨zs, sent, lz, ls, paired⟩ := run_alike runs (fun t (ht : t ∈ later) => clean t (by simp [ht]))
      (fun t ht => among t (by simp [ht])) (fun t ht => apart t (by simp [ht])) (by rwa [scripts])
      (matched.spared first second) (by rw [scripts, scripts', hr, hr']; rfl)
    exact ⟨[], x, y, zs, [], _, _, sent, rfl, lz, rfl, ls, paired.cons runs hx hy⟩
  | cons t earlier ih =>
    obtain ⟨script, before, rfl⟩ := List.exists_cons_of_length_eq_add_one aligned
    have clean' := clean t (by simp)
    have apart' := apart t (by simp)
    rw [← hr] at suits
    obtain ⟨suited, others⟩ := suited_of_zip suits
    have same : r.scripts.head? = r'.scripts.head? := by rw [hr, hr']; rfl
    obtain ⟨-, scripts⟩ := after_confined runs suited clean' matched.plain
    obtain ⟨-, scripts'⟩ := after_confined runs (same ▸ suited) clean' matched.plain'
    obtain ⟨-, messages, -⟩ := built_respects runs suited apart' matched same
    obtain ⟨x, first, second, matched'⟩ :=
      target_respects runs suited clean' (among t (by simp)) apart' matched same
    obtain ⟨xs, z, w, zs, sent, m, n, sent', lx, lz, ls, ls', paired⟩ :=
      ih (Nat.succ.inj aligned : before.length = earlier.length)
        (fun x hx => clean x (List.mem_cons_of_mem t hx)) (fun x hx => among x (List.mem_cons_of_mem t hx))
        (fun x hx => apart x (List.mem_cons_of_mem t hx)) (by rwa [hr] at others)
        (by rw [scripts, hr]; rfl) (by rw [scripts', hr']; rfl) matched'
    have both := paired.cons runs first second
    rw [← messages] at both
    exact ⟨x :: xs, z, w, zs, _ :: sent, m, n, sent', by simp [lx], lz, by simp [ls], ls', both⟩

end

/-- A builder with the bundlers of an engine and an obfuscator that puts something in front; the output
goes beside the workspace. -/
def projectBuilder : Builder where
  bundle := Bridge.Engine.serverEngine.build
  hardener := Hardening.Pass.clientObfuscator.hardener
  level := .info
  workspace := .ofString "/app/site"
  outDir := .ofString "/app/site/../dist"

/-- A bundler that writes one script and tells of its size. -/
def scriptWriter (place : String) : Bridge.Script where
  files := [(.ofString place, .file [0x78])]
  items := [.line
    "\x7b\"type\":\"result\",\"metafile\":\x7b\"outputs\":\x7b\"a.js\":\x7b\"bytes\":1\x7d\x7d\x7d\x7d"]

/-- A bundler that asks for an import, goes on with no proper message, and hangs. -/
def failingWriter : Bridge.Script where
  files := [(.ofString "/app/dist/server/b.js", .file [0x79])]
  items := [
    .line "\x7b\"type\":\"resolve\",\"id\":1,\"path\":\"uuid\",\"kind\":\"import-statement\",\"located\":\"uuid\"\x7d",
    .line "no message"]
  hangs := true

/-- A bundler that takes away what is there and does not start. -/
def unstartable : Bridge.Script where
  removed := [.ofString "/app/dist/server"]
  startFault := some (.refused .noRoom none)

theorem runs_projectBuilder (production : Bool) :
    projectBuilder.Runs Bridge.Engine.serverEngine Hardening.Pass.clientObfuscator ⟨production, false⟩ :=
  ⟨rfl, rfl, fun _ _ _ => rfl, rfl⟩

/-- A process that writes one file and only sound items suits a target, if the file is in its directory. -/
theorem suits_of_file {b : Builder} {e : Bridge.Engine} {flags : ModeFlags} {t : Target}
    {script : Bridge.Script} {p : Path} {content : List UInt8} (files : script.files = [(p, .file content)])
    (removed : script.removed = [])
    (inside : (p.parts.all isName && (b.outputDirectory t).place.isPrefixOf p.parts) = true)
    (sound : script.items.all (·.isSound (e.sessionOn (b.job t flags) { top := .dir [] })) = true) :
    b.Suits e flags t script := by
  simp only [Bool.and_eq_true, List.all_eq_true, List.isPrefixOf_iff_prefix] at inside sound
  refine ⟨⟨?_, by simp [removed]⟩, fun item hi => Bridge.Item.sound_of_isSound (sound item hi)⟩
  rw [files]
  intro entry he
  obtain rfl := List.mem_singleton.mp he
  exact ⟨inside.1, inside.2, Node.plain_file content⟩

end Builder
end BundleForge.Build
