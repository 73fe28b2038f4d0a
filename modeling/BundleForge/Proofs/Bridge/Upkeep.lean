import BundleForge.Proofs.Bridge.Build

/-!
The processes of an engine over any course of builds, waits and closings. Main statement: a process
that was started and has not ended is held by the watch session of a build that came to an outcome; the
closing leaves none.
-/

namespace BundleForge.Bridge

namespace Running

/-- A process that was started and is not known to have ended. -/
def Alive (r : Running) (number : Nat) : Prop := number < r.started ∧ ∀ p ∈ r.ended, p.number ≠ number

def Watches (r : Running) (number : Nat) : Prop := ∃ w ∈ r.watchers, w.process.number = number

/-- Every process that was started has ended or is watched. -/
structure Accounted (r : Running) : Prop where
  coded : ∀ p ∈ r.ended, p.code.isSome = true
  covered : ∀ number, r.Alive number → r.Watches number
  known : ∀ number, r.Watches number → number < r.started

theorem accounted_of_fresh (t : Tree) (scripts : List Script) :
    Accounted { tree := t, scripts } := by
  refine ⟨by simp, ?_, ?_⟩
  · rintro number ⟨below, -⟩
    exact absurd below (Nat.not_lt_zero _)
  · rintro number ⟨w, hw, -⟩
    cases hw

/-- The next process was started and has ended. -/
theorem Accounted.withNextEnded {r r' : Running} (h : r.Accounted) {p : Process}
    (started : r'.started = r.started + 1) (ended : r'.ended = r.ended ++ [p])
    (watchers : r'.watchers = r.watchers) (number : p.number = r.started)
    (code : p.code.isSome = true) : r'.Accounted := by
  refine ⟨?_, ?_, ?_⟩
  · intro q hq
    rw [ended] at hq
    rcases List.mem_append.mp hq with hq | hq
    · exact h.coded q hq
    · obtain rfl := List.mem_singleton.mp hq
      exact code
  · rintro n ⟨below, apart⟩
    have other : n ≠ r.started := by
      rintro rfl
      exact apart p (by simp [ended]) number
    obtain ⟨w, hw, hn⟩ := h.covered n
      ⟨by omega, fun q hq => apart q (by simp [ended, hq])⟩
    exact ⟨w, by rwa [watchers], hn⟩
  · rintro n ⟨w, hw, hn⟩
    have below := h.known n ⟨w, by rwa [← watchers], hn⟩
    omega

/-- The next process was started and is watched. -/
theorem Accounted.withNextWatched {r r' : Running} (h : r.Accounted) {w : Watcher}
    (started : r'.started = r.started + 1) (ended : r'.ended = r.ended)
    (watchers : r'.watchers = r.watchers ++ [w]) (number : w.process.number = r.started) :
    r'.Accounted := by
  refine ⟨by rw [ended]; exact h.coded, ?_, ?_⟩
  · rintro n ⟨below, apart⟩
    by_cases last : n = r.started
    · exact ⟨w, by simp [watchers], by rw [number, last]⟩
    · obtain ⟨v, hv, hn⟩ := h.covered n ⟨by omega, fun q hq => apart q (by rwa [ended])⟩
      exact ⟨v, by simp [watchers, hv], hn⟩
  · rintro n ⟨v, hv, hn⟩
    rw [watchers] at hv
    rcases List.mem_append.mp hv with hv | hv
    · have below := h.known n ⟨v, hv, hn⟩
      omega
    · obtain rfl := List.mem_singleton.mp hv
      omega

end Running

namespace Engine

variable {e : Engine} {job : Job} {r : Running}

/-- What a build does with processes: it starts none, sees the one it started to its end, or leaves it to
a watch session that it opens. -/
inductive Handling (job : Job) (r : Running) (done : Done Fault Running Outcome) : Prop
  | idle (fails : ∃ fault, done.result = .error fault) (started : done.state.started = r.started)
      (ended : done.state.ended = r.ended) (watchers : done.state.watchers = r.watchers)
  | ends (p : Process) (number : p.number = r.started) (code : p.code.isSome = true)
      (once : (∃ fault, done.result = .error fault) ∨ job.options.watch = false)
      (started : done.state.started = r.started + 1) (ended : done.state.ended = r.ended ++ [p])
      (watchers : done.state.watchers = r.watchers)
  | watches (w : Watcher) (number : w.process.number = r.started)
      (opened : job.options.watch = true ∧ ∃ outcome, done.result = .ok outcome)
      (started : done.state.started = r.started + 1) (ended : done.state.ended = r.ended)
      (watchers : done.state.watchers = r.watchers ++ [w])

theorem build_handling (e : Engine) (job : Job) (r : Running) :
    Handling job r ((e.build job).run r) := by
  cases hs : r.scripts with
  | nil =>
    rw [run_build_of_none hs]
    exact .idle ⟨_, rfl⟩ rfl rfl rfl
  | cons script rest =>
    cases hf : script.startFault with
    | some fault =>
      rw [run_build_of_startFault hs hf]
      exact .idle ⟨_, rfl⟩ rfl rfl rfl
    | none =>
      rw [run_build_of_start hs hf]
      unfold closing
      cases (e.conversation job r script).result with
      | error fault =>
        have number := fault.number_endOf (e.heardOut job r script)
        exact .ends _ number (fault.code_endOf _) (.inl ⟨_, rfl⟩) rfl rfl rfl
      | ok outcome =>
        cases watch : job.options.watch with
        | true => exact .watches _ rfl ⟨watch, outcome, rfl⟩ rfl rfl rfl
        | false =>
          have number := (e.heardOut job r script).number_finish
          exact .ends _ number (Process.code_finish _) (.inr watch) rfl rfl rfl

theorem Handling.accounted {done : Done Fault Running Outcome} (handling : Handling job r done)
    (h : r.Accounted) : done.state.Accounted := by
  cases handling with
  | idle fails started ended watchers =>
    refine ⟨by rw [ended]; exact h.coded, ?_, ?_⟩
    · rintro n ⟨below, apart⟩
      obtain ⟨w, hw, hn⟩ := h.covered n ⟨by omega, fun q hq => apart q (by rwa [ended])⟩
      exact ⟨w, by rwa [watchers], hn⟩
    · rintro n ⟨w, hw, hn⟩
      rw [started]
      exact h.known n ⟨w, by rwa [← watchers], hn⟩
  | ends p number code once started ended watchers =>
    exact h.withNextEnded started ended watchers number code
  | watches w number opened started ended watchers =>
    exact h.withNextWatched started ended watchers number

/-- Listening to watch sessions leaves each with its process. -/
theorem run_listenAll {ε : Type} (watchers : List Watcher) (r : Running) :
    ∃ watchers' lost events, (listenAll watchers : Action ε Running _).run r =
      ⟨.ok (watchers', lost), r, events⟩ ∧
      watchers'.map (fun w => w.process.number) = watchers.map fun w => w.process.number := by
  induction watchers with
  | nil => exact ⟨[], [], [], rfl, rfl⟩
  | cons w rest ih =>
    obtain ⟨watchers', lost, events, hr, numbers⟩ := ih
    have heard : ∃ w' lost events, (listenTo w : Action ε Running _).run r = ⟨.ok (w', lost), r, events⟩ ∧
        w'.process.number = w.process.number := ⟨_, _, _, rfl, rfl⟩
    obtain ⟨w', lost', events', hw, number⟩ := heard
    unfold listenAll
    rw [Action.run_bind_ok hw]
    dsimp only
    rw [Action.run_bind_ok hr]
    exact ⟨w' :: watchers', lost'.toList ++ lost, _, rfl, by simp [number, numbers]⟩

/-- The waiting has no fault of its own. -/
theorem run_wait_eq_ok {ε : Type} (r : Running) :
    ∃ watchers lost events, (wait : Action ε Running _).run r = ⟨.ok lost, { r with watchers }, events⟩ ∧
      watchers.map (fun w => w.process.number) = r.watchers.map fun w => w.process.number := by
  obtain ⟨watchers, lost, events, hr, numbers⟩ := run_listenAll (ε := ε) r.watchers r
  have set : (setWatchers watchers : Action ε Running Unit).run r = ⟨.ok (), { r with watchers }, []⟩ := rfl
  refine ⟨watchers, lost, events, ?_, numbers⟩
  unfold wait
  rw [Action.run_bind_ok (Action.run_state r), Action.run_bind_ok hr]
  dsimp only
  rw [Action.run_bind_ok set]
  simp

theorem run_wait {ε : Type} (r : Running) :
    ∃ watchers, ((wait : Action ε Running _).run r).state = { r with watchers } ∧
      watchers.map (fun w => w.process.number) = r.watchers.map fun w => w.process.number := by
  obtain ⟨watchers, lost, events, hr, numbers⟩ := run_wait_eq_ok (ε := ε) r
  exact ⟨watchers, by rw [hr], numbers⟩

/-- Stopping processes adds them to those that have ended. -/
theorem run_stopAll {ε : Type} (watchers : List Watcher) (r : Running) :
    ∃ events, (stopAll watchers : Action ε Running Unit).run r =
      ⟨.ok (), { r with ended := r.ended ++ watchers.map fun w => w.process.stop.1 }, events⟩ := by
  induction watchers generalizing r with
  | nil => exact ⟨[], by simp [stopAll]⟩
  | cons w rest ih =>
    obtain ⟨events, hr⟩ := ih (withEnded r w.process.stop.1)
    unfold stopAll
    rw [Action.run_bind_ok (run_ending w.process.stop r), hr]
    exact ⟨_, by simp [withEnded]; rfl⟩

theorem run_close {ε : Type} (r : Running) :
    ∃ events, (close : Action ε Running Unit).run r =
      ⟨.ok (), { r with ended := r.ended ++ r.watchers.map (fun w => w.process.stop.1), watchers := [] },
        events⟩ := by
  obtain ⟨events, hr⟩ := run_stopAll (ε := ε) r.watchers r
  unfold close
  rw [Action.run_bind_ok (Action.run_state r), Action.run_bind_ok hr]
  exact ⟨_, rfl⟩

/-- Without watch sessions the closing does nothing. -/
theorem run_close_of_none {ε : Type} (h : r.watchers = []) :
    (close : Action ε Running Unit).run r = ⟨.ok (), r, []⟩ := by
  obtain ⟨tree, scripts, started, ended, watchers, hardenings⟩ := r
  obtain rfl : watchers = [] := h
  rfl

theorem accounted_wait {ε : Type} (h : r.Accounted) :
    ((wait : Action ε Running _).run r).state.Accounted := by
  obtain ⟨watchers, hr, numbers⟩ := run_wait (ε := ε) r
  rw [hr]
  have same : ∀ n, ({ r with watchers } : Running).Watches n ↔ r.Watches n := by
    intro n
    have members : n ∈ watchers.map (fun w => w.process.number) ↔
        n ∈ r.watchers.map fun w => w.process.number := by rw [numbers]
    simpa [Running.Watches] using members
  exact ⟨h.coded, fun n alive => (same n).mpr (h.covered n alive), fun n hn => h.known n ((same n).mp hn)⟩

theorem accounted_close {ε : Type} (h : r.Accounted) :
    let r' := ((close : Action ε Running Unit).run r).state
    r'.Accounted ∧ r'.watchers = [] ∧ ∀ n, ¬ r'.Alive n := by
  intro r'
  obtain ⟨events, hr⟩ := run_close (ε := ε) r
  have hs : r' = { r with ended := r.ended ++ r.watchers.map (fun w => w.process.stop.1), watchers := [] } := by
    simp only [r', hr]
  have none_alive : ∀ n, ¬ r'.Alive n := by
    rintro n ⟨below, apart⟩
    rw [hs] at below apart
    obtain ⟨w, hw, hn⟩ := h.covered n ⟨below, fun q hq => apart q (by simp [hq])⟩
    refine apart w.process.stop.1 ?_ ((Process.number_stop _).trans hn)
    exact List.mem_append_right _ (List.mem_map_of_mem hw)
  refine ⟨⟨?_, fun n alive => absurd alive (none_alive n), ?_⟩, by rw [hs], none_alive⟩
  · intro p hp
    rw [hs] at hp
    rcases List.mem_append.mp hp with hp | hp
    · exact h.coded p hp
    · obtain ⟨w, -, rfl⟩ := List.mem_map.mp hp
      exact w.process.code_stop
  · rintro n ⟨w, hw, -⟩
    rw [hs] at hw
    cases hw

/-- What an engine can be told to do. -/
inductive Order
  | build (job : Job)
  | wait
  | close

/-- An order that was carried out: the states before and after it and, for a build, what it came to. -/
structure Taken where
  order : Order
  before : Running
  result : Option (Except Fault Outcome)
  after : Running

def carryOut (e : Engine) (r : Running) (order : Order) : Taken :=
  match order with
  | .build job => ⟨order, r, some ((e.build job).run r).result, ((e.build job).run r).state⟩
  | .wait => ⟨order, r, none, ((wait : Action Empty Running _).run r).state⟩
  | .close => ⟨order, r, none, ((close : Action Empty Running Unit).run r).state⟩

/-- Orders carried out one after another. -/
def trail (e : Engine) : List Order → Running → List Taken
  | [], _ => []
  | order :: rest, r => e.carryOut r order :: e.trail rest (e.carryOut r order).after

/-- A build with a watch session that came to an outcome. -/
def Taken.IsWatch (a : Taken) : Prop :=
  ∃ job, a.order = .build job ∧ job.options.watch = true ∧ ∃ outcome, a.result = some (.ok outcome)

/-- What one order has left behind: every process that has not ended is watched, each by the session of
some build among those given that came to an outcome; any other build has seen its own process to the
end; and the closing has seen all of them to the end, so that a second one finds nothing to do. -/
structure Taken.Tidy (builds : List Taken) (a : Taken) : Prop where
  coded : ∀ p ∈ a.after.ended, p.code.isSome = true
  covered : ∀ n, a.after.Alive n → a.after.Watches n ∧
    ∃ build ∈ builds, build.IsWatch ∧ build.before.started = n
  build : ∀ job, a.order = .build job → ¬ a.IsWatch → ∀ n, a.before.started ≤ n →
    n < a.after.started → ¬ a.after.Alive n ∧ ¬ a.after.Watches n
  close : a.order = .close → a.after.watchers = [] ∧ (∀ n, ¬ a.after.Alive n) ∧
    (Engine.close : Action Empty Running Unit).run a.after = ⟨.ok (), a.after, []⟩

theorem accounted_carryOut (e : Engine) (order : Order) (h : r.Accounted) :
    (e.carryOut r order).after.Accounted := by
  cases order with
  | build job => exact (build_handling e job r).accounted h
  | wait => exact accounted_wait h
  | close => exact (accounted_close h).1

/-- Only a build with a watch session that came to an outcome brings a watch session. -/
theorem watches_carryOut (e : Engine) (order : Order) {n : Nat}
    (h : (e.carryOut r order).after.Watches n) :
    r.Watches n ∨ (e.carryOut r order).IsWatch ∧ r.started = n := by
  cases order with
  | build job =>
    obtain ⟨w, hw, hn⟩ := h
    cases build_handling e job r with
    | idle fails started ended watchers => exact .inl ⟨w, by rwa [← watchers], hn⟩
    | ends p number code once started ended watchers => exact .inl ⟨w, by rwa [← watchers], hn⟩
    | watches v number opened started ended watchers =>
      rw [show (e.carryOut r (.build job)).after.watchers = _ from watchers] at hw
      rcases List.mem_append.mp hw with hw | hw
      · exact .inl ⟨w, hw, hn⟩
      · obtain rfl := List.mem_singleton.mp hw
        obtain ⟨watch, outcome, result⟩ := opened
        exact .inr ⟨⟨job, rfl, watch, outcome, congrArg some result⟩, by omega⟩
  | wait =>
    obtain ⟨watchers, hr, numbers⟩ := run_wait (ε := Empty) r
    obtain ⟨w, hw, hn⟩ := h
    rw [show (e.carryOut r .wait).after = _ from hr] at hw
    have member : n ∈ r.watchers.map fun w => w.process.number := by
      rw [← numbers]
      exact List.mem_map.mpr ⟨w, hw, hn⟩
    exact .inl (List.mem_map.mp member)
  | close =>
    obtain ⟨events, hr⟩ := run_close (ε := Empty) r
    obtain ⟨w, hw, -⟩ := h
    have cleared : (e.carryOut r .close).after.watchers = [] := by simp only [carryOut, hr]
    rw [cleared] at hw
    cases hw

theorem ended_of_build (e : Engine) (job : Job) (h : r.Accounted)
    (other : ¬ (e.carryOut r (.build job)).IsWatch) {n : Nat} (first : r.started ≤ n) :
    ¬ (e.carryOut r (.build job)).after.Alive n ∧ ¬ (e.carryOut r (.build job)).after.Watches n := by
  have unwatched : ¬ (e.carryOut r (.build job)).after.Watches n := by
    intro watched
    rcases watches_carryOut e _ watched with watched | ⟨opens, -⟩
    · exact absurd (h.known n watched) (Nat.not_lt.mpr first)
    · exact other opens
  exact ⟨fun alive => unwatched ((accounted_carryOut e (.build job) h).covered n alive), unwatched⟩

/-- The orders of a trail leave no process behind. The induction is over the orders; the watch sessions
of the state that it starts from are accounted for by builds that came before. -/
theorem trail_tidy (e : Engine) (orders : List Order) (earlier : List Taken) (h : r.Accounted)
    (opened : ∀ n, r.Watches n → ∃ build ∈ earlier, build.IsWatch ∧ build.before.started = n) :
    ∀ a ∈ e.trail orders r, a.Tidy (earlier ++ e.trail orders r) := by
  induction orders generalizing r earlier with
  | nil => simp [trail]
  | cons order rest ih =>
    have after := accounted_carryOut e order h
    have openers : ∀ n, (e.carryOut r order).after.Watches n →
        ∃ build ∈ earlier ++ [e.carryOut r order], build.IsWatch ∧ build.before.started = n := by
      intro n hn
      rcases watches_carryOut e order hn with hn | ⟨opens, started⟩
      · obtain ⟨build, hb, is⟩ := opened n hn
        exact ⟨build, by simp [hb], is⟩
      · refine ⟨e.carryOut r order, by simp, opens, ?_⟩
        cases order <;> exact started
    have along : earlier ++ e.trail (order :: rest) r =
        earlier ++ [e.carryOut r order] ++ e.trail rest (e.carryOut r order).after := by
      simp [trail]
    intro a ha
    rw [along]
    rcases List.mem_cons.mp ha with rfl | ha
    · refine ⟨after.coded, ?_, ?_, ?_⟩
      · intro n alive
        obtain ⟨build, hb, is⟩ := openers n (after.covered n alive)
        exact ⟨after.covered n alive, build, List.mem_append_left _ hb, is⟩
      · intro job same other n first _
        cases order with
        | build job' => exact ended_of_build e job' h other first
        | wait => cases same
        | close => cases same
      · intro same
        cases order with
        | build job => cases same
        | wait => cases same
        | close =>
          obtain ⟨-, cleared, none_alive⟩ := accounted_close (ε := Empty) h
          exact ⟨cleared, none_alive, run_close_of_none cleared⟩
    · exact ih _ after openers a ha

/-- No process is left behind. Whatever an engine is told to do from its start on, and however its
processes behave, after each order every process that has not ended belongs to a watch session of a
build that came to an outcome, and the closing ends them all. -/
theorem trail_leaves_none (e : Engine) (t : Tree) (scripts : List Script) (orders : List Order) :
    ∀ a ∈ e.trail orders { tree := t, scripts }, a.Tidy (e.trail orders { tree := t, scripts }) := by
  have fresh := Running.accounted_of_fresh t scripts
  refine trail_tidy e orders [] fresh ?_
  rintro n ⟨w, hw, -⟩
  cases hw

def serverEngine : Engine where
  level := .info
  cwd := .ofString "/app"
  bridge := "/app/bridge.js"

def watchJob : Job where
  options := {
    entryPoints := ["/app/server.ts"], platform := "node", format := "cjs", target := ["node16"],
    outDir := "/app/dist", minify := false, sourcemap := true, watch := true }
  label := "server"

/-- A bundler that comes to a result and does not end by itself, and one that breaks its pipe. -/
def serverScripts : List Script := [
  { items := [.line "\x7b\"type\":\"result\",\"outputFiles\":[]\x7d"], hangs := true },
  { items := [.broken "the bundler is gone"], brokenInput := true, writes := some 1, exitCode := 3 }]

/-- The first build is watched until the closing; the second, and the third for which there is no
process, leave nothing behind. -/
theorem trail_serverEngine_leaves_none :
    let r : Running := { tree := { top := .dir [] }, scripts := serverScripts }
    let first := serverEngine.carryOut r (.build watchJob)
    let trail := serverEngine.trail [.build watchJob, .build watchJob, .build watchJob, .wait, .close] r
    trail.map (fun a => a.after.watchers.map fun w => w.process.number) = [[0], [0], [0], [0], []] ∧
    trail.map (fun a => a.after.ended.map fun p => (p.number, p.code)) =
      [[], [(1, some (-15))], [(1, some (-15))], [(1, some (-15))], [(1, some (-15)), (0, some (-15))]] ∧
    first ∈ trail ∧ first.Tidy trail := by
  intro r first trail
  have member : first ∈ trail := List.mem_cons_self
  refine ⟨by decide +kernel, by decide +kernel, member, ?_⟩
  exact trail_leaves_none serverEngine { top := .dir [] } serverScripts _ first member

end Engine
end BundleForge.Bridge
