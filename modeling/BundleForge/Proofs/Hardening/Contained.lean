import BundleForge.Proofs.Hardening.Sweep
import BundleForge.Proofs.Talks
import BundleForge.Proofs.Tree.Alike

/-!
What a pass has to do with the tree outside its directory. Main statement: a pass over a tree without
links changes nothing outside, and its results are the same whatever stands there.
-/

namespace BundleForge.Hardening

/-- What passes have come to over trees that are matched for a place. -/
structure Beside (area : List String) (turns : List (List String)) (s s' : Progress) : Prop where
  matched : Tree.Matched area turns s.tree s'.tree
  results : s.results = s'.results

/-- A part of a pass that stays below a place, on paths with the given turns: nothing else is changed,
and nothing else matters. -/
structure Contained {ε α : Type} (own : List String) (turns : List (List String)) (a : Action ε Progress α) :
    Prop where
  confined : ∀ s : Progress, s.tree.top.Plain → Tree.Spares own s.tree (a.run s).state.tree
  respects : ∀ {area : List String} {s s' : Progress}, Apart area own → Beside area turns s s' →
    (a.run s).result = (a.run s').result ∧ Tree.Alike area (a.run s).state.tree (a.run s').state.tree ∧
      (a.run s).state.results = (a.run s').state.results

namespace Contained

variable {ε ε' α β : Type} {own area : List String} {turns : List (List String)} {s s' : Progress}

theorem beside {a : Action ε Progress α} (h : Contained own turns a) (apart : Apart area own)
    (same : Beside area turns s s') : Beside area turns (a.run s).state (a.run s').state :=
  have ⟨_, alike, results⟩ := h.respects apart same
  have first := h.confined s same.matched.plain
  have second := h.confined s' same.matched.plain'
  ⟨same.matched.spared_apart apart alike first second, results⟩

theorem ofExcept (x : Except ε α) : Contained own turns (Action.ofExcept x) :=
  ⟨fun _ plain => .refl plain, fun _ same => ⟨rfl, same.matched.toAlike, same.results⟩⟩

theorem pure (x : α) : Contained own turns (Pure.pure x : Action ε Progress α) := ofExcept (.ok x)

theorem fail (fault : ε) : Contained own turns (Action.fail fault : Action ε Progress α) :=
  ofExcept (.error fault)

theorem emit (events : List Event) : Contained own turns (Action.emit events : Action ε Progress Unit) :=
  ⟨fun _ plain => .refl plain, fun _ same => ⟨rfl, same.matched.toAlike, same.results⟩⟩

theorem record (result : Result) : Contained own turns (Pass.record result : Action ε Progress Unit) :=
  ⟨fun _ plain => .refl plain,
    fun _ same => ⟨rfl, same.matched.toAlike, congrArg (· ++ [result]) same.results⟩⟩

/-- Something that is looked up in the tree, and differs only with what stands below the place. -/
theorem look {f : Tree → Except ε α}
    (same : ∀ {area : List String} {a b : Tree}, Apart area own → Tree.Matched area turns a b → f a = f b) :
    Contained own turns (fun s => ⟨f s.tree, s, []⟩ : Action ε Progress α) :=
  ⟨fun _ plain => .refl plain,
    fun apart beside => ⟨same apart beside.matched, beside.matched.toAlike, beside.results⟩⟩

theorem bind {a : Action ε Progress α} {f : α → Action ε Progress β} (first : Contained own turns a)
    (second : ∀ x (s : Progress), s.tree.top.Plain → (a.run s).result = .ok x → Contained own turns (f x)) :
    Contained own turns (a >>= f) where
  confined s plain := by
    have before := first.confined s plain
    have next := second (s := s)
    generalize hd : a.run s = done at before next
    obtain ⟨result, state, events⟩ := done
    cases result with
    | error fault =>
      rw [Action.run_bind_error hd]
      exact before
    | ok x =>
      rw [Action.run_bind_ok hd]
      exact before.trans ((next x plain rfl).confined state before.plain')
  respects {area s s'} apart beside := by
    obtain ⟨result, alike, results⟩ := first.respects apart beside
    have after := first.beside apart beside
    have next := second (s := s)
    generalize hd : a.run s = done at result alike results after next
    generalize hd' : a.run s' = done' at result alike results after
    obtain ⟨x, state, events⟩ := done
    obtain ⟨x', state', events'⟩ := done'
    obtain rfl : x = x' := result
    cases x with
    | error fault =>
      rw [Action.run_bind_error hd, Action.run_bind_error hd']
      exact ⟨rfl, alike, results⟩
    | ok x =>
      rw [Action.run_bind_ok hd, Action.run_bind_ok hd']
      exact (next x beside.matched.plain rfl).respects apart after

theorem attempt {a : Action ε Progress α} (h : Contained own turns a) :
    Contained own turns (Action.attempt a : Action ε' Progress (Except ε α)) where
  confined := h.confined
  respects apart beside :=
    have ⟨result, after⟩ := h.respects apart beside
    ⟨congrArg Except.ok result, after⟩

theorem each {f : α → Action ε Progress Unit} {items : List α} (h : ∀ x ∈ items, Contained own turns (f x)) :
    Contained own turns (Action.each f items) := by
  induction items with
  | nil => exact pure ()
  | cons x rest ih => exact (h x (by simp)).bind fun _ _ _ _ => ih fun y hy => h y (by simp [hy])

end Contained

/-- A hardener whose result for a source is always the same. -/
def Hardener.Steady (h : Hardener) : Prop :=
  ∀ earlier later source, h.harden earlier source = h.harden later source

theorem Hardener.Steady.rewrite_eq {h : Hardener} (steady : h.Steady) (earlier later : Nat)
    (content : List UInt8) : h.rewrite earlier content = h.rewrite later content := by
  unfold Hardener.rewrite
  cases Tree.decodeText content with
  | error fault => rfl
  | ok source => exact congrArg (Except.map Text.Utf8.encode) (steady earlier later source)

/-- Text is read only from a file that stands at the place that a path spells. -/
theorem file_of_readText {t : Tree} (plain : t.top.Plain) {p : Path} {source : String}
    (h : t.readText p = .ok source) :
    Tree.hasNull p = false ∧ t.realPlace p = .ok p.place ∧
      ∃ content, t.top.contentAt p.place = some content := by
  unfold Tree.readText Tree.readBytes at h
  cases clean : Tree.hasNull p with
  | true => simp [clean] at h
  | false =>
    unfold Tree.node at h
    cases hr : t.realPlace p with
    | error cause => simp [clean, hr] at h
    | ok place =>
      obtain rfl := Tree.eq_of_realPlace plain hr
      refine ⟨rfl, rfl, ?_⟩
      cases ha : t.top.at? p.place with
      | none => simp [clean, hr, ha] at h
      | some n =>
        cases n with
        | file content => exact ⟨content, by simp [Node.contentAt, ha, Node.content?]⟩
        | dir | link => simp [clean, hr, ha] at h

namespace Pass

variable {pass : Pass} {own : List String} {turns : List (List String)} {p : Path}

theorem run_replaceScript_of_unread {s : Progress} {fault : FileFault} (h : s.tree.readText p = .error fault) :
    (pass.replaceScript p).run s = ⟨.error (.file fault), s, []⟩ := by
  unfold replaceScript
  rw [Action.run_bind_ok (Action.run_state s), h, Action.run_bind_error (run_onFile_error fault s)]
  rfl

theorem contained_replaceScript (steady : pass.hardener.Steady) (among : ∀ w ∈ p.turns, w ∈ turns)
    (below : own <+: p.place) : Contained own turns (pass.replaceScript p) where
  confined s plain := by
    cases hr : s.tree.readText p with
    | error fault =>
      rw [run_replaceScript_of_unread hr]
      exact .refl plain
    | ok source =>
      obtain ⟨clean, leads, content, file⟩ := file_of_readText plain hr
      obtain ⟨events, ran⟩ := @run_replaceScript pass _ _ _ _ clean leads file
      rw [ran]
      dsimp only [Progress.replace]
      cases pass.hardener.rewrite s.calls content with
      | error fault => exact .refl plain
      | ok bytes => exact .of_file plain file below bytes
  respects {area s s'} apart beside := by
    have matched := beside.matched
    have elsewhere := apart.below below
    have same := matched.readText_eq among elsewhere
    cases hr : s.tree.readText p with
    | error fault =>
      rw [run_replaceScript_of_unread hr, run_replaceScript_of_unread (same.symm.trans hr)]
      exact ⟨rfl, matched.toAlike, beside.results⟩
    | ok source =>
      obtain ⟨clean, leads, content, file⟩ := file_of_readText matched.plain hr
      have leads' := (matched.realPlace_eq among elsewhere).symm.trans leads
      have file' := (matched.contents p.place elsewhere.1).symm.trans file
      obtain ⟨events, ran⟩ := @run_replaceScript pass _ _ _ _ clean leads file
      obtain ⟨events', ran'⟩ := @run_replaceScript pass _ _ _ _ clean leads' file'
      rw [ran, ran']
      dsimp only [Progress.replace]
      rw [steady.rewrite_eq s'.calls s.calls]
      refine ⟨rfl, ?_, beside.results⟩
      cases pass.hardener.rewrite s.calls content with
      | error fault => exact matched.toAlike
      | ok bytes => exact matched.file_both file file' bytes

theorem contained_say {ε : Type} (severity : Severity) (text : String) :
    Contained own turns (pass.say severity text : Action ε Progress Unit) := .emit _

theorem contained_hardenFile (steady : pass.hardener.Steady) (among : ∀ w ∈ p.turns, w ∈ turns)
    (below : own <+: p.place) : Contained own turns (pass.hardenFile p) := by
  refine (contained_replaceScript steady among below).attempt.bind fun result _ _ _ => ?_
  split
  · exact (contained_say _ _).bind fun _ _ _ _ => .record _
  · exact .fail _
  · exact (contained_say _ _).bind fun _ _ _ _ => .record _

theorem contained_asks {question : Tree → Path → Except SystemFault Bool}
    (same : ∀ {area : List String} {a b : Tree}, Apart area own → Tree.Matched area turns a b →
      question a p = question b p) : Contained own turns (asks question p) := by
  have look : asks question p = fun s => ⟨(question s.tree p).mapError WalkFault.refused, s, []⟩ := by
    funext s
    unfold asks
    cases question s.tree p <;> rfl
  rw [look]
  exact .look (f := fun t => (question t p).mapError WalkFault.refused) fun apart matched => by
    rw [same apart matched]

theorem contained_visit (steady : pass.hardener.Steady) {descend : Path → Action WalkFault Progress Unit}
    (inside : Contained own turns (descend p)) (among : ∀ w ∈ p.turns, w ∈ turns)
    (below : own <+: p.place) : Contained own turns (pass.visit descend p) := by
  refine (contained_asks fun apart same => same.isDir_eq among (apart.below below)).bind fun dir _ _ _ => ?_
  split
  · exact inside
  refine (contained_asks fun apart same => same.isFile_eq among (apart.below below)).bind fun file _ _ _ => ?_
  split
  · split
    · exact contained_hardenFile steady among below
    · exact .pure ()
  · exact .pure ()

theorem contained_walk (steady : pass.hardener.Steady) (depth : Nat) (among : ∀ w ∈ p.turns, w ∈ turns)
    (below : own <+: p.place) : Contained own turns (pass.walk depth p) := by
  induction depth generalizing p with
  | zero => exact .fail _
  | succ depth ih =>
    have walked : pass.walk (depth + 1) p =
        (fun s => ⟨entriesOf s.tree p, s, []⟩ : Action WalkFault Progress (List Path)) >>=
          Action.each (pass.visit (pass.walk depth)) := by
      funext s
      show _ = Action.andThen _ _ s
      rw [walk]
      show Action.andThen _ _ s = _
      cases h : entriesOf s.tree p <;> simp [Action.andThen, bind, Action.state, Action.ofExcept, h]
    rw [walked]
    refine (Contained.look (f := fun t => entriesOf t p) fun apart same => ?_).bind
      fun entries s plain listed => .each fun entry he => ?_
    · rw [entriesOf, entriesOf, same.list_eq among (apart.below below)]
    · obtain ⟨names, -, owns, rfl⟩ := entriesOf_eq_ok plain.proper listed
      obtain ⟨name, hn, rfl⟩ := List.mem_map.mp he
      have among' : ∀ w ∈ (p.below [name]).turns, w ∈ turns := by rwa [Path.turns_below (owns name hn)]
      have below' : own <+: (p.below [name]).place := by
        rw [Path.place_below (owns name hn)]
        exact below.trans (List.prefix_append ..)
      exact contained_visit steady (ih among' below') among' below'

/-- A pass changes nothing outside its directory. -/
theorem run_confined (steady : pass.hardener.Steady) (p : Path) {t : Tree} (plain : t.top.Plain) (calls : Nat) :
    Tree.Spares p.place t (pass.run p t calls).state.tree :=
  (contained_walk steady Tree.pathLimit (fun w (hw : w ∈ p.turns) => hw) List.prefix_rfl).confined
    { tree := t, calls } plain

/-- What stands outside its directory makes no difference to a pass, if it does not stand in its way. -/
theorem run_respects (steady : pass.hardener.Steady) (among : ∀ w ∈ p.turns, w ∈ turns) {area : List String}
    (apart : Apart area p.place) {t t' : Tree} (same : Tree.Matched area turns t t') (calls calls' : Nat) :
    (pass.run p t calls).result = (pass.run p t' calls').result ∧
      (pass.run p t calls).state.results = (pass.run p t' calls').state.results ∧
      Tree.Matched area turns (pass.run p t calls).state.tree (pass.run p t' calls').state.tree := by
  have beside : Beside area turns { tree := t, calls } { tree := t', calls := calls' } := ⟨same, rfl⟩
  have contained := contained_walk steady Tree.pathLimit among List.prefix_rfl
  have after := contained.beside apart beside
  exact ⟨(contained.respects apart beside).1, after.results, after.matched⟩

/-- No message goes out to a bundler. -/
abbrev Quiet {ε α : Type} (a : Action ε Progress α) : Prop := a.Emits fun e => e.isOutgoing = false

theorem quiet_say {ε : Type} (pass : Pass) (severity : Severity) (text : String) :
    Quiet (pass.say severity text : Action ε Progress Unit) :=
  Action.emits_emit fun _ => isOutgoing_log

theorem quiet_record {ε : Type} (result : Result) : Quiet (record result : Action ε Progress Unit) :=
  fun _ _ h => by cases h

theorem quiet_asks (question : Tree → Path → Except SystemFault Bool) (p : Path) :
    Quiet (asks question p) := by
  intro s e he
  simp only [asks, Action.run] at he
  split at he <;> cases he

theorem quiet_replaceScript (quiet : ∀ source, (pass.hardener.event source).isOutgoing = false) (p : Path) :
    Quiet (pass.replaceScript p) := by
  refine Action.emits_state.bind fun s => (Action.emits_ofExcept _).bind fun source => .bind ?_ fun hardened =>
    (Action.emits_ofExcept _).bind fun t => fun _ _ h => by cases h
  intro s e he
  obtain rfl := List.mem_singleton.mp he
  exact quiet source

theorem quiet_hardenFile (quiet : ∀ source, (pass.hardener.event source).isOutgoing = false) (p : Path) :
    Quiet (pass.hardenFile p) := by
  refine (quiet_replaceScript quiet p).attempt.bind fun result => ?_
  split
  · exact (quiet_say pass _ _).bind fun _ => quiet_record _
  · exact Action.emits_fail _
  · exact (quiet_say pass _ _).bind fun _ => quiet_record _

theorem quiet_visit (quiet : ∀ source, (pass.hardener.event source).isOutgoing = false)
    {descend : Path → Action WalkFault Progress Unit} (inside : Quiet (descend p)) :
    Quiet (pass.visit descend p) := by
  refine (quiet_asks _ p).bind fun dir => ?_
  split
  · exact inside
  refine (quiet_asks _ p).bind fun file => ?_
  split
  · split
    · exact quiet_hardenFile quiet p
    · exact Action.emits_pure ()
  · exact Action.emits_pure ()

theorem quiet_walk (quiet : ∀ source, (pass.hardener.event source).isOutgoing = false) (depth : Nat)
    (p : Path) : Quiet (pass.walk depth p) := by
  induction depth generalizing p with
  | zero => exact Action.emits_fail _
  | succ depth ih =>
    exact Action.emits_state.bind fun s => (Action.emits_ofExcept _).bind fun entries =>
      .each fun entry _ => quiet_visit quiet (ih entry)

end Pass
end BundleForge.Hardening
