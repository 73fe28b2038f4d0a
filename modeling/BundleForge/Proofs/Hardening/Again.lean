import BundleForge.Proofs.Hardening.Contained
import BundleForge.Proofs.Hardening.Visits

/-!
A pass over what an earlier pass has left. Main statement: in a tree without links a second pass comes upon the same
scripts and ends in the same way; what failed fails again, and what was replaced is replaced by what comes of its own
text, if anything does. So a second pass changes nothing where nothing comes of the earlier one but itself.
-/

namespace BundleForge.Hardening

/-- The bytes of a script once it was dealt with. -/
def Hardener.left (h : Hardener) (content : List UInt8) : List UInt8 := (h.rewrite 0 content).toOption.getD content

/-- The bytes of the file at a place; there are none where none stands. -/
def Progress.bytesAt (s : Progress) (place : List String) : List UInt8 := (s.tree.top.contentAt place).getD []

/-- What hardening scripts in turn comes to, each of them a file of its own. -/
structure Reworked (h : Hardener) (d : Path) (visits : List Visit) (s s' : Progress) : Prop where
  results : s'.results = s.results ++
    visits.map fun v => ⟨d.below v.names, faultOf (h.rewrite 0 (s.bytesAt v.place))⟩
  contents : ∀ v ∈ visits, s'.tree.top.contentAt v.place = some (h.left (s.bytesAt v.place))
  still : (∀ v ∈ visits, h.left (s.bytesAt v.place) = s.bytesAt v.place) → s'.tree = s.tree

namespace Pass

variable {pass : Pass} {t : Tree} {d : Path} {s : Progress} {visits : List Visit} {v : Visit}

theorem reworked_replace (steady : pass.hardener.Steady) {content : List UInt8}
    (there : s.tree.top.contentAt v.place = some content) :
    Reworked pass.hardener d [v] s (s.replace pass.hardener (d.below v.names) v.place content) := by
  have bytes : s.bytesAt v.place = content := by rw [Progress.bytesAt, there, Option.getD_some]
  have same := steady.rewrite_eq s.calls 0 content
  refine ⟨by simp [Progress.replace, bytes, same], ?_, ?_⟩
  · refine List.forall_mem_singleton.mpr ?_
    rw [bytes]
    unfold Progress.replace Hardener.left
    rw [same]
    cases pass.hardener.rewrite 0 content with
    | error fault => exact there
    | ok after => exact (Node.contentAt_setAt there after v.place).trans (if_pos rfl)
  · intro unchanged
    have unchanged := unchanged v List.mem_cons_self
    rw [bytes] at unchanged
    unfold Hardener.left at unchanged
    unfold Progress.replace
    rw [same]
    cases written : pass.hardener.rewrite 0 content with
    | error fault => rfl
    | ok after =>
      rw [written] at unchanged
      obtain rfl : after = content := unchanged
      exact congrArg (fun top => { s.tree with top }) (Node.setAt_of_at? (Node.at?_of_contentAt there))

theorem reworked_each (steady : pass.hardener.Steady) (fails : pass.hardener.Fails)
    (clean : Tree.hasNull d = false) (finds : ∀ v ∈ visits, v.Finds t d) (shaped : Shaped t s)
    (distinct : (visits.map Visit.place).Nodup) {s' : Progress} {events : List Event}
    (turns : (Action.each pass.hardenFile (visits.map fun v => d.below v.names)).run s = ⟨.ok (), s', events⟩) :
    Reworked pass.hardener d visits s s' := by
  induction visits generalizing s events with
  | nil =>
    cases turns
    exact ⟨by simp, by simp, fun _ => rfl⟩
  | cons v visits ih =>
    rw [List.forall_mem_cons] at finds
    rw [List.map_cons, List.nodup_cons] at distinct
    obtain ⟨content, mid, _, there, same, ran, one⟩ := run_hardenFile_of_finds fails clean finds.1 shaped
    obtain ⟨last, _, ran', more⟩ := run_each_hardenFile fails clean finds.2 one.shaped
    have head : Reworked pass.hardener d [v] s mid := same ▸ reworked_replace steady there
    rw [List.map_cons] at turns
    simp only [Action.each] at turns
    rw [Action.run_bind_ok ran, ran'] at turns
    cases turns
    have rest := ih finds.2 one.shaped distinct.2 ran'
    have apart : ∀ w ∈ visits, w.place ≠ v.place := fun w among same =>
      distinct.1 (List.mem_map.mpr ⟨w, among, same⟩)
    have kept : ∀ w ∈ visits, mid.bytesAt w.place = s.bytesAt w.place := fun w among =>
      congrArg (·.getD []) (one.others w.place (List.forall_mem_singleton.mpr (apart w among).symm))
    have alike := List.map_congr_left fun w among => congrArg
      (fun bytes => Result.mk (d.below w.names) (faultOf (pass.hardener.rewrite 0 bytes))) (kept w among)
    refine ⟨?_, List.forall_mem_cons.mpr ⟨?_, fun w among => ?_⟩, fun still => ?_⟩
    · rw [rest.results, head.results, alike]
      simp
    · rw [more.others v.place apart]
      exact head.contents v List.mem_cons_self
    · rw [rest.contents w among, kept w among]
    · rw [List.forall_mem_cons] at still
      rw [rest.still fun w among => by rw [kept w among, still.2 w among],
        head.still (List.forall_mem_singleton.mpr still.1)]

end Pass

/-- A script that two passes come upon: its path and its place, its bytes before them, between them and after them,
and why each of the two failed, if it did. -/
structure Repeat where
  path : Path
  place : List String
  before : List UInt8
  between : List UInt8
  after : List UInt8
  first : Option Fault
  second : Option Fault

/-- What becomes of a script that is hardened twice by a function of its text. -/
inductive Repeat.Of (f : String → Except Fault String) : Repeat → Prop
  | unread {path : Path} {place : List String} {bytes : List UInt8} {fault : FileFault}
      (unread : Tree.decodeText bytes = .error fault) :
      Of f ⟨path, place, bytes, bytes, bytes, some (.file fault), some (.file fault)⟩
  | refused {path : Path} {place : List String} {bytes : List UInt8} {source : String} {fault : Fault}
      (read : Tree.decodeText bytes = .ok source) (refused : f source = .error fault) :
      Of f ⟨path, place, bytes, bytes, bytes, some fault, some fault⟩
  | kept {path : Path} {place : List String} {bytes : List UInt8} {source hardened : String} {fault : Fault}
      (read : Tree.decodeText bytes = .ok source) (made : f source = .ok hardened)
      (refused : f hardened = .error fault) :
      Of f ⟨path, place, bytes, Text.Utf8.encode hardened, Text.Utf8.encode hardened, none, some fault⟩
  | rewritten {path : Path} {place : List String} {bytes : List UInt8} {source hardened again : String}
      (read : Tree.decodeText bytes = .ok source) (made : f source = .ok hardened) (remade : f hardened = .ok again) :
      Of f ⟨path, place, bytes, Text.Utf8.encode hardened, Text.Utf8.encode again, none, none⟩

/-- Two passes have come upon the same scripts, in the same order, and have left all else as it was. -/
structure Repeated (f : String → Except Fault String) (t : Tree) (first second : Progress) (xs : List Repeat) :
    Prop where
  results : first.results = xs.map fun x => ⟨x.path, x.first⟩
  results' : second.results = xs.map fun x => ⟨x.path, x.second⟩
  becomes : ∀ x ∈ xs, x.Of f
  leads : ∀ x ∈ xs, t.realPlace x.path = .ok x.place
  distinct : (xs.map Repeat.place).Nodup
  contents : ∀ x ∈ xs, t.top.contentAt x.place = some x.before ∧
    first.tree.top.contentAt x.place = some x.between ∧ second.tree.top.contentAt x.place = some x.after
  others : ∀ place, (∀ x ∈ xs, x.place ≠ place) → first.tree.top.contentAt place = t.top.contentAt place ∧
    second.tree.top.contentAt place = t.top.contentAt place
  outlines : ∀ place, first.tree.top.outlineAt place = t.top.outlineAt place ∧
    second.tree.top.outlineAt place = t.top.outlineAt place

/-- A script as two passes come upon it. -/
def Visit.repeat (v : Visit) (h : Hardener) (d : Path) (bytes : List UInt8) : Repeat where
  path := d.below v.names
  place := v.place
  before := bytes
  between := h.left bytes
  after := h.left (h.left bytes)
  first := faultOf (h.rewrite 0 bytes)
  second := faultOf (h.rewrite 0 (h.left bytes))

theorem Visit.of_repeat {h : Hardener} {f : String → Except Fault String}
    (acts : ∀ earlier source, h.harden earlier source = f source)
    (unified : ∀ source hardened, f source = .ok hardened → '\r' ∉ hardened.toList)
    (v : Visit) (d : Path) (bytes : List UInt8) : (v.repeat h d bytes).Of f := by
  unfold Visit.repeat Hardener.left Hardener.rewrite
  simp only [acts]
  cases read : Tree.decodeText bytes with
  | error fault =>
    simp only [Except.toOption, Option.getD_none, read, faultOf]
    exact .unread read
  | ok source =>
    cases made : f source with
    | error fault =>
      simp only [made, Except.map, Except.toOption, Option.getD_none, read, faultOf]
      exact .refused read made
    | ok hardened =>
      have reread := decodeText_encode (unified source hardened made)
      simp only [made, Except.map, Except.toOption, Option.getD_some, reread, faultOf]
      cases remade : f hardened with
      | error fault => exact .kept read made remade
      | ok again => exact .rewritten read made remade

/-- Nothing more becomes of a script if the function gives each of its texts for itself. -/
theorem Repeat.Of.after_eq {f : String → Except Fault String} {x : Repeat} (h : x.Of f)
    (settles : ∀ source hardened, f source = .ok hardened → f hardened = .ok hardened) : x.after = x.between := by
  cases h with
  | unread | refused | kept => rfl
  | rewritten read made remade =>
    cases (settles _ _ made).symm.trans remade
    rfl

/-- What a second pass over the same scripts, on the tree that the first has left, comes to. -/
theorem repeated_of_reworked {h : Hardener} {f : String → Except Fault String} {t : Tree} {d : Path}
    {calls calls' : Nat} {visits : List Visit} {mid last : Progress}
    (becomes : ∀ v bytes, (Visit.repeat v h d bytes).Of f) (finds : ∀ v ∈ visits, v.Finds t d)
    (distinct : (visits.map Visit.place).Nodup)
    (once : Reworked h d visits { tree := t, calls } mid) (roamed : Roamed t d { tree := t, calls } visits mid)
    (twice : Reworked h d visits { tree := mid.tree, calls := calls' } last)
    (roamed' : Roamed t d { tree := mid.tree, calls := calls' } visits last) :
    (∃ xs, Repeated f t mid last xs) ∧
      ((∀ source hardened, f source = .ok hardened → f hardened = .ok hardened) → last.tree = mid.tree) := by
  let bytes (v : Visit) : List UInt8 := (t.top.contentAt v.place).getD []
  have between : ∀ v ∈ visits, Progress.bytesAt { tree := mid.tree, calls := calls' } v.place = h.left (bytes v) :=
    fun v among => congrArg (·.getD []) (once.contents v among)
  refine ⟨⟨visits.map fun v => v.repeat h d (bytes v), ?_⟩, fun settles => twice.still fun v among => ?_⟩
  · refine ⟨?_, ?_, ?_, ?_, ?_, ?_, fun place elsewhere => ?_, fun place => ?_⟩
    · rw [once.results, List.map_map]
      rfl
    · rw [twice.results, List.map_map]
      refine List.map_congr_left fun v among => ?_
      rw [between v among]
      rfl
    · exact List.forall_mem_map.mpr fun v _ => becomes v (bytes v)
    · exact List.forall_mem_map.mpr fun v among => (finds v among).leads
    · rwa [List.map_map]
    · refine List.forall_mem_map.mpr fun v among => ⟨(finds v among).contentAt, once.contents v among, ?_⟩
      exact (twice.contents v among).trans (congrArg (some <| h.left ·) (between v among))
    · have apart : ∀ v ∈ visits, v.place ≠ place := fun v among => elsewhere _ (List.mem_map.mpr ⟨v, among, rfl⟩)
      exact ⟨roamed.others place apart, (roamed'.others place apart).trans (roamed.others place apart)⟩
    · exact ⟨roamed.shaped.outline place, roamed'.shaped.outline place⟩
  · rw [between v among]
    exact (becomes v (bytes v)).after_eq settles

namespace Pass

/-- A pass that puts the same text in the place of every script. -/
def levelPass : Pass := { clientPass with hardener := ⟨fun _ _ => .ok "/*h*/", clientObfuscator.event⟩ }

end Pass
end BundleForge.Hardening
