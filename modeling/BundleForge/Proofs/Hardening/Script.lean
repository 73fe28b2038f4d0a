import BundleForge.Proofs.Hardening.Null

/-!
What a pass does to one script. Main statement: the file that a path leads to is replaced by what the
hardener makes of its text, or keeps its bytes and is reported, and nothing else in the tree changes.
-/

namespace BundleForge.Hardening

/-- A script below a directory: the names that lead to it, and its bytes. -/
structure Script where
  names : List String
  content : List UInt8
deriving DecidableEq, Repr

def faultOf {α : Type} : Except Fault α → Option Fault
  | .ok _ => none
  | .error fault => some fault

/-- How often the tool is run for a script: once, where its bytes are text. -/
def runsFor (content : List UInt8) : Nat :=
  match Tree.decodeText content with
  | .ok _ => 1
  | .error _ => 0

/-- The bytes that a file is replaced by, given how often something was hardened before. -/
def Hardener.rewrite (h : Hardener) (earlier : Nat) (content : List UInt8) : Except Fault (List UInt8) :=
  match Tree.decodeText content with
  | .ok source => (h.harden earlier source).map Text.Utf8.encode
  | .error fault => .error (.file fault)

namespace Obfuscator

/-- The bytes that a script is replaced by, given how often the tool was run before: what it leaves for
the text of the script, both with a line feed at the end of each line. -/
def rewrite (o : Obfuscator) (earlier : Nat) (content : List UInt8) : Except Fault (List UInt8) :=
  match Tree.decodeText content with
  | .ok source => (o.obfuscate earlier source).map Text.Utf8.encode
  | .error fault => .error (.file fault)

/-- Several scripts in turn, each with what it is replaced by. -/
def rewrites (o : Obfuscator) : Nat → List Script → List (Script × Except Fault (List UInt8))
  | _, [] => []
  | earlier, x :: rest =>
    (x, o.rewrite earlier x.content) :: o.rewrites (earlier + runsFor x.content) rest

end Obfuscator

theorem decodeText_eq_error {content : List UInt8} {fault : FileFault}
    (h : Tree.decodeText content = .error fault) : ∃ refusal, fault = .undecodable refusal := by
  unfold Tree.decodeText at h
  split at h
  · simp at h
  · exact ⟨_, (Except.error.inj h).symm⟩

theorem decodeText_encode {text : String} (unified : '\r' ∉ text.toList) :
    Tree.decodeText (Text.Utf8.encode text) = .ok text := by
  rw [Tree.decodeText, Text.Utf8.decode_encode]
  exact congrArg Except.ok (Text.unifyNewlines_eq_self unified)

/-- Text that is read has no carriage return. -/
theorem not_mem_of_decodeText {content : List UInt8} {text : String} (h : Tree.decodeText content = .ok text) :
    '\r' ∉ text.toList := by
  unfold Tree.decodeText at h
  split at h
  · obtain rfl := Except.ok.inj h
    exact Text.not_mem_unifyNewlines _
  · cases h

/-- What the tool leaves has no carriage return. -/
theorem Obfuscator.not_mem_of_obfuscate {o : Obfuscator} {earlier : Nat} {source text : String}
    (h : o.obfuscate earlier source = .ok text) : '\r' ∉ text.toList := by
  unfold obfuscate resultOf at h
  split at h
  · cases h
  · cases h
  · cases h
  · split at h
    · rename_i read
      obtain rfl := Except.ok.inj h
      exact not_mem_of_decodeText read
    · cases h

/-- No file that stands in a tree has a path that no file can have. -/
theorem Hardener.rewrite_ne_nullInPath {h : Hardener} (fails : h.Fails) (earlier : Nat)
    (content : List UInt8) : h.rewrite earlier content ≠ .error (.file .nullInPath) := by
  intro hw
  unfold rewrite at hw
  cases hd : Tree.decodeText content with
  | error fault =>
    obtain ⟨refusal, rfl⟩ := decodeText_eq_error hd
    simp [hd] at hw
  | ok source =>
    simp only [hd] at hw
    cases hh : h.harden earlier source with
    | ok hardened => simp [hh, Except.map] at hw
    | error fault =>
      rw [hh] at hw
      cases hw
      exact fails earlier source hh

/-- The tool breaks off only in ways in which a script can fail. -/
theorem Obfuscator.hardener_fails (o : Obfuscator) : o.hardener.Fails := by
  intro earlier source h
  simp only [hardener, obfuscate] at h
  cases ha : o.tool earlier source with
  | wrote output =>
    simp only [ha, resultOf] at h
    cases ht : Tree.decodeText output with
    | error fault =>
      obtain ⟨refusal, rfl⟩ := decodeText_eq_error ht
      simp [ht] at h
    | ok text => simp [ht] at h
  | notRun | exited | silent => simp [ha, resultOf] at h

/-- A pass after the file at a place, come upon by a path. -/
def Progress.replace (h : Hardener) (p : Path) (place : List String) (content : List UInt8)
    (s : Progress) : Progress where
  tree :=
    match h.rewrite s.calls content with
    | .ok bytes => s.tree.setAt place (.file bytes)
    | .error _ => s.tree
  calls := s.calls + runsFor content
  results := s.results ++ [⟨p, faultOf (h.rewrite s.calls content)⟩]

/-- A pass after one more script. -/
def Progress.settle (o : Obfuscator) (d : Path) (base : List String) (s : Progress) (x : Script) :
    Progress where
  tree :=
    match o.rewrite s.calls x.content with
    | .ok bytes => s.tree.setAt (base ++ x.names) (.file bytes)
    | .error _ => s.tree
  calls := s.calls + runsFor x.content
  results := s.results ++ [⟨d.below x.names, faultOf (o.rewrite s.calls x.content)⟩]

namespace Pass

variable {pass : Pass} {p : Path} {place : List String} {s : Progress} {content : List UInt8}

theorem run_say {ε : Type} (pass : Pass) (severity : Severity) (text : String) (s : Progress) :
    (pass.say severity text : Action ε Progress Unit).run s =
      ⟨.ok (), s, pass.level.log severity ("[" ++ pass.label ++ "]: " ++ text)⟩ := rfl

theorem run_record {ε : Type} (result : Result) (s : Progress) :
    (record result : Action ε Progress Unit).run s =
      ⟨.ok (), { s with results := s.results ++ [result] }, []⟩ := rfl

theorem run_onFile_ok {α : Type} (a : α) (s : Progress) : (onFile (.ok a)).run s = ⟨.ok a, s, []⟩ := rfl

theorem run_onFile_error {α : Type} (fault : FileFault) (s : Progress) :
    (onFile (.error fault) : Action Fault Progress α).run s = ⟨.error (.file fault), s, []⟩ := rfl

theorem run_harden (pass : Pass) (source : String) (s : Progress) :
    (pass.harden source).run s = ⟨pass.hardener.harden s.calls source,
      { s with calls := s.calls + 1 }, [pass.hardener.event source]⟩ := rfl

/-- A file is read and hardened, and written back only if that succeeds. -/
theorem run_replaceScript (clean : Tree.hasNull p = false) (leads : s.tree.realPlace p = .ok place)
    (h : s.tree.top.contentAt place = some content) :
    ∃ events, (pass.replaceScript p).run s =
      ⟨(pass.hardener.rewrite s.calls content).map fun _ => (),
        { s.replace pass.hardener p place content with results := s.results }, events⟩ := by
  unfold replaceScript
  rw [Action.run_bind_ok (Action.run_state s), Tree.readText_of_realPlace clean leads h]
  simp only [Progress.replace, Hardener.rewrite, runsFor]
  cases hd : Tree.decodeText content with
  | error fault =>
    rw [Action.run_bind_error (run_onFile_error fault s)]
    exact ⟨_, rfl⟩
  | ok source =>
    rw [Action.run_bind_ok (run_onFile_ok source s)]
    dsimp only
    cases hh : pass.hardener.harden s.calls source with
    | error fault =>
      rw [Action.run_bind_error ((run_harden pass source s).trans (by rw [hh]))]
      exact ⟨_, rfl⟩
    | ok hardened =>
      rw [Action.run_bind_ok ((run_harden pass source s).trans (by rw [hh])),
        Tree.writeText_of_realPlace clean leads h, Action.run_bind_ok (run_onFile_ok _ _)]
      exact ⟨_, rfl⟩

theorem run_hardenFile (fails : pass.hardener.Fails) (clean : Tree.hasNull p = false)
    (leads : s.tree.realPlace p = .ok place) (h : s.tree.top.contentAt place = some content) :
    ∃ events, (pass.hardenFile p).run s = ⟨.ok (), s.replace pass.hardener p place content, events⟩ := by
  obtain ⟨events, hr⟩ := run_replaceScript (s := s) clean leads h
  have possible := Hardener.rewrite_ne_nullInPath fails s.calls content
  have attempted : (Action.attempt (pass.replaceScript p) :
      Action WalkFault Progress (Except Fault Unit)).run s =
      ⟨.ok ((pass.hardener.rewrite s.calls content).map fun _ => ()),
        { s.replace pass.hardener p place content with results := s.results }, events⟩ := by
    rw [Action.run_attempt, hr]
  unfold hardenFile
  rw [Action.run_bind_ok attempted]
  cases hw : pass.hardener.rewrite s.calls content with
  | ok bytes =>
    simp only [Except.map]
    rw [Action.run_bind_ok (run_say pass .info _ _), run_record]
    simp only [Progress.replace, hw, faultOf]
    exact ⟨_, rfl⟩
  | error fault =>
    simp only [Except.map]
    split
    · rename_i he
      cases he
    · rename_i he
      obtain rfl := Except.error.inj he
      exact absurd hw possible
    · rename_i other hn he
      obtain rfl := Except.error.inj he
      rw [Action.run_bind_ok (run_say pass .error _ _), run_record]
      simp only [Progress.replace, hw, faultOf]
      exact ⟨_, rfl⟩

end Pass
end BundleForge.Hardening
