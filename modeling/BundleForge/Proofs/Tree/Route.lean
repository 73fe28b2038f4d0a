import BundleForge.Proofs.Tree.Place
import Mathlib.Data.List.Infix

/-!
The way of a path through a tree without links. Main statements: what a path leads to depends on what
stands at the place that its text spells, and on whether the places at which it turns are directories;
if there is nothing, the fault depends on the files on the way.
-/

namespace BundleForge

namespace Path

/-- A part that is not looked up in a directory: it stays there, goes up, or is too long for a name. -/
def isTurn (part : String) : Bool :=
  part = "" || part = "." || part = ".." || decide (Tree.nameLimit < part.utf8ByteSize)

/-- The place that a part leads to from a place. -/
def onward (here : List String) (part : String) : List String :=
  if part = "" || part = "." then here else if part = ".." then here.dropLast else here ++ [part]

/-- The place that a path spells, if no link stands on its way. -/
def place (p : Path) : List String := p.parts.foldl onward []

/-- The places at which parts turn. -/
def turnsFrom (here : List String) : List String → List (List String)
  | [] => []
  | part :: rest =>
    let later := turnsFrom (onward here part) rest
    if isTurn part then here :: later else later

def turns (p : Path) : List (List String) := turnsFrom [] p.parts

theorem isTurn_of_isName {name : String} (named : isName name = true) : isTurn name = false := by
  obtain ⟨part, up, -, -, short⟩ := Tree.isName_iff.mp named
  simp only [isPart, decide_not, Bool.and_eq_true, Bool.not_eq_true', decide_eq_false_iff_not] at part
  simp [isTurn, part, up, short]

theorem onward_of_not_turn {part : String} (on : isTurn part = false) (here : List String) :
    onward here part = here ++ [part] := by
  simp only [isTurn, Bool.or_eq_false_iff, decide_eq_false_iff_not] at on
  simp [onward, on]

theorem turnsFrom_concat {name : String} (on : isTurn name = false) (here parts : List String) :
    turnsFrom here (parts ++ [name]) = turnsFrom here parts := by
  induction parts generalizing here with
  | nil => simp [turnsFrom, on]
  | cons part rest ih => simp [turnsFrom, ih]

/-- The places of what stands in a directory. -/
theorem place_below {name : String} (named : isName name = true) (d : Path) :
    (d.below [name]).place = d.place ++ [name] := by
  simp [place, below, onward_of_not_turn (isTurn_of_isName named)]

theorem place_below_names {names : List String} (named : ∀ name ∈ names, isName name = true) (d : Path) :
    (d.below names).place = d.place ++ names := by
  induction names generalizing d with
  | nil => simp
  | cons name rest ih =>
    rw [List.forall_mem_cons] at named
    rw [← List.singleton_append, ← below_below, ih named.2, place_below named.1, List.append_assoc]

theorem turns_below {name : String} (named : isName name = true) (d : Path) :
    (d.below [name]).turns = d.turns :=
  turnsFrom_concat (isTurn_of_isName named) [] d.parts

end Path

namespace Node

theorem outlineAt_of_absent {n : Node} {x y : List String} (h : n.outlineAt x = none) (below : x <+: y) :
    n.outlineAt y = none := by
  obtain ⟨rest, rfl⟩ := below
  rw [outlineAt, Option.map_eq_none_iff] at h
  rw [outlineAt_append, h]
  rfl

theorem contentAt_of_absent {n : Node} {x : List String} (h : n.outlineAt x = none) :
    n.contentAt x = none := by
  rw [outlineAt, Option.map_eq_none_iff] at h
  rw [contentAt, h]
  rfl

theorem contentAt_of_dir {n : Node} {x names : List String} (h : n.outlineAt x = some (.dir names)) :
    n.contentAt x = none := by
  obtain ⟨entries, ha, -⟩ := at?_of_outlineAt_dir h
  rw [contentAt, ha]
  rfl

/-- All that stands on the way to something is directories. -/
theorem dir_above {n : Node} {here rest : List String} {name : String} {o : Outline}
    (h : n.outlineAt (here ++ name :: rest) = some o) : ∃ names, n.outlineAt here = some (.dir names) :=
  have ⟨siblings, _, stands, _, _⟩ := Tree.outlineAt_way h
  ⟨siblings, stands⟩

def isDirAt (n : Node) (x : List String) : Bool := (n.outlineAt x).any Outline.isDir

theorem isDirAt_iff {n : Node} {x : List String} :
    n.isDirAt x = true ↔ ∃ names, n.outlineAt x = some (.dir names) := by
  unfold isDirAt
  cases n.outlineAt x with
  | none => simp
  | some o => cases o <;> simp [Outline.isDir]

theorem isDirAt_of_above {n : Node} {x y : List String} (h : n.isDirAt y = true) (above : x <+: y) :
    n.isDirAt x = true := by
  obtain ⟨rest, rfl⟩ := above
  cases rest with
  | nil => simpa using h
  | cons name rest =>
    obtain ⟨names, hn⟩ := isDirAt_iff.mp h
    exact isDirAt_iff.mpr (dir_above hn)

/-- No file stands on the way to a directory. -/
theorem contentAt_above_dir {n : Node} {x y : List String} (h : n.isDirAt y = true) (above : x <+: y) :
    n.contentAt x = none :=
  have ⟨_, stands⟩ := isDirAt_iff.mp (isDirAt_of_above h above)
  contentAt_of_dir stands

/-- In a tree without links something is a directory unless it is a file. -/
theorem Plain.isDirAt_of_some {n : Node} (plain : n.Plain) {x : List String} {o : Outline}
    (h : n.outlineAt x = some o) : n.isDirAt x = (n.contentAt x).isNone := by
  cases o with
  | file =>
    obtain ⟨content, hc⟩ := outlineAt_eq_file_iff.mp h
    simp [isDirAt, h, hc, Outline.isDir]
  | dir names => simp [isDirAt, h, contentAt_of_dir h, Outline.isDir]
  | link target => exact absurd (plain x _ h) (by simp [Outline.isPlain])

/-- Why a way breaks off before a place: a file stands on it, or something is missing. -/
def wayFault (n : Node) (place : List String) : Refusal :=
  if place.inits.any fun way => (n.contentAt way).isSome then .notDirectory else .missing

theorem wayFault_congr {a b : Node} {place : List String}
    (same : ∀ way, way <+: place → a.contentAt way = b.contentAt way) :
    a.wayFault place = b.wayFault place := by
  unfold wayFault
  congr 2
  rw [Bool.eq_iff_iff, List.any_eq_true, List.any_eq_true]
  refine exists_congr fun way => and_congr_right fun among => ?_
  rw [same way ((List.mem_inits ..).mp among)]

theorem wayFault_of_file {n : Node} {way place : List String} {content : List UInt8}
    (file : n.contentAt way = some content) (above : way <+: place) : n.wayFault place = .notDirectory :=
  if_pos (List.any_eq_true.mpr ⟨way, (List.mem_inits ..).mpr above, by simp [file]⟩)

/-- The way breaks off in a directory. -/
theorem wayFault_of_absent {n : Node} {here place : List String} {name : String}
    (parent : n.isDirAt here = true) (absent : n.outlineAt (here ++ [name]) = none)
    (on : here ++ [name] <+: place) : n.wayFault place = .missing := by
  refine if_neg fun some => ?_
  obtain ⟨way, among, file⟩ := List.any_eq_true.mp some
  have above := (List.mem_inits ..).mp among
  have free : n.contentAt way = none := by
    rcases List.prefix_or_prefix_of_prefix above on with short | long
    · rcases List.prefix_concat_iff.mp short with rfl | short
      · exact contentAt_of_absent absent
      · exact contentAt_above_dir parent short
    · exact contentAt_of_absent (outlineAt_of_absent absent long)
  simp [free] at file

/-- Where names lead in a tree without links: to what stands at a place, to a free place in a directory,
or nowhere. -/
def spotAt (top : Node) (place : List String) : Except Refusal Tree.Spot :=
  if (top.outlineAt place).isSome then .ok ⟨place, true⟩
  else if top.isDirAt place.dropLast then .ok ⟨place, false⟩
  else .error (top.wayFault place)

end Node

namespace Tree

open BundleForge.Path

variable {top : Node} {here names : List String} {o : Outline}

/-- Parts that are looked up one after another lead to what stands there, and the rest is followed from
it; or they lead nowhere, unless the last of them is free. -/
theorem walk_names (plain : top.Plain) (links : Nat) (there : top.outlineAt here = some o)
    (on : ∀ part ∈ names, isTurn part = false) (rest : List String) :
    walk top links here (names ++ rest) =
      if (top.outlineAt (here ++ names)).isSome then walk top links (here ++ names) rest
      else if top.isDirAt (here ++ names).dropLast && rest.isEmpty then .ok ⟨here ++ names, false⟩
      else .error (top.wayFault (here ++ names)) := by
  induction names generalizing here o with
  | nil => simp [there]
  | cons name later ih =>
    cases o with
    | link target => exact absurd (plain here _ there) (by simp [Outline.isPlain])
    | file =>
      obtain ⟨content, hc⟩ := Node.outlineAt_eq_file_iff.mp there
      have orphan : top.isDirAt (here ++ name :: later).dropLast = false := by
        rw [Bool.eq_false_iff]
        intro dir
        have above : here <+: (here ++ name :: later).dropLast := by
          rw [List.dropLast_append_of_ne_nil (by simp)]
          exact List.prefix_append ..
        rw [Node.contentAt_above_dir dir above] at hc
        cases hc
      have absent : top.outlineAt (here ++ name :: later) = none := by
        by_contra some
        obtain ⟨o, ho⟩ := Option.ne_none_iff_exists'.mp some
        obtain ⟨siblings, hd⟩ := Node.dir_above ho
        rw [there] at hd
        cases hd
      rw [List.cons_append, walk_cons, there, absent, orphan,
        Node.wayFault_of_file hc (List.prefix_append ..)]
      rfl
    | dir siblings =>
      have parent : top.isDirAt here = true := Node.isDirAt_iff.mpr ⟨_, there⟩
      have looked := on name (by simp)
      simp only [isTurn, Bool.or_eq_false_iff, decide_eq_false_iff_not] at looked
      obtain ⟨⟨⟨empty, point⟩, up⟩, short⟩ := looked
      have later' := @ih (here ++ [name])
      rw [List.append_assoc, List.singleton_append] at later'
      rw [List.cons_append, walk_cons, there]
      simp only [empty, point, up, short, decide_false, Bool.or_false, if_false, Bool.false_eq_true]
      cases hc : top.outlineAt (here ++ [name]) with
      | none =>
        have split : here ++ [name] <+: here ++ name :: later := ⟨later, by simp⟩
        rw [Node.outlineAt_of_absent hc split, Node.wayFault_of_absent parent hc split]
        cases later with
        | nil => cases rest <;> simp [parent]
        | cons next later =>
          have orphan : top.isDirAt (here ++ name :: next :: later).dropLast = false := by
            have below : here ++ [name] <+: (here ++ name :: next :: later).dropLast :=
              ⟨(next :: later).dropLast, by simp [List.dropLast_append_of_ne_nil]⟩
            rw [Node.isDirAt, Node.outlineAt_of_absent hc below]
            rfl
          rw [orphan]
          simp
      | some o' =>
        cases o' with
        | link target => exact absurd (plain _ _ hc) (by simp [Outline.isPlain])
        | file | dir => exact later' hc fun other ho => on other (by simp [ho])

theorem walk_of_names (plain : top.Plain) (links : Nat) (on : ∀ part ∈ names, isTurn part = false) :
    walk top links [] names = top.spotAt names := by
  have := @walk_names top [] names _ plain links rfl on []
  simpa [Node.spotAt, walk] using this

/-- At a turn the way goes on only from a directory, and not to a name that is too long. -/
theorem walk_turn (plain : top.Plain) (links : Nat) (there : top.outlineAt here = some o)
    (on : ∀ part ∈ names, isTurn part = false) {part : String} (turn : isTurn part = true)
    (rest : List String) :
    walk top links here (names ++ part :: rest) =
      if top.isDirAt (here ++ names) then
        if nameLimit < part.utf8ByteSize then .error .nameTooLong
        else walk top links (onward (here ++ names) part) rest
      else .error (top.wayFault (here ++ names)) := by
  rw [walk_names plain links there on]
  generalize here ++ names = w
  cases h : top.outlineAt w with
  | none => simp [Node.isDirAt, h]
  | some o =>
    cases o with
    | link target => exact absurd (plain w _ h) (by simp [Outline.isPlain])
    | file =>
      obtain ⟨content, hc⟩ := Node.outlineAt_eq_file_iff.mp h
      simp [walk_cons, h, Node.isDirAt, Outline.isDir, Node.wayFault_of_file hc List.prefix_rfl]
    | dir siblings =>
      have short : ∀ s ∈ ["", ".", ".."], ¬ nameLimit < s.utf8ByteSize := by decide +kernel
      rw [walk_cons, h]
      simp only [Node.isDirAt, h, Option.any_some, Outline.isDir, Option.isSome_some, if_true, onward]
      by_cases stays : part = "" ∨ part = "."
      · have := short part (by rcases stays with rfl | rfl <;> simp)
        simp [stays, this]
      by_cases up : part = ".."
      · have := short part (by simp [up])
        simp [up, short ".." (by simp)]
      · have long : nameLimit < part.utf8ByteSize := by
          simpa [isTurn, up, not_or.mp stays] using turn
        simp [stays, up, long]

/-- What a spot is to whoever wants something that is there. -/
def settled : Except Refusal Spot → Except Refusal (List String)
  | .error cause => .error cause
  | .ok s => if s.found then .ok s.place else .error .missing

/-- Where parts lead, told by the turns and by what stands at the end. -/
def arrive (top : Node) : List String → List String → Except Refusal (List String)
  | here, [] => if (top.outlineAt here).isSome then .ok here else .error (top.wayFault here)
  | here, part :: rest =>
    if isTurn part then
      if top.isDirAt here then
        if nameLimit < part.utf8ByteSize then .error .nameTooLong else arrive top (onward here part) rest
      else .error (top.wayFault here)
    else arrive top (onward here part) rest

theorem settled_spotAt (top : Node) (place : List String) :
    settled (top.spotAt place) =
      if (top.outlineAt place).isSome then .ok place else .error (top.wayFault place) := by
  unfold Node.spotAt
  cases h : top.outlineAt place with
  | some o => rfl
  | none =>
    cases parent : top.isDirAt place.dropLast with
    | false => rfl
    | true =>
      rcases List.eq_nil_or_concat place with rfl | ⟨here, name, rfl⟩
      · cases h
      · rw [List.concat_eq_append] at h parent ⊢
        rw [List.dropLast_concat] at parent
        simp [settled, Node.wayFault_of_absent parent h List.prefix_rfl]

/-- A place that a turn leads to from a directory is a directory. -/
theorem isDirAt_onward {part : String} (turn : isTurn part = true) (short : ¬ nameLimit < part.utf8ByteSize)
    (dir : top.isDirAt here = true) : top.isDirAt (onward here part) = true := by
  unfold onward
  by_cases stays : part = "" ∨ part = "."
  · simpa [stays] using dir
  · have up : part = ".." := by simpa [isTurn, short, not_or.mp stays] using turn
    simpa [up] using Node.isDirAt_of_above dir (List.dropLast_prefix here)

theorem settled_walk (plain : top.Plain) (links : Nat) (there : top.outlineAt here = some o)
    (on : ∀ part ∈ names, isTurn part = false) (parts : List String) :
    settled (walk top links here (names ++ parts)) = arrive top (here ++ names) parts := by
  induction parts generalizing here names o with
  | nil =>
    rw [walk_names plain links there on, arrive, ← settled_spotAt]
    simp [Node.spotAt, walk]
  | cons part rest ih =>
    rw [arrive]
    cases turn : isTurn part with
    | false =>
      have := @ih here (names ++ [part]) o there (by simpa [or_imp, forall_and, turn] using on)
      simpa [onward_of_not_turn turn] using this
    | true =>
      rw [walk_turn plain links there on turn]
      by_cases dir : top.isDirAt (here ++ names) = true
      · by_cases long : nameLimit < part.utf8ByteSize
        · simp [dir, long, settled]
        · obtain ⟨siblings, next⟩ := Node.isDirAt_iff.mp (isDirAt_onward turn long dir)
          simpa [dir, long] using @ih _ [] _ next (by simp)
      · simp [dir, settled]

/-- Parts that lead anywhere lead to the place that they spell. -/
theorem eq_of_arrive {parts place : List String} (h : arrive top here parts = .ok place) :
    place = parts.foldl onward here := by
  induction parts generalizing here with
  | nil =>
    rw [arrive] at h
    split at h <;> simp_all
  | cons part rest ih =>
    rw [arrive] at h
    rw [List.foldl_cons]
    split at h
    · split at h
      · split at h
        · cases h
        · exact ih h
      · cases h
    · exact ih h

variable {t : Tree} {p : Path}

theorem spot_of_long (long : pathLimit ≤ p.text.utf8ByteSize) : t.spot p = .error .nameTooLong := if_pos long

theorem spot_of_named (plain : t.top.Plain) (named : ∀ part ∈ p.parts, isName part = true)
    (short : p.text.utf8ByteSize < pathLimit) : t.spot p = t.top.spotAt p.parts := by
  rw [spot, if_neg (Nat.not_le.mpr short)]
  exact walk_of_names plain linkLimit fun part hp => isTurn_of_isName (named part hp)

theorem realPlace_eq_arrive (plain : t.top.Plain) (p : Path) :
    t.realPlace p =
      if pathLimit ≤ p.text.utf8ByteSize then .error .nameTooLong else arrive t.top [] p.parts := by
  have unfolded : t.realPlace p = settled (t.spot p) := rfl
  rw [unfolded, spot]
  split
  · rfl
  · exact @settled_walk t.top [] [] _ plain linkLimit rfl (by simp) p.parts

/-- What stands at a path stands at the place that it spells. -/
theorem eq_of_realPlace (plain : t.top.Plain) {place : List String} (h : t.realPlace p = .ok place) :
    place = p.place := by
  rw [realPlace_eq_arrive plain] at h
  split at h
  · cases h
  · exact eq_of_arrive h

theorem place_of_named (named : ∀ part ∈ p.parts, isName part = true) : p.place = p.parts := by
  have spelled (here names : List String) (on : ∀ part ∈ names, isName part = true) :
      names.foldl onward here = here ++ names := by
    induction names generalizing here with
    | nil => simp
    | cons name rest ih =>
      rw [List.foldl_cons, onward_of_not_turn (isTurn_of_isName (on name (by simp))),
        ih _ fun other ho => on other (by simp [ho])]
      simp
  exact spelled [] p.parts named

theorem turns_of_named (named : ∀ part ∈ p.parts, isName part = true) : p.turns = [] := by
  have straight (here names : List String) (on : ∀ part ∈ names, isName part = true) :
      turnsFrom here names = [] := by
    induction names generalizing here with
    | nil => rfl
    | cons name rest ih =>
      rw [turnsFrom, isTurn_of_isName (on name (by simp))]
      exact ih _ fun other ho => on other (by simp [ho])
  exact straight [] p.parts named

end Tree
end BundleForge
