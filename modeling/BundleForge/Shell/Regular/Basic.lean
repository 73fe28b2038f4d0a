import BundleForge.Shell.Bracket

/-!
Regular expressions and where they match. Of the places in a text the first one counts, and of the
ways to match there the longest. Main statement: a way to match never goes back in the text.
-/

namespace BundleForge.Shell

/-- A place between characters that an expression can ask for. -/
inductive Place
  | textStart
  | textEnd
  | lineStart
  | lineEnd
  | wordStart
  | wordEnd
  | wordEdge
  | noWordEdge
  | noWordBefore
  | noWordBehind
deriving DecidableEq, Repr

/-- A regular expression. A group is known by its number, and what it matched last can be asked for
again. -/
inductive Regular
  | nothing
  | char (c : Char)
  | any
  | oneOf (negated : Bool) (members : List Member)
  | edge (place : Place)
  | sequence (first second : Regular)
  | either (first second : Regular)
  | repeated (least : Nat) (most : Option Nat) (inner : Regular)
  | group (number : Nat) (inner : Regular)
  | again (number : Nat)
deriving Repr

namespace Regular

/-- The expression that only a text itself matches. -/
def ofText : List Char → Regular
  | [] => .nothing
  | c :: rest => .sequence (.char c) (ofText rest)

/-- Whether an expression asks for what a group matched. -/
def asksAgain : Regular → Bool
  | .again _ => true
  | .sequence first second | .either first second => first.asksAgain || second.asksAgain
  | .repeated _ _ inner | .group _ inner => inner.asksAgain
  | _ => false

/-- How many groups an expression has. -/
def groupCount : Regular → Nat
  | .sequence first second | .either first second => first.groupCount + second.groupCount
  | .repeated _ _ inner => inner.groupCount
  | .group _ inner => inner.groupCount + 1
  | _ => 0

/-- A text to be searched, and how: letters of either case may be equal, and ways that only differ in
their groups may have to be told apart. -/
structure Subject where
  text : Array Char
  anyCase : Bool
  groupsMatter : Bool

/-- How far a match has come, and where its groups stand. -/
structure Progress where
  position : Nat
  groups : List (Nat × Nat × Nat)
deriving DecidableEq, Repr

def isWordChar (c : Char) : Bool := c.isAlphanum || c == '_'

namespace Subject

def same (s : Subject) (c d : Char) : Bool := c == d || (s.anyCase && c.toLower == d.toLower)

def holds (s : Subject) (members : List Member) (c : Char) : Bool :=
  members.any fun m => m.holds c || (s.anyCase && (m.holds c.toLower || m.holds c.toUpper))

/-- Whether a word character stands before a position, and behind it. -/
def wordAround (s : Subject) (n : Nat) : Bool × Bool :=
  (0 < n && (s.text[n - 1]?).any isWordChar, (s.text[n]?).any isWordChar)

def isAt (s : Subject) (n : Nat) : Place → Bool
  | .textStart => n == 0
  | .textEnd => n == s.text.size
  | .lineStart => n == 0 || s.text[n - 1]? == some '\n'
  | .lineEnd => n == s.text.size || s.text[n]? == some '\n'
  | .wordStart => !(s.wordAround n).1 && (s.wordAround n).2
  | .wordEnd => (s.wordAround n).1 && !(s.wordAround n).2
  | .wordEdge => (s.wordAround n).1 != (s.wordAround n).2
  | .noWordEdge => (s.wordAround n).1 == (s.wordAround n).2
  | .noWordBefore => !(s.wordAround n).1
  | .noWordBehind => !(s.wordAround n).2

/-- Whether the characters between two positions stand at a third one too. -/
def stands (s : Subject) (start stop n : Nat) : Bool :=
  n + (stop - start) ≤ s.text.size &&
    (List.range (stop - start)).all fun i =>
      match s.text[start + i]?, s.text[n + i]? with
      | some c, some d => s.same c d
      | _, _ => false

/-- Ways without those that do not differ from one before them. -/
def distinct (s : Subject) (ways : List Progress) : List Progress :=
  (ways.foldl (fun (seen : List Progress) p =>
    if seen.any fun q => q.position == p.position && (!s.groupsMatter || q.groups == p.groups) then seen
    else p :: seen) []).reverse

theorem mem_of_mem_distinct {s : Subject} {ways : List Progress} {p : Progress}
    (h : p ∈ s.distinct ways) : p ∈ ways := by
  have aux : ∀ (ws seen : List Progress), p ∈ ws.foldl (fun (seen : List Progress) p =>
      if seen.any fun q => q.position == p.position && (!s.groupsMatter || q.groups == p.groups)
      then seen else p :: seen) seen → p ∈ seen ∨ p ∈ ws := by
    intro ws
    induction ws with
    | nil => intro seen h; exact .inl h
    | cons w ws ih =>
      intro seen h
      rw [List.foldl_cons] at h
      rcases ih _ h with h | h
      · split at h
        · exact .inl h
        · rcases List.mem_cons.1 h with rfl | h
          · exact .inr List.mem_cons_self
          · exact .inl h
      · exact .inr (List.mem_cons_of_mem _ h)
  rcases aux ways [] (List.mem_reverse.1 h) with h | h
  · simp at h
  · exact h

end Subject

/-- The ways that some turns of a step lead to, the longest runs first. A turn that leads nowhere new
is no turn, once there were enough of them. -/
def turns (s : Subject) (step : Progress → List Progress) (least : Nat) (most : Option Nat) :
    Nat → Nat → List Progress → List Progress
  | 0, _, _ => []
  | fuel + 1, made, here =>
    let done := if least ≤ made then here else []
    if here.isEmpty || most = some made then done
    else
      let next := s.distinct (here.flatMap fun p =>
        (step p).filter fun q => made < least || p.position < q.position)
      s.distinct (turns s step least most fuel (made + 1) next ++ done)

/-- The ways to match from a position on. -/
def ways (s : Subject) : Regular → Progress → List Progress
  | .nothing, p => [p]
  | .char c, p =>
    if (s.text[p.position]?).any (s.same c) then [{ p with position := p.position + 1 }] else []
  | .any, p =>
    if p.position < s.text.size then [{ p with position := p.position + 1 }] else []
  | .oneOf negated members, p =>
    if (s.text[p.position]?).any fun c => s.holds members c != negated then
      [{ p with position := p.position + 1 }]
    else []
  | .edge place, p => if s.isAt p.position place then [p] else []
  | .sequence first second, p => s.distinct ((first.ways s p).flatMap (second.ways s))
  | .either first second, p => s.distinct (first.ways s p ++ second.ways s p)
  | .repeated least most inner, p =>
    turns s (inner.ways s) least most (s.text.size + least + 2) 0 [p]
  | .group number inner, p => (inner.ways s p).map fun q =>
    { q with groups := (number, p.position, q.position) :: q.groups.filter (·.1 ≠ number) }
  | .again number, p =>
    match p.groups.lookup number with
    | some (start, stop) =>
      if s.stands start stop p.position then [{ p with position := p.position + (stop - start) }]
      else []
    | none => []

theorem turns_le {s : Subject} {step : Progress → List Progress}
    (hs : ∀ p q, q ∈ step p → p.position ≤ q.position) {least : Nat} {most : Option Nat}
    {start : Nat} (fuel made : Nat) (here : List Progress) (hh : ∀ p ∈ here, start ≤ p.position) :
    ∀ q ∈ turns s step least most fuel made here, start ≤ q.position := by
  induction fuel generalizing made here with
  | zero => simp [turns]
  | succ fuel ih =>
    intro q hq
    have done : ∀ q ∈ (if least ≤ made then here else []), start ≤ q.position := by
      intro q hq
      split at hq
      · exact hh q hq
      · simp at hq
    unfold turns at hq
    dsimp only at hq
    split at hq
    · exact done q hq
    · rcases List.mem_append.1 (Subject.mem_of_mem_distinct hq) with hq | hq
      · refine ih (made + 1) _ ?_ q hq
        intro p hp
        obtain ⟨r, hr, hp⟩ := List.mem_flatMap.1 (Subject.mem_of_mem_distinct hp)
        exact Nat.le_trans (hh r hr) (hs r p (List.mem_filter.1 hp).1)
      · exact done q hq

theorem ways_le {s : Subject} (r : Regular) (p : Progress) :
    ∀ q ∈ r.ways s p, p.position ≤ q.position := by
  induction r generalizing p with
  | nothing => simp [ways]
  | char c => intro q hq; simp only [ways] at hq; split at hq <;> simp_all
  | any => intro q hq; simp only [ways] at hq; split at hq <;> simp_all
  | oneOf negated members => intro q hq; simp only [ways] at hq; split at hq <;> simp_all
  | edge place => intro q hq; simp only [ways] at hq; split at hq <;> simp_all
  | sequence first second ih₁ ih₂ =>
    intro q hq
    obtain ⟨m, hm, hq⟩ := List.mem_flatMap.1 (Subject.mem_of_mem_distinct hq)
    exact Nat.le_trans (ih₁ p m hm) (ih₂ m q hq)
  | either first second ih₁ ih₂ =>
    intro q hq
    rcases List.mem_append.1 (Subject.mem_of_mem_distinct hq) with hq | hq
    · exact ih₁ p q hq
    · exact ih₂ p q hq
  | repeated least most inner ih =>
    exact turns_le (fun p q h => ih p q h) _ _ _ (by simp)
  | group number inner ih =>
    intro q hq
    obtain ⟨m, hm, rfl⟩ := List.mem_map.1 hq
    exact ih p m hm
  | again number =>
    intro q hq
    simp only [ways] at hq
    split at hq
    · split at hq <;> simp_all
    · simp at hq

/-- The longest of some ways; of equally long ones the first. -/
def longest : List Progress → Option Progress
  | [] => none
  | p :: rest =>
    match longest rest with
    | some q => some (if p.position < q.position then q else p)
    | none => some p

/-- A match: where it starts and stops, and where its groups stand. -/
structure Found where
  start : Nat
  stop : Nat
  groups : List (Nat × Nat × Nat)
deriving DecidableEq, Repr

/-- The match that starts at a position. -/
def matchAt? (s : Subject) (r : Regular) (start : Nat) : Option Found :=
  (longest (r.ways s ⟨start, []⟩)).map fun p => ⟨start, p.position, p.groups⟩

/-- The first match from a position on. -/
def search? (s : Subject) (r : Regular) (start : Nat) : Option Found :=
  (List.range' start (s.text.size + 1 - start)).findSome? fun n => r.matchAt? s n

theorem mem_of_longest {ps : List Progress} {p : Progress} (h : longest ps = some p) : p ∈ ps := by
  induction ps generalizing p with
  | nil => simp [longest] at h
  | cons q rest ih =>
    simp only [longest] at h
    cases e : longest rest with
    | none =>
      rw [e] at h
      simp only [Option.some.injEq] at h
      simp [h]
    | some m =>
      rw [e] at h
      simp only [Option.some.injEq] at h
      split at h
      · exact List.mem_cons_of_mem _ (ih (h ▸ e))
      · simp [h]

theorem start_le_stop {s : Subject} {r : Regular} {n : Nat} {f : Found}
    (h : r.matchAt? s n = some f) : f.start ≤ f.stop := by
  obtain ⟨p, hp, rfl⟩ := Option.map_eq_some_iff.1 h
  exact ways_le r ⟨n, []⟩ p (mem_of_longest hp)

/-- The subject for an expression and a text. -/
def subject (r : Regular) (anyCase : Bool) (text : List Char) : Subject :=
  ⟨text.toArray, anyCase, r.asksAgain⟩

/-- The characters of a subject between two positions. -/
def Subject.between (s : Subject) (start stop : Nat) : List Char :=
  (s.text.toList.take stop).drop start

end Regular
end BundleForge.Shell
