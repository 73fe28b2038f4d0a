import BundleForge.Text.Blank
import BundleForge.Text.Quoted

/-!
Paths as text: an anchor and the parts after it. Everything here is done on the text alone; links
and the parts `..` are left to the file tree. Main statements: joining a path with its relative
remainder gives the path back, and only an anchored path replaces what it is joined to.
-/

namespace BundleForge

/-- Where a path starts. Two slashes in front are kept apart from one; three or more are one. -/
inductive Anchor
  | relative
  | root
  | doubleRoot
deriving DecidableEq, Repr

def Anchor.text : Anchor → String
  | .relative => ""
  | .root => "/"
  | .doubleRoot => "//"

/-- A path. Its parts are never empty and never a single point. -/
structure Path where
  anchor : Anchor
  parts : List String
deriving DecidableEq, Repr

namespace Path

/-- The anchor that the number of slashes in front stands for. -/
def anchorOf (s : String) : Anchor :=
  match (s.toList.takeWhile (· == '/')).length with
  | 0 => .relative
  | 2 => .doubleRoot
  | _ => .root

/-- Empty parts and single points say nothing and are left out. -/
def isPart (s : String) : Bool := s ≠ "" && s ≠ "."

def partsOf (s : String) : List String := (Text.pieces '/' s).filter isPart

def ofString (s : String) : Path := ⟨anchorOf s, partsOf s⟩

/-- The text of a path; the empty relative path is a single point. -/
def text (p : Path) : String :=
  if p.anchor = .relative && p.parts.isEmpty then "."
  else p.anchor.text ++ "/".intercalate p.parts

def isAbsolute (p : Path) : Bool := p.anchor ≠ .relative

/-- A path seen from another: an anchored path stays what it is. -/
def join (p q : Path) : Path :=
  if q.isAbsolute then q else ⟨p.anchor, p.parts ++ q.parts⟩

instance : HDiv Path String Path := ⟨fun p s => p.join (ofString s)⟩

theorem div_eq_join (p : Path) (s : String) : p / s = p.join (ofString s) := rfl

/-- The path followed by several texts in turn. -/
def joinAll (p : Path) (texts : List String) : Path := texts.foldl (· / ·) p

/-- The last part; an anchor alone has none. -/
def name (p : Path) : String := p.parts.getLast?.getD ""

/-- What follows the last point of a name, that point included, unless the point stands at either
end of the name. -/
def suffixOf (name : String) : String :=
  let cs := name.toList
  let tail := (cs.reverse.takeWhile (· != '.')).reverse
  let before := cs.length - tail.length - 1
  if tail.length < cs.length && 0 < before && !tail.isEmpty then String.ofList ('.' :: tail) else ""

def suffix (p : Path) : String := suffixOf p.name

/-- Why a path has no namesake beside it. -/
inductive NameFault
  | noName (path : Path)
  | badName (name : String)
deriving DecidableEq, Repr

def NameFault.message : NameFault → String
  | .noName path => "PosixPath(" ++ Text.quote path.text ++ ") has an empty name"
  | .badName name => "Invalid name " ++ Text.quote name

/-- The path with another last part. -/
def withName (p : Path) (name : String) : Except NameFault Path :=
  if p.name = "" then .error (.noName p)
  else if name = "" || name.toList.contains '/' || !isPart name then .error (.badName name)
  else .ok ⟨p.anchor, p.parts.dropLast ++ [name]⟩

/-- The sequences of parts that a sequence starts with, longest first. -/
def initsDescending : List String → List (List String)
  | [] => [[]]
  | part :: rest => (initsDescending rest).map (part :: ·) ++ [[]]

/-- The path itself and then its ancestors, nearest first. -/
def selfAndAncestors (p : Path) : List Path := (initsDescending p.parts).map (Path.mk p.anchor)

/-- What is left of a sequence after another that it starts with. -/
def afterParts? : List String → List String → Option (List String)
  | parts, [] => some parts
  | [], _ :: _ => none
  | part :: parts, first :: rest => if part = first then afterParts? parts rest else none

/-- The path as seen from an ancestor, or none where the other path is no ancestor. -/
def relativeTo? (p base : Path) : Option Path :=
  if p.anchor = base.anchor then (afterParts? p.parts base.parts).map (Path.mk .relative) else none

theorem afterParts?_eq_some {parts base rest : List String}
    (h : afterParts? parts base = some rest) : parts = base ++ rest := by
  induction base generalizing parts with
  | nil => simpa [afterParts?] using h
  | cons first tail ih =>
    cases parts with
    | nil => simp [afterParts?] at h
    | cons part parts =>
      by_cases e : part = first
      · simp only [afterParts?, e, if_true] at h
        simp [e, ih h]
      · simp [afterParts?, e] at h

theorem join_relativeTo? {p base rest : Path} (h : p.relativeTo? base = some rest) :
    base.join rest = p := by
  unfold relativeTo? at h
  split at h
  · rename_i e
    simp only [Option.map_eq_some_iff] at h
    obtain ⟨parts, hp, rfl⟩ := h
    have := afterParts?_eq_some hp
    cases p
    simp_all [join, isAbsolute]
  · simp at h

theorem join_of_isAbsolute {q : Path} (h : q.isAbsolute = true) (p : Path) : p.join q = q := by
  simp [join, h]

end Path
end BundleForge
