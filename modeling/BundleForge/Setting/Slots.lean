import BundleForge.Setting.Basic

/-!
The order of the members of a set. Numbers are kept in slots, each in the one that its remainder names,
or in the next free one on a fixed way through all slots; the slots give the order. Other members stand
in the order in which they came. Main statement: a member that finds its slot free goes
there and moves no other.
-/

namespace BundleForge.Setting

/-- Slots, free or taken. There are as many as a power of two. -/
abbrev Slots := Array (Option Setting)

/-- The least power of two above a bound, from a power of two on. -/
def powerAbove (bound : Nat) : Nat → Nat → Nat
  | 0, power => power
  | fuel + 1, power => if power ≤ bound then powerAbove bound fuel (2 * power) else power

/-- How many slots there are for so many members: eight for up to four, and else more than twice as
many. -/
def slotCount (members : Nat) : Nat := if members < 5 then 8 else powerAbove (2 * members) members 8

/-- The remainders of numbers are taken by this prime, for which `2 ^ 61` leaves one. -/
def slotPrime : Nat := 2305843009213693951

/-- A remainder as a code of sixty-four bits, with its sign; the code of minus one is kept free. -/
def signedCode (remainder : Int) : Nat :=
  ((if remainder = -1 then -2 else remainder) % 18446744073709551616).toNat

/-- The code of a number; the infinities have codes of their own, what is no number has none. -/
def slotCode? : Setting → Option Nat
  | .real (.finite negative m e) =>
    let remainder : Int := (m * Nat.pow 2 (e % 61).toNat % slotPrime : Nat)
    some (signedCode (if negative then -remainder else remainder))
  | .real (.infinite negative) => some (signedCode (if negative then -314159 else 314159))
  | value => value.integer?.map fun n => signedCode (n.tmod slotPrime)

/-- How many neighbours of a slot are looked at too, where there is room for them. -/
def slotNeighbours : Nat := 9

namespace Slots

/-- The slot where a member goes: the one it starts at, a neighbour, or one further on its way. -/
def free? (slots : Slots) : Nat → Nat → Nat → Option Nat
  | 0, _, _ => none
  | fuel + 1, start, rest =>
    let neighbours := if start + slotNeighbours < slots.size then slotNeighbours else 0
    let near := (List.range (neighbours + 1)).map (start + ·)
    match near.find? fun i => (slots[i]?).any Option.isNone with
    | some i => some i
    | none =>
      let rest := rest / 32
      free? slots fuel ((start * 5 + 1 + rest) % slots.size) rest

/-- Puts a member into its slot, by its code. -/
def place (slots : Slots) (member : Setting × Nat) : Slots :=
  match slots.free? (slots.size + 16) (member.2 % slots.size) member.2 with
  | some i => slots.setIfInBounds i (some member.1)
  | none => slots

theorem size_place (slots : Slots) (member : Setting × Nat) :
    (slots.place member).size = slots.size := by
  simp only [place]
  split <;> simp

theorem place_of_free (slots : Slots) (member : Setting × Nat)
    (h : slots[member.2 % slots.size]? = some none) :
    slots.place member = slots.setIfInBounds (member.2 % slots.size) (some member.1) := by
  have near (n i : Nat) (hi : slots[i]? = some none) :
      ((List.range (n + 1)).map (i + ·)).find? (fun i => (slots[i]?).any Option.isNone) = some i := by
    rw [List.range_succ_eq_map, List.map_cons, List.find?_cons]
    simp [hi]
  simp only [place, free?, near _ _ h]

end Slots

/-- The members of a set in their order. -/
def inSlots (members : List Setting) : List Setting :=
  match members.mapM fun m => (slotCode? m).map (m, ·) with
  | none => members
  | some coded =>
    (coded.foldl Slots.place (Array.replicate (slotCount coded.length) none)).toList.filterMap id

end BundleForge.Setting
