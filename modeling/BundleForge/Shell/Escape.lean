import BundleForge.Shell.Octets

/-!
Escapes of the printing commands. What is printed are bytes, one for each character of the octets that
are printed, and one for each escape. Main statement: a text without a backslash prints as it stands.
-/

namespace BundleForge.Shell

/-- The byte that a character of octets stands for. -/
def byteOf (c : Char) : UInt8 := UInt8.ofNat c.toNat

/-- Up to a number of octal digits: the value they spell, and what follows them. -/
def octal (value : Nat) : Nat → List Char → Nat × List Char
  | n + 1, c :: rest =>
    if '0' ≤ c && c ≤ '7' then octal (value * 8 + (c.toNat - '0'.toNat)) n rest
    else (value, c :: rest)
  | _, cs => (value, cs)

theorem octal_length (value n : Nat) (cs : List Char) : (octal value n cs).2.length ≤ cs.length := by
  fun_induction octal value n cs with
  | case1 value n c rest h ih => simp only [List.length_cons]; omega
  | case2 => simp
  | case3 => simp

/-- The character that a backslash and a letter stand for. -/
def letterEscape? : Char → Option UInt8
  | '\\' => some 92
  | 'a' => some 7
  | 'b' => some 8
  | 'e' => some 27
  | 'f' => some 12
  | 'n' => some 10
  | 'r' => some 13
  | 't' => some 9
  | 'v' => some 11
  | _ => none

/-- What an escape stands for, read behind its backslash, and what follows it. A backslash that
starts no escape stands for itself. -/
def escape (cs : List Char) : UInt8 × List Char :=
  match cs with
  | [] => (92, [])
  | c :: rest =>
    match letterEscape? c with
    | some b => (b, rest)
    | none =>
      if '0' ≤ c && c ≤ '7' then
        let (value, rest) := octal (c.toNat - '0'.toNat) 2 rest
        (UInt8.ofNat value, rest)
      else (92, c :: rest)

theorem escape_length (cs : List Char) : (escape cs).2.length ≤ cs.length := by
  cases cs with
  | nil => simp [escape]
  | cons c rest =>
    simp only [escape]
    split
    · simp
    · split
      · have := octal_length (c.toNat - '0'.toNat) 2 rest
        simp only [List.length_cons]
        omega
      · simp

/-- The bytes that a text with escapes stands for, and whether an escape ends all printing. Here an
octal escape may have a zero in front. -/
def escaped (cs : List Char) : List UInt8 × Bool :=
  match cs with
  | [] => ([], false)
  | '\\' :: 'c' :: _ => ([], true)
  | '\\' :: '0' :: rest =>
    let number := octal 0 3 rest
    have := octal_length 0 3 rest
    let (others, stop) := escaped number.2
    (UInt8.ofNat number.1 :: others, stop)
  | '\\' :: rest =>
    let one := escape rest
    have := escape_length rest
    let (others, stop) := escaped one.2
    (one.1 :: others, stop)
  | c :: rest =>
    let (others, stop) := escaped rest
    (byteOf c :: others, stop)
termination_by cs.length
decreasing_by
  all_goals simp only [List.length_cons]
  · omega
  · omega
  · omega

theorem escaped_of_plain {cs : List Char} (h : '\\' ∉ cs) :
    escaped cs = (cs.map byteOf, false) := by
  induction cs with
  | nil => simp [escaped]
  | cons c rest ih =>
    have hc : c ≠ '\\' := fun e => h (by simp [e])
    have hr : '\\' ∉ rest := fun e => h (by simp [e])
    rw [escaped.eq_5 _ _ (by simp_all) (by simp_all) (by simp_all), ih hr]
    simp

end BundleForge.Shell
