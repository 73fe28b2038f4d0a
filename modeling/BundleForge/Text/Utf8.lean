/-!
Reading bytes as UTF-8. A refusal names the first offending bytes: a byte that starts no character,
one that does not continue the character it stands in, or a character cut off by the end. Main
statement: the bytes that a text is encoded to spell that text.
-/

namespace BundleForge.Text.Utf8

inductive Reason
  | badStart
  | badContinuation
  | cutOff
deriving DecidableEq, Repr

/-- The first bytes that are no text: where they start, how many there are, and the first of them. -/
structure Refusal where
  position : Nat
  length : Nat
  byte : UInt8
  reason : Reason
deriving DecidableEq, Repr

def Reason.message : Reason → String
  | .badStart => "invalid start byte"
  | .badContinuation => "invalid continuation byte"
  | .cutOff => "unexpected end of data"

def hexDigit (n : Nat) : Char := (Nat.digitChar n)

/-- Two hexadecimal digits of a byte. -/
def hexByte (b : UInt8) : String :=
  String.ofList [hexDigit (b.toNat / 16), hexDigit (b.toNat % 16)]

def Refusal.message (r : Refusal) : String :=
  if r.length = 1 then
    "'utf-8' codec can't decode byte 0x" ++ hexByte r.byte ++ " in position " ++
      toString r.position ++ ": " ++ r.reason.message
  else
    "'utf-8' codec can't decode bytes in position " ++ toString r.position ++ "-" ++
      toString (r.position + r.length - 1) ++ ": " ++ r.reason.message

/-- What a first byte promises: how many bytes follow it, the range the second one has to lie in, and
the bits it contributes. -/
def lead? (b : UInt8) : Option (Nat × Nat × Nat × Nat) :=
  let n := b.toNat
  if n < 0xc2 then none
  else if n < 0xe0 then some (1, 0x80, 0xbf, n - 0xc0)
  else if n = 0xe0 then some (2, 0xa0, 0xbf, 0)
  else if n = 0xed then some (2, 0x80, 0x9f, 13)
  else if n < 0xf0 then some (2, 0x80, 0xbf, n - 0xe0)
  else if n = 0xf0 then some (3, 0x90, 0xbf, 0)
  else if n < 0xf4 then some (3, 0x80, 0xbf, n - 0xf0)
  else if n = 0xf4 then some (3, 0x80, 0x8f, 4)
  else none

/-- The continuation bytes of one character: its code and the bytes after it, or how many bytes
were good before the fault. -/
def continuation (need low high code good : Nat) (bytes : List UInt8) :
    Except (Nat × Reason) (Nat × List UInt8) :=
  match need, bytes with
  | 0, bytes => .ok (code, bytes)
  | _ + 1, [] => .error (good, .cutOff)
  | need + 1, b :: rest =>
    if low ≤ b.toNat && b.toNat ≤ high then
      continuation need 0x80 0xbf (code * 64 + (b.toNat - 0x80)) (good + 1) rest
    else .error (good, .badContinuation)

theorem continuation_length {need low high code good c : Nat} {bytes rest : List UInt8}
    (h : continuation need low high code good bytes = .ok (c, rest)) :
    rest.length ≤ bytes.length := by
  induction need generalizing low high code good bytes with
  | zero => simp [continuation] at h; simp [h]
  | succ need ih =>
    cases bytes with
    | nil => simp [continuation] at h
    | cons b bs =>
      by_cases hb : (low ≤ b.toNat && b.toNat ≤ high) = true
      · simp only [continuation, hb, if_true] at h
        have := ih h
        simp only [List.length_cons]
        omega
      · simp [continuation, hb] at h

/-- The characters of a byte sequence, read from a position on. -/
def decodeFrom (position : Nat) (read : Array Char) (bytes : List UInt8) :
    Except Refusal (Array Char) :=
  match bytes with
  | [] => .ok read
  | b :: rest =>
    if b.toNat < 0x80 then decodeFrom (position + 1) (read.push (Char.ofNat b.toNat)) rest
    else match lead? b with
      | none => .error ⟨position, 1, b, .badStart⟩
      | some (need, low, high, bits) =>
        match h : continuation need low high bits 1 rest with
        | .error (good, reason) => .error ⟨position, good, b, reason⟩
        | .ok (code, rest') => decodeFrom (position + need + 1) (read.push (Char.ofNat code)) rest'
termination_by bytes.length
decreasing_by
  · simp
  · have := continuation_length h
    simp only [List.length_cons]
    omega

/-- The text that the bytes spell, or the first bytes that spell none. -/
def decode (bytes : List UInt8) : Except Refusal String :=
  (decodeFrom 0 #[] bytes).map fun cs => String.ofList cs.toList

/-- The bytes that spell a text. -/
def encode (s : String) : List UInt8 := s.toUTF8.toList

theorem toNat_ofNat {n : Nat} (small : n < 256) : (UInt8.ofNat n).toNat = n := UInt8.toNat_ofNat_of_lt small

/-- A byte that continues a character gives six bits to its code. -/
theorem continuation_succ {need low high code good k : Nat} {rest : List UInt8} (small : k < 64)
    (above : low ≤ k + 128) (below : k + 128 ≤ high) :
    continuation (need + 1) low high code good (UInt8.ofNat (k + 128) :: rest) =
      continuation need 0x80 0xbf (code * 64 + k) (good + 1) rest := by
  rw [continuation, toNat_ofNat (by omega)]
  simp [above, below]

theorem decodeFrom_of_lead {position need low high bits code : Nat} {read : Array Char} {b : UInt8}
    {rest rest' : List UInt8} (led : lead? b = some (need, low, high, bits))
    (continued : continuation need low high bits 1 rest = .ok (code, rest')) :
    decodeFrom position read (b :: rest) = decodeFrom (position + need + 1) (read.push (Char.ofNat code)) rest' := by
  have far : ¬ b.toNat < 0x80 := fun near => by simp [lead?, Nat.lt_trans near (by decide : 0x80 < 0xc2)] at led
  rw [decodeFrom, if_neg far]
  split
  · rename_i none
    rw [led] at none
    cases none
  · rename_i some
    rw [led] at some
    cases some
    split
    · rename_i failed
      rw [continued] at failed
      cases failed
    · rename_i done
      rw [continued] at done
      cases done
      rfl

/-- The range that a first byte of three allows for the second leaves out overlong codes and the codes of no
character. -/
theorem exists_lead_three {v : Nat} (low : ¬ v ≤ 0x7ff) (high : v ≤ 0xffff) (valid : v < 0xd800 ∨ 0xdfff < v) :
    ∃ least most, lead? (UInt8.ofNat (v / 4096 % 16 + 224)) = some (2, least, most, v / 4096) ∧
      least ≤ v / 64 % 64 + 128 ∧ v / 64 % 64 + 128 ≤ most := by
  rw [lead?, toNat_ofNat (by omega)]
  by_cases first : v / 4096 = 0
  · exact ⟨0xa0, 0xbf, by simp [first], by omega, by omega⟩
  by_cases surrogates : v / 4096 = 13
  · exact ⟨0x80, 0x9f, by simp [surrogates], by omega, by omega⟩
  · refine ⟨0x80, 0xbf, ?_, by omega, by omega⟩
    grind

/-- Likewise for a first byte of four. -/
theorem exists_lead_four {v : Nat} (low : ¬ v ≤ 0xffff) (valid : v < 0x110000) :
    ∃ least most, lead? (UInt8.ofNat (v / 262144 % 8 + 240)) = some (3, least, most, v / 262144) ∧
      least ≤ v / 4096 % 64 + 128 ∧ v / 4096 % 64 + 128 ≤ most := by
  rw [lead?, toNat_ofNat (by omega)]
  by_cases first : v / 262144 = 0
  · exact ⟨0x90, 0xbf, by simp [first], by omega, by omega⟩
  by_cases last : v / 262144 = 4
  · exact ⟨0x80, 0x8f, by simp [last], by omega, by omega⟩
  · refine ⟨0x80, 0xbf, ?_, by omega, by omega⟩
    grind

/-- What a character is encoded to is read as that character. -/
theorem decodeFrom_utf8EncodeChar (c : Char) (position : Nat) (read : Array Char) (rest : List UInt8) :
    ∃ position', decodeFrom position read (String.utf8EncodeChar c ++ rest) =
      decodeFrom position' (read.push c) rest := by
  have same : Char.ofNat c.val.toNat = c := Char.ofNat_toNat c
  have valid : c.val.toNat < 0xd800 ∨ 0xdfff < c.val.toNat ∧ c.val.toNat < 0x110000 := c.valid
  unfold String.utf8EncodeChar
  simp only
  generalize c.val.toNat = v at same valid
  subst same
  split
  · refine ⟨position + 1, ?_⟩
    rw [List.singleton_append, decodeFrom, toNat_ofNat (by omega), if_pos (by omega)]
  split
  · simp only [List.cons_append, List.nil_append]
    have led : lead? (UInt8.ofNat (v / 64 % 32 + 192)) = some (1, 0x80, 0xbf, v / 64) := by
      rw [lead?, toNat_ofNat (by omega)]
      grind
    have code : v / 64 * 64 + v % 64 = v := by omega
    refine ⟨_, decodeFrom_of_lead led ?_⟩
    rw [continuation_succ (by omega) (by omega) (by omega), continuation, code]
  split
  · simp only [List.cons_append, List.nil_append]
    obtain ⟨least, most, led, above, below⟩ := @exists_lead_three v (by omega) (by omega) (by omega)
    have code : (v / 4096 * 64 + v / 64 % 64) * 64 + v % 64 = v := by omega
    refine ⟨_, decodeFrom_of_lead led ?_⟩
    rw [continuation_succ (by omega) above below, continuation_succ (by omega) (by omega) (by omega), continuation,
      code]
  · simp only [List.cons_append, List.nil_append]
    obtain ⟨least, most, led, above, below⟩ := @exists_lead_four v (by omega) (by omega)
    have code : ((v / 262144 * 64 + v / 4096 % 64) * 64 + v / 64 % 64) * 64 + v % 64 = v := by omega
    refine ⟨_, decodeFrom_of_lead led ?_⟩
    rw [continuation_succ (by omega) above below, continuation_succ (by omega) (by omega) (by omega),
      continuation_succ (by omega) (by omega) (by omega), continuation, code]

theorem decodeFrom_flatMap (cs : List Char) (position : Nat) (read : Array Char) :
    decodeFrom position read (cs.flatMap String.utf8EncodeChar) = .ok (read ++ cs) := by
  induction cs generalizing position read with
  | nil => simp [decodeFrom]
  | cons c rest ih =>
    obtain ⟨position', step⟩ := decodeFrom_utf8EncodeChar c position read (rest.flatMap String.utf8EncodeChar)
    rw [List.flatMap_cons, step, ih]
    simp

theorem toList_loop (bytes : ByteArray) (i : Nat) (read : List UInt8) :
    ByteArray.toList.loop bytes i read = read.reverse ++ bytes.data.toList.drop i := by
  fun_induction ByteArray.toList.loop bytes i read with
  | case1 i read inside ih =>
    have there : i < bytes.data.toList.length := inside
    rw [ih, List.drop_eq_getElem_cons there]
    simp [ByteArray.get!, getElem!_pos, inside]
  | case2 i read outside =>
    rw [List.drop_of_length_le (Nat.le_of_not_lt outside), List.append_nil]

theorem encode_eq (s : String) : encode s = s.toList.flatMap String.utf8EncodeChar := by
  have bytes : s.toUTF8 = (s.toList.flatMap String.utf8EncodeChar).toByteArray := by
    rw [String.toUTF8, ← String.ofList_toList (s := s), String.toByteArray_ofList, List.utf8Encode,
      String.toList_ofList]
  rw [encode, bytes, ByteArray.toList, toList_loop, List.toList_data_toByteArray]
  rfl

/-- What a text is encoded to spells that text. -/
theorem decode_encode (s : String) : decode (encode s) = .ok s := by
  rw [decode, encode_eq, decodeFrom_flatMap]
  simp [Except.map]

end BundleForge.Text.Utf8
