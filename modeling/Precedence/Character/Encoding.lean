import Precedence.Character.Charset

/-!
How characters are written in bytes. A range of characters becomes a few sequences of byte ranges,
each of which stands for all characters whose bytes lie in its ranges one by one.
-/

namespace Precedence

/-- The bytes of a code point in UTF-8. -/
def encoding (n : Nat) : List Nat :=
  if n < 0x80 then [n]
  else if n < 0x800 then [0xc0 + n / 0x40, 0x80 + n % 0x40]
  else if n < 0x10000 then [0xe0 + n / 0x1000, 0x80 + n / 0x40 % 0x40, 0x80 + n % 0x40]
  else
    [0xf0 + n / 0x40000, 0x80 + n / 0x1000 % 0x40, 0x80 + n / 0x40 % 0x40, 0x80 + n % 0x40]

/-- Splits a range in front of a point inside it. -/
def cutAt (point : Nat) (range : Nat × Nat) : List (Nat × Nat) :=
  if range.1 < point ∧ point ≤ range.2 then [(range.1, point - 1), (point, range.2)] else [range]

/-- Leaves the surrogates out of a range. -/
def skipSurrogates (range : Nat × Nat) : List (Nat × Nat) :=
  if range.1 < 0xe000 ∧ 0xd7ff < range.2 then [(range.1, 0xd7ff), (0xe000, range.2)] else [range]

/-- Splits off what a range holds of the block that it starts in and of the one that it ends in,
so that whole blocks are left between. A single byte is not split. -/
def cutBlocks (size : Nat) (range : Nat × Nat) : List (Nat × Nat) :=
  if range.2 < 0x80 then [range]
  else
    (cutAt ((range.1 + size - 1) / size * size) range).flatMap
      (cutAt ((range.2 + 1) / size * size))

/-- The sequences of byte ranges for a range of characters, in ascending order. -/
def byteSequences (range : Nat × Nat) : List (List (Nat × Nat)) :=
  let sameLength := (((skipSurrogates range).flatMap (cutAt 0x80)).flatMap (cutAt 0x800)).flatMap
    (cutAt 0x10000)
  let blocks := ((sameLength.flatMap (cutBlocks 0x40)).flatMap (cutBlocks 0x1000)).flatMap
    (cutBlocks 0x40000)
  blocks.map fun block => (encoding block.1).zip (encoding block.2)

/-- The sequences of byte ranges for a set of characters. -/
def Charset.byteSequences (set : Charset) : List (List (Nat × Nat)) :=
  set.ranges.flatMap Precedence.byteSequences

/-- The bytes are those that core gives for a character. -/
theorem encoding_eq_utf8EncodeChar (c : Char) :
    encoding c.toNat = (String.utf8EncodeChar c).map (·.toNat) := by
  have valid : c.val.toNat < 0x110000 := by
    have := c.valid
    simp only [UInt32.isValidChar, Nat.isValidChar] at this
    omega
  simp only [encoding, String.utf8EncodeChar, Char.toNat]
  generalize c.val.toNat = n at valid
  by_cases one : n < 0x80
  · rw [if_pos one, if_pos (show n ≤ 0x7f by omega)]
    simp only [List.map_cons, List.map_nil, UInt8.toNat_ofNat', List.cons.injEq, and_true]
    omega
  rw [if_neg one, if_neg (show ¬ n ≤ 0x7f by omega)]
  by_cases two : n < 0x800
  · rw [if_pos two, if_pos (show n ≤ 0x7ff by omega)]
    simp only [List.map_cons, List.map_nil, UInt8.toNat_ofNat', List.cons.injEq, and_true]
    omega
  rw [if_neg two, if_neg (show ¬ n ≤ 0x7ff by omega)]
  by_cases three : n < 0x10000
  · rw [if_pos three, if_pos (show n ≤ 0xffff by omega)]
    simp only [List.map_cons, List.map_nil, UInt8.toNat_ofNat', List.cons.injEq, and_true]
    omega
  rw [if_neg three, if_neg (show ¬ n ≤ 0xffff by omega)]
  simp only [List.map_cons, List.map_nil, UInt8.toNat_ofNat', List.cons.injEq, and_true]
  omega

end Precedence
