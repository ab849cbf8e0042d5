import Precedence.Text.Bytes
import Precedence.Text.Span

namespace Precedence

/-- A place in a text: what is left to read, and how many bytes came before it. -/
structure Cursor where
  rest : List Char
  pos : Nat
deriving DecidableEq, Repr

/-- The cursor in front of a whole text. -/
def Cursor.ofText (text : List Char) : Cursor := ⟨text, 0⟩

def Cursor.atEnd (cursor : Cursor) : Bool := cursor.rest.isEmpty

def Cursor.peek? (cursor : Cursor) : Option Char := cursor.rest.head?

/-- The number of bytes left to read. -/
def Cursor.remaining (cursor : Cursor) : Nat := byteLength cursor.rest

/-- Moves over `count` bytes, or over all that is left when that is less. There is no such
place when the count ends inside a character. -/
def moveBytes? : Nat → List Char → Nat → Option Cursor
  | pos, [], _ => some ⟨[], pos⟩
  | pos, c :: rest, count =>
    if count = 0 then some ⟨c :: rest, pos⟩
    else if c.utf8Size ≤ count then moveBytes? (pos + c.utf8Size) rest (count - c.utf8Size)
    else none

def Cursor.advance? (cursor : Cursor) (count : Nat) : Option Cursor :=
  moveBytes? cursor.pos cursor.rest count

/-- The span between two places of one text. -/
def Cursor.spanTo (cursor next : Cursor) : Span := ⟨cursor.pos, next.pos⟩

/-- The text from byte `start` on. There is none where `start` lies inside a character or behind
the end. -/
def sliceFrom? : List Char → Nat → Option (List Char)
  | text, 0 => some text
  | [], _ + 1 => none
  | c :: rest, start + 1 =>
    if c.utf8Size ≤ start + 1 then sliceFrom? rest (start + 1 - c.utf8Size) else none

/-- The sum of two machine words. There is none where it is greater than every word. -/
def wordSum? (first second : Nat) : Option Nat :=
  if first + second < UInt64.size then some (first + second) else none

/-- Why a move breaks off: it would end where the text cannot be cut, or at a position that is no
machine word. -/
inductive MoveError where
  | noBoundary
  | overflow
deriving DecidableEq, Repr

abbrev CursorM := EStateM MoveError Cursor

/-- Moves over `count` bytes, or over all that is left when that is less, and answers with the span
of the bytes moved over. The text is cut before the position is counted on, so that an overflow
would leave the one without the other. -/
def Cursor.advance (count : UInt64) : CursorM Span := do
  let cursor ← get
  let amount := min count.toNat cursor.remaining
  let some rest := sliceFrom? cursor.rest amount | throw .noBoundary
  set { cursor with rest }
  let some stop := wordSum? cursor.pos amount | throw .overflow
  set ({ rest, pos := stop } : Cursor)
  return ⟨cursor.pos, stop⟩

@[simp] theorem moveBytes?_zero {pos : Nat} {rest : List Char} :
    moveBytes? pos rest 0 = some ⟨rest, pos⟩ := by
  cases rest <;> simp [moveBytes?]

/-- A slice begins behind one of the fronts of a text, whose bytes come before it. -/
theorem sliceFrom?_eq_some_iff {text rest : List Char} {start : Nat} :
    sliceFrom? text start = some rest ↔
      ∃ front, text = front ++ rest ∧ byteLength front = start := by
  fun_induction sliceFrom? text start with
  | case1 text =>
    constructor
    · intro whole
      exact ⟨[], Option.some.inj whole, rfl⟩
    · rintro ⟨front, split, none⟩
      rw [split, byteLength_eq_zero.mp none, List.nil_append]
  | case2 start =>
    constructor
    · intro behind
      cases behind
    · rintro ⟨front, split, bytes⟩
      obtain ⟨rfl, _⟩ := List.append_eq_nil_iff.mp split.symm
      cases bytes
  | case3 c text start fits ih =>
    rw [ih]
    constructor
    · rintro ⟨front, rfl, bytes⟩
      exact ⟨c :: front, rfl, by rw [byteLength_cons, bytes, Nat.add_sub_of_le fits]⟩
    · rintro ⟨_ | ⟨d, front⟩, split, bytes⟩
      · cases bytes
      · obtain ⟨rfl, rfl⟩ := List.cons.inj split
        exact ⟨front, rfl, Nat.eq_sub_of_add_eq' bytes⟩
  | case4 c text start inside =>
    constructor
    · intro stuck
      cases stuck
    · rintro ⟨_ | ⟨d, front⟩, split, bytes⟩
      · cases bytes
      · obtain ⟨rfl, rfl⟩ := List.cons.inj split
        simp only [byteLength_cons] at bytes
        omega

/-- A move is a slice whose start is held back to the end of the text. -/
theorem moveBytes?_eq_map {pos count amount : Nat} {text : List Char}
    (clamped : amount = min count (byteLength text)) :
    moveBytes? pos text count = (sliceFrom? text amount).map (⟨·, pos + amount⟩) := by
  fun_induction sliceFrom? text amount generalizing pos count with
  | case1 text =>
    rcases Nat.min_eq_zero_iff.mp clamped.symm with rfl | none
    · simp
    · simp [byteLength_eq_zero.mp none, moveBytes?]
  | case2 start => simp at clamped
  | case3 c text start fits ih =>
    rw [byteLength_cons] at clamped
    have left : start + 1 - c.utf8Size = min (count - c.utf8Size) (byteLength text) := by omega
    have place : pos + c.utf8Size + (start + 1 - c.utf8Size) = pos + (start + 1) := by omega
    rw [moveBytes?, if_neg (by omega), if_pos (by omega), ih left, place]
  | case4 c text start inside =>
    rw [byteLength_cons] at clamped
    rw [moveBytes?, if_neg (by omega), if_neg (by omega)]
    rfl

/-- A move splits what was left into the text moved over, of as many bytes as the position
grew, and the rest. -/
theorem Cursor.advance?_eq_some_iff {cursor next : Cursor} {count : Nat} :
    cursor.advance? count = some next ↔ ∃ skipped, cursor.rest = skipped ++ next.rest ∧
      next.pos = cursor.pos + byteLength skipped ∧
      byteLength skipped = min count (byteLength cursor.rest) := by
  rw [advance?, moveBytes?_eq_map rfl]
  simp only [Option.map_eq_some_iff, sliceFrom?_eq_some_iff]
  constructor
  · rintro ⟨rest, ⟨skipped, split, bytes⟩, rfl⟩
    exact ⟨skipped, split, by rw [bytes], bytes⟩
  · rintro ⟨skipped, split, place, bytes⟩
    exact ⟨next.rest, ⟨skipped, split, bytes⟩, by rw [← bytes, ← place]⟩

theorem Cursor.advance?_split {cursor next : Cursor} {count : Nat}
    (moved : cursor.advance? count = some next) :
    ∃ skipped, cursor.rest = skipped ++ next.rest ∧ next.pos = cursor.pos + byteLength skipped ∧
      byteLength skipped = min count (byteLength cursor.rest) :=
  advance?_eq_some_iff.mp moved

/-- A move over at least one byte shortens a text that is not empty. -/
theorem Cursor.advance?_length_lt {cursor next : Cursor} {count : Nat}
    (moved : cursor.advance? count = some next) (someByte : count ≠ 0)
    (nonempty : cursor.rest ≠ []) : next.rest.length < cursor.rest.length := by
  obtain ⟨skipped, split, _, bytes⟩ := cursor.advance?_split moved
  have room : byteLength cursor.rest ≠ 0 := fun none => nonempty (byteLength_eq_zero.mp none)
  have skips : skipped ≠ [] := by
    intro none
    simp only [none, byteLength_nil] at bytes
    omega
  have positive := List.length_pos_iff.mpr skips
  rw [split, List.length_append]
  omega

end Precedence
