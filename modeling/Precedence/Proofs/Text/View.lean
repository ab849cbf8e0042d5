import Precedence.Text.Cursor

namespace Precedence

theorem utf8ByteSize_ofList {text : List Char} :
    (String.ofList text).utf8ByteSize = byteLength text := by
  induction text with
  | nil => simp
  | cons c rest ih => simp [String.ofList_cons, ih]

/-- The first character of a text is the one that its bytes begin with. -/
theorem head?_eq_utf8DecodeChar? {text : List Char} :
    text.head? = (String.ofList text).toByteArray.utf8DecodeChar? 0 := by
  rw [String.toByteArray_ofList]
  cases text with
  | nil => simp [ByteArray.utf8DecodeChar?]
  | cons c rest => rw [List.head?_cons, List.utf8DecodeChar?_utf8Encode_cons]

/-- A text can be cut at the character boundaries of its encoding and nowhere else. -/
theorem exists_sliceFrom?_iff {text : List Char} {start : Nat} :
    (∃ rest, sliceFrom? text start = some rest) ↔
      (⟨start⟩ : String.Pos.Raw).IsValid (String.ofList text) := by
  simp only [sliceFrom?_eq_some_iff, String.Pos.Raw.isValid_ofList, utf8ByteSize_ofList]
  constructor
  · rintro ⟨rest, front, rfl, bytes⟩
    exact ⟨front.length, by rw [List.take_left, bytes]⟩
  · rintro ⟨count, bytes⟩
    exact ⟨text.drop count, text.take count, (List.take_append_drop _ _).symm, bytes.symm⟩

/-- The sum of two words, or the greatest word where there is no sum. -/
def saturatedSum (first second : UInt64) : UInt64 :=
  .ofNat ((wordSum? first.toNat second.toNat).getD (UInt64.size - 1))

theorem toNat_saturatedSum {first second : UInt64} :
    (saturatedSum first second).toNat = min (first.toNat + second.toNat) (UInt64.size - 1) := by
  unfold saturatedSum wordSum?
  split
  · next word =>
    rw [Option.getD_some, UInt64.toNat_ofNat_of_lt' word]
    omega
  · next great =>
    rw [Option.getD_none, UInt64.toNat_ofNat_of_lt' (by decide)]
    omega

namespace Cursor

variable {cursor next : Cursor} {text : String}

theorem get_bind {α : Type} {next : Cursor → CursorM α} :
    (get >>= next) cursor = next cursor cursor := rfl

/-- Where a word can count the bytes of a text no position overflows, so that a move comes to its
end or leaves everything as it is. -/
theorem advance_eq {count : UInt64} (room : cursor.pos + cursor.remaining < UInt64.size) :
    Cursor.advance count cursor =
      match cursor.advance? count.toNat with
      | some next => .ok (cursor.spanTo next) next
      | none => .error .noBoundary cursor := by
  have word : wordSum? cursor.pos (min count.toNat cursor.remaining) =
      some (cursor.pos + min count.toNat cursor.remaining) := by
    have within := Nat.min_le_right count.toNat cursor.remaining
    exact if_pos (by omega)
  rw [advance?, moveBytes?_eq_map rfl, ← remaining]
  unfold advance
  rw [get_bind]
  cases sliceFrom? cursor.rest (min count.toNat cursor.remaining) with
  | none => rfl
  | some rest =>
    dsimp only
    rw [word]
    rfl

/-- A cursor that stands in no such text may overflow, and is then left behind with its text cut. -/
example : Cursor.advance 1 ⟨['a'], 18446744073709551615⟩ =
    .error .overflow ⟨[], 18446744073709551615⟩ := rfl

theorem advance_eq_ok_iff {count : UInt64} {span : Span}
    (room : cursor.pos + cursor.remaining < UInt64.size) :
    Cursor.advance count cursor = .ok span next ↔
      cursor.advance? count.toNat = some next ∧ cursor.spanTo next = span := by
  rw [advance_eq room]
  cases cursor.advance? count.toNat with
  | none => simp
  | some reached =>
    simp only [EStateM.Result.ok.injEq, Option.some.injEq]
    constructor
    · rintro ⟨same, rfl⟩
      exact ⟨rfl, same⟩
    · rintro ⟨rfl, same⟩
      exact ⟨same, rfl⟩

theorem advance_eq_error_iff {count : UInt64} {error : MoveError}
    (room : cursor.pos + cursor.remaining < UInt64.size) :
    Cursor.advance count cursor = .error error next ↔
      cursor.advance? count.toNat = none ∧ error = .noBoundary ∧ next = cursor := by
  rw [advance_eq room]
  cases cursor.advance? count.toNat with
  | none => simp [eq_comm]
  | some reached => simp

/-- One move after another one goes as far as a single move over the sum of their counts, where the
sum may be held back to the bytes that are left. -/
theorem advance?_of_advance? {middle : Cursor} {first second count : Nat}
    (moved : cursor.advance? first = some middle) (again : middle.advance? second = some next)
    (sum : min count cursor.remaining = min (first + second) cursor.remaining) :
    cursor.advance? count = some next := by
  obtain ⟨skipped, split, place, bytes⟩ := advance?_eq_some_iff.mp moved
  obtain ⟨more, rest, further, left⟩ := advance?_eq_some_iff.mp again
  have whole : cursor.remaining = byteLength skipped + middle.remaining := by
    rw [remaining, split, byteLength_append, ← remaining]
  rw [← remaining] at bytes left
  refine advance?_eq_some_iff.mpr ⟨skipped ++ more, ?_, ?_, ?_⟩
  · rw [split, rest, List.append_assoc]
  · rw [further, place, byteLength_append, Nat.add_assoc]
  · rw [byteLength_append, ← remaining]
    omega

/-- What a cursor shows of a text: it stands between two characters, or at an end, with the bytes of
the text from its position on in front of it and the character that they encode first to be read
next. -/
structure Views (text : String) (cursor : Cursor) : Prop where
  boundary : (⟨cursor.pos⟩ : String.Pos.Raw).IsValid text
  suffix : (String.ofList cursor.rest).toByteArray =
    text.toByteArray.extract cursor.pos text.utf8ByteSize
  balance : cursor.pos + cursor.remaining = text.utf8ByteSize
  peek?_eq : cursor.peek? = text.toByteArray.utf8DecodeChar? cursor.pos
  peek?_eq_none_iff : cursor.peek? = none ↔ cursor.atEnd = true

/-- Whether a cursor stands in a text, behind a front of as many bytes as its position says. -/
def Within (text : String) (cursor : Cursor) : Prop :=
  ∃ front, text = String.ofList (front ++ cursor.rest) ∧ cursor.pos = byteLength front

theorem within_ofText : (ofText text.toList).Within text :=
  ⟨[], by simp [ofText], rfl⟩

theorem Within.balance (within : cursor.Within text) :
    cursor.pos + cursor.remaining = text.utf8ByteSize := by
  obtain ⟨front, rfl, place⟩ := within
  rw [utf8ByteSize_ofList, byteLength_append, place, remaining]

/-- The boundaries in what is left of a text are the boundaries of the whole that lie there. -/
theorem Within.isValid_iff (within : cursor.Within text) {amount : Nat} :
    (⟨cursor.pos + amount⟩ : String.Pos.Raw).IsValid text ↔
      (⟨amount⟩ : String.Pos.Raw).IsValid (String.ofList cursor.rest) := by
  obtain ⟨front, rfl, place⟩ := within
  have size : (String.ofList front).utf8ByteSize = cursor.pos := by
    rw [utf8ByteSize_ofList, place]
  have shift : (⟨cursor.pos + amount⟩ : String.Pos.Raw) - String.ofList front = ⟨amount⟩ := by
    rw [String.Pos.Raw.ext_iff, String.Pos.Raw.byteIdx_sub_string, size]
    exact Nat.add_sub_cancel_left _ _
  rw [String.ofList_append, String.Pos.Raw.isValid_append, shift]
  constructor
  · rintro (inFront | ⟨_, behind⟩)
    · have bound := inFront.le_utf8ByteSize
      obtain rfl : amount = 0 := by
        simp only [size] at bound
        omega
      exact String.Pos.Raw.isValid_zero
    · exact behind
  · intro behind
    refine Or.inr ⟨?_, behind⟩
    rw [String.Pos.Raw.le_iff, String.byteIdx_rawEndPos, size]
    exact Nat.le_add_right _ _

theorem Within.views (within : cursor.Within text) : cursor.Views text := by
  have balance := within.balance
  have boundary := within.isValid_iff.mpr (@String.Pos.Raw.isValid_zero (String.ofList cursor.rest))
  obtain ⟨front, rfl, place⟩ := within
  have suffix : (String.ofList cursor.rest).toByteArray =
      (String.ofList (front ++ cursor.rest)).toByteArray.extract cursor.pos
        (String.ofList (front ++ cursor.rest)).utf8ByteSize := by
    have bytes : cursor.pos = (String.ofList front).toByteArray.size := by
      rw [String.size_toByteArray, utf8ByteSize_ofList, place]
    rw [String.ofList_append, String.toByteArray_append, String.utf8ByteSize_append]
    exact (ByteArray.extract_append_eq_right bytes rfl).symm
  refine ⟨boundary, suffix, balance, ?_, ?_⟩
  · rw [ByteArray.utf8DecodeChar?_eq_utf8DecodeChar?_extract, String.size_toByteArray, ← suffix]
    exact head?_eq_utf8DecodeChar?
  · simp [peek?, atEnd]

/-- A move comes to its end where that is a character boundary of the text. -/
theorem Within.exists_advance?_iff {count : Nat} (within : cursor.Within text) :
    (∃ next, cursor.advance? count = some next) ↔
      (⟨cursor.pos + min count cursor.remaining⟩ : String.Pos.Raw).IsValid text := by
  rw [within.isValid_iff, ← exists_sliceFrom?_iff, advance?, moveBytes?_eq_map rfl, ← remaining]
  simp only [Option.map_eq_some_iff]
  constructor
  · rintro ⟨next, rest, sliced, _⟩
    exact ⟨rest, sliced⟩
  · rintro ⟨rest, sliced⟩
    exact ⟨_, rest, sliced, rfl⟩

theorem Within.advance? {count : Nat} (within : cursor.Within text)
    (moved : cursor.advance? count = some next) :
    next.Within text ∧ next.pos = cursor.pos + min count cursor.remaining := by
  obtain ⟨front, rfl, place⟩ := within
  obtain ⟨skipped, split, further, bytes⟩ := advance?_eq_some_iff.mp moved
  refine ⟨⟨front ++ skipped, ?_, ?_⟩, ?_⟩
  · rw [split, List.append_assoc]
  · rw [further, place, byteLength_append]
  · rw [further, bytes, remaining]

/-- Moves over the given counts, one after the other: the spans of those that do not break off, and
the place to which they lead. -/
def run : Cursor → List UInt64 → List Span × Cursor
  | cursor, [] => ([], cursor)
  | cursor, count :: counts =>
    match Cursor.advance count cursor with
    | .ok span after => (span :: (after.run counts).1, (after.run counts).2)
    | .error _ after => after.run counts

/-- Whether spans lead from one position to another one, each of them beginning where the one before
it stops. -/
inductive Consecutive : Nat → List Span → Nat → Prop
  | nil {pos} : Consecutive pos [] pos
  | cons {start stop last spans} : start ≤ stop → Consecutive stop spans last →
      Consecutive start (⟨start, stop⟩ :: spans) last

/-- Moves leave a cursor in its text, whether or not they break off. -/
theorem Within.run {counts : List UInt64} {spans : List Span} {last : Cursor}
    (fits : text.utf8ByteSize < UInt64.size) (within : cursor.Within text)
    (ran : cursor.run counts = (spans, last)) :
    last.Within text ∧ Consecutive cursor.pos spans last.pos := by
  have room : cursor.pos + cursor.remaining < UInt64.size := within.balance ▸ fits
  induction counts generalizing cursor spans with
  | nil =>
    cases ran
    exact ⟨within, .nil⟩
  | cons count counts ih =>
    unfold Cursor.run at ran
    split at ran
    · next span after moved =>
      obtain ⟨reached, rfl⟩ := (advance_eq_ok_iff room).mp moved
      obtain ⟨behind, place⟩ := within.advance? reached
      cases ran
      obtain ⟨still, further⟩ := ih behind rfl (behind.balance ▸ fits)
      exact ⟨still, .cons (by omega) further⟩
    · next error after stuck =>
      obtain ⟨_, _, rfl⟩ := (advance_eq_error_iff room).mp stuck
      exact ih within ran room

/-- After any moves over any counts a cursor shows the text from its position on, and the spans of
the moves lead there from the beginning of the text. A further move breaks off exactly where its
count, held back to the bytes that are left, ends inside a character, and then it changes nothing;
no position overflows. Two moves lead to the same place as a single one over the sum of their
counts. The text must be one whose bytes a word can count, as every text in memory is. -/
theorem run_keeps_view {counts : List UInt64} {spans : List Span}
    (fits : text.utf8ByteSize < UInt64.size)
    (ran : (ofText text.toList).run counts = (spans, cursor)) :
    cursor.Views text ∧ Consecutive 0 spans cursor.pos ∧
    (∀ count, (∃ error next, Cursor.advance count cursor = .error error next) ↔
      ¬ (⟨cursor.pos + min count.toNat cursor.remaining⟩ : String.Pos.Raw).IsValid text) ∧
    (∀ count error next, Cursor.advance count cursor = .error error next →
      error = .noBoundary ∧ next = cursor) ∧
    (∀ count span next, Cursor.advance count cursor = .ok span next →
      span = ⟨cursor.pos, next.pos⟩ ∧ next.pos = cursor.pos + min count.toNat cursor.remaining ∧
      next.Views text) ∧
    ∀ first second front back middle next, Cursor.advance first cursor = .ok front middle →
      Cursor.advance second middle = .ok back next →
      Cursor.advance (saturatedSum first second) cursor = .ok ⟨front.start, back.stop⟩ next := by
  obtain ⟨within, consecutive⟩ := within_ofText.run fits ran
  have room : cursor.pos + cursor.remaining < UInt64.size := within.balance ▸ fits
  refine ⟨within.views, consecutive, ?_, ?_, ?_, ?_⟩
  · intro count
    rw [← within.exists_advance?_iff, ← Option.isSome_iff_exists, Bool.not_eq_true,
      Option.isSome_eq_false_iff, Option.isNone_iff_eq_none]
    constructor
    · rintro ⟨error, next, stuck⟩
      exact ((advance_eq_error_iff room).mp stuck).1
    · intro stuck
      exact ⟨_, _, (advance_eq_error_iff room).mpr ⟨stuck, rfl, rfl⟩⟩
  · intro count error next stuck
    exact ((advance_eq_error_iff room).mp stuck).2
  · intro count span next moved
    obtain ⟨reached, same⟩ := (advance_eq_ok_iff room).mp moved
    obtain ⟨behind, place⟩ := within.advance? reached
    exact ⟨same.symm, place, behind.views⟩
  · intro first second front back middle next moved again
    obtain ⟨reached, rfl⟩ := (advance_eq_ok_iff room).mp moved
    have behind := (within.advance? reached).1
    obtain ⟨further, rfl⟩ := (advance_eq_ok_iff (behind.balance ▸ fits)).mp again
    refine (advance_eq_ok_iff room).mpr ⟨advance?_of_advance? reached further ?_, rfl⟩
    rw [toNat_saturatedSum]
    omega

theorem wide_letters_keep_view :
    ("aé𝒫" : String).utf8ByteSize < UInt64.size ∧
    (ofText "aé𝒫".toList).run [2, 1] = ([⟨0, 1⟩], ⟨"é𝒫".toList, 1⟩) ∧
    Views "aé𝒫" ⟨"é𝒫".toList, 1⟩ ∧ Consecutive 0 [⟨0, 1⟩] 1 ∧
    (∃ error next, Cursor.advance 5 ⟨"é𝒫".toList, 1⟩ = .error error next) ∧
    Cursor.advance 2 ⟨"é𝒫".toList, 1⟩ = .ok ⟨1, 3⟩ ⟨"𝒫".toList, 3⟩ ∧
    Cursor.advance 18446744073709551615 ⟨"𝒫".toList, 3⟩ = .ok ⟨3, 7⟩ ⟨[], 7⟩ ∧
    Cursor.advance (saturatedSum 2 18446744073709551615) ⟨"é𝒫".toList, 1⟩ = .ok ⟨1, 7⟩ ⟨[], 7⟩ := by
  have fits : ("aé𝒫" : String).utf8ByteSize < UInt64.size := by decide +kernel
  have ran : (ofText "aé𝒫".toList).run [2, 1] = ([⟨0, 1⟩], ⟨"é𝒫".toList, 1⟩) := by decide +kernel
  have moved : Cursor.advance 2 ⟨"é𝒫".toList, 1⟩ = .ok ⟨1, 3⟩ ⟨"𝒫".toList, 3⟩ := rfl
  have again : Cursor.advance 18446744073709551615 ⟨"𝒫".toList, 3⟩ = .ok ⟨3, 7⟩ ⟨[], 7⟩ := rfl
  obtain ⟨views, consecutive, breaks, _, _, sum⟩ := run_keeps_view fits ran
  refine ⟨fits, ran, views, consecutive, (breaks 5).mpr ?_, moved, again, ?_⟩
  · decide +kernel
  · exact sum _ _ _ _ _ _ moved again

end Cursor

end Precedence
