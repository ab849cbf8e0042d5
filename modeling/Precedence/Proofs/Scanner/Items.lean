import Precedence.Proofs.Scanner.Takes
import Precedence.Proofs.Scanner.Tokens

namespace Precedence

namespace TokenStream

/-- What a reader of a text comes to, one item after the other: its tokens, each with its span, and
behind them the end mark. Where no further token can be found, the items stop before. -/
def items (endToken : Token) : TokenStream → List (Token × Span)
  | token first span rest => (first, span) :: rest.items endToken
  | finish pos => [(endToken, .emptyAt pos)]
  | failure _ => []

/-- What stands in the way of the end of the text, if it cannot be reached. -/
def obstacle? : TokenStream → Option ScanError
  | token _ _ rest => rest.obstacle?
  | finish _ => none
  | failure error => some error

/-- What comes behind so many tokens. -/
def behind (stream : TokenStream) : Nat → TokenStream
  | 0 => stream
  | count + 1 => (stream.behind count).tail

/-- Whether the tokens stand one behind the other from a place on, each of them over at least one
byte, and what ends them stands behind all of them. -/
inductive InOrder : Nat → TokenStream → Prop
  | token {pos token span rest} : pos ≤ span.start → span.start < span.stop →
      InOrder span.stop rest → InOrder pos (.token token span rest)
  | finish {pos final} : pos ≤ final → InOrder pos (.finish final)
  | failure {pos error} : pos ≤ error.pos → InOrder pos (.failure error)

variable {stream : TokenStream} {endToken : Token} {pos : Nat}

theorem tail_behind {count : Nat} : stream.tail.behind count = stream.behind (count + 1) := by
  induction count with
  | zero => rfl
  | succ count ih => exact congrArg tail ih

theorem obstacle?_behind (stream : TokenStream) (count : Nat) :
    (stream.behind count).obstacle? = stream.obstacle? := by
  induction count with
  | zero => rfl
  | succ count ih =>
    rw [← ih, behind]
    cases stream.behind count <;> rfl

/-- The items from any of them on are those of what comes behind the ones before it. -/
theorem drop_items {place : Nat} (inside : place < (stream.items endToken).length) :
    (stream.items endToken).drop place = (stream.behind place).items endToken := by
  induction stream generalizing place with
  | token first span rest ih =>
    cases place with
    | zero => rfl
    | succ place =>
      rw [← tail_behind]
      exact ih (Nat.lt_of_succ_lt_succ inside)
  | finish pos =>
    obtain rfl : place = 0 := Nat.lt_one_iff.mp inside
    rfl
  | failure error => exact absurd inside (Nat.not_lt_zero place)

theorem length_items_behind {place : Nat} (inside : place < (stream.items endToken).length) :
    place + ((stream.behind place).items endToken).length = (stream.items endToken).length := by
  rw [← drop_items inside, List.length_drop]
  omega

theorem InOrder.mono {less : Nat} (ordered : stream.InOrder pos) (le : less ≤ pos) :
    stream.InOrder less := by
  cases ordered with
  | token fromPos nonempty rest => exact .token (Nat.le_trans le fromPos) nonempty rest
  | finish fromPos => exact .finish (Nat.le_trans le fromPos)
  | failure fromPos => exact .failure (Nat.le_trans le fromPos)

theorem InOrder.tail (ordered : stream.InOrder pos) : stream.tail.InOrder pos := by
  cases ordered with
  | token fromPos nonempty rest =>
    exact rest.mono (Nat.le_trans fromPos (Nat.le_of_lt nonempty))
  | finish fromPos => exact .finish fromPos
  | failure fromPos => exact .failure fromPos

theorem InOrder.behind {count : Nat} (ordered : stream.InOrder pos) :
    (stream.behind count).InOrder pos := by
  induction count with
  | zero => exact ordered
  | succ count ih => exact ih.tail

theorem InOrder.le_start {item : Token × Span} (ordered : stream.InOrder pos)
    (found : item ∈ stream.items endToken) : pos ≤ item.2.start := by
  induction ordered with
  | token fromPos nonempty _ ih =>
    rcases List.mem_cons.mp found with rfl | later
    · exact fromPos
    · exact Nat.le_trans (Nat.le_trans fromPos (Nat.le_of_lt nonempty)) (ih later)
  | finish fromPos =>
    obtain rfl := List.mem_singleton.mp found
    exact fromPos
  | failure _ => cases found

/-- Every item begins behind the beginnings of those before it. -/
theorem InOrder.pairwise_items (ordered : stream.InOrder pos) :
    (stream.items endToken).Pairwise fun first second => first.2.start < second.2.start := by
  induction ordered with
  | token _ nonempty rest ih =>
    exact List.pairwise_cons.mpr
      ⟨fun item later => Nat.lt_of_lt_of_le nonempty (rest.le_start later), ih⟩
  | finish _ => exact List.pairwise_singleton _ _
  | failure _ => exact .nil

theorem InOrder.le_obstacle {error : ScanError} (ordered : stream.InOrder pos)
    (stuck : stream.obstacle? = some error) : pos ≤ error.pos := by
  induction ordered with
  | token fromPos nonempty _ ih =>
    exact Nat.le_trans (Nat.le_trans fromPos (Nat.le_of_lt nonempty)) (ih stuck)
  | finish _ => cases stuck
  | failure fromPos =>
    cases stuck
    exact fromPos

theorem tokens_eq_ok {tokens : List Token} (split : stream.tokens = .ok tokens) :
    stream.obstacle? = none ∧
      (stream.items endToken).map Prod.fst = tokens ++ [endToken] := by
  induction stream generalizing tokens with
  | token first span rest ih =>
    cases inner : rest.tokens with
    | error error => simp [TokenStream.tokens, inner, Except.map] at split
    | ok later =>
      obtain rfl : first :: later = tokens := by
        simpa [TokenStream.tokens, inner, Except.map] using split
      obtain ⟨clear, same⟩ := ih inner
      exact ⟨clear, congrArg (first :: ·) same⟩
  | finish pos =>
    cases split
    exact ⟨rfl, rfl⟩
  | failure error => cases split

theorem tokens_eq_error {error : ScanError} (stuck : stream.tokens = .error error) :
    stream.obstacle? = some error := by
  induction stream with
  | token first span rest ih =>
    cases inner : rest.tokens with
    | error cause =>
      refine ih ?_
      simpa [TokenStream.tokens, inner, Except.map] using stuck
    | ok later => simp [TokenStream.tokens, inner, Except.map] at stuck
  | finish pos => cases stuck
  | failure cause =>
    cases stuck
    rfl

end TokenStream

/-- Whether a scan from a place on finds a token behind it, over at least one byte, and stops behind
the token; or comes to the end of the text, or to an error, no earlier than there. -/
def Scan.StartsAt (pos : Nat) : Scan → Prop
  | token _ span next => pos ≤ span.start ∧ span.start < span.stop ∧ span.stop = next.pos
  | finish final => pos ≤ final.pos
  | failure error _ => pos ≤ error.pos

theorem Scan.StartsAt.mono {scan : Scan} {pos less : Nat} (starts : scan.StartsAt pos)
    (le : less ≤ pos) : scan.StartsAt less := by
  cases scan with
  | token token span next => exact ⟨Nat.le_trans le starts.1, starts.2⟩
  | finish final => exact Nat.le_trans le starts
  | failure error after => exact Nat.le_trans le starts

namespace Lexicon

variable {lexicon : Lexicon}

theorem pos_lt_of_advance? {cursor next : Cursor} {count : Nat}
    (moved : cursor.advance? count = some next) (someByte : count ≠ 0)
    (nonempty : cursor.rest ≠ []) : cursor.pos < next.pos := by
  obtain ⟨skipped, _, place, bytes⟩ := cursor.advance?_split moved
  have room : byteLength cursor.rest ≠ 0 := fun none => nonempty (byteLength_eq_zero.mp none)
  omega

theorem scan_startsAt (cursor : Cursor) : (lexicon.scan cursor).StartsAt cursor.pos := by
  fun_induction scan lexicon cursor with
  | case1 cursor shape => exact Nat.le_refl _
  | case2 cursor c rest shape missed => exact Nat.le_refl _
  | case3 cursor c rest shape hit matched empty => exact Nat.le_refl _
  | case4 cursor c rest shape hit matched someByte stuck => exact Nat.le_refl _
  | case5 cursor c rest shape hit matched someByte after moved kind value word =>
    exact ⟨Nat.le_refl _, pos_lt_of_advance? moved someByte (by simp [shape]), rfl⟩
  | case6 cursor c rest shape hit matched someByte after moved skipped ih =>
    exact ih.mono (Nat.le_of_lt (pos_lt_of_advance? moved someByte (by simp [shape])))

theorem stream_inOrder (lexicon : Lexicon) (cursor : Cursor) :
    (lexicon.stream cursor).InOrder cursor.pos := by
  have starts := lexicon.scan_startsAt cursor
  fun_induction stream lexicon cursor with
  | case1 cursor token span next scanned ih =>
    rw [scanned] at starts
    obtain ⟨fromPos, nonempty, same⟩ := starts
    refine .token fromPos nonempty ?_
    rw [same]
    exact ih (scan_startsAt next)
  | case2 cursor final scanned =>
    rw [scanned] at starts
    exact .finish starts
  | case3 cursor error after scanned =>
    rw [scanned] at starts
    exact .failure starts

end Lexicon

namespace Scanner

variable {lexicon : Lexicon} {endToken : Token} {scanner last : Scanner} {stream : TokenStream}

/-- A scanner stands in front of the first item of what it shows. -/
theorem Shows.head?_items (sees : scanner.Shows lexicon endToken stream) :
    (stream.items endToken).head? = some (scanner.current, scanner.span) := by
  cases sees with
  | token _ => rfl
  | finish _ => rfl

/-- Where the end mark is no word, it stands at the end of the text only. -/
theorem Shows.eq_finish (sees : scanner.Shows lexicon endToken stream)
    (endNoWord : endToken.kind ∉ lexicon.kinds) (ended : scanner.current = endToken) :
    ∃ pos, stream = .finish pos := by
  cases sees with
  | @token _ token _ known =>
    obtain rfl : token = endToken := ended
    exact absurd known endNoWord
  | @finish cursor _ => exact ⟨cursor.pos, rfl⟩

/-- Whether a scanner stands in front of the item of a given number. -/
structure StandsAt (lexicon : Lexicon) (endToken : Token) (stream : TokenStream) (place : Nat)
    (scanner : Scanner) : Prop where
  sees : scanner.Shows lexicon endToken (stream.behind place)
  inside : place < (stream.items endToken).length

section
variable {place : Nat}

theorem StandsAt.item_eq (stands : scanner.StandsAt lexicon endToken stream place) :
    (stream.items endToken)[place]? = some (scanner.current, scanner.span) := by
  rw [← stands.sees.head?_items, ← TokenStream.drop_items stands.inside, List.head?_drop]

/-- Items with the same span have the same number. -/
theorem StandsAt.place_eq {pos other : Nat} {item : Token × Span}
    (stands : scanner.StandsAt lexicon endToken stream place) (ordered : stream.InOrder pos)
    (known : (stream.items endToken)[other]? = some item) (same : item.2 = scanner.span) :
    place = other := by
  obtain ⟨here, isHere⟩ := List.getElem?_eq_some_iff.mp stands.item_eq
  obtain ⟨there, isThere⟩ := List.getElem?_eq_some_iff.mp known
  have ascending := List.pairwise_iff_getElem.mp (@TokenStream.InOrder.pairwise_items _ endToken _
    ordered)
  rcases Nat.lt_trichotomy place other with before | samePlace | behind
  · have less := ascending place other here there before
    simp [isHere, isThere, same] at less
  · exact samePlace
  · have less := ascending other place there here behind
    simp [isHere, isThere, same] at less

/-- A scanner goes on to the next item, stays at the end of the text, or finds an obstacle. -/
theorem StandsAt.next_cases (stands : scanner.StandsAt lexicon endToken stream place) :
    (∃ after, Scanner.next scanner = .ok () after ∧
      after.StandsAt lexicon endToken stream (place + 1)) ∨
    (∃ after, Scanner.next scanner = .ok () after ∧ after.StandsAt lexicon endToken stream place ∧
      scanner.current = endToken ∧ place + 1 = (stream.items endToken).length) ∨
    ∃ cause after, Scanner.next scanner = .error cause after ∧ stream.obstacle? = some cause ∧
      place + 1 = (stream.items endToken).length := by
  have sees := stands.sees
  have count := TokenStream.length_items_behind stands.inside
  generalize shape : stream.behind place = shown at sees count
  cases sees with
  | @token cursor token span known =>
    rcases Scanner.next_cases ⟨lexicon, endToken, cursor, token, span⟩ with
      ⟨after, found, behind⟩ | ⟨cause, after, stuck, fails⟩
    · refine Or.inl ⟨after, found, ?_, ?_⟩
      · rw [TokenStream.behind, shape]
        exact behind
      · have more := List.length_pos_of_mem (List.mem_of_mem_head? behind.head?_items)
        simp only [TokenStream.items, List.length_cons] at count more
        omega
    · have fails : lexicon.stream cursor = .failure cause := fails
      rw [fails] at shape count
      refine Or.inr (Or.inr ⟨cause, after, stuck, ?_, count⟩)
      rw [← TokenStream.obstacle?_behind stream place, shape]
      rfl
  | @finish cursor done =>
    rcases (Shows.finish done : Shows lexicon endToken _ _).next_cases with
      ⟨after, found, behind⟩ | ⟨_, _, _, fails⟩
    · exact Or.inr (Or.inl ⟨after, found, ⟨by rwa [shape], stands.inside⟩, rfl, count⟩)
    · cases fails

/-- No further token can be found only in front of the obstacle. -/
theorem StandsAt.obstacle?_of_next {cause : ScanError}
    (stands : scanner.StandsAt lexicon endToken stream place)
    (stuck : Scanner.next scanner = .error cause last) : stream.obstacle? = some cause := by
  rcases stands.next_cases with ⟨_, found, _⟩ | ⟨_, found, _⟩ | ⟨_, _, same, blocks, _⟩
  · cases stuck.symm.trans found
  · cases stuck.symm.trans found
  · cases stuck.symm.trans same
    exact blocks

/-- Where a scanner stands after some tokens were taken: behind their items, unless that is the end
of the text, where the end mark may have been taken too. -/
theorem StandsAt.takes {tokens : List Token}
    (stands : scanner.StandsAt lexicon endToken stream place)
    (takes : scanner.Takes tokens last) :
    ∃ final, last.StandsAt lexicon endToken stream final ∧ place ≤ final ∧
      (last.current = endToken ∨
        ((stream.items endToken).drop place).map Prod.fst =
          tokens ++ ((stream.items endToken).drop final).map Prod.fst) := by
  induction takes generalizing place with
  | nil => exact ⟨place, stands, Nat.le_refl place, Or.inr rfl⟩
  | @cons scanner next last tokens found _ ih =>
    rcases stands.next_cases with
      ⟨after, same, behind⟩ | ⟨after, same, still, ended, count⟩ | ⟨_, _, stuck, _⟩
    · cases found.symm.trans same
      obtain ⟨final, there, le, here⟩ := ih behind
      refine ⟨final, there, Nat.le_of_succ_le le, here.imp_right fun taken => ?_⟩
      rw [List.drop_eq_getElem?_toList_append, stands.item_eq, List.map_append, taken]
      rfl
    · cases found.symm.trans same
      obtain ⟨final, there, le, _⟩ := ih still
      have samePlace : final = place := by
        have inside := there.inside
        omega
      subst samePlace
      have sameItem := there.item_eq.symm.trans stands.item_eq
      exact ⟨final, there, le, Or.inl ((Prod.mk.inj (Option.some.inj sameItem)).1.trans ended)⟩
    · cases found.symm.trans stuck

theorem Shows.standsAt_zero (sees : scanner.Shows lexicon endToken stream) :
    scanner.StandsAt lexicon endToken stream 0 :=
  ⟨sees, List.length_pos_of_mem (List.mem_of_mem_head? sees.head?_items)⟩

/-- In front of an obstacle, all items end before it. -/
theorem StandsAt.stop_le {pos : Nat} {cause : ScanError}
    (stands : scanner.StandsAt lexicon endToken stream place) (ordered : stream.InOrder pos)
    (stuck : stream.obstacle? = some cause) : scanner.span.stop ≤ cause.pos := by
  have sees := stands.sees
  have behind := @TokenStream.InOrder.behind _ _ place ordered
  rw [← TokenStream.obstacle?_behind stream place] at stuck
  generalize stream.behind place = shown at sees behind stuck
  cases sees with
  | token _ =>
    cases behind with
    | token _ _ rest => exact rest.le_obstacle stuck
  | finish _ => cases stuck

/-- At the end of the text a scanner stays. -/
theorem StandsAt.next_of_end (stands : scanner.StandsAt lexicon endToken stream place)
    (endNoWord : endToken.kind ∉ lexicon.kinds) (ended : scanner.current = endToken) :
    ∃ after, Scanner.next scanner = .ok () after ∧
      after.StandsAt lexicon endToken stream place := by
  obtain ⟨pos, finished⟩ := stands.sees.eq_finish endNoWord ended
  have sees := stands.sees
  rw [finished] at sees
  rcases sees.next_cases with ⟨after, found, behind⟩ | ⟨_, _, _, fails⟩
  · exact ⟨after, found, ⟨by rwa [finished], stands.inside⟩⟩
  · cases fails

/-- The end mark is in front only where nothing stands in the way of the end of the text. -/
theorem StandsAt.obstacle?_eq_none (stands : scanner.StandsAt lexicon endToken stream place)
    (endNoWord : endToken.kind ∉ lexicon.kinds) (ended : scanner.current = endToken) :
    stream.obstacle? = none := by
  obtain ⟨pos, finished⟩ := stands.sees.eq_finish endNoWord ended
  rw [← TokenStream.obstacle?_behind stream place, finished]
  rfl

end

end Scanner

namespace Grammar

/-- What the lexicon of a language finds in a text. -/
def stream (grammar : Grammar) (text : List Char) : TokenStream :=
  grammar.lexicon.stream (.ofText text)

/-- The items of a text: its tokens and the end mark, or the tokens in front of an obstacle. -/
def items (grammar : Grammar) (text : List Char) : List (Token × Span) :=
  (grammar.stream text).items grammar.endToken

/-- Whether a scanner of a text stands in front of the item of a given number. -/
abbrev StandsAt (grammar : Grammar) (text : List Char) (place : Nat) (scanner : Scanner) : Prop :=
  scanner.StandsAt grammar.lexicon grammar.endToken (grammar.stream text) place

variable {grammar : Grammar} {text : List Char}

theorem stream_inOrder : (grammar.stream text).InOrder 0 :=
  grammar.lexicon.stream_inOrder (.ofText text)

theorem start_cases : (∃ first, Scanner.start grammar.lexicon grammar.endToken text = .ok first ∧
      grammar.StandsAt text 0 first) ∨
    ∃ cause, Scanner.start grammar.lexicon grammar.endToken text = .error cause ∧
      grammar.stream text = .failure cause := by
  rcases @Scanner.start_cases grammar.lexicon grammar.endToken text with
    ⟨first, started, sees⟩ | stuck
  · exact Or.inl ⟨first, started, sees.standsAt_zero⟩
  · exact Or.inr stuck

end Grammar

end Precedence
