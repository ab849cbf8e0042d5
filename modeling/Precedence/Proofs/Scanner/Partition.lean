import Precedence.Grammar
import Precedence.Proofs.Regex.Captures
import Precedence.Proofs.Scanner.Scan

namespace Precedence

namespace Lexicon

variable {lexicon : Lexicon}

/-- Whether every match is the front of the text in which it was looked for, and the text of a
token lies inside its match. -/
def MatchesFront (lexicon : Lexicon) : Prop :=
  ∀ text hit, lexicon.match? text = some hit → ∃ front rest, text = front ++ rest ∧
    hit.length = byteLength front ∧
    ∀ kind value, hit.word? = some (kind, value) → value.toList <:+: front

theorem stretch_infix {text : List Char} {start stop further : Nat} (within : stop ≤ further) :
    stretch text start stop <:+: text.take further := by
  have cut : stretch text start stop = (text.take stop).drop start := by
    rw [stretch, List.drop_take]
  have shorter : text.take stop <+: text.take further := List.take_prefix_take_left within
  rw [cut]
  exact (List.drop_suffix start _).isInfix.trans shorter.isInfix

/-- A pattern that asks first for the start of the text is found nowhere else, and what it captures
lies in its match. -/
theorem exists_front_of_textStart {next : Nat} {text : List Char} {hit : Hit}
    (held : lexicon.program.states[lexicon.program.start]? = some (.check .textStart next))
    (matched : lexicon.match? text = some hit) :
    ∃ found front rest, lexicon.program.search? text = some found ∧ found.start = 0 ∧
      stretch text found.start found.stop = front ∧ text = front ++ rest ∧
      hit.length = byteLength front ∧
      ∀ kind value, hit.word? = some (kind, value) → value.toList <:+: front := by
  obtain ⟨found, searched, rfl⟩ := Option.map_eq_some_iff.mp matched
  have fromStart := Program.start_of_search? held searched
  refine ⟨found, text.take found.stop, text.drop found.stop, searched, fromStart, ?_,
    (List.take_append_drop _ _).symm, ?_, ?_⟩
  · simp [stretch, fromStart]
  · simp [stretch, fromStart]
  · intro kind value word
    obtain ⟨name, _, taken⟩ := List.exists_of_findSome?_eq_some word
    obtain ⟨⟨start, stop⟩, group, same⟩ := Option.map_eq_some_iff.mp taken
    obtain ⟨_, rfl⟩ := Prod.mk.inj same
    obtain ⟨before, after, whole, _⟩ := List.lookup_eq_some_iff.mp group
    rw [String.toList_ofList]
    exact stretch_infix (Program.searchFrom?_within searched (name, start, stop) (by simp [whole]))

theorem matchesFront_of_textStart {next : Nat}
    (held : lexicon.program.states[lexicon.program.start]? = some (.check .textStart next)) :
    lexicon.MatchesFront := by
  intro text hit matched
  obtain ⟨_, front, rest, _, _, _, whole, length, inside⟩ := exists_front_of_textStart held matched
  exact ⟨front, rest, whole, length, inside⟩

theorem exists_advance? (front : lexicon.MatchesFront) {cursor : Cursor} {hit : Hit}
    (matched : lexicon.match? cursor.rest = some hit) (someByte : hit.length ≠ 0) :
    ∃ text rest, cursor.rest = text ++ rest ∧ text ≠ [] ∧ hit.length = byteLength text ∧
      cursor.advance? hit.length = some ⟨rest, cursor.pos + byteLength text⟩ ∧
      ∀ kind value, hit.word? = some (kind, value) → value.toList <:+: text := by
  obtain ⟨whole, pos⟩ := cursor
  obtain ⟨text, rest, rfl, length, inside⟩ := front whole hit matched
  refine ⟨text, rest, rfl, ?_, length, ?_, inside⟩
  · rintro rfl
    exact someByte length
  · rw [length]
    exact Cursor.advance?_append

/-- A text in front of `rest` that is passed over: matches one after the other, none of them empty
and none of them a token. -/
inductive Gap (lexicon : Lexicon) (rest : List Char) : List Char → Prop
  | nil : Gap lexicon rest []
  | cons {front later} : front ≠ [] →
      lexicon.match? (front ++ (later ++ rest)) = some ⟨byteLength front, none⟩ →
      Gap lexicon rest later → Gap lexicon rest (front ++ later)

/-- Whether a token is found in a text in front of `rest`, which it takes as a whole. -/
structure Word (lexicon : Lexicon) (token : Token) (text rest : List Char) : Prop where
  nonempty : text ≠ []
  matched : lexicon.match? (text ++ rest) = some ⟨byteLength text, some (token.kind, token.value)⟩
  known : token.kind ∈ lexicon.kinds
  inside : token.value.toList <:+: text

/-- What a scan comes to where there is nothing to be passed over. -/
inductive Stops (lexicon : Lexicon) : Cursor → Scan → Prop
  | token {token text rest pos} : lexicon.Word token text rest →
      Stops lexicon ⟨text ++ rest, pos⟩
        (.token token ⟨pos, pos + byteLength text⟩ ⟨rest, pos + byteLength text⟩)
  | finish {pos} : Stops lexicon ⟨[], pos⟩ (.finish ⟨[], pos⟩)
  | unrecognized {c rest pos} : lexicon.match? (c :: rest) = none →
      Stops lexicon ⟨c :: rest, pos⟩ (.failure (.unrecognized c pos) ⟨c :: rest, pos⟩)
  | emptyMatch {c rest pos word?} : lexicon.match? (c :: rest) = some ⟨0, word?⟩ →
      Stops lexicon ⟨c :: rest, pos⟩ (.failure (.emptyMatch pos) ⟨c :: rest, pos⟩)

namespace Stops

variable {place next : Cursor}

theorem of_token {token : Token} {span : Span}
    (stops : lexicon.Stops place (.token token span next)) :
    ∃ text, place.rest = text ++ next.rest ∧ lexicon.Word token text next.rest ∧
      span = ⟨place.pos, place.pos + byteLength text⟩ ∧
      next.pos = place.pos + byteLength text := by
  cases stops with
  | @token _ text _ _ word => exact ⟨text, rfl, word, rfl, rfl⟩

theorem of_finish (stops : lexicon.Stops place (.finish next)) :
    place.rest = [] ∧ next = place := by
  cases stops with
  | finish => exact ⟨rfl, rfl⟩

theorem of_failure {error : ScanError} (stops : lexicon.Stops place (.failure error next)) :
    ∃ c rest, place.rest = c :: rest ∧
      (error = .unrecognized c place.pos ∧ lexicon.match? place.rest = none ∨
        error = .emptyMatch place.pos ∧ ∃ word?, lexicon.match? place.rest = some ⟨0, word?⟩) := by
  cases stops with
  | @unrecognized c rest _ missed => exact ⟨c, rest, rfl, Or.inl ⟨rfl, missed⟩⟩
  | @emptyMatch c rest _ word? matched => exact ⟨c, rest, rfl, Or.inr ⟨rfl, word?, matched⟩⟩

end Stops

/-- A scan passes over a gap, and what it comes to stands behind it. -/
theorem scan_stops (front : lexicon.MatchesFront) (cursor : Cursor) :
    ∃ gap rest, cursor.rest = gap ++ rest ∧ lexicon.Gap rest gap ∧
      lexicon.Stops ⟨rest, cursor.pos + byteLength gap⟩ (lexicon.scan cursor) := by
  fun_induction scan lexicon cursor with
  | case1 cursor shape =>
    obtain ⟨rest, pos⟩ := cursor
    obtain rfl : rest = [] := shape
    exact ⟨[], [], rfl, .nil, .finish⟩
  | case2 cursor c rest shape missed =>
    obtain ⟨whole, pos⟩ := cursor
    obtain rfl : whole = c :: rest := shape
    exact ⟨[], c :: rest, rfl, .nil, .unrecognized missed⟩
  | case3 cursor c rest shape hit matched empty =>
    obtain ⟨whole, pos⟩ := cursor
    obtain rfl : whole = c :: rest := shape
    obtain ⟨length, word?⟩ := hit
    obtain rfl : length = 0 := empty
    exact ⟨[], c :: rest, rfl, .nil, .emptyMatch matched⟩
  | case4 cursor c rest shape hit matched someByte stuck =>
    obtain ⟨_, _, _, _, _, moves, _⟩ := exists_advance? front matched someByte
    cases stuck.symm.trans moves
  | case5 cursor c rest shape hit matched someByte after moved kind value word =>
    obtain ⟨text, later, whole, nonempty, length, moves, inside⟩ :=
      exists_advance? front matched someByte
    cases moved.symm.trans moves
    refine ⟨[], text ++ later, whole, .nil, ?_⟩
    have found : lexicon.match? (text ++ later) =
        some ⟨byteLength text, some (kind, value)⟩ := by
      rw [← whole, matched, ← length, ← word]
    exact @Stops.token _ ⟨kind, value⟩ text later cursor.pos
      ⟨nonempty, found, match?_kind_mem matched word, inside kind value word⟩
  | case6 cursor c rest shape hit matched someByte after moved skipped ih =>
    obtain ⟨text, later, whole, nonempty, length, moves, _⟩ :=
      exists_advance? front matched someByte
    cases moved.symm.trans moves
    obtain ⟨gap, stop, split, gaps, stops⟩ := ih
    obtain rfl : later = gap ++ stop := split
    have found : lexicon.match? (text ++ (gap ++ stop)) = some ⟨byteLength text, none⟩ := by
      rw [← whole, matched, ← length, ← skipped]
    refine ⟨text ++ gap, stop, by rw [whole, List.append_assoc], .cons nonempty found gaps, ?_⟩
    rwa [byteLength_append, ← Nat.add_assoc]

/-- A text in front of `rest`, from byte `pos` on, that falls into tokens, each with its span, and
gaps: in front of the first token, between them and behind the last one. -/
inductive Partition (lexicon : Lexicon) (rest : List Char) :
    Nat → List (Token × Span) → List Char → Prop
  | gap {pos gap} : lexicon.Gap rest gap → Partition lexicon rest pos [] gap
  | token {pos gap token text marks later} : lexicon.Gap (text ++ (later ++ rest)) gap →
      lexicon.Word token text (later ++ rest) →
      Partition lexicon rest (pos + byteLength gap + byteLength text) marks later →
      Partition lexicon rest pos
        ((token, ⟨pos + byteLength gap, pos + byteLength gap + byteLength text⟩) :: marks)
        (gap ++ (text ++ later))

namespace Partition

variable {rest covered : List Char} {pos : Nat} {marks : List (Token × Span)}

/-- Each token has the span of a text that is not empty, and its own text lies inside. -/
theorem exists_text (partition : lexicon.Partition rest pos marks covered) :
    ∀ mark ∈ marks, mark.1.kind ∈ lexicon.kinds ∧ ∃ before text after,
      covered = before ++ (text ++ after) ∧ text ≠ [] ∧ mark.1.value.toList <:+: text ∧
      mark.2 = ⟨pos + byteLength before, pos + byteLength before + byteLength text⟩ := by
  induction partition with
  | gap _ => simp
  | @token pos gap token text marks later _ word _ ih =>
    intro mark member
    rcases List.mem_cons.mp member with rfl | member
    · exact ⟨word.known, gap, text, later, rfl, word.nonempty, word.inside, rfl⟩
    · obtain ⟨known, before, inner, after, split, nonempty, inside, place⟩ := ih mark member
      refine ⟨known, gap ++ (text ++ before), inner, after, ?_, nonempty, inside, ?_⟩
      · simp only [split, List.append_assoc]
      · simp only [place, byteLength_append, Nat.add_assoc]

theorem le_start (partition : lexicon.Partition rest pos marks covered) :
    ∀ mark ∈ marks, pos ≤ mark.2.start := by
  intro mark member
  obtain ⟨_, before, text, after, _, _, _, place⟩ := partition.exists_text mark member
  rw [place]
  exact Nat.le_add_right _ _

end Partition

end Lexicon

namespace Scanner

/-- How the tokens of a text come to an end: the text is exhausted, and a scanner stands in front
of the end mark; or no further token can be found. -/
inductive Outcome where
  | exhausted (scanner : Scanner)
  | stuck (error : ScanError)

/-- The tokens that a scanner comes to, one after the other, each with its span, and how they come
to an end. The first token of a text is looked for in the same way as the one behind each token
that is taken. -/
inductive Run : Scanner → List (Token × Span) → Outcome → Prop
  | token {scanner after marks outcome} : next scanner = .ok () after →
      scanner.lexicon.scan scanner.cursor = .token after.current after.span after.cursor →
      Run after marks outcome → Run scanner ((after.current, after.span) :: marks) outcome
  | exhausted {scanner after} : next scanner = .ok () after →
      scanner.lexicon.scan scanner.cursor = .finish after.cursor →
      Run scanner [] (.exhausted after)
  | stuck {scanner error after} : next scanner = .error error after → Run scanner [] (.stuck error)

/-- What the end of the tokens says of the place `pos`, in front of which all of the text is tokens
and gaps, and of what is left of the text there. -/
def Outcome.Fits (lexicon : Lexicon) (endToken : Token) (pos : Nat) (rest : List Char) :
    Outcome → Prop
  | exhausted scanner => rest = [] ∧ scanner.current = endToken ∧ scanner.span = ⟨pos, pos⟩
  | stuck error => ∃ c later, rest = c :: later ∧
      (error = .unrecognized c pos ∧ lexicon.match? rest = none ∨
        error = .emptyMatch pos ∧ ∃ word?, lexicon.match? rest = some ⟨0, word?⟩)

theorem Run.partition {scanner : Scanner} {marks : List (Token × Span)} {outcome : Outcome}
    (run : scanner.Run marks outcome) (front : scanner.lexicon.MatchesFront) :
    ∃ covered rest, scanner.cursor.rest = covered ++ rest ∧
      scanner.lexicon.Partition rest scanner.cursor.pos marks covered ∧
      outcome.Fits scanner.lexicon scanner.endToken
        (scanner.cursor.pos + byteLength covered) rest := by
  induction run with
  | @token scanner after marks outcome found scanned _ ih =>
    obtain ⟨gap, behind, split, gaps, stops⟩ := Lexicon.scan_stops front scanner.cursor
    rw [scanned] at stops
    obtain ⟨text, whole, word, span, place⟩ := stops.of_token
    have same := (EStateM.Result.ok.inj ((next_of_token scanned).symm.trans found)).2
    have lexicon : after.lexicon = scanner.lexicon := by rw [← same]
    have endToken : after.endToken = scanner.endToken := by rw [← same]
    rw [lexicon, endToken] at ih
    obtain ⟨covered, rest, later, partition, fits⟩ := ih front
    dsimp only at whole span place
    rw [later] at whole word
    rw [place] at partition fits
    subst whole
    refine ⟨gap ++ (text ++ covered), rest, by simp [split], ?_, ?_⟩
    · rw [span]
      exact .token gaps word partition
    · simpa only [byteLength_append, Nat.add_assoc] using fits
  | @exhausted scanner after found scanned =>
    obtain ⟨gap, behind, split, gaps, stops⟩ := Lexicon.scan_stops front scanner.cursor
    rw [scanned] at stops
    obtain ⟨done, place⟩ := stops.of_finish
    have same := (EStateM.Result.ok.inj ((next_of_finish scanned).symm.trans found)).2
    dsimp only at done
    subst done
    refine ⟨gap, [], split, .gap gaps, rfl, ?_, ?_⟩
    · rw [← same]
    · rw [← same, place]
      rfl
  | @stuck scanner error after failed =>
    obtain ⟨gap, behind, split, gaps, stops⟩ := Lexicon.scan_stops front scanner.cursor
    unfold next at failed
    split at failed
    · cases failed
    · cases failed
    · next scanned =>
      cases failed
      rw [scanned] at stops
      exact ⟨gap, behind, split, .gap gaps, stops.of_failure⟩

end Scanner

end Precedence
