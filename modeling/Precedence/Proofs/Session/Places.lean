import Precedence.Proofs.Scanner.Items
import Precedence.Proofs.Scanner.Partition
import Precedence.Proofs.Session.Raised

namespace Precedence

/-- Whether a span is that of a stretch of a text, which has the rest of the text on both sides. -/
structure Span.Marks (span : Span) (text before inner rest : List Char) : Prop where
  split : text = before ++ (inner ++ rest)
  place : span = ⟨byteLength before, byteLength before + byteLength inner⟩

/-- What stands at the place of an error of the lexicon: a character that no match begins with, or
any character, if only the empty text is matched in front of it. -/
def ScanError.IsAbout (cause : ScanError) (inner rest : List Char) : Prop :=
  match cause with
  | unrecognized c _ => inner = [c]
  | emptyMatch _ => inner = [] ∧ rest ≠ []
  | splitCharacter _ => False

namespace Lexicon

variable {lexicon : Lexicon}

/-- Whether a token is that of a stretch of a text: the token found there, or the end mark at the
end. -/
def Names (lexicon : Lexicon) (endToken token : Token) (inner rest : List Char) : Prop :=
  token = endToken ∧ inner = [] ∧ rest = [] ∨ lexicon.Word token inner rest

/-- The items and the obstacle that a lexicon finds from a place on stand where their spans say. -/
theorem stream_marks (front : lexicon.MatchesFront) (endToken : Token) (cursor : Cursor)
    (before : List Char) (place : cursor.pos = byteLength before) :
    (∀ item ∈ (lexicon.stream cursor).items endToken, ∃ skipped inner rest,
      item.2.Marks (before ++ cursor.rest) skipped inner rest ∧
        lexicon.Names endToken item.1 inner rest) ∧
    ∀ cause, (lexicon.stream cursor).obstacle? = some cause → ∃ skipped inner rest,
      (ParseError.scan cause).span.Marks (before ++ cursor.rest) skipped inner rest ∧
        cause.IsAbout inner rest := by
  fun_induction stream lexicon cursor generalizing before with
  | case1 cursor token span next scanned ih =>
    obtain ⟨gap, behind, split, _, stops⟩ := scan_stops front cursor
    rw [scanned] at stops
    obtain ⟨inner, whole, word, spanEq, nextPos⟩ := stops.of_token
    dsimp only at whole spanEq nextPos
    have textEq : before ++ cursor.rest = before ++ gap ++ inner ++ next.rest := by
      rw [split, whole]
      simp only [List.append_assoc]
    have later := ih (before ++ gap ++ inner) (by
      rw [nextPos, place]
      simp only [byteLength_append])
    rw [textEq]
    refine ⟨fun item member => ?_, later.2⟩
    rcases List.mem_cons.mp member with rfl | member
    · refine ⟨before ++ gap, inner, next.rest, ⟨by simp only [List.append_assoc], ?_⟩, Or.inr word⟩
      simp only [spanEq, place, byteLength_append]
    · exact later.1 item member
  | case2 cursor final scanned =>
    obtain ⟨gap, behind, split, _, stops⟩ := scan_stops front cursor
    rw [scanned] at stops
    obtain ⟨done, rfl⟩ := stops.of_finish
    dsimp only at done
    subst done
    refine ⟨fun item member => ?_, fun cause blocks => ?_⟩
    · obtain rfl := List.mem_singleton.mp member
      refine ⟨before ++ gap, [], [], ⟨by simp [split], ?_⟩, Or.inl ⟨rfl, rfl, rfl⟩⟩
      simp [Span.emptyAt, place]
    · cases blocks
  | case3 cursor cause after scanned =>
    obtain ⟨gap, behind, split, _, stops⟩ := scan_stops front cursor
    rw [scanned] at stops
    obtain ⟨c, rest, shape, kind⟩ := stops.of_failure
    dsimp only at shape
    subst shape
    refine ⟨fun item member => ?_, fun other same => ?_⟩
    · cases member
    · obtain rfl := Option.some.inj same
      rcases kind with ⟨rfl, _⟩ | ⟨rfl, _⟩
      · refine ⟨before ++ gap, [c], rest, ⟨by simp [split], ?_⟩, rfl⟩
        simp [ParseError.span, place]
      · refine ⟨before ++ gap, [], c :: rest, ⟨by simp [split], ?_⟩, rfl, by simp⟩
        simp [ParseError.span, Span.emptyAt, place]

end Lexicon

namespace Grammar

variable {grammar : Grammar} {text : List Char} {error : ParseError}

/-- Whether the reading of a text is given up with an error after given tokens were taken, in front
of a given one. -/
def GivesUpBehind (grammar : Grammar) (text : List Char) (error : ParseError) (taken : List Token)
    (found : Token) (span : Span) : Prop :=
  ∃ first after, Scanner.start grammar.lexicon grammar.endToken text = .ok first ∧
    Session.complete grammar (Session.ofScanner first) = .error error after ∧
    first.Takes taken after.scanner ∧ after.current = found ∧ after.scanner.span = span

/-- Whether an error is about the first token of a text that was not taken, which was found in a
given stretch of it, or about the end of the text. -/
def BlamesFirstLeft (grammar : Grammar) (text : List Char) (error : ParseError) (found : Token)
    (inner rest : List Char) : Prop :=
  found = grammar.endToken ∧ inner = [] ∧ rest = [] ∨
  grammar.lexicon.Word found inner rest ∧ ∃ taken later,
    grammar.items text = taken ++ (found, error.span) :: later ∧
    grammar.GivesUpBehind text error (taken.map Prod.fst) found error.span

/-- What the stretch of a text that an error points at has to do with the error. -/
def PointsAt (grammar : Grammar) (text : List Char) (error : ParseError) (inner rest : List Char) :
    Prop :=
  match error with
  | .scan cause => cause.IsAbout inner rest
  | .unexpected found _ _ => grammar.BlamesFirstLeft text error found inner rest
  | .tooDeep _ _ => ∃ found, grammar.BlamesFirstLeft text error found inner rest
  | .endless _ => inner = [] ∧ rest = []

theorem marks_of_standsAt {place : Nat} {scanner : Scanner} (front : grammar.lexicon.MatchesFront)
    (stands : grammar.StandsAt text place scanner) :
    ∃ before inner rest, scanner.span.Marks text before inner rest ∧
      grammar.lexicon.Names grammar.endToken scanner.current inner rest :=
  (Lexicon.stream_marks front grammar.endToken (.ofText text) [] rfl).1 _
    (List.mem_of_getElem? stands.item_eq)

theorem marks_of_obstacle {cause : ScanError} (front : grammar.lexicon.MatchesFront)
    (blocks : (grammar.stream text).obstacle? = some cause) :
    ∃ before inner rest, (ParseError.scan cause).span.Marks text before inner rest ∧
      cause.IsAbout inner rest :=
  (Lexicon.stream_marks front grammar.endToken (.ofText text) [] rfl).2 _ blocks

/-- The tokens that were taken before a token of the text are all those in front of it. -/
theorem blamesFirstLeft_of_takes {first : Scanner} {after : Session} {tokens : List Token}
    {inner rest : List Char} (endNoWord : grammar.endToken.kind ∉ grammar.lexicon.kinds)
    (started : Scanner.start grammar.lexicon grammar.endToken text = .ok first)
    (stands : grammar.StandsAt text 0 first)
    (failed : Session.complete grammar (Session.ofScanner first) = .error error after)
    (takes : first.Takes tokens after.scanner) (span : error.span = after.scanner.span)
    (names : grammar.lexicon.Names grammar.endToken after.current inner rest) :
    grammar.BlamesFirstLeft text error after.current inner rest := by
  rcases names with ended | word
  · exact Or.inl ended
  · obtain ⟨place, there, _, atEnd | taken⟩ := stands.takes takes
    · exact absurd (atEnd ▸ word.known) endNoWord
    · have here : (grammar.items text).drop place =
          (after.current, error.span) :: (grammar.items text).drop (place + 1) := by
        rw [span, List.drop_eq_getElem?_toList_append,
          show (grammar.items text)[place]? = _ from there.item_eq]
        rfl
      have beforeHere : ((grammar.items text).take place).map Prod.fst = tokens := by
        refine List.append_cancel_right (Eq.trans ?_ taken)
        rw [← List.map_append]
        exact congrArg _ (List.take_append_drop place (grammar.items text))
      refine Or.inr ⟨word, (grammar.items text).take place, (grammar.items text).drop (place + 1),
        ?_, first, after, started, failed, ?_, rfl, span.symm⟩
      · rw [← here, List.take_append_drop]
      · rwa [beforeHere]

/-- Every error points at a stretch of the text, and what stands there is what the error says: a
character that no match begins with, or a place where only the empty text is matched; the first
token that was not taken, or the end of the text. -/
theorem error_points_at_text (front : grammar.lexicon.MatchesFront)
    (endNoWord : grammar.endToken.kind ∉ grammar.lexicon.kinds)
    (failed : grammar.parse text = .error error) :
    ∃ before inner rest, error.span.Marks text before inner rest ∧
      grammar.PointsAt text error inner rest := by
  have obstacle {cause : ScanError} (blocks : (grammar.stream text).obstacle? = some cause) :
      ∃ before inner rest, (ParseError.scan cause).span.Marks text before inner rest ∧
        grammar.PointsAt text (.scan cause) inner rest := marks_of_obstacle front blocks
  rcases @start_cases grammar text with ⟨first, started, stands⟩ | ⟨cause, stuck, fails⟩
  · rcases parse_error_cases failed with ⟨_, _, stuck⟩ | ⟨_, after, same, ran, raises⟩
    · cases started.symm.trans stuck
    · cases started.symm.trans same
      have blames {tokens : List Token} (takes : first.Takes tokens after.scanner)
          (span : error.span = after.scanner.span) : ∃ before inner rest,
          error.span.Marks text before inner rest ∧
            grammar.BlamesFirstLeft text error after.current inner rest := by
        obtain ⟨place, there, _⟩ := stands.takes takes
        obtain ⟨before, inner, rest, marks, names⟩ := marks_of_standsAt front there
        exact ⟨before, inner, rest, span ▸ marks,
          blamesFirstLeft_of_takes endNoWord started stands ran takes span names⟩
      generalize atLast : after.scanner = last at raises blames
      cases raises with
      | scan takes stuck =>
        obtain ⟨place, there, _⟩ := stands.takes takes
        exact obstacle (there.obstacle?_of_next stuck)
      | unexpected takes =>
        obtain ⟨before, inner, rest, marks, blame⟩ := blames takes rfl
        subst atLast
        exact ⟨before, inner, rest, marks, blame⟩
      | tooDeep takes =>
        obtain ⟨before, inner, rest, marks, blame⟩ := blames takes rfl
        exact ⟨before, inner, rest, marks, _, blame⟩
      | endless takes nothing =>
        obtain ⟨place, there, _⟩ := stands.takes takes
        obtain ⟨before, inner, rest, marks, ⟨_, nothingLeft⟩ | word⟩ :=
          marks_of_standsAt front there
        · exact ⟨before, inner, rest, marks, nothingLeft⟩
        · have atEnd := eq_of_beq (Scanner.pending_eq_zero.mp nothing).2
          exact absurd (atEnd.trans there.sees.endToken_eq ▸ word.known) endNoWord
  · obtain rfl : error = .scan cause :=
      Except.error.inj (failed.symm.trans (parse_of_start_error stuck))
    refine obstacle ?_
    rw [fails]
    rfl

theorem stray_parenthesis_pointed_at :
    arithmetic.lexicon.MatchesFront ∧ arithmetic.endToken.kind ∉ arithmetic.lexicon.kinds ∧
    arithmetic.parse "a + 1) * b".toList =
      .error (.unexpected ⟨"op", ")"⟩ (.token ⟨"eof", ""⟩) ⟨5, 6⟩) ∧
    ∃ before inner rest, Span.Marks ⟨5, 6⟩ "a + 1) * b".toList before inner rest ∧
      arithmetic.BlamesFirstLeft "a + 1) * b".toList
        (.unexpected ⟨"op", ")"⟩ (.token ⟨"eof", ""⟩) ⟨5, 6⟩) ⟨"op", ")"⟩ inner rest := by
  have front : arithmetic.lexicon.MatchesFront :=
    @Lexicon.matchesFront_of_textStart _ 17 (by decide +kernel)
  have endNoWord : arithmetic.endToken.kind ∉ arithmetic.lexicon.kinds := by decide +kernel
  have failed : arithmetic.parse "a + 1) * b".toList =
      .error (.unexpected ⟨"op", ")"⟩ (.token ⟨"eof", ""⟩) ⟨5, 6⟩) := by decide +kernel
  exact ⟨front, endNoWord, failed, error_points_at_text front endNoWord failed⟩

end Grammar

end Precedence
