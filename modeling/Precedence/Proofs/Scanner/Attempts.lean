import Mathlib.Logic.Function.Iterate
import Precedence.Proofs.Scanner.Items
import Precedence.Proofs.Scanner.Partition
import Precedence.Proofs.Session.Parse

namespace Precedence

namespace Lexicon

variable {lexicon : Lexicon} {cursor after : Cursor} {error : ScanError}

theorem length_stream_le : (lexicon.stream cursor).length ≤ cursor.rest.length := by
  fun_induction stream lexicon cursor with
  | case1 cursor token span next scanned ih =>
    exact Nat.succ_le_of_lt (Nat.lt_of_le_of_lt ih (scan_token_length_lt scanned))
  | case2 cursor final scanned => exact Nat.zero_le _
  | case3 cursor error after scanned => exact Nat.zero_le _

theorem byteLength_stretch_le {text : List Char} {start stop : Nat} :
    byteLength (stretch text start stop) ≤ byteLength text := by
  have cut := congrArg byteLength (List.take_append_drop (stop - start) (text.drop start))
  have whole := congrArg byteLength (List.take_append_drop start text)
  simp only [byteLength_append] at cut whole
  unfold stretch
  omega

/-- A match takes no more than there is, wherever in the text it was found. -/
theorem length_le_of_match? {text : List Char} {hit : Hit}
    (matched : lexicon.match? text = some hit) : hit.length ≤ byteLength text := by
  obtain ⟨found, _, rfl⟩ := Option.map_eq_some_iff.mp matched
  exact byteLength_stretch_le

/-- Whether one place is come to from another one over text that is passed over. -/
def SkipsTo (lexicon : Lexicon) (cursor after : Cursor) : Prop :=
  ∃ gap, cursor.rest = gap ++ after.rest ∧ after.pos = cursor.pos + byteLength gap ∧
    lexicon.Gap after.rest gap

theorem SkipsTo.refl : lexicon.SkipsTo cursor cursor := ⟨[], rfl, rfl, .nil⟩

theorem SkipsTo.of_match {next : Cursor} {hit : Hit}
    (matched : lexicon.match? cursor.rest = some hit) (someByte : hit.length ≠ 0)
    (moved : cursor.advance? hit.length = some next) (noWord : hit.word? = none)
    (skips : lexicon.SkipsTo next after) : lexicon.SkipsTo cursor after := by
  obtain ⟨front, split, place, bytes⟩ := cursor.advance?_split moved
  obtain ⟨gap, rest, further, gaps⟩ := skips
  have length : byteLength front = hit.length := by
    have within := length_le_of_match? matched
    omega
  have nonempty : front ≠ [] := by
    rintro rfl
    exact someByte length.symm
  refine ⟨front ++ gap, ?_, ?_, .cons nonempty ?_ gaps⟩
  · rw [split, rest, List.append_assoc]
  · rw [further, place, byteLength_append, Nat.add_assoc]
  · rw [← rest, ← split, matched, length, ← noWord]

/-- Behind text that is passed over a scan comes to the same. -/
theorem SkipsTo.scan_eq (skips : lexicon.SkipsTo cursor after) :
    lexicon.scan cursor = lexicon.scan after := by
  obtain ⟨rest, pos⟩ := cursor
  obtain ⟨gap, rfl, place, gaps⟩ := skips
  obtain ⟨rest, final⟩ := after
  dsimp only at place gaps ⊢
  subst place
  induction gaps generalizing pos with
  | nil => rfl
  | @cons front later nonempty matched _ ih =>
    rw [List.append_assoc, scan_of_skipped nonempty matched, ih, byteLength_append, Nat.add_assoc]

/-- A scan that fails has passed over some text, and fails at once from there. -/
theorem scan_failure_cases (failed : lexicon.scan cursor = .failure error after) :
    lexicon.SkipsTo cursor after ∧ lexicon.scan after = .failure error after := by
  have skips : lexicon.SkipsTo cursor after := by
    fun_induction scan lexicon cursor with
    | case2 cursor c rest shape missed =>
      cases failed
      exact .refl
    | case3 cursor c rest shape hit matched empty =>
      cases failed
      exact .refl
    | case4 cursor c rest shape hit matched someByte stuck =>
      cases failed
      exact .refl
    | case6 cursor c rest shape hit matched someByte next moved noWord ih =>
      exact .of_match matched someByte moved noWord (ih failed)
    | _ => cases failed
  exact ⟨skips, skips.scan_eq.symm.trans failed⟩

end Lexicon

namespace Scanner

/-- The scanner after an attempt to take a token, whether or not it could be taken. -/
def attempted (scanner : Scanner) : Scanner :=
  match advance scanner with
  | .ok _ after => after
  | .error _ after => after

/-- What an attempt to take a token comes to. -/
def attempt (scanner : Scanner) : Except ScanError Token :=
  match advance scanner with
  | .ok token _ => .ok token
  | .error error _ => .error error

/-- Whether every further attempt to take a token comes to the same. -/
def Repeats (scanner : Scanner) (result : Except ScanError Token) : Prop :=
  ∀ count, (attempted^[count] scanner).attempt = result

section
variable {scanner after : Scanner} {error : ScanError}

theorem advance_of_next (found : next scanner = .ok () after) :
    advance scanner = .ok scanner.current after := by
  unfold advance
  rw [found]

theorem advance_eq_error_iff :
    advance scanner = .error error after ↔ next scanner = .error error after := by
  unfold advance
  cases next scanner <;> simp

theorem attempt_of_ok {token : Token} (taken : advance scanner = .ok token after) :
    scanner.attempt = .ok token ∧ scanner.attempted = after := by
  unfold attempt attempted
  rw [taken]
  exact ⟨rfl, rfl⟩

theorem attempt_of_error (failed : advance scanner = .error error after) :
    scanner.attempt = .error error ∧ scanner.attempted = after := by
  unfold attempt attempted
  rw [failed]
  exact ⟨rfl, rfl⟩

/-- A failed attempt changes the place only, by passing over text; from there on every attempt
fails in the same way and changes nothing. -/
theorem advance_error_cases (failed : advance scanner = .error error after) :
    after = { scanner with cursor := after.cursor } ∧
      scanner.lexicon.SkipsTo scanner.cursor after.cursor ∧
      advance after = .error error after := by
  have stuck := advance_eq_error_iff.mp failed
  unfold next at stuck
  split at stuck
  · cases stuck
  · cases stuck
  · next cursor scanned =>
    cases stuck
    obtain ⟨skips, again⟩ := Lexicon.scan_failure_cases scanned
    exact ⟨rfl, skips, advance_eq_error_iff.mpr
      (@next_of_failure { scanner with cursor } _ _ again)⟩

theorem Repeats.of_error (failed : advance scanner = .error error after) :
    scanner.Repeats (.error error) := by
  have again := (advance_error_cases failed).2.2
  intro count
  cases count with
  | zero => exact (attempt_of_error failed).1
  | succ count =>
    rw [Function.iterate_succ_apply, (attempt_of_error failed).2,
      Function.iterate_fixed (attempt_of_error again).2]
    exact (attempt_of_error again).1

end

section
variable {lexicon : Lexicon} {endToken : Token} {scanner : Scanner} {stream : TokenStream}

theorem Repeats.of_finish {pos : Nat} (sees : scanner.Shows lexicon endToken (.finish pos)) :
    scanner.Repeats (.ok endToken) := by
  intro count
  induction count generalizing scanner with
  | zero =>
    rcases sees.next_cases with ⟨after, found, _⟩ | ⟨_, _, _, fails⟩
    · have ended : scanner.current = endToken :=
        (eq_of_beq sees.atEnd).trans sees.endToken_eq
      exact ended ▸ (attempt_of_ok (advance_of_next found)).1
    · cases fails
  | succ count ih =>
    rcases sees.next_cases with ⟨after, found, behind⟩ | ⟨_, _, _, fails⟩
    · rw [Function.iterate_succ_apply, (attempt_of_ok (advance_of_next found)).2]
      exact ih behind
    · cases fails

/-- All tokens that a scanner shows can be taken one after the other, up to the end of the text or
to a place where no further one is found; from then on nothing new comes. -/
theorem Shows.exists_takes_repeats (sees : scanner.Shows lexicon endToken stream) :
    ∃ tokens last, scanner.Takes tokens last ∧ tokens.length ≤ stream.length ∧
      (∀ token ∈ tokens, token.kind ∈ lexicon.kinds) ∧
      (last.Repeats (.ok endToken) ∨ ∃ error, last.Repeats (.error error)) := by
  induction stream generalizing scanner with
  | token token span rest ih =>
    rcases sees.next_cases with ⟨after, found, behind⟩ | ⟨error, after, failed, _⟩
    · obtain ⟨tokens, last, takes, few, known, ends⟩ := ih behind
      refine ⟨token :: tokens, last, ?_, Nat.succ_le_succ few, ?_, ends⟩
      · rw [← sees.current_eq]
        exact .cons found takes
      · cases sees with
        | token here => exact List.forall_mem_cons.mpr ⟨here, known⟩
    · exact ⟨[], scanner, .nil, Nat.zero_le _, nofun,
        Or.inr ⟨error, .of_error (advance_eq_error_iff.mpr failed)⟩⟩
  | finish pos => exact ⟨[], scanner, .nil, Nat.zero_le _, nofun, Or.inl (.of_finish sees)⟩
  | failure error => cases sees

end

/-- What stays true of a scanner of a text through all attempts: a token found in the text has a
span of at least one byte, so that only the end mark at the end has an empty one. -/
structure Placed (lexicon : Lexicon) (endToken : Token) (scanner : Scanner) : Prop where
  lexicon_eq : scanner.lexicon = lexicon
  endToken_eq : scanner.endToken = endToken
  of_isEmpty : scanner.span.isEmpty = true → scanner.cursor.rest = [] ∧
    scanner.current = endToken ∧ scanner.span = .emptyAt scanner.cursor.pos

section
variable {lexicon : Lexicon} {endToken : Token} {scanner after : Scanner}

theorem Placed.of_next (sameLexicon : scanner.lexicon = lexicon)
    (sameEndToken : scanner.endToken = endToken) (found : next scanner = .ok () after) :
    after.Placed lexicon endToken := by
  unfold next at found
  split at found
  · next token span cursor scanned =>
    cases found
    refine ⟨sameLexicon, sameEndToken, fun empty => ?_⟩
    obtain ⟨_, nonempty, _⟩ := show Scan.StartsAt _ (.token token span cursor) from
      scanned ▸ scanner.lexicon.scan_startsAt scanner.cursor
    exact absurd (Span.isEmpty_iff.mp empty) (Nat.not_le.mpr nonempty)
  · next cursor scanned =>
    cases found
    exact ⟨sameLexicon, sameEndToken, fun _ =>
      ⟨Lexicon.scan_finish_rest scanned, sameEndToken, rfl⟩⟩
  · cases found

/-- At the end of the text the end mark comes next, whatever was there before. -/
theorem Placed.advance_of_rest_eq_nil (placed : scanner.Placed lexicon endToken)
    (done : scanner.cursor.rest = []) :
    advance scanner = .ok scanner.current
      { scanner with current := endToken, span := .emptyAt scanner.cursor.pos } := by
  rw [advance_of_next (next_of_finish (Lexicon.scan_of_rest_eq_nil done)), placed.endToken_eq]

theorem Placed.advance_of_isEmpty (placed : scanner.Placed lexicon endToken)
    (empty : scanner.span.isEmpty = true) : advance scanner = .ok endToken scanner := by
  obtain ⟨done, ended, place⟩ := placed.of_isEmpty empty
  rw [placed.advance_of_rest_eq_nil done, ← place, ← ended]

theorem Placed.attempted (placed : scanner.Placed lexicon endToken) :
    scanner.attempted.Placed lexicon endToken := by
  cases tried : advance scanner with
  | ok token after =>
    rw [(attempt_of_ok tried).2]
    unfold advance at tried
    split at tried
    · next found =>
      cases tried
      exact .of_next placed.lexicon_eq placed.endToken_eq found
    · cases tried
  | error error after =>
    rw [(attempt_of_error tried).2, (advance_error_cases tried).1]
    refine ⟨placed.lexicon_eq, placed.endToken_eq, fun empty => ?_⟩
    cases (placed.advance_of_isEmpty empty).symm.trans tried

theorem Placed.iterate (placed : scanner.Placed lexicon endToken) (count : Nat) :
    (Scanner.attempted^[count] scanner).Placed lexicon endToken := by
  induction count generalizing scanner with
  | zero => exact placed
  | succ count ih => exact ih placed.attempted

end

end Scanner

namespace Reading

variable {reading : Reading} {error : ScanError}

theorem endToken_notMem_of_collect {final : Reading} {tokens : List Token}
    (collected : reading.collect = .ok tokens final) : reading.scanner.endToken ∉ tokens := by
  fun_induction collect reading generalizing tokens with
  | case1 reading ended =>
    cases collected
    exact List.not_mem_nil
  | case4 reading more token after taken rest last behind ih =>
    cases collected
    obtain ⟨rfl, found⟩ := next_of_advance taken
    have inner : reading.scanner.current ≠ reading.scanner.endToken := fun ended =>
      more (beq_iff_eq.mpr ended)
    have later := ih behind
    rw [Scanner.next_endToken found] at later
    exact List.not_mem_cons_of_ne_of_not_mem (Ne.symm inner) later
  | _ => cases collected

/-- The tokens that are collected are those in front of the first one that is the end mark. -/
theorem collect_eq_ok_iff {tokens : List Token} :
    (∃ final, reading.collect = .ok tokens final) ↔ ∃ last, reading.scanner.Takes tokens last ∧
      reading.scanner.endToken ∉ tokens ∧ last.current = reading.scanner.endToken := by
  refine ⟨?_, ?_⟩
  · rintro ⟨final, collected⟩
    obtain ⟨takes, ended⟩ := takes_of_collect collected
    exact ⟨final.scanner, takes, endToken_notMem_of_collect collected,
      ended.trans takes.endToken⟩
  · rintro ⟨last, takes, inner, ended⟩
    exact collect_of_takes reading takes (ended.trans takes.endToken.symm) inner

theorem scanner_advance_of_error {after : Reading} (failed : reading.advance = .error error after) :
    Scanner.advance reading.scanner = .error error after.scanner := by
  unfold advance at failed
  split at failed
  · cases failed
  · next stuck =>
    cases failed
    exact stuck

theorem collect_of_advance_error {after : Scanner}
    (more : reading.scanner.current ≠ reading.scanner.endToken)
    (failed : Scanner.advance reading.scanner = .error error after) :
    reading.collect = .error error ⟨after, reading.trace⟩ := by
  have stuck : reading.advance = .error error ⟨after, reading.trace⟩ := by
    unfold advance
    rw [failed]
  rw [collect, dif_neg (by simpa [Scanner.atEnd] using more)]
  split
  · next same =>
    cases stuck.symm.trans same
    rfl
  · next taken => cases stuck.symm.trans taken

theorem collect_of_collect_error {after : Scanner} {final : Reading}
    (more : reading.scanner.current ≠ reading.scanner.endToken)
    (found : Scanner.next reading.scanner = .ok () after)
    (failed : collect ⟨after, after.found ++ reading.trace⟩ = .error error final) :
    reading.collect = .error error final := by
  have taken : reading.advance =
      .ok reading.scanner.current ⟨after, after.found ++ reading.trace⟩ := by
    simp only [advance, Scanner.advance, found]
  rw [collect, dif_neg (by simpa [Scanner.atEnd] using more)]
  split
  · next stuck => cases taken.symm.trans stuck
  · next same =>
    cases taken.symm.trans same
    rw [failed]

/-- Nothing is collected where an attempt fails before the end mark comes. -/
theorem collect_eq_error_iff :
    (∃ final, reading.collect = .error error final) ↔ ∃ tokens last after,
      reading.scanner.Takes tokens last ∧ reading.scanner.endToken ∉ tokens ∧
      last.current ≠ reading.scanner.endToken ∧
      Scanner.advance last = .error error after := by
  refine ⟨?_, ?_⟩
  · rintro ⟨final, failed⟩
    fun_induction collect reading with
    | case1 reading ended => cases failed
    | case2 reading more cause after stuck =>
      cases failed
      exact ⟨[], _, _, .nil, List.not_mem_nil, fun ended => more (beq_iff_eq.mpr ended),
        scanner_advance_of_error stuck⟩
    | case3 reading more token after taken cause last stuck ih =>
      cases failed
      obtain ⟨rfl, found⟩ := next_of_advance taken
      obtain ⟨tokens, last, final, takes, inner, ended, fails⟩ := ih stuck
      rw [Scanner.next_endToken found] at inner ended
      refine ⟨_, last, final, .cons found takes, ?_, ended, fails⟩
      exact List.not_mem_cons_of_ne_of_not_mem
        (fun same => more (beq_iff_eq.mpr same.symm)) inner
    | case4 reading more token after taken rest last behind ih => cases failed
  · rintro ⟨tokens, last, after, takes, inner, ended, stuck⟩
    generalize here : reading.scanner = first at takes inner ended
    induction takes generalizing reading with
    | nil =>
      subst here
      exact ⟨_, collect_of_advance_error ended stuck⟩
    | @cons first next last tokens found _ ih =>
      subst here
      have more := List.ne_of_not_mem_cons inner
      have rest := List.not_mem_of_not_mem_cons inner
      rw [← Scanner.next_endToken found] at rest ended
      obtain ⟨final, failed⟩ := @ih ⟨next, next.found ++ reading.trace⟩ stuck rfl rest ended
      exact ⟨final, collect_of_collect_error (Ne.symm more) found failed⟩

end Reading

namespace Scanner

theorem next_of_start {lexicon : Lexicon} {endToken : Token} {text : List Char} {first : Scanner}
    (started : start lexicon endToken text = .ok first) :
    next (ofText lexicon endToken text) = .ok () first := by
  unfold start at started
  split at started
  · next found =>
    cases started
    exact found
  · cases started

/-- However often a token is asked for, what comes are at most as many tokens as the text has bytes,
and then for ever the end mark or one and the same error. At the end of the text an attempt leaves
everything as it is, except that a word of the text which happens to be the end mark is left behind
for the end itself, so that its span is lost. A failed attempt keeps the current token and its span,
and passes over text only; every further one fails in the same way and changes nothing at all. The
tokens that are collected are those in front of the first one that is the end mark, if that comes
before an attempt fails; otherwise nothing is collected. -/
theorem attempts_settle {lexicon : Lexicon} {endToken : Token} {text : List Char} {first : Scanner}
    (started : start lexicon endToken text = .ok first) :
    (∃ tokens last, first.Takes tokens last ∧ tokens.length ≤ byteLength text ∧
      (∀ token ∈ tokens, token.kind ∈ lexicon.kinds) ∧
      (last.Repeats (.ok endToken) ∨ ∃ error, last.Repeats (.error error))) ∧
    ∀ count scanner, attempted^[count] first = scanner →
      (scanner.cursor.rest = [] → scanner.current = endToken →
        advance scanner = .ok endToken { scanner with span := .emptyAt scanner.cursor.pos }) ∧
      (scanner.span.isEmpty = true → scanner.cursor.rest = [] ∧ scanner.current = endToken ∧
        advance scanner = .ok endToken scanner) ∧
      (∀ error after, advance scanner = .error error after →
        after = { scanner with cursor := after.cursor } ∧
        lexicon.SkipsTo scanner.cursor after.cursor ∧ advance after = .error error after) ∧
      ∀ reading : Reading, reading.scanner = scanner →
        (∀ tokens, (∃ final, reading.collect = .ok tokens final) ↔ ∃ last,
          scanner.Takes tokens last ∧ endToken ∉ tokens ∧ last.current = endToken) ∧
        ∀ error, (∃ final, reading.collect = .error error final) ↔ ∃ tokens last after,
          scanner.Takes tokens last ∧ endToken ∉ tokens ∧ last.current ≠ endToken ∧
          advance last = .error error after := by
  have placed : first.Placed lexicon endToken := .of_next rfl rfl (next_of_start started)
  refine ⟨?_, ?_⟩
  · rcases @start_cases lexicon endToken text with ⟨_, same, sees⟩ | ⟨_, stuck, _⟩
    · cases started.symm.trans same
      obtain ⟨tokens, last, takes, few, known, ends⟩ := sees.exists_takes_repeats
      refine ⟨tokens, last, takes, ?_, known, ends⟩
      exact Nat.le_trans few (Nat.le_trans Lexicon.length_stream_le length_le_byteLength)
    · cases started.symm.trans stuck
  · rintro count scanner rfl
    have here := placed.iterate count
    refine ⟨fun done ended => ?_, fun empty => ?_, fun error after failed => ?_, ?_⟩
    · rw [here.advance_of_rest_eq_nil done, ended, ← ended]
    · obtain ⟨done, ended, _⟩ := here.of_isEmpty empty
      exact ⟨done, ended, here.advance_of_isEmpty empty⟩
    · exact here.lexicon_eq ▸ advance_error_cases failed
    · rintro reading atScanner
      rw [← here.endToken_eq, ← atScanner]
      exact ⟨fun tokens => Reading.collect_eq_ok_iff, fun error => Reading.collect_eq_error_iff⟩

theorem stray_character_stays_in_the_way :
    ∃ first after, start Grammar.arithmeticLexicon ⟨"eof", ""⟩ "1 #".toList = .ok first ∧
      advance first = .error (.unrecognized '#' 2) after ∧
      after = { first with cursor := after.cursor } ∧
      advance after = .error (.unrecognized '#' 2) after ∧
      ∃ tokens last, first.Takes tokens last ∧ tokens.length ≤ 3 ∧
        (last.Repeats (.ok ⟨"eof", ""⟩) ∨ ∃ error, last.Repeats (.error error)) := by
  have started : start Grammar.arithmeticLexicon ⟨"eof", ""⟩ "1 #".toList =
      .ok ⟨Grammar.arithmeticLexicon, ⟨"eof", ""⟩, ⟨" #".toList, 1⟩, ⟨"num", "1"⟩, ⟨0, 1⟩⟩ := by
    decide +kernel
  have scanned : Grammar.arithmeticLexicon.scan ⟨" #".toList, 1⟩ =
      .failure (.unrecognized '#' 2) ⟨"#".toList, 2⟩ := by decide +kernel
  obtain ⟨⟨tokens, last, takes, few, _, ends⟩, each⟩ := attempts_settle started
  have failed := advance_eq_error_iff.mpr (@next_of_failure
    ⟨Grammar.arithmeticLexicon, ⟨"eof", ""⟩, ⟨" #".toList, 1⟩, ⟨"num", "1"⟩, ⟨0, 1⟩⟩ _ _ scanned)
  obtain ⟨same, _, again⟩ := (each 0 _ rfl).2.2.1 _ _ failed
  exact ⟨_, _, started, failed, same, again, tokens, last, takes, few, ends⟩

/-- Where the last word of a text is the end mark itself, an attempt changes its span. -/
theorem last_word_as_end_mark_changes :
    ∃ first after, start Grammar.arithmeticLexicon ⟨"op", "+"⟩ "+".toList = .ok first ∧
      first.cursor.rest = [] ∧ first.current = ⟨"op", "+"⟩ ∧ first.atEnd = true ∧
      advance first = .ok ⟨"op", "+"⟩ after ∧ first.span = ⟨0, 1⟩ ∧ after.span = ⟨1, 1⟩ ∧
      after ≠ first := by
  have started : start Grammar.arithmeticLexicon ⟨"op", "+"⟩ "+".toList =
      .ok ⟨Grammar.arithmeticLexicon, ⟨"op", "+"⟩, ⟨[], 1⟩, ⟨"op", "+"⟩, ⟨0, 1⟩⟩ := by
    decide +kernel
  have found := @next_of_finish
    ⟨Grammar.arithmeticLexicon, ⟨"op", "+"⟩, ⟨[], 1⟩, ⟨"op", "+"⟩, ⟨0, 1⟩⟩ ⟨[], 1⟩
    (Lexicon.scan_of_rest_eq_nil rfl)
  refine ⟨_, _, started, rfl, rfl, by decide, advance_of_next found, rfl, rfl, fun same => ?_⟩
  exact absurd (congrArg Scanner.span same) (by decide)

end Scanner

end Precedence
