import Precedence.Proofs.Session.Raised

namespace Precedence

/-- No other event is reported with the line of a failure. -/
theorem Event.eq_failed_of_line {event : Event} {message : String}
    (same : event.line = "DEBUG parse failed: " ++ message) : event = .failed message := by
  have letters : event.line.toList[6]? = some 'p' := by
    rw [same]
    exact (failed message).line_letter
  rw [line_letter] at letters
  cases event with
  | scanned token span => cases letters
  | applied role tag => cases letters
  | misplaced token roles => cases letters
  | failed other => rw [(String.append_right_inj _).mp same]

namespace Session

variable {grammar : Grammar} {session : Session}

/-- Whether no failure was reported yet. -/
def Quiet (session : Session) : Prop := ∀ event ∈ session.trace, event.isFailed = false

theorem isFailed_of_mem_found {scanner : Scanner} {event : Event}
    (found : event ∈ scanner.found) : event.isFailed = false := by
  unfold Scanner.found at found
  split at found
  · cases found
  · obtain rfl := List.mem_singleton.mp found
    rfl

theorem quiet_ofScanner (scanner : Scanner) : (ofScanner scanner).Quiet :=
  fun _ found => isFailed_of_mem_found found

theorem Quiet.moved (quiet : session.Quiet) (scanner : Scanner) :
    (session.moved scanner).Quiet := by
  intro event member
  rcases List.mem_append.mp member with found | before
  · exact isFailed_of_mem_found found
  · exact quiet event before

/-- No reading reports that the whole text fails. -/
def quietLaw (grammar : Grammar) : Law grammar where
  done session after := session.Quiet → after.Quiet
  failed session _ after := session.Quiet → after.Quiet
  refl _ := id
  trans first second quiet := second (first quiet)
  fail first second quiet := second (first quiet)
  report _ _ inner quiet := List.forall_mem_cons.mpr ⟨inner, quiet⟩
  advance _ quiet := quiet.moved _
  stuck _ quiet := quiet
  unexpected _ _ quiet := quiet
  tooDeep _ quiet := quiet
  endless _ behind _ quiet := behind (quiet.moved _)
  nested inner quiet := inner quiet
  failNested {_ _ error} inner quiet := by
    cases error.breaksOff <;> exact inner quiet

/-- A reading of the whole text reports its failure in the end, once; if it breaks off, nothing is
reported of it. -/
theorem complete_reports (session : Session) (quiet : session.Quiet) :
    session.Ends (complete grammar) (fun _ after => after.Quiet)
      fun error after => (error.breaksOff = true → after.Quiet) ∧
        (error.breaksOff = false → ∃ before, after.trace = .failed error.message :: before ∧
          ∀ event ∈ before, event.isFailed = false) := by
  refine ends_complete.mpr (ends_followedBy.mpr
    (((quietLaw grammar).holds_expression .loosest session).imp ?_ ?_))
  · intro expr after kept
    exact ⟨fun _ => kept quiet, fun _ => ⟨nofun, fun _ => ⟨after.trace, rfl, kept quiet⟩⟩⟩
  · intro error after kept
    cases error.breaksOff with
    | true => exact ⟨fun _ => kept quiet, nofun⟩
    | false => exact ⟨nofun, fun _ => ⟨after.trace, rfl, kept quiet⟩⟩

end Session

namespace Grammar

variable {grammar : Grammar} {text : List Char} {first : Scanner}

/-- Without a failure among the events no line reports one. -/
theorem notMem_lines {events : List Event} (quiet : ∀ event ∈ events, event.isFailed = false)
    (message : String) : "DEBUG parse failed: " ++ message ∉ events.reverse.map Event.line := by
  intro member
  obtain ⟨event, among, same⟩ := List.mem_map.mp member
  have failed := quiet event (List.mem_reverse.mp among)
  rw [Event.eq_failed_of_line same] at failed
  cases failed

/-- A text that has a first token fails with a line for it, the only one and the last of the log.
There is no such line without failure, nor where the reading breaks off. -/
theorem log_of_start
    (started : Scanner.start grammar.lexicon grammar.endToken text = .ok first) :
    (∀ error, grammar.parse text = .error error → error.breaksOff = false →
      ∃ before, grammar.log text = before ++ ["DEBUG parse failed: " ++ error.message] ∧
        ∀ message, "DEBUG parse failed: " ++ message ∉ before) ∧
    ((∀ error, grammar.parse text = .error error → error.breaksOff = true) →
      ∀ message, "DEBUG parse failed: " ++ message ∉ grammar.log text) := by
  have reports := @Session.complete_reports grammar _ (Session.quiet_ofScanner first)
  unfold parse log
  cases ran : Session.complete grammar (Session.ofScanner first) with
  | ok expr after =>
    rw [parseTraced_of_ok started ran]
    exact ⟨nofun, fun _ => notMem_lines (reports.of_ok ran)⟩
  | error error after =>
    obtain ⟨broken, whole⟩ := reports.of_error ran
    rw [parseTraced_of_error started ran]
    refine ⟨fun cause same intact => ?_, fun breaks => notMem_lines (broken (breaks error rfl))⟩
    obtain rfl : error = cause := Except.error.inj same
    obtain ⟨before, last, quiet⟩ := whole intact
    refine ⟨before.reverse.map Event.line, ?_, notMem_lines quiet⟩
    rw [last, List.reverse_cons, List.map_append]
    rfl

/-- A text that cannot be read is reported with a line for its failure, once and last, if it has a
first token and its reading does not break off. Without a first token there is no line at all. -/
theorem failure_logged_last (grammar : Grammar) (text : List Char) :
    (∀ first, Scanner.start grammar.lexicon grammar.endToken text = .ok first →
      (∀ message, (∃ error, grammar.parse text = .error error ∧ error.breaksOff = false ∧
          error.message = message) ↔
        "DEBUG parse failed: " ++ message ∈ grammar.log text) ∧
      ∀ error, grammar.parse text = .error error → error.breaksOff = false →
        ∃ before, grammar.log text = before ++ ["DEBUG parse failed: " ++ error.message] ∧
          ∀ message, "DEBUG parse failed: " ++ message ∉ before) ∧
    ∀ cause, Scanner.start grammar.lexicon grammar.endToken text = .error cause →
      grammar.parse text = .error (.scan cause) ∧ grammar.log text = [] := by
  refine ⟨fun first started => ?_, fun cause stuck => ?_⟩
  · obtain ⟨last, silent⟩ := log_of_start started
    refine ⟨fun message => ⟨?_, fun logged => ?_⟩, last⟩
    · rintro ⟨error, failed, intact, rfl⟩
      obtain ⟨before, same, _⟩ := last error failed intact
      rw [same]
      exact List.mem_append_right before (List.mem_singleton_self _)
    · obtain ⟨error, failed, intact⟩ : ∃ error, grammar.parse text = .error error ∧
          error.breaksOff = false := by
        refine Classical.byContradiction fun whole =>
          silent (fun error failed => ?_) message logged
        exact Bool.of_not_eq_false fun intact => whole ⟨error, failed, intact⟩
      obtain ⟨before, same, earlier⟩ := last error failed intact
      rw [same] at logged
      have final := (List.mem_append.mp logged).resolve_left (earlier message)
      have messages := (String.append_right_inj _).mp (List.mem_singleton.mp final)
      exact ⟨error, failed, intact, messages.symm⟩
  · unfold parse log
    rw [parseTraced_of_start_error stuck]
    exact ⟨rfl, rfl⟩

/-- The failure of a text without a first token is not logged. -/
theorem stray_character_not_logged :
    arithmetic.parse "#".toList = .error (.scan (.unrecognized '#' 0)) ∧
    "DEBUG parse failed: " ++ (ParseError.scan (.unrecognized '#' 0)).message ∉
      arithmetic.log "#".toList := by
  decide +kernel

theorem missing_operand_logged_last :
    arithmetic.parse "a+".toList = .error (.unexpected ⟨"eof", ""⟩ .operand ⟨2, 2⟩) ∧
    ∃ before, arithmetic.log "a+".toList =
        before ++ ["DEBUG parse failed: Expected an operand, but found <eof> at 2"] ∧
      ∀ message, "DEBUG parse failed: " ++ message ∉ before := by
  have parsed : arithmetic.parse "a+".toList =
      .error (.unexpected ⟨"eof", ""⟩ .operand ⟨2, 2⟩) := by decide +kernel
  obtain ⟨first, started⟩ : ∃ first,
      Scanner.start arithmetic.lexicon arithmetic.endToken "a+".toList = .ok first :=
    ⟨⟨arithmeticLexicon, ⟨"eof", ""⟩, ⟨"+".toList, 1⟩, ⟨"ident", "a"⟩, ⟨0, 1⟩⟩, by decide +kernel⟩
  have logged := (failure_logged_last arithmetic "a+".toList).1 first started
  exact ⟨parsed, logged.2 _ parsed rfl⟩

end Grammar

end Precedence
