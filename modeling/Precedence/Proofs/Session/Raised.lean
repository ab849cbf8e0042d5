import Precedence.Proofs.Session.Law
import Precedence.Proofs.Session.Parse

namespace Precedence

/-- How a reading that begins at a scanner comes to an error, and where it leaves the scanner. Some
tokens are taken; then either no further one can be found, or the error is about the first token
that is not taken. Only at the end of the text does an expression go on without end. -/
inductive Grammar.Raises (grammar : Grammar) (first : Scanner) : ParseError → Scanner → Prop
  | scan {tokens last error after} : first.Takes tokens last →
      Scanner.next last = .error error after → Raises grammar first (.scan error) after
  | unexpected {tokens last expected} : first.Takes tokens last →
      Raises grammar first (.unexpected last.current expected last.span) last
  | tooDeep {tokens last} : first.Takes tokens last →
      Raises grammar first (.tooDeep grammar.maxDepth last.span) last
  | endless {tokens last} : first.Takes tokens last → last.pending = 0 →
      Raises grammar first (.endless last.span) last

/-- What is read behind some tokens is read behind them from the start. -/
theorem Grammar.Raises.behind {grammar : Grammar} {first middle after : Scanner}
    {tokens : List Token} {error : ParseError} (takes : first.Takes tokens middle)
    (raises : grammar.Raises middle error after) : grammar.Raises first error after := by
  cases raises with
  | scan more stuck => exact .scan (takes.append more) stuck
  | unexpected more => exact .unexpected (takes.append more)
  | tooDeep more => exact .tooDeep (takes.append more)
  | endless more finished => exact .endless (takes.append more) finished

namespace Session

theorem scanner_ite_shallower {error : ParseError} {session : Session} :
    (if error.breaksOff then session else session.shallower).scanner = session.scanner := by
  split <;> rfl

/-- All that a reading does to the scanner is to take tokens, up to its end or its error. Where an
operator leaves as much to take as before, nothing is left. -/
def takesLaw (grammar : Grammar) : Law grammar where
  done session after := ∃ tokens, session.scanner.Takes tokens after.scanner
  failed session error after := grammar.Raises session.scanner error after.scanner
  refl _ := ⟨[], .nil⟩
  trans := fun ⟨_, takes⟩ ⟨_, rest⟩ => ⟨_, takes.append rest⟩
  fail := fun ⟨_, takes⟩ raises => raises.behind takes
  report _ _ _ := ⟨[], .nil⟩
  advance found := ⟨_, .single found⟩
  stuck failed := .scan .nil failed
  unexpected _ _ := .unexpected .nil
  tooDeep _ := .tooDeep .nil
  endless := by
    rintro session after scanner found ⟨tokens, rest⟩ still
    have whole : session.scanner.Takes (session.current :: tokens) after.scanner := .cons found rest
    rcases whole.pending_lt_or_finished with less | ⟨finished, _⟩
    · exact absurd less still
    · exact .endless whole finished
  nested inner := inner
  failNested inner := by rwa [scanner_ite_shallower]

/-- Whether all that a reading does to the scanner is to take tokens, up to its end or its
error. -/
abbrev Steady {α : Type} (grammar : Grammar) (run : ParseM α) : Prop := (takesLaw grammar).Holds run

section
variable {grammar : Grammar}

theorem ends_complete {session : Session} {done : Expr → Session → Prop}
    {failed : ParseError → Session → Prop} :
    session.Ends (complete grammar) done failed ↔
      session.Ends (expressionUntil grammar .loosest grammar.endToken) done
        (fun error after =>
          failed error (if error.breaksOff then after else
            after.reported [.failed error.message])) := by
  unfold Ends complete
  cases expressionUntil grammar .loosest grammar.endToken session with
  | ok expr after => rfl
  | error error after =>
    dsimp only
    cases error.breaksOff with
    | true => rfl
    | false => rfl

/-- A whole text ends in front of the end mark. -/
theorem complete_steady (session : Session) :
    session.Ends (complete grammar)
      (fun _ after => after.current = grammar.endToken ∧
        ∃ tokens, session.scanner.Takes tokens after.scanner)
      fun error after => grammar.Raises session.scanner error after.scanner := by
  refine ends_complete.mpr (ends_followedBy.mpr ?_)
  refine ((takesLaw grammar).holds_expression .loosest session).imp ?_ ?_
  · rintro expr after ⟨tokens, takes⟩
    exact ⟨fun ended => ⟨ended, tokens, takes⟩, fun _ => .unexpected takes⟩
  · intro error after raises
    cases error.breaksOff <;> exact raises

end

end Session

/-- A text fails at its very start, where no first token can be found, or when it is read. -/
theorem Grammar.parse_error_cases {grammar : Grammar} {text : List Char} {error : ParseError}
    (failed : grammar.parse text = .error error) :
    (∃ cause, error = .scan cause ∧
      Scanner.start grammar.lexicon grammar.endToken text = .error cause) ∨
    ∃ first after, Scanner.start grammar.lexicon grammar.endToken text = .ok first ∧
      Session.complete grammar (Session.ofScanner first) = .error error after ∧
      grammar.Raises first error after.scanner := by
  unfold parse parseTraced at failed
  rw [Session.start_eq] at failed
  cases started : Scanner.start grammar.lexicon grammar.endToken text with
  | error cause =>
    rw [started] at failed
    cases failed
    exact Or.inl ⟨cause, rfl, rfl⟩
  | ok first =>
    rw [started] at failed
    dsimp only at failed
    cases ran : Session.complete grammar (Session.ofScanner first) with
    | ok expr after =>
      rw [ran] at failed
      cases failed
    | error cause after =>
      rw [ran] at failed
      cases failed
      exact Or.inr ⟨first, after, rfl, ran, (Session.complete_steady _).of_error ran⟩

end Precedence
