import Precedence.Proofs.Derivation.Sound
import Precedence.Proofs.Scanner.Attempts
import Precedence.Proofs.Session.Depth
import Precedence.Proofs.Session.Raised

namespace Precedence

namespace Session

/-- What can be asked of a session: a token, an expression, or what comes behind the symbol of an
operator that was taken before. -/
inductive Call where
  | advance
  | expression (power : Power)
  | expressionUntil (power : Power) (terminator : Token)
  | applyLeading (leading : Leading)
  | applyTrailing (lhs : Expr) (trailing : Trailing)

/-- A call is answered with a token or with an expression. -/
def Call.run (grammar : Grammar) : Call → ParseM (Token ⊕ Expr)
  | advance => .inl <$> Session.advance
  | expression power => .inr <$> Session.expression grammar power
  | expressionUntil power terminator => .inr <$> Session.expressionUntil grammar power terminator
  | applyLeading leading =>
    .inr <$> Session.applyLeading grammar (Session.expression grammar) leading
  | applyTrailing lhs trailing =>
    .inr <$> Session.applyTrailing (Session.expression grammar) lhs trailing

/-- The session that a row of calls leads to. Each call is made on the session that the one before
it has left, also where that one failed, if only it did not break off. -/
inductive Calls (grammar : Grammar) : Session → List Call → Session → Prop
  | nil {session} : Calls grammar session [] session
  | ok {session after last call calls answer} :
      call.run grammar session = .ok answer after → Calls grammar after calls last →
      Calls grammar session (call :: calls) last
  | error {session after last call calls error} :
      call.run grammar session = .error error after → error.breaksOff = false →
      Calls grammar after calls last → Calls grammar session (call :: calls) last

variable {grammar : Grammar} {session last : Session} {calls : List Call} {call : Call}

/-- Whatever every reading of an expression keeps to, every call keeps to. -/
theorem Law.holds_call (law : Law grammar) (call : Call) : law.Holds (call.run grammar) := by
  have subs := law.holds_expression
  cases call with
  | advance =>
    exact Law.Holds.map fun session => ends_advance.mpr
      ⟨fun _ found => law.advance found, fun _ _ stuck => law.stuck stuck⟩
  | expression power => exact (subs power).map
  | expressionUntil power terminator => exact ((subs power).followedBy terminator).map
  | applyLeading leading => exact (Law.Holds.applyLeading subs leading).map
  | applyTrailing lhs trailing => exact (Law.Holds.applyTrailing subs lhs trailing).map

/-- Between the calls no expression is open that was not open before the first one. -/
theorem Calls.depth_eq (made : Calls grammar session calls last) : last.depth = session.depth := by
  induction made with
  | nil => rfl
  | ok ran _ ih => exact ih.trans (((depthLaw grammar).holds_call _ _).of_ok ran)
  | error ran intact _ ih =>
    exact ih.trans (((depthLaw grammar).holds_call _ _).of_error ran intact)

/-- Whether no further token can be found, so that the scanner stays where it is. -/
def Stuck (session : Session) (cause : ScanError) : Prop :=
  Scanner.next session.scanner = .error cause session.scanner

section
variable {cause : ScanError}

theorem Stuck.takes_cases {tokens : List Token} {scanner : Scanner} (stuck : session.Stuck cause)
    (takes : session.scanner.Takes tokens scanner) : tokens = [] ∧ scanner = session.scanner := by
  cases takes with
  | nil => exact ⟨rfl, rfl⟩
  | cons found _ => cases stuck.symm.trans found

theorem Stuck.eq_of_raises {error : ParseError} {scanner : Scanner} (stuck : session.Stuck cause)
    (raises : grammar.Raises session.scanner error scanner) : scanner = session.scanner := by
  cases raises with
  | scan takes failed =>
    obtain ⟨rfl, rfl⟩ := stuck.takes_cases takes
    cases stuck.symm.trans failed
    rfl
  | unexpected takes => exact (stuck.takes_cases takes).2
  | tooDeep takes => exact (stuck.takes_cases takes).2
  | endless takes _ => exact (stuck.takes_cases takes).2

/-- No reading can do anything about it. -/
theorem Stuck.ends_of_holds {α : Type} {run : ParseM α} (stuck : session.Stuck cause)
    (holds : (takesLaw grammar).Holds run) :
    session.Ends run (fun _ after => after.Stuck cause) fun _ after => after.Stuck cause := by
  have kept {after : Session} (same : after.scanner = session.scanner) : after.Stuck cause := by
    unfold Stuck
    rw [same]
    exact stuck
  refine (holds session).imp ?_ fun _ _ raises => kept (stuck.eq_of_raises raises)
  rintro _ after ⟨tokens, takes⟩
  exact kept (stuck.takes_cases takes).2

theorem Stuck.of_calls (stuck : session.Stuck cause) (made : Calls grammar session calls last) :
    last.Stuck cause := by
  induction made with
  | nil => exact stuck
  | ok ran _ ih => exact ih ((stuck.ends_of_holds ((takesLaw grammar).holds_call _)).of_ok ran)
  | error ran _ _ ih =>
    exact ih ((stuck.ends_of_holds ((takesLaw grammar).holds_call _)).of_error ran)

theorem Stuck.ends_advance (stuck : session.Stuck cause) :
    session.Ends advance (fun _ _ => False) fun error _ => error = .scan cause := by
  refine Session.ends_advance.mpr ⟨fun scanner found => ?_, fun error scanner failed => ?_⟩
  · cases stuck.symm.trans found
  · cases stuck.symm.trans failed
    rfl

/-- An expression takes at least one token. -/
theorem Stuck.ends_expression (stuck : session.Stuck cause) (power : Power) :
    session.Ends (expression grammar power) (fun _ _ => False) fun _ _ => True := by
  unfold Ends
  cases ran : expression grammar power session with
  | ok expr after =>
    obtain ⟨derivation, _, spans, _⟩ := expression_derivation ran
    exact derivation.tokens_ne_nil (stuck.takes_cases spans.takes).1
  | error error after => trivial

theorem Stuck.ends_expressionUntil (stuck : session.Stuck cause) (power : Power)
    (terminator : Token) :
    session.Ends (expressionUntil grammar power terminator) (fun _ _ => False) fun _ _ => True :=
  ends_followedBy.mpr
    ((stuck.ends_expression power).imp (fun _ _ never => never.elim) fun _ _ => id)

theorem Stuck.of_next {scanner after : Scanner} {left : Session}
    (failed : Scanner.next scanner = .error cause after) (here : left.scanner = after) :
    left.Stuck cause := by
  obtain ⟨_, _, again⟩ := Scanner.advance_error_cases (Scanner.advance_eq_error_iff.mpr failed)
  unfold Stuck
  rw [here]
  exact Scanner.advance_eq_error_iff.mp again

end

/-- What is true of a session that a call has left with an error. The token which the error is
about has not been taken. Where no further token could be found, none will be, whatever is asked
for, and so no expression is read again. -/
def LeftWith (session : Session) (grammar : Grammar) (error : ParseError) : Prop :=
  match error with
  | .unexpected found _ span => session.current = found ∧ session.scanner.span = span
  | .tooDeep limit span => limit = grammar.maxDepth ∧ session.scanner.span = span
  | .endless span => session.scanner.pending = 0 ∧ session.scanner.span = span
  | .scan cause => ∀ calls last, Calls grammar session calls last →
      last.Ends advance (fun _ _ => False) (fun error _ => error = .scan cause) ∧
      ∀ power terminator,
        (last.Ends (expression grammar power) (fun _ _ => False) fun _ _ => True) ∧
        last.Ends (expressionUntil grammar power terminator) (fun _ _ => False) fun _ _ => True

theorem leftWith_of_raises {first : Scanner} {error : ParseError}
    (raises : grammar.Raises first error session.scanner) : session.LeftWith grammar error := by
  generalize here : session.scanner = scanner at raises
  cases raises with
  | scan _ failed =>
    intro calls last made
    have stuck := (Stuck.of_next failed here).of_calls made
    exact ⟨stuck.ends_advance, fun power terminator =>
      ⟨stuck.ends_expression power, stuck.ends_expressionUntil power terminator⟩⟩
  | unexpected _ =>
    subst here
    exact ⟨rfl, rfl⟩
  | tooDeep _ =>
    subst here
    exact ⟨rfl, rfl⟩
  | endless _ nothing =>
    subst here
    exact ⟨nothing, rfl⟩

/-- Whatever is asked of the session of a text, in whatever order, and whatever comes of it, short
of a call that breaks off: no expression stays open behind a call, and a call that fails leaves the
token it complains about in front; once no further token can be found, that stays so. -/
theorem calls_leave_consistent {text : List Char} {first : Session}
    (started : start grammar text = .ok first) (made : Calls grammar first calls session)
    (call : Call) :
    session.depth = 0 ∧ session.Ends (call.run grammar)
      (fun _ after => after.depth = session.depth)
      fun error after => error.breaksOff = false →
        after.depth = session.depth ∧ after.LeftWith grammar error := by
  have depth : first.depth = 0 := by
    rw [start_eq] at started
    split at started
    · cases started
      rfl
    · cases started
  refine ⟨made.depth_eq.trans depth, ?_⟩
  have raises := (takesLaw grammar).holds_call call session
  have balanced := (depthLaw grammar).holds_call call session
  unfold Ends at raises balanced ⊢
  split
  · next answer after ran =>
    rw [ran] at balanced
    exact balanced
  · next error after ran =>
    rw [ran] at raises balanced
    exact fun intact => ⟨balanced intact, leftWith_of_raises raises⟩

theorem group_with_stray_character_left_consistent :
    ∃ first after, start .arithmetic "(a #".toList = .ok first ∧
      Calls .arithmetic first [.expression .loosest] after ∧ after.depth = 0 ∧
      after.Ends advance (fun _ _ => False) fun error _ => error = .scan (.unrecognized '#' 3) := by
  obtain ⟨first, started, failed⟩ : ∃ first, start .arithmetic "(a #".toList = .ok first ∧
      answer (expression .arithmetic .loosest first) = .error (.scan (.unrecognized '#' 3)) :=
    ⟨ofScanner ⟨Grammar.arithmeticLexicon, ⟨"eof", ""⟩, ⟨"a #".toList, 1⟩, ⟨"op", "("⟩, ⟨0, 1⟩⟩,
      by decide +kernel, by decide +kernel⟩
  obtain ⟨after, ran⟩ := exists_of_answer_error failed
  have called : (Call.expression .loosest).run .arithmetic first =
      .error (.scan (.unrecognized '#' 3)) after := by
    change EStateM.map _ (expression .arithmetic .loosest) first = _
    unfold EStateM.map
    rw [ran]
  have made : Calls .arithmetic first [.expression .loosest] after := .error called rfl .nil
  have left :=
    ((calls_leave_consistent started .nil (.expression .loosest)).2.of_error called rfl).2
  exact ⟨first, after, started, made, (calls_leave_consistent started made .advance).1,
    (left [] after .nil).1⟩

end Session

end Precedence
