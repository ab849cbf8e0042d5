import Precedence.Proofs.Derivation.Sound
import Precedence.Proofs.Session.Depth

namespace Precedence

namespace Session

variable {grammar : Grammar} {sub : Power → ParseM Expr} {loose tight : Power}

/-- An expression goes on up to the first operator that holds too loosely. To go on up to a looser
one is to go on in two stages. -/
theorem climb_eq_bind (le : loose ≤ tight) (expr : Expr) :
    (climb grammar sub loose expr : ParseM Expr) = (do
      let whole ← climb grammar sub tight expr
      climb grammar sub loose whole : ParseM Expr) := by
  funext session
  refine Eq.trans ?_ bind_eq.symm
  induction pending : session.scanner.pending using Nat.strongRecOn generalizing expr session with
  | _ left ih =>
    subst pending
    rcases grammar.loose_or_holds tight session.current with stops | ⟨trailing, role, holds⟩
    · rw [climb_stop stops]
    · have holdsLoose : ¬ trailing.power < loose :=
        Power.not_lt.mpr (Power.le_trans le (Power.not_lt.mp holds))
      rw [climb_step role holds, climb_step role holdsLoose]
      cases (do discard advance; applyTrailing sub expr trailing : ParseM Expr) session with
      | error error after => rfl
      | ok whole after =>
        dsimp only
        split
        · next less => exact ih _ less whole after rfl
        · rfl

/-- Reads an operand and goes on behind it, in the expression that is open. -/
def phrase (grammar : Grammar) (sub : Power → ParseM Expr) (power : Power) : ParseM Expr := do
  let first ← operand grammar sub
  climb grammar sub power first

theorem phrase_eq_bind (le : loose ≤ tight) :
    phrase grammar sub loose =
      phrase grammar sub tight >>= fun whole => climb grammar sub loose whole :=
  (congrArg (operand grammar sub >>= ·) (funext (climb_eq_bind le))).trans (bind_assoc _ _ _).symm

/-- Goes on with an expression that has been read, from where its reading ended. -/
def goOn (grammar : Grammar) (sub : Power → ParseM Expr) (power : Power) (expr : Expr) :
    ParseM Expr :=
  nested (climb grammar sub power expr)

theorem goOn_expression {levels : Nat} {session : Session}
    (left : grammar.maxDepth - session.depth = levels + 1) (power : Power) (expr : Expr) :
    goOn grammar (expressionWithin grammar levels) power expr session =
      goOn grammar (expression grammar) power expr session := by
  have inside : levels = grammar.maxDepth - session.deeper.depth := by
    rw [depth_deeper]
    omega
  exact nested_congr (climb_expression inside)

theorem expressionWithin_eq_bind {levels : Nat} (le : loose ≤ tight) (session : Session) :
    expressionWithin grammar (levels + 1) loose session =
      (expressionWithin grammar (levels + 1) tight >>=
        goOn grammar (expressionWithin grammar levels) loose) session := by
  have balanced :
      (depthLaw grammar).Holds (phrase grammar (expressionWithin grammar levels) tight) :=
    (Law.Holds.operand (depthLaw grammar).holds_expressionWithin).bind fun first =>
      .climb (depthLaw grammar).holds_expressionWithin tight first
  calc nested (phrase grammar (expressionWithin grammar levels) loose) session
    _ = nested (phrase grammar (expressionWithin grammar levels) tight >>= fun whole =>
          climb grammar (expressionWithin grammar levels) loose whole) session := by
        rw [phrase_eq_bind le]
    _ = _ := nested_bind balanced session

/-- An expression is read at one power as at any tighter one, and then goes on from there. -/
theorem expression_eq_bind (le : loose ≤ tight) (session : Session) :
    expression grammar loose session =
      (expression grammar tight >>= goOn grammar (expression grammar) loose) session := by
  have opened (power : Power) : expression grammar power session =
      expressionWithin grammar (grammar.maxDepth - session.depth) power session := rfl
  rw [bind_eq, opened, opened]
  cases left : grammar.maxDepth - session.depth with
  | zero => rfl
  | succ levels =>
    rw [expressionWithin_eq_bind le, bind_eq]
    cases ran : expressionWithin grammar (levels + 1) tight session with
    | ok expr after =>
      have depth : after.depth = session.depth :=
        ((depthLaw grammar).holds_expressionWithin tight session).of_ok ran
      exact goOn_expression (by rw [depth, left]) loose expr
    | error error after => rfl

theorem goOn_stop {power : Power} {expr : Expr} {session : Session}
    (stops : grammar.Loose power session.current) :
    goOn grammar sub power expr session = .ok expr session := by
  have ended : climb grammar sub power expr session.deeper =
      (pure expr : ParseM Expr) session.deeper := climb_stop stops
  exact nested_congr ended

/-- What is gone on with is a left part of what comes of it. -/
theorem goOn_derivation {power : Power} {session after : Session} {first : Reading} {whole : Expr}
    {part : Derivation grammar}
    (spans : part.Spans power (grammar.maxDepth - session.depth) first session.toReading)
    (read : goOn grammar (expression grammar) power part.expr session = .ok whole after) :
    ∃ derivation : Derivation grammar, derivation.expr = whole ∧ part.LeftPart derivation ∧
      first.scanner.Takes derivation.tokens after.scanner := by
  have positive := part.nest_pos
  have within := spans.within
  obtain ⟨levels, left⟩ : ∃ levels, grammar.maxDepth - session.depth = levels + 1 :=
    Nat.exists_eq_succ_of_ne_zero (by omega)
  have inside : part.Spans power (levels + 1) first session.deeper.toReading := left ▸ spans
  rw [← goOn_expression left] at read
  have ends : session.Ends (goOn grammar (expressionWithin grammar levels) power part.expr)
      (fun expr after => ∃ derivation : Derivation grammar, derivation.expr = expr ∧
        part.LeftPart derivation ∧ first.scanner.Takes derivation.tokens after.scanner)
      fun _ _ => True := by
    refine ends_nested.mpr ((climb_derivation expressionWithin_readsDerivations inside).imp ?_
      fun _ _ => id)
    exact fun _ _ ⟨derivation, same, left, spans, _⟩ => ⟨derivation, same, left, spans.takes⟩
  exact ends.of_ok read

/-- To read an expression at one power is to read it at any tighter one and to go on from there: a
failure of the tighter reading is one of the looser, and what the tighter reading found is what the
other begins with, reached from it by going from operators to their left operands only. -/
theorem expression_goes_on_from_tighter (le : loose ≤ tight) (session : Session) :
    (∀ error after, expression grammar tight session = .error error after →
      expression grammar loose session = .error error after) ∧
    ∀ expr after, expression grammar tight session = .ok expr after →
      expression grammar loose session = goOn grammar (expression grammar) loose expr after ∧
      (grammar.Loose loose after.current → expression grammar loose session = .ok expr after) ∧
      ∀ whole final, expression grammar loose session = .ok whole final →
        ∃ (part derivation : Derivation grammar) (more : List Token),
          part.expr = expr ∧ derivation.expr = whole ∧ part.LeftPart derivation ∧
          derivation.tokens = part.tokens ++ more ∧
          session.scanner.Takes part.tokens after.scanner ∧
          after.scanner.Takes more final.scanner := by
  have stages : expression grammar loose session = _ := expression_eq_bind le session
  rw [bind_eq] at stages
  refine ⟨fun error after failed => ?_, fun expr after read => ?_⟩
  · rw [stages, failed]
  · rw [read] at stages
    refine ⟨stages, fun stops => stages.trans (goOn_stop stops), fun whole final further => ?_⟩
    obtain ⟨part, rfl, spans, _⟩ := expression_derivation read
    have depth : after.depth = session.depth :=
      ((depthLaw grammar).holds_expression tight session).of_ok read
    rw [← depth] at spans
    obtain ⟨derivation, rfl, left, takes⟩ :=
      goOn_derivation (spans.of_le le) (stages.symm.trans further)
    obtain ⟨more, same⟩ := left.tokens_append
    rw [same] at takes
    obtain ⟨middle, first, second⟩ := takes.of_append
    rw [first.unique spans.takes] at second
    exact ⟨part, derivation, more, rfl, rfl, left, same, spans.takes, second⟩

theorem sum_goes_on_from_product :
    ∃ (session after final : Session) (part derivation : Derivation .arithmetic)
      (more : List Token), start .arithmetic "a*b+c".toList = .ok session ∧
      expression .arithmetic ⟨2⟩ session =
        .ok (.binary "mul" (.term "ident" "a") (.term "ident" "b")) after ∧
      expression .arithmetic .loosest session =
        .ok (.binary "add" (.binary "mul" (.term "ident" "a") (.term "ident" "b"))
          (.term "ident" "c")) final ∧
      part.expr = .binary "mul" (.term "ident" "a") (.term "ident" "b") ∧
      part.LeftPart derivation ∧ derivation.tokens = part.tokens ++ more ∧
      after.scanner.Takes more final.scanner := by
  obtain ⟨session, started, tightly, loosely⟩ : ∃ session,
      start .arithmetic "a*b+c".toList = .ok session ∧
      answer (expression .arithmetic ⟨2⟩ session) =
        .ok (.binary "mul" (.term "ident" "a") (.term "ident" "b")) ∧
      answer (expression .arithmetic .loosest session) =
        .ok (.binary "add" (.binary "mul" (.term "ident" "a") (.term "ident" "b"))
          (.term "ident" "c")) :=
    ⟨ofScanner ⟨Grammar.arithmeticLexicon, ⟨"eof", ""⟩, ⟨"*b+c".toList, 1⟩, ⟨"ident", "a"⟩, ⟨0, 1⟩⟩,
      by decide +kernel, by decide +kernel, by decide +kernel⟩
  obtain ⟨after, read⟩ := exists_of_answer_ok tightly
  obtain ⟨final, further⟩ := exists_of_answer_ok loosely
  obtain ⟨part, derivation, more, same, _, left, split, _, takes⟩ :=
    ((expression_goes_on_from_tighter (Power.loosest_le ⟨2⟩) session).2 _ _ read).2.2 _ _ further
  exact ⟨session, after, final, part, derivation, more, started, read, further, same, left, split,
    takes⟩

end Session

end Precedence
