import Precedence.Proofs.Derivation.Actions
import Precedence.Proofs.Derivation.Unambiguous
import Precedence.Proofs.Session.Parse

namespace Precedence

variable {grammar : Grammar}

/-- A derivation of the tokens between two readings, as far as an expression at the given power
was read. What comes next is not taken in by an operand that is still open. -/
structure Derivation.Spans (derivation : Derivation grammar) (power : Power) (levels : Nat)
    (first last : Reading) : Prop where
  bound : derivation.WellBound power
  within : derivation.nest ≤ levels
  performs : first.Performs derivation.actions last
  passes : derivation.LetsPass last.scanner.current

section
variable {derivation : Derivation grammar} {levels : Nat} {first last : Reading}

theorem Derivation.Spans.takes {power : Power} (spans : derivation.Spans power levels first last) :
    first.scanner.Takes derivation.tokens last.scanner := by
  rw [← derivation.filterMap_actions]
  exact spans.performs.takes

theorem Derivation.Spans.of_le {loose tight : Power} (le : loose ≤ tight)
    (spans : derivation.Spans tight levels first last) :
    derivation.Spans loose levels first last :=
  { spans with bound := spans.bound.of_le le }

end

namespace Session

/-- Whether every expression that `sub` reads has a derivation. -/
def ReadsDerivations (grammar : Grammar) (levels : Nat) (sub : Power → ParseM Expr) : Prop :=
  ∀ power (session : Session), session.Ends (sub power)
    (fun expr after => ∃ derivation : Derivation grammar, derivation.expr = expr ∧
      derivation.Spans power levels session.toReading after.toReading ∧
      derivation.StoppedBy power after.current) fun _ _ => True

variable {levels : Nat} {sub : Power → ParseM Expr}

theorem applyLeading_derivation (reads : ReadsDerivations grammar levels sub) {session : Session}
    {leading : Leading} {token : Token} {first : Reading} {power : Power}
    (notTerm : grammar.isTerm token = false) (role : grammar.leading? token = some leading)
    (taken : first.Performs [.take token] session.toReading) :
    session.Ends (applyLeading grammar sub leading)
      (fun expr after => ∃ derivation : Derivation grammar, derivation.expr = expr ∧
        derivation.Spans power (levels + 1) first after.toReading) fun _ _ => True := by
  cases leading with
  | prefixed tag held =>
    refine ends_applyLeading_prefixed.mpr ((reads held session).imp ?_ fun _ _ => id)
    rintro _ after ⟨arg, rfl, spans, stopped⟩
    refine ⟨.prefixed token tag held notTerm role arg, rfl, ?_, ?_, ?_, ?_⟩
    · exact spans.bound
    · have within := spans.within
      simp only [Derivation.nest]
      omega
    · exact taken.append (spans.performs.append .applied)
    · exact (Derivation.letsPass_iff_of_openPowers_eq_cons rfl).mpr stopped
  | group closing inner =>
    refine ends_applyLeading_group.mpr (ends_followedBy.mpr ((reads inner session).imp ?_
      fun _ _ => id))
    rintro _ after ⟨body, rfl, spans, stopped⟩
    refine ⟨fun closes => ends_advance.mpr ⟨fun final found => ?_, fun _ _ _ => trivial⟩,
      fun _ => trivial⟩
    refine ⟨.group token closing inner notTerm role body, rfl, ?_, ?_, ?_, ?_⟩
    · exact ⟨spans.bound, closes ▸ stopped⟩
    · have within := spans.within
      simp only [Derivation.nest]
      omega
    · have last := @Reading.Performs.single after.toReading _ found
      rw [show after.scanner.current = _ from closes] at last
      exact taken.append (spans.performs.append last)
    · exact Derivation.letsPass_of_openPowers_eq_nil rfl

theorem operand_derivation (reads : ReadsDerivations grammar levels sub) (session : Session)
    (power : Power) :
    session.Ends (operand grammar sub)
      (fun expr after => ∃ derivation : Derivation grammar, derivation.expr = expr ∧
        derivation.Spans power (levels + 1) session.toReading after.toReading)
      fun _ _ => True := by
  refine ends_operand.mpr ⟨fun isTerm => ?_, fun notTerm leading role => ?_, fun _ _ => trivial⟩
  · refine ends_advance.mpr ⟨fun next found => ?_, fun _ _ _ => trivial⟩
    refine ⟨.term session.current isTerm, rfl, trivial, ?_, .single found, ?_⟩
    · simp [Derivation.nest]
    · exact Derivation.letsPass_of_openPowers_eq_nil rfl
  · refine ends_advance.mpr ⟨fun next found => ?_, fun _ _ _ => trivial⟩
    exact applyLeading_derivation reads notTerm role (.single found)

theorem applyTrailing_derivation (reads : ReadsDerivations grammar levels sub) {session : Session}
    {trailing : Trailing} {token : Token} {first middle : Reading} {power : Power}
    {lhs : Derivation grammar} (spans : lhs.Spans power (levels + 1) first middle)
    (atToken : middle.scanner.current = token) (role : grammar.trailing? token = some trailing)
    (holds : power ≤ trailing.power) (taken : middle.Performs [.take token] session.toReading) :
    session.Ends (applyTrailing sub lhs.expr trailing)
      (fun expr after => ∃ derivation : Derivation grammar, derivation.expr = expr ∧
        lhs.Extends derivation ∧ derivation.Spans power (levels + 1) first after.toReading)
      fun _ _ => True := by
  have yields := spans.passes trailing (atToken ▸ role)
  have within := spans.within
  cases trailing with
  | infixed tag assoc held =>
    refine ends_applyTrailing_infixed.mpr ((reads _ session).imp ?_ fun _ _ => id)
    rintro _ after ⟨rhs, rfl, right, stopped⟩
    refine ⟨.infixed lhs token tag assoc held role rhs, rfl, .infixed, ?_, ?_, ?_, ?_⟩
    · exact ⟨spans.bound, holds, yields, right.bound⟩
    · have bound := right.within
      simp only [Derivation.nest]
      omega
    · exact spans.performs.append (taken.append (right.performs.append .applied))
    · exact (Derivation.letsPass_iff_of_openPowers_eq_cons rfl).mpr stopped
  | postfixed tag held =>
    refine ends_applyTrailing_postfixed.mpr
      ⟨.postfixed lhs token tag held role, rfl, .postfixed, ?_, ?_, ?_, ?_⟩
    · exact ⟨spans.bound, holds, yields⟩
    · exact within
    · exact spans.performs.append (taken.append .applied)
    · exact Derivation.letsPass_of_openPowers_eq_nil rfl

/-- However far an expression goes on, it begins with what was read before. -/
theorem climb_derivation (reads : ReadsDerivations grammar levels sub) {session : Session}
    {first : Reading} {power : Power} {lhs : Derivation grammar}
    (spans : lhs.Spans power (levels + 1) first session.toReading) :
    session.Ends (climb grammar sub power lhs.expr)
      (fun expr after => ∃ derivation : Derivation grammar, derivation.expr = expr ∧
        lhs.LeftPart derivation ∧ derivation.Spans power (levels + 1) first after.toReading ∧
        derivation.StoppedBy power after.current) fun _ _ => True := by
  refine ends_climb_of_invariant (fun expr session =>
    ∃ derivation : Derivation grammar, derivation.expr = expr ∧ lhs.LeftPart derivation ∧
      derivation.Spans power (levels + 1) first session.toReading) ?_ ?_ ⟨lhs, rfl, .refl, spans⟩
  · rintro _ session ⟨derivation, rfl, left, spans⟩ loose
    exact ⟨derivation, rfl, left, spans, spans.passes.stoppedBy loose⟩
  · rintro _ session trailing ⟨derivation, rfl, left, spans⟩ role holds
    refine ends_advance.mpr ⟨fun next found => ?_, fun _ _ _ => trivial⟩
    refine (applyTrailing_derivation reads spans rfl role (Power.not_lt.mp holds)
      (.single found)).imp ?_ fun _ _ => id
    rintro _ after ⟨larger, rfl, step, spans⟩
    exact ⟨⟨larger, rfl, left.trans step.leftPart, spans⟩, fun _ => trivial⟩

/-- Every expression that is read has a derivation. -/
theorem expressionWithin_readsDerivations :
    ReadsDerivations grammar levels (expressionWithin grammar levels) := by
  induction levels with
  | zero => exact fun _ _ => ends_expressionWithin_zero.mpr trivial
  | succ levels ih =>
    intro power session
    refine ends_expressionWithin_succ.mpr ((operand_derivation ih _ power).imp ?_ fun _ _ => id)
    rintro _ after ⟨first, rfl, spans⟩
    refine (climb_derivation ih spans).imp ?_ fun _ _ => id
    exact fun _ _ ⟨whole, same, _, derived⟩ => ⟨whole, same, derived⟩

theorem expression_derivation {power : Power} {session after : Session} {expr : Expr}
    (read : expression grammar power session = .ok expr after) :
    ∃ derivation : Derivation grammar, derivation.expr = expr ∧
      derivation.Spans power (grammar.maxDepth - session.depth) session.toReading
        after.toReading ∧
      derivation.StoppedBy power after.current :=
  (expressionWithin_readsDerivations power session).of_ok read

theorem expressionUntil_derivation {power : Power} {terminator : Token} {session after : Session}
    {expr : Expr} (read : expressionUntil grammar power terminator session = .ok expr after) :
    after.current = terminator ∧ ∃ derivation : Derivation grammar, derivation.expr = expr ∧
      derivation.Spans power (grammar.maxDepth - session.depth) session.toReading
        after.toReading ∧
      derivation.StoppedBy power after.current := by
  have ends : session.Ends (expressionUntil grammar power terminator)
      (fun expr after => after.current = terminator ∧
        ∃ derivation : Derivation grammar, derivation.expr = expr ∧
        derivation.Spans power (grammar.maxDepth - session.depth) session.toReading
        after.toReading ∧
        derivation.StoppedBy power after.current) fun _ _ => True := by
    refine ends_followedBy.mpr (ends_expression.mpr
      ((expressionWithin_readsDerivations power session).imp ?_ fun _ _ => id))
    exact fun _ _ derived => ⟨fun ended => ⟨ended, derived⟩, fun _ => trivial⟩
  exact ends.of_ok read

/-- Where an expression was read there were levels left to read it in. -/
theorem nest_le_maxDepth {derivation : Derivation grammar} {session : Session}
    (within : derivation.nest ≤ grammar.maxDepth - session.depth) :
    session.depth + derivation.nest ≤ grammar.maxDepth := by
  have positive := derivation.nest_pos
  omega

/-- Whatever is read as an expression has a derivation in which every operator has the operands
that its power entitles it to: in any session, of the tokens that were taken, up to a token that
the expression could not go on with; and of a whole text, of all its tokens. -/
theorem read_expression_has_derivation :
    (∀ power session expr after, expression grammar power session = .ok expr after →
      ∃ derivation : Derivation grammar, derivation.WellBound power ∧ derivation.expr = expr ∧
        session.scanner.Takes derivation.tokens after.scanner ∧
        derivation.StoppedBy power after.current ∧
        session.depth + derivation.nest ≤ grammar.maxDepth) ∧
    ∀ text expr, grammar.parse text = .ok expr →
      ∃ (derivation : Derivation grammar) (first last : Scanner),
        Scanner.start grammar.lexicon grammar.endToken text = .ok first ∧
        derivation.WellBound .loosest ∧ derivation.expr = expr ∧
        first.Takes derivation.tokens last ∧ last.current = grammar.endToken ∧
        derivation.StoppedBy .loosest grammar.endToken ∧ derivation.nest ≤ grammar.maxDepth ∧
        (grammar.endToken ∉ derivation.tokens →
          (grammar.tokenize text).1 = .ok derivation.tokens) := by
  refine ⟨fun power session expr after read => ?_, fun text expr parsed => ?_⟩
  · obtain ⟨derivation, same, spans, stopped⟩ := expression_derivation read
    exact ⟨derivation, spans.bound, same, spans.takes, stopped, nest_le_maxDepth spans.within⟩
  · obtain ⟨first, after, started, ran⟩ := Grammar.parse_ok parsed
    obtain ⟨ended, derivation, same, spans, stopped⟩ := expressionUntil_derivation ran
    have mark : after.scanner.endToken = grammar.endToken :=
      spans.takes.endToken.trans (Scanner.start_endToken started)
    have atEnd : after.scanner.current = grammar.endToken := ended
    refine ⟨derivation, first, after.scanner, started, spans.bound, same, spans.takes, atEnd,
      ended ▸ stopped, ?_, fun inner => ?_⟩
    · have within := nest_le_maxDepth spans.within
      omega
    · refine Grammar.tokenize_of_takes started spans.takes (atEnd.trans mark.symm) ?_
      rwa [show first.endToken = grammar.endToken from Scanner.start_endToken started]

theorem signed_power_has_derivation :
    Grammar.arithmetic.parse "-a^b".toList =
      .ok (.binary "pow" (.unary "neg" (.term "ident" "a")) (.term "ident" "b")) ∧
    ∃ (derivation : Derivation .arithmetic) (first last : Scanner),
      Scanner.start Grammar.arithmetic.lexicon Grammar.arithmetic.endToken "-a^b".toList =
        .ok first ∧
      derivation.WellBound .loosest ∧
      derivation.expr = .binary "pow" (.unary "neg" (.term "ident" "a")) (.term "ident" "b") ∧
      first.Takes derivation.tokens last ∧ last.current = Grammar.arithmetic.endToken := by
  have parsed : Grammar.arithmetic.parse "-a^b".toList =
      .ok (.binary "pow" (.unary "neg" (.term "ident" "a")) (.term "ident" "b")) := by
    decide +kernel
  obtain ⟨derivation, first, last, started, bound, same, takes, ended, _⟩ :=
    read_expression_has_derivation.2 _ _ parsed
  exact ⟨parsed, derivation, first, last, started, bound, same, takes, ended⟩

end Session

end Precedence
