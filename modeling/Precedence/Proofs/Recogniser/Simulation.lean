import Precedence.Proofs.Recogniser.Basic
import Precedence.Proofs.Session.Parse

namespace Precedence

namespace Recogniser

variable {grammar : Grammar} {recogniser next : Recogniser} {scanner : Scanner}
  {stream : TokenStream}

/-- A token that is taken counts for nothing any more. This holds of the end mark too, which can
do no more than close a group. -/
theorem run_of_step (flat : grammar.Flat)
    (sees : scanner.Shows grammar.lexicon grammar.endToken stream)
    (taken : recogniser.step grammar scanner.current = .ok next) :
    recogniser.run grammar stream = next.run grammar stream.tail := by
  cases sees with
  | token _ =>
    rw [run, taken]
    rfl
  | @finish cursor _ =>
    obtain ⟨turn, closings⟩ := recogniser
    cases turn with
    | operand => simp [step, flat.endNotTerm, flat.endNotLeading] at taken
    | operator =>
      cases closings with
      | nil => simp [step, close, flat.endNotTrailing] at taken
      | cons closing outer =>
        simp only [step, close, flat.endNotTrailing] at taken
        split at taken
        · next same =>
          cases taken
          simp only [run, TokenStream.tail, finish, if_pos same]
        · cases taken

/-- A token that is refused decides the verdict, unless it is the one that was expected: the end
mark behind a whole expression. -/
theorem run_of_step_error {expected : Expectation} (flat : grammar.Flat)
    (sees : scanner.Shows grammar.lexicon grammar.endToken stream)
    (refused : recogniser.step grammar scanner.current = .error expected)
    (other : expected ≠ .token scanner.current) :
    recogniser.run grammar stream =
      .error (.unexpected scanner.current expected scanner.span) := by
  cases sees with
  | token _ => rw [run, refused]
  | @finish cursor _ =>
    obtain ⟨turn, closings⟩ := recogniser
    cases turn with
    | operand =>
      simp only [step, flat.endNotTerm, flat.endNotLeading] at refused
      cases refused
      rfl
    | operator =>
      cases closings with
      | nil =>
        simp only [step, close, flat.endNotTrailing] at refused
        cases refused
        exact absurd rfl other
      | cons closing outer =>
        simp only [step, close, flat.endNotTrailing] at refused
        split at refused
        · cases refused
        · next differs =>
          cases refused
          simp only [run, finish, if_neg differs]

/-- Behind a whole expression, the end mark stands only at the end of the text. -/
theorem run_of_end (flat : grammar.Flat)
    (sees : scanner.Shows grammar.lexicon grammar.endToken stream)
    (ended : scanner.current = grammar.endToken) :
    run grammar ⟨.operator, []⟩ stream = .ok () := by
  cases sees with
  | token kindMem =>
    obtain rfl := ended
    exact absurd kindMem flat.endNoWord
  | finish _ => rfl

end Recogniser

namespace Session

variable {grammar : Grammar} {session : Session} {recogniser next : Recogniser}
  {verdict : Except ParseError Unit}

/-- Whether a recogniser that is given what a session has in front of it comes to a verdict. -/
def Faces (session : Session) (grammar : Grammar) (recogniser : Recogniser)
    (verdict : Except ParseError Unit) : Prop :=
  ∃ stream, session.scanner.Shows grammar.lexicon grammar.endToken stream ∧
    recogniser.run grammar stream = verdict

/-- Whether an error is the one of the verdict, where a text that is nested too deep has none. -/
def Blames (verdict : Except ParseError Unit) (error : ParseError) : Prop :=
  (∃ limit span, error = .tooDeep limit span) ∨ verdict = .error error

theorem Faces.advance {done : Token → Session → Prop} (flat : grammar.Flat)
    (faces : session.Faces grammar recogniser verdict)
    (taken : recogniser.step grammar session.current = .ok next)
    (goes : ∀ after : Session, after.Faces grammar next verdict →
      after.scanner.pending ≤ session.scanner.pending →
      (session.current ≠ grammar.endToken → after.scanner.pending < session.scanner.pending) →
      done session.current after) :
    session.Ends Session.advance done fun error _ => Blames verdict error := by
  obtain ⟨stream, sees, rfl⟩ := faces
  have same := Recogniser.run_of_step flat sees taken
  refine ends_advance.mpr ⟨fun scanner found => ?_, fun error scanner stuck => ?_⟩
  · exact goes _ ⟨stream.tail, sees.behind found, same.symm⟩ (Scanner.next_pending_le found)
      fun inner => sees.pending_lt found inner
  · rcases sees.next_cases with ⟨after, found, _⟩ | ⟨cause, after, sameStuck, tail⟩
    · cases found.symm.trans stuck
    · cases stuck.symm.trans sameStuck
      refine Or.inr ?_
      rw [same, tail, Recogniser.run]

theorem Faces.blames {expected : Expectation} (flat : grammar.Flat)
    (faces : session.Faces grammar recogniser verdict)
    (refused : recogniser.step grammar session.current = .error expected)
    (other : expected ≠ .token session.current) :
    Blames verdict (.unexpected session.current expected session.scanner.span) := by
  obtain ⟨stream, sees, rfl⟩ := faces
  exact Or.inr (Recogniser.run_of_step_error flat sees refused other)

/-- Whether an operand of a recogniser stands between two sessions. -/
def Through (session : Session) (grammar : Grammar) (closings : List Token)
    (verdict : Except ParseError Unit) (after : Session) : Prop :=
  after.Faces grammar ⟨.operator, closings⟩ verdict ∧
    after.scanner.pending ≤ session.scanner.pending

/-- Whether `sub` reads a whole operand of a recogniser, whatever groups are open around it, and
stops in front of a token that holds too loosely. -/
def Follows (grammar : Grammar) (sub : Power → ParseM Expr) : Prop :=
  ∀ power (session : Session) closings verdict,
    session.Faces grammar ⟨.operand, closings⟩ verdict →
    session.Ends (sub power)
      (fun _ after => grammar.Loose power after.current ∧
        session.Through grammar closings verdict after)
      fun error _ => Blames verdict error

variable {sub : Power → ParseM Expr} {closings : List Token}

/-- An expression of the loosest power goes on with every operator. -/
theorem trailing?_of_loose {token : Token} (loose : grammar.Loose .loosest token) :
    grammar.trailing? token = none := by
  cases role : grammar.trailing? token with
  | none => rfl
  | some trailing =>
    have under := loose trailing role
    rw [Power.lt_iff] at under
    exact absurd under (Nat.not_lt_zero _)

/-- In front of a token that an expression of the loosest power could not go on with, no group
goes on. -/
theorem step_close {closing : Token} (loose : grammar.Loose .loosest session.current) :
    Recogniser.step grammar session.current ⟨.operator, closing :: closings⟩ =
      if session.current = closing then .ok ⟨.operator, closings⟩ else .error (.token closing) := by
  simp only [Recogniser.step, Recogniser.close, trailing?_of_loose loose]

/-- The closing symbols of the groups that a leading symbol opens. -/
def opened (grammar : Grammar) : Leading → List Token
  | .prefixed _ _ => []
  | .group closing _ => [grammar.operatorToken closing]

theorem step_leading {leading : Leading} {token : Token} (notTerm : grammar.isTerm token = false)
    (role : grammar.leading? token = some leading) :
    Recogniser.step grammar token ⟨.operand, closings⟩ =
      .ok ⟨.operand, opened grammar leading ++ closings⟩ := by
  cases leading with
  | prefixed tag power => simp [Recogniser.step, opened, notTerm, role]
  | group closing inner => simp [Recogniser.step, opened, notTerm, role]

theorem applyLeading_follows {leading : Leading} {token : Token} (flat : grammar.Flat)
    (follows : Follows grammar sub) (role : grammar.leading? token = some leading)
    (faces : session.Faces grammar ⟨.operand, opened grammar leading ++ closings⟩ verdict) :
    session.Ends (applyLeading grammar sub leading)
      (fun _ after => session.Through grammar closings verdict after)
      fun error _ => Blames verdict error := by
  cases leading with
  | prefixed tag power =>
    refine ends_applyLeading_prefixed.mpr ((follows power session closings verdict faces).imp ?_
      fun _ _ => id)
    rintro _ after ⟨_, behind, less⟩
    exact ⟨behind, less⟩
  | group closing inner =>
    obtain rfl := flat.inner_eq role
    refine ends_applyLeading_group.mpr (ends_followedBy.mpr ((follows .loosest session _ verdict
      faces).imp ?_ fun _ _ => id))
    rintro _ after ⟨loose, behind, less⟩
    have closes := @step_close _ _ closings (grammar.operatorToken closing) loose
    refine ⟨fun same => ?_, fun differs => ?_⟩
    · rw [if_pos same] at closes
      refine behind.advance flat closes fun final goes still _ => ⟨goes, ?_⟩
      exact Nat.le_trans still less
    · rw [if_neg differs] at closes
      refine behind.blames flat closes fun same => differs ?_
      exact (Expectation.token.inj same).symm

theorem operand_follows (flat : grammar.Flat) (follows : Follows grammar sub)
    (faces : session.Faces grammar ⟨.operand, closings⟩ verdict) :
    session.Ends (operand grammar sub)
      (fun _ after => session.Through grammar closings verdict after)
      fun error _ => Blames verdict error := by
  refine ends_operand.mpr ⟨fun isTerm => ?_, fun notTerm leading role => ?_, fun notTerm none => ?_⟩
  · have taken : Recogniser.step grammar session.current ⟨.operand, closings⟩ =
        .ok ⟨.operator, closings⟩ := by simp [Recogniser.step, isTerm]
    exact faces.advance flat taken fun after goes less _ => ⟨goes, less⟩
  · refine faces.advance flat (step_leading notTerm role) fun after goes less _ => ?_
    refine (applyLeading_follows flat follows role goes).imp ?_ fun _ _ => id
    rintro _ final ⟨behind, still⟩
    exact ⟨behind, Nat.le_trans still less⟩
  · have refused : Recogniser.step grammar session.current ⟨.operand, closings⟩ =
        .error .operand := by simp [Recogniser.step, notTerm, none]
    exact faces.blames flat refused (by simp)

/-- What has to come behind a trailing symbol. -/
def turnBehind : Trailing → Turn
  | .infixed _ _ _ => .operand
  | .postfixed _ _ => .operator

theorem step_trailing {trailing : Trailing} {token : Token}
    (role : grammar.trailing? token = some trailing) :
    Recogniser.step grammar token ⟨.operator, closings⟩ = .ok ⟨turnBehind trailing, closings⟩ := by
  cases trailing with
  | infixed tag assoc power => simp [Recogniser.step, turnBehind, role]
  | postfixed tag power => simp [Recogniser.step, turnBehind, role]

theorem applyTrailing_follows {trailing : Trailing} {lhs : Expr} (follows : Follows grammar sub)
    (faces : session.Faces grammar ⟨turnBehind trailing, closings⟩ verdict) :
    session.Ends (applyTrailing sub lhs trailing)
      (fun _ after => session.Through grammar closings verdict after)
      fun error _ => Blames verdict error := by
  cases trailing with
  | infixed tag assoc power =>
    refine ends_applyTrailing_infixed.mpr ((follows _ session closings verdict faces).imp ?_
      fun _ _ => id)
    rintro _ after ⟨_, behind, less⟩
    exact ⟨behind, less⟩
  | postfixed tag power => exact ends_applyTrailing_postfixed.mpr ⟨faces, Nat.le_refl _⟩

/-- However many operators an expression takes in, and wherever it stops, the recogniser has taken
the same tokens. An operator is no end mark, so that each leaves less to take. -/
theorem climb_follows {first : Session} {power : Power} {expr : Expr} (flat : grammar.Flat)
    (follows : Follows grammar sub) (through : first.Through grammar closings verdict session) :
    session.Ends (climb grammar sub power expr)
      (fun _ after => grammar.Loose power after.current ∧
        first.Through grammar closings verdict after)
      fun error _ => Blames verdict error := by
  refine ends_climb_of_invariant (fun _ session => first.Through grammar closings verdict session)
    (fun _ session through loose => ⟨loose, through⟩) ?_ through
  rintro lhs session trailing ⟨faces, bound⟩ role _
  have inner : session.current ≠ grammar.endToken := by
    intro ended
    rw [ended, flat.endNotTrailing] at role
    cases role
  refine faces.advance flat (step_trailing role) fun after goes _ less => ?_
  refine (applyTrailing_follows follows goes).imp ?_ fun _ _ => id
  rintro _ final ⟨behind, still⟩
  have shorter := less inner
  exact ⟨⟨behind, by omega⟩, fun more => absurd shorter (by omega)⟩

theorem expressionWithin_follows {levels : Nat} (flat : grammar.Flat) :
    Follows grammar (expressionWithin grammar levels) := by
  induction levels with
  | zero => exact fun _ _ _ _ _ => ends_expressionWithin_zero.mpr (Or.inl ⟨_, _, rfl⟩)
  | succ levels ih =>
    intro power session closings verdict faces
    have inside : session.deeper.Faces grammar ⟨.operand, closings⟩ verdict := faces
    refine ends_expressionWithin_succ.mpr ((operand_follows flat ih inside).imp ?_ fun _ _ => id)
    intro first after through
    exact (climb_follows flat ih through).imp (fun _ _ => id) fun _ _ => id

theorem expressionUntil_follows (flat : grammar.Flat)
    (faces : session.Faces grammar .start verdict) :
    session.Ends (expressionUntil grammar .loosest grammar.endToken)
      (fun _ _ => verdict = .ok ()) fun error _ => Blames verdict error := by
  refine ends_followedBy.mpr (ends_expression.mpr ((expressionWithin_follows flat .loosest session
    [] verdict faces).imp ?_ fun _ _ => id))
  rintro _ after ⟨loose, behind, _⟩
  refine ⟨fun ended => ?_, fun differs => ?_⟩
  · obtain ⟨stream, sees, rfl⟩ := behind
    exact Recogniser.run_of_end flat sees ended
  · have refused : Recogniser.step grammar after.current ⟨.operator, []⟩ =
        .error (.token grammar.endToken) := by
      simp [Recogniser.step, Recogniser.close, trailing?_of_loose loose]
    exact behind.blames flat refused fun same => differs (Expectation.token.inj same).symm

end Session

theorem Grammar.parse_cases {grammar : Grammar} (flat : grammar.Flat) (text : List Char) :
    (∃ expr, grammar.parse text = .ok expr ∧ grammar.recognise text = .ok ()) ∨
      ∃ error, grammar.parse text = .error error ∧
        Session.Blames (grammar.recognise text) error := by
  rw [parse_eq]
  unfold recognise
  rcases @Scanner.start_cases grammar.lexicon grammar.endToken text with
    ⟨scanner, started, sees⟩ | ⟨error, stuck, fails⟩
  · rw [started]
    dsimp only
    have follows := @Session.expressionUntil_follows grammar (Session.ofScanner scanner) _ flat
      ⟨_, sees, rfl⟩
    cases ran : Session.expressionUntil grammar .loosest grammar.endToken
      (Session.ofScanner scanner) with
    | ok expr after => exact Or.inl ⟨expr, rfl, follows.of_ok ran⟩
    | error error after => exact Or.inr ⟨error, rfl, follows.of_error ran⟩
  · rw [stuck, fails]
    exact Or.inr ⟨.scan error, rfl, Or.inr rfl⟩

/-- A text whose nesting is not too deep is read, or fails, as the order of its operands and
operators says. Where groups take in everything up to their closing symbol, powers decide what an
expression means, but not whether there is one, nor what is wrong with a text. -/
theorem Grammar.parse_agrees_with_recogniser {grammar : Grammar} {text : List Char}
    (flat : grammar.Flat)
    (shallow : ∀ limit span, grammar.parse text ≠ .error (.tooDeep limit span)) :
    ((∃ expr, grammar.parse text = .ok expr) ↔ grammar.recognise text = .ok ()) ∧
      ∀ error, grammar.parse text = .error error ↔ grammar.recognise text = .error error := by
  rcases parse_cases flat text with ⟨expr, parsed, accepted⟩ | ⟨error, parsed, blamed⟩
  · rw [parsed, accepted]
    simp
  · rcases blamed with ⟨limit, span, rfl⟩ | refused
    · exact absurd parsed (shallow limit span)
    · rw [parsed, refused]
      simp

theorem Grammar.open_group_agrees_with_recogniser :
    arithmetic.parse "(a+b".toList =
        .error (.unexpected ⟨"eof", ""⟩ (.token ⟨"op", ")"⟩) ⟨4, 4⟩) ∧
      arithmetic.recognise "(a+b".toList =
        .error (.unexpected ⟨"eof", ""⟩ (.token ⟨"op", ")"⟩) ⟨4, 4⟩) := by
  have parsed : arithmetic.parse "(a+b".toList =
      .error (.unexpected ⟨"eof", ""⟩ (.token ⟨"op", ")"⟩) ⟨4, 4⟩) := by decide +kernel
  have agrees := @parse_agrees_with_recogniser arithmetic "(a+b".toList arithmetic_flat
    fun limit span deep => by cases parsed.symm.trans deep
  exact ⟨parsed, (agrees.2 _).mp parsed⟩

end Precedence
