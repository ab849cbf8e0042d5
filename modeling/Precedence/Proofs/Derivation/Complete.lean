import Precedence.Proofs.Derivation.Unambiguous
import Precedence.Proofs.Session.Parse

namespace Precedence

open Session

variable {grammar : Grammar}

namespace Derivation

/-- Whether an expression that begins with the tokens of a derivation goes on as if the derived
expression were its left operand. At the end of the text it must not go on. -/
def Leads (derivation : Derivation grammar) : Prop :=
  ∀ (levels : Nat) (power : Power) (session : Session) (last : Scanner)
    (done : Expr → Session → Prop) (failed : ParseError → Session → Prop),
    derivation.WellBound power → derivation.nest ≤ levels + 1 →
    session.scanner.Takes derivation.tokens last →
    (last.pending = 0 → grammar.Loose power last.current) →
    derivation.LetsPass last.current →
    (∀ after : Session, after.scanner = last → after.depth = session.depth →
      after.Ends (climb grammar (expressionWithin grammar levels) power derivation.expr)
        done failed) →
    session.Ends (operand grammar (expressionWithin grammar levels))
      (fun first after =>
        after.Ends (climb grammar (expressionWithin grammar levels) power first) done failed)
      failed

/-- Whether a whole expression that consists of the tokens of a derivation is read as derived. -/
def Read (derivation : Derivation grammar) : Prop :=
  ∀ (levels : Nat) (power : Power) (session : Session) (last : Scanner),
    derivation.WellBound power → derivation.nest ≤ levels →
    session.scanner.Takes derivation.tokens last → derivation.StoppedBy power last.current →
    session.Ends (expressionWithin grammar levels power)
      (fun expr after => expr = derivation.expr ∧ after.scanner = last ∧
        after.depth = session.depth) fun _ _ => False

theorem Leads.read {derivation : Derivation grammar} (leads : derivation.Leads) :
    derivation.Read := by
  intro levels power session last bound within takes stopped
  have positive := derivation.nest_pos
  obtain ⟨rest, rfl⟩ : ∃ rest, levels = rest + 1 := ⟨levels - 1, by omega⟩
  refine ends_expressionWithin_succ.mpr (leads rest power session.deeper last _ _ bound within takes
    (fun _ => stopped.loose) stopped.letsPass ?_)
  rintro after rfl depth
  exact (ends_climb_stop stopped.loose).mpr ⟨rfl, rfl, by simp [depth]⟩

/-- An operator that an expression takes in is no end mark, since there the expression ends. -/
theorem pending_lt_of_takes_operator {middle last : Scanner} {token : Token} {tokens : List Token}
    {trailing : Trailing} {power : Power} (takes : middle.Takes (token :: tokens) last)
    (role : grammar.trailing? token = some trailing) (holds : power ≤ trailing.power)
    (ends : last.pending = 0 → grammar.Loose power last.current) :
    last.pending < middle.pending := by
  rcases takes.pending_lt_or_finished with less | ⟨finished, same⟩
  · exact less
  · have loose := ends finished trailing (same ▸ role)
    exact absurd holds (fun least => Power.not_lt.mpr least loose)

theorem leads_term {token : Token} {isTerm : grammar.isTerm token = true} :
    (term token isTerm).Leads := by
  intro levels power session last done failed _ _ takes _ _ goes
  obtain ⟨rfl, next, found, rest⟩ := takes.of_cons
  cases rest
  have here : grammar.isTerm session.current = true := isTerm
  refine ends_operand.mpr ⟨fun _ => ?_, fun notTerm => ?_, fun notTerm => ?_⟩
  · exact (ends_advance_of_next found).mpr (goes (session.moved _) rfl rfl)
  · exact absurd (here.symm.trans notTerm) (by simp)
  · exact absurd (here.symm.trans notTerm) (by simp)

/-- A symbol with a leading role is taken, and its operand is read. -/
theorem ends_operand_of_leading {levels : Nat} {session : Session} {next : Scanner}
    {leading : Leading} {done : Expr → Session → Prop} {failed : ParseError → Session → Prop}
    (notTerm : grammar.isTerm session.current = false)
    (role : grammar.leading? session.current = some leading)
    (found : Scanner.next session.scanner = .ok () next)
    (ends : (session.moved next).Ends
      (applyLeading grammar (expressionWithin grammar levels) leading) done failed) :
    session.Ends (operand grammar (expressionWithin grammar levels)) done failed := by
  refine ends_operand.mpr ⟨fun isTerm => ?_, fun _ other same => ?_, fun _ none => ?_⟩
  · exact absurd (isTerm.symm.trans notTerm) (by simp)
  · obtain rfl := Option.some.inj (role.symm.trans same)
    exact (ends_advance_of_next found).mpr ends
  · exact absurd (none.symm.trans role) (by simp)

theorem leads_prefixed {token : Token} {tag : String} {held : Power}
    {notTerm : grammar.isTerm token = false}
    {role : grammar.leading? token = some (.prefixed tag held)} {arg : Derivation grammar}
    (reads : arg.Read) : (prefixed token tag held notTerm role arg).Leads := by
  intro levels power session last done failed bound within takes _ passes goes
  obtain ⟨rfl, next, found, rest⟩ := takes.of_cons
  have stopped : arg.StoppedBy held last.current :=
    (letsPass_iff_of_openPowers_eq_cons rfl).mp passes
  have fits : arg.nest ≤ levels := by
    simp only [nest] at within
    omega
  refine ends_operand_of_leading notTerm role found (ends_applyLeading_prefixed.mpr ?_)
  refine (reads levels held (session.moved next) last bound fits rest stopped).imp ?_
    fun _ _ impossible => impossible.elim
  rintro _ after ⟨rfl, atLast, depth⟩
  exact goes _ atLast depth

theorem leads_group {token : Token} {closing : String} {inner : Power}
    {notTerm : grammar.isTerm token = false}
    {role : grammar.leading? token = some (.group closing inner)} {body : Derivation grammar}
    (reads : body.Read) : (group token closing inner notTerm role body).Leads := by
  intro levels power session last done failed bound within takes _ _ goes
  obtain ⟨rfl, next, found, rest⟩ := takes.of_cons
  obtain ⟨middle, before, afterBody⟩ := rest.of_append
  obtain ⟨closes, final, closed, nothing⟩ := afterBody.of_cons
  cases nothing
  have fits : body.nest ≤ levels := by
    simp only [nest] at within
    omega
  refine ends_operand_of_leading notTerm role found (ends_applyLeading_group.mpr
    (ends_followedBy.mpr ?_))
  refine (reads levels inner (session.moved next) middle bound.1 fits before
    (closes ▸ bound.2)).imp ?_ fun _ _ impossible => impossible.elim
  rintro _ after ⟨rfl, rfl, depth⟩
  refine ⟨fun _ => (ends_advance_of_next closed).mpr ?_, fun other => absurd closes other⟩
  exact goes _ rfl depth

/-- Behind its left operand, an expression takes an operator and goes on with what it makes. -/
theorem leads_operator {lhs whole : Derivation grammar} {token : Token} {trailing : Trailing}
    {tokens : List Token} {levels : Nat} {power : Power} {session : Session} {last : Scanner}
    {done : Expr → Session → Prop} {failed : ParseError → Session → Prop} (leads : lhs.Leads)
    (role : grammar.trailing? token = some trailing) (bound : lhs.WellBound power)
    (within : lhs.nest ≤ levels + 1) (holds : power ≤ trailing.power)
    (yields : lhs.YieldsTo trailing.power)
    (takes : session.scanner.Takes (lhs.tokens ++ token :: tokens) last)
    (ends : last.pending = 0 → grammar.Loose power last.current)
    (applies : ∀ after : Session, after.scanner.Takes tokens last → after.depth = session.depth →
      after.Ends (applyTrailing (expressionWithin grammar levels) lhs.expr trailing)
        (fun expr final => expr = whole.expr ∧ final.scanner = last ∧ final.depth = session.depth)
        failed)
    (goes : ∀ after : Session, after.scanner = last → after.depth = session.depth →
      after.Ends (climb grammar (expressionWithin grammar levels) power whole.expr) done failed) :
    session.Ends (operand grammar (expressionWithin grammar levels))
      (fun first after =>
        after.Ends (climb grammar (expressionWithin grammar levels) power first) done failed)
      failed := by
  obtain ⟨middle, before, behind⟩ := takes.of_append
  have less := pending_lt_of_takes_operator behind role holds ends
  obtain ⟨here, next, found, rest⟩ := behind.of_cons
  refine leads levels power session middle done failed bound within before ?_ ?_ ?_
  · exact fun finished => absurd less (by omega)
  · intro other same
    obtain rfl := Option.some.inj (role.symm.trans (here ▸ same))
    exact yields
  · rintro after rfl depth
    have atOperator : grammar.trailing? after.current = some trailing :=
      (congrArg grammar.trailing? here).trans role
    refine (ends_climb_step atOperator (Power.not_lt.mpr holds)).mpr
      ((ends_advance_of_next found).mpr ?_)
    refine (applies (after.moved next) rest depth).imp ?_ fun _ _ => id
    rintro _ final ⟨rfl, rfl, sameDepth⟩
    exact ⟨fun _ => goes final rfl sameDepth, fun more => absurd less more⟩

theorem leads_infixed {lhs rhs : Derivation grammar} {token : Token} {tag : String}
    {assoc : Associativity} {held : Power}
    {role : grammar.trailing? token = some (.infixed tag assoc held)} (leads : lhs.Leads)
    (reads : rhs.Read) : (infixed lhs token tag assoc held role rhs).Leads := by
  intro levels power session last done failed bound within takes ends passes goes
  obtain ⟨left, holds, free, right⟩ := bound
  simp only [nest] at within
  have stopped : rhs.StoppedBy (assoc.operandPower held) last.current :=
    (letsPass_iff_of_openPowers_eq_cons rfl).mp passes
  refine leads_operator leads role left (by omega) holds free takes ends ?_ goes
  intro after rest depth
  refine ends_applyTrailing_infixed.mpr ((reads levels _ after last right (by omega) rest
    stopped).imp ?_ fun _ _ impossible => impossible.elim)
  rintro _ final ⟨rfl, atLast, sameDepth⟩
  exact ⟨rfl, atLast, sameDepth.trans depth⟩

theorem leads_postfixed {lhs : Derivation grammar} {token : Token} {tag : String} {held : Power}
    {role : grammar.trailing? token = some (.postfixed tag held)} (leads : lhs.Leads) :
    (postfixed lhs token tag held role).Leads := by
  intro levels power session last done failed bound within takes ends _ goes
  obtain ⟨left, holds, free⟩ := bound
  refine leads_operator leads role left within holds free takes ends ?_ goes
  intro after rest depth
  cases rest
  exact ends_applyTrailing_postfixed.mpr ⟨rfl, rfl, depth⟩

theorem leads (derivation : Derivation grammar) : derivation.Leads := by
  induction derivation with
  | term token isTerm => exact leads_term
  | prefixed token tag power notTerm role arg ih => exact leads_prefixed ih.read
  | group token closing inner notTerm role body ih => exact leads_group ih.read
  | infixed lhs token tag assoc power role rhs left right => exact leads_infixed left right.read
  | postfixed lhs token tag power role ih => exact leads_postfixed ih

/-- The tokens of a derivation are read as derived, from any session with enough levels left. -/
theorem read_of_takes {derivation : Derivation grammar} {power : Power} {session : Session}
    {last : Scanner} (bound : derivation.WellBound power)
    (takes : session.scanner.Takes derivation.tokens last)
    (stopped : derivation.StoppedBy power last.current)
    (room : session.depth + derivation.nest ≤ grammar.maxDepth) :
    ∃ after, expression grammar power session = .ok derivation.expr after ∧
      after.scanner = last ∧ after.depth = session.depth := by
  have reads := derivation.leads.read (grammar.maxDepth - session.depth) power session last bound
    (by omega) takes stopped
  obtain ⟨_, after, ran, rfl, atLast, depth⟩ := (ends_expression.mpr reads).exists_ok
  exact ⟨after, ran, atLast, depth⟩

/-- The tokens of a derivation up to the end mark are read as derived, if there are enough
levels. -/
theorem read_whole_of_takes {derivation : Derivation grammar} {levels : Nat} {first last : Scanner}
    (bound : derivation.WellBound .loosest) (takes : first.Takes derivation.tokens last)
    (ended : last.current = grammar.endToken)
    (stopped : derivation.StoppedBy .loosest grammar.endToken)
    (within : derivation.nest ≤ levels) :
    ∃ after, followedBy grammar.endToken (expressionWithin grammar levels .loosest)
      (ofScanner first) = .ok derivation.expr after := by
  have reads := derivation.leads.read levels .loosest (ofScanner first) last bound within takes
    (ended ▸ stopped)
  have whole : (ofScanner first).Ends
      (followedBy grammar.endToken (expressionWithin grammar levels .loosest))
      (fun expr _ => expr = derivation.expr) fun _ _ => False := by
    refine ends_followedBy.mpr (reads.imp ?_ fun _ _ => id)
    rintro _ after ⟨rfl, rfl, _⟩
    exact ⟨fun _ => rfl, fun other => other ended⟩
  obtain ⟨_, after, ran, rfl⟩ := whole.exists_ok
  exact ⟨after, ran⟩

/-- A text that consists of the tokens of a derivation is read as derived. -/
theorem parse_of_takes {derivation : Derivation grammar} {text : List Char} {first last : Scanner}
    (started : Scanner.start grammar.lexicon grammar.endToken text = .ok first)
    (bound : derivation.WellBound .loosest) (takes : first.Takes derivation.tokens last)
    (ended : last.current = grammar.endToken)
    (stopped : derivation.StoppedBy .loosest grammar.endToken)
    (room : derivation.nest ≤ grammar.maxDepth) : grammar.parse text = .ok derivation.expr := by
  obtain ⟨after, ran⟩ := read_whole_of_takes bound takes ended stopped room
  exact (Grammar.parse_of_start started).trans (congrArg answer ran)

/-- A derivation is the one and only reading of its tokens: in front of a token that it could not
go on with, an expression of these tokens is read as derived, and no other derivation of them ends
there. -/
theorem derivation_is_only_reading {derivation : Derivation grammar} {power : Power}
    (bound : derivation.WellBound power) :
    (∀ session last, session.scanner.Takes derivation.tokens last →
      derivation.StoppedBy power last.current →
      session.depth + derivation.nest ≤ grammar.maxDepth →
      ∃ after, expression grammar power session = .ok derivation.expr after ∧
        after.scanner = last ∧ after.depth = session.depth) ∧
    ∀ (other : Derivation grammar) (token : Token), other.WellBound power →
      other.tokens = derivation.tokens → derivation.StoppedBy power token →
      other.StoppedBy power token → other = derivation := by
  refine ⟨fun session last takes stopped room => read_of_takes bound takes stopped room, ?_⟩
  intro other token fits same stopped ends
  exact eq_of_tokens fits bound ends stopped (congrArg (· ++ [token]) same)

/-- The reading of `-a^b` in arithmetic, where a sign holds its operand more tightly than a power
does. -/
def signedPower : Derivation .arithmetic :=
  .infixed
    (.prefixed ⟨"op", "-"⟩ "neg" ⟨5⟩ (by decide +kernel) (by decide +kernel)
      (.term ⟨"ident", "a"⟩ (by decide +kernel)))
    ⟨"op", "^"⟩ "pow" .right ⟨4⟩ (by decide +kernel)
    (.term ⟨"ident", "b"⟩ (by decide +kernel))

theorem signedPower_is_only_reading :
    (∃ first after, Session.start .arithmetic "-a^b".toList = .ok first ∧
      expression .arithmetic .loosest first =
        .ok (.binary "pow" (.unary "neg" (.term "ident" "a")) (.term "ident" "b")) after) ∧
    ∀ other : Derivation .arithmetic, other.WellBound .loosest →
      other.tokens = signedPower.tokens → other.StoppedBy .loosest ⟨"eof", ""⟩ →
      other = signedPower := by
  have bound : signedPower.WellBound .loosest := by decide +kernel
  have scans : (((Scanner.start Grammar.arithmetic.lexicon Grammar.arithmetic.endToken
      "-a^b".toList).toOption.bind (Scanner.behind? signedPower.tokens)).map Scanner.current) =
        some ⟨"eof", ""⟩ := by decide +kernel
  obtain ⟨last, behind, ended⟩ := Option.map_eq_some_iff.mp scans
  obtain ⟨first, started, takes⟩ := Option.bind_eq_some_iff.mp behind
  have stopped : signedPower.StoppedBy .loosest ⟨"eof", ""⟩ := by decide +kernel
  have room : signedPower.nest ≤ Grammar.arithmetic.maxDepth := by decide +kernel
  refine ⟨?_, fun other fits same ends =>
    (derivation_is_only_reading bound).2 other _ fits same stopped ends⟩
  obtain ⟨after, read, _⟩ := (derivation_is_only_reading bound).1 (ofScanner first) last
    (Scanner.takes_iff_behind?.mpr takes) (ended ▸ stopped) (by simpa using room)
  refine ⟨ofScanner first, after, ?_, read⟩
  rw [Session.start_eq]
  cases ran : Scanner.start Grammar.arithmetic.lexicon Grammar.arithmetic.endToken
      "-a^b".toList with
  | error error =>
    rw [ran] at started
    cases started
  | ok scanner =>
    rw [ran] at started
    cases started
    rfl

end Derivation

end Precedence
