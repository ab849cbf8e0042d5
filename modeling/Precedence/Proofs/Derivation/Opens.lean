import Precedence.Proofs.Derivation.Complete

namespace Precedence

/-- The power at which the operand that a leading symbol begins is read. -/
def Leading.operandPower : Leading → Power
  | prefixed _ power => power
  | group _ inner => inner

/-- Tokens of an expression read at a given power, behind which so many operands are open in it, one
inside the other: operands of prefix operators, what groups hold, and right operands of infix
operators. What comes behind the tokens makes no difference. -/
inductive Grammar.Opens (grammar : Grammar) : Power → List Token → Nat → Prop
  | here {power} : Opens grammar power [] 0
  | leading {power token leading tokens steps} : grammar.isTerm token = false →
      grammar.leading? token = some leading → Opens grammar leading.operandPower tokens steps →
      Opens grammar power (token :: tokens) (steps + 1)
  | infixed {power token tag assoc held tokens steps} {lhs : Derivation grammar} :
      lhs.WellBound power → power ≤ held → lhs.YieldsTo held →
      grammar.trailing? token = some (.infixed tag assoc held) →
      Opens grammar (assoc.operandPower held) tokens steps →
      Opens grammar power (lhs.tokens ++ token :: tokens) (steps + 1)

/-- Whether the end mark is none of the operators among some tokens. -/
def Grammar.Inside (grammar : Grammar) (tokens : List Token) : Prop :=
  grammar.endToken ∈ tokens → grammar.trailing? grammar.endToken = none

variable {grammar : Grammar} {power : Power} {tokens : List Token} {steps levels : Nat}

theorem Grammar.Inside.mono {fewer : List Token} (inside : grammar.Inside tokens)
    (subset : fewer ⊆ tokens) : grammar.Inside fewer :=
  fun member => inside (subset member)

/-- A derivation begins with tokens behind which its innermost operand is open. -/
theorem Derivation.exists_opens {derivation : Derivation grammar}
    (bound : derivation.WellBound power) :
    ∃ tokens steps, grammar.Opens power tokens steps ∧ tokens <+: derivation.tokens ∧
      derivation.nest = steps + 1 := by
  induction derivation generalizing power with
  | term token isTerm => exact ⟨[], 0, .here, List.nil_prefix, rfl⟩
  | prefixed token tag held notTerm role arg ih =>
    obtain ⟨tokens, steps, opens, front, nest⟩ := ih bound
    refine ⟨token :: tokens, steps + 1, .leading notTerm role opens, ?_, ?_⟩
    · exact (List.prefix_cons_inj token).mpr front
    · rw [Derivation.nest, nest, Nat.add_comm]
  | group token closing inner notTerm role body ih =>
    obtain ⟨tokens, steps, opens, front, nest⟩ := ih bound.1
    refine ⟨token :: tokens, steps + 1, .leading notTerm role opens, ?_, ?_⟩
    · exact (List.prefix_cons_inj token).mpr (front.trans (List.prefix_append _ _))
    · rw [Derivation.nest, nest, Nat.add_comm]
  | infixed lhs token tag assoc held role rhs left right =>
    obtain ⟨fits, holds, yields, behind⟩ := bound
    rcases Nat.le_total lhs.nest (1 + rhs.nest) with le | le
    · obtain ⟨tokens, steps, opens, front, nest⟩ := right behind
      refine ⟨lhs.tokens ++ token :: tokens, steps + 1, .infixed fits holds yields role opens,
        ?_, ?_⟩
      · exact (List.prefix_append_right_inj _).mpr ((List.prefix_cons_inj token).mpr front)
      · rw [Derivation.nest, Nat.max_eq_right le, nest, Nat.add_comm]
    · obtain ⟨tokens, steps, opens, front, nest⟩ := left fits
      refine ⟨tokens, steps, opens, front.trans (List.prefix_append _ _), ?_⟩
      rw [Derivation.nest, Nat.max_eq_left le, nest]
  | postfixed lhs token tag held role ih =>
    obtain ⟨tokens, steps, opens, front, nest⟩ := ih bound.1
    exact ⟨tokens, steps, opens, front.trans (List.prefix_append _ _), nest⟩

namespace Session

variable {session : Session} {next middle last : Scanner} {token : Token}

/-- Whether an expression comes to an operand for which no level is left. -/
def TooDeep (session : Session) (grammar : Grammar) (levels : Nat) (power : Power) : Prop :=
  session.Ends (expressionWithin grammar levels power) (fun _ _ => False)
    fun error _ => ∃ span, error = .tooDeep grammar.maxDepth span

theorem tooDeep_zero : session.TooDeep grammar 0 power :=
  ends_expressionWithin_zero.mpr ⟨_, rfl⟩

theorem tooDeep_of_leading {leading : Leading} (notTerm : grammar.isTerm session.current = false)
    (role : grammar.leading? session.current = some leading)
    (found : Scanner.next session.scanner = .ok () next)
    (deep : (session.deeper.moved next).TooDeep grammar levels leading.operandPower) :
    session.TooDeep grammar (levels + 1) power := by
  refine ends_expressionWithin_succ.mpr
    (Derivation.ends_operand_of_leading notTerm role found ?_)
  cases leading with
  | prefixed tag held =>
    exact ends_applyLeading_prefixed.mpr (deep.imp (fun _ _ => False.elim) fun _ _ => id)
  | group closing inner =>
    exact ends_applyLeading_group.mpr
      (ends_followedBy.mpr (deep.imp (fun _ _ => False.elim) fun _ _ => id))

/-- The left operand is read as derived, and the right one is too deep. -/
theorem tooDeep_of_infixed {lhs : Derivation grammar} {tag : String} {assoc : Associativity}
    {held : Power} (bound : lhs.WellBound power) (holds : power ≤ held) (yields : lhs.YieldsTo held)
    (room : lhs.nest ≤ levels + 1) (before : session.scanner.Takes lhs.tokens middle)
    (role : grammar.trailing? middle.current = some (.infixed tag assoc held))
    (inner : middle.pending ≠ 0) (found : Scanner.next middle = .ok () next)
    (deep : ∀ after : Session, after.scanner = next →
      after.TooDeep grammar levels (assoc.operandPower held)) :
    session.TooDeep grammar (levels + 1) power := by
  refine ends_expressionWithin_succ.mpr (lhs.leads levels power session.deeper middle _ _ bound room
    before (fun finished => absurd finished inner) ?_ ?_)
  · intro other same
    obtain rfl := Option.some.inj (role.symm.trans same)
    exact yields
  · rintro after rfl _
    refine (ends_climb_step role (Power.not_lt.mpr holds)).mpr
      ((ends_advance_of_next found).mpr (ends_applyTrailing_infixed.mpr ?_))
    exact (deep (after.moved next) rfl).imp (fun _ _ => False.elim) fun _ _ => id

end Session

open Session

theorem Grammar.Inside.pending_ne_zero {scanner : Scanner} {trailing : Trailing}
    (inside : grammar.Inside tokens) (ends : scanner.endToken = grammar.endToken)
    (member : scanner.current ∈ tokens)
    (role : grammar.trailing? scanner.current = some trailing) : scanner.pending ≠ 0 := by
  intro finished
  have atEnd := (eq_of_beq (Scanner.pending_eq_zero.mp finished).2).trans ends
  rw [atEnd] at member role
  cases (inside member).symm.trans role

/-- Tokens behind which no fewer operands are open than levels are left are not read to their end,
whatever comes behind them. A left operand may be too deep by itself, which its own first tokens
show, so the number of tokens is what the induction is on. -/
theorem Grammar.Opens.tooDeep {session : Session} {last : Scanner}
    (opens : grammar.Opens power tokens steps) (few : levels ≤ steps)
    (takes : session.scanner.Takes tokens last) (inside : grammar.Inside tokens)
    (ends : session.scanner.endToken = grammar.endToken) :
    session.TooDeep grammar levels power := by
  induction size : tokens.length using Nat.strongRecOn generalizing power tokens steps levels
    session last with
  | ind size ih =>
    cases levels with
    | zero => exact tooDeep_zero
    | succ levels =>
      cases opens with
      | here => exact absurd few (Nat.not_succ_le_zero _)
      | @leading _ token leading tokens steps notTerm role opens =>
        obtain ⟨rfl, next, found, rest⟩ := takes.of_cons
        refine tooDeep_of_leading notTerm role found ?_
        exact ih tokens.length (by simp [← size]) opens (Nat.le_of_succ_le_succ few) rest
          (inside.mono (List.subset_cons_self _ _)) ((Scanner.next_endToken found).trans ends) rfl
      | @infixed _ token tag assoc held tokens steps lhs bound holds yields role opens =>
        obtain ⟨middle, before, behind⟩ := takes.of_append
        obtain ⟨rfl, next, found, rest⟩ := behind.of_cons
        have middleEnds := before.endToken.trans ends
        rcases Nat.lt_or_ge (levels + 1) lhs.nest with deep | room
        · obtain ⟨front, inner, opensFront, ⟨others, whole⟩, nest⟩ := lhs.exists_opens bound
          rw [← whole] at before size inside
          obtain ⟨_, takesFront, _⟩ := before.of_append
          refine ih front.length ?_ opensFront (by omega) takesFront (inside.mono ?_) ends rfl
          · simp only [← size, List.length_append, List.length_cons]
            omega
          · rw [List.append_assoc]
            exact List.subset_append_left _ _
        · have inner := inside.pending_ne_zero middleEnds (by simp) role
          refine tooDeep_of_infixed bound holds yields room before role inner found ?_
          rintro after rfl
          refine ih tokens.length ?_ opens (Nat.le_of_succ_le_succ few) rest (inside.mono ?_)
            ((Scanner.next_endToken found).trans middleEnds) rfl
          · simp only [← size, List.length_append, List.length_cons]
            omega
          · exact List.Subset.trans (List.subset_cons_self _ _) (List.subset_append_right _ _)

end Precedence
