import Precedence.Proofs.Session.Law

namespace Precedence

namespace Session

variable {grammar : Grammar}

/-- What is opened is closed again: as many expressions are open after a reading as before it, also
where it fails, if only it does not break off. -/
def depthLaw (grammar : Grammar) : Law grammar where
  done session after := after.depth = session.depth
  failed session error after := error.breaksOff = false → after.depth = session.depth
  refl _ := rfl
  trans first second := second.trans first
  fail first second intact := (second intact).trans first
  report _ _ _ := rfl
  advance _ := rfl
  stuck _ _ := rfl
  unexpected _ _ _ := rfl
  tooDeep _ _ := rfl
  endless _ behind _ _ := behind
  nested inner := by simp [inner]
  failNested inner intact := by simp [intact, inner intact]

theorem shallower_deeper {session : Session} (positive : 0 < session.depth) :
    session.shallower.deeper = session := by
  have depth : session.depth - 1 + 1 = session.depth := Nat.sub_add_cancel positive
  simp only [deeper, shallower, depth]

theorem nested_congr {α : Type} {run twin : ParseM α} {session : Session}
    (same : run session.deeper = twin session.deeper) :
    nested run session = nested twin session := by
  rw [nested_eq, nested_eq, same]

/-- What is read in two parts inside one more open expression could be read inside two such
expressions, one behind the other. -/
theorem nested_bind {α β : Type} {run : ParseM α} {next : α → ParseM β}
    (kept : (depthLaw grammar).Holds run) (session : Session) :
    nested (run >>= next) session = (nested run >>= fun value => nested (next value)) session := by
  rw [bind_eq, nested_eq, nested_eq, bind_eq]
  cases ran : run session.deeper with
  | ok value after =>
    have depth : after.depth = session.deeper.depth := (kept session.deeper).of_ok ran
    have openStill : 0 < after.depth := by
      rw [depth]
      exact Nat.succ_pos session.depth
    dsimp only
    rw [nested_eq, shallower_deeper openStill]
  | error error after => rfl

/-- Whether two readings are the same wherever a given number of expressions is open. -/
def SameAt {α : Type} (depth : Nat) (run twin : ParseM α) : Prop :=
  ∀ session : Session, session.depth = depth → run session = twin session

section
variable {depth : Nat} {sub wider : Power → ParseM Expr}

theorem SameAt.refl {α : Type} (run : ParseM α) : SameAt depth run run := fun _ _ => rfl

theorem SameAt.bind {α β : Type} {run twin : ParseM α} {next other : α → ParseM β}
    (kept : (depthLaw grammar).Holds run) (first : SameAt depth run twin)
    (second : ∀ value, SameAt depth (next value) (other value)) :
    SameAt depth (run >>= next) (twin >>= other) := by
  intro session here
  rw [bind_eq, bind_eq, ← first session here]
  cases ran : run session with
  | ok value after => exact second value after (((kept session).of_ok ran).trans here)
  | error error after => rfl

theorem SameAt.applyTrailing (kept : ∀ power, (depthLaw grammar).Holds (sub power))
    (same : ∀ power, SameAt depth (sub power) (wider power)) (lhs : Expr) (trailing : Trailing) :
    SameAt depth (applyTrailing sub lhs trailing) (applyTrailing wider lhs trailing) := by
  cases trailing with
  | infixed tag assoc power => exact (same _).bind (kept _) fun _ => .refl _
  | postfixed tag power => exact .refl _

/-- All right operands of an expression are read where as many expressions are open. -/
theorem SameAt.climb (kept : ∀ power, (depthLaw grammar).Holds (sub power))
    (same : ∀ power, SameAt depth (sub power) (wider power)) (power : Power) (expr : Expr) :
    SameAt depth (climb grammar sub power expr) (climb grammar wider power expr) := by
  intro session here
  induction pending : session.scanner.pending using Nat.strongRecOn generalizing expr session with
  | _ left ih =>
    subst pending
    rcases grammar.loose_or_holds power session.current with loose | ⟨trailing, role, holds⟩
    · rw [climb_stop loose, climb_stop loose]
    · have taken : (depthLaw grammar).Holds (discard advance) := .advance
      have steps : (depthLaw grammar).Holds
          (do discard advance; Session.applyTrailing sub expr trailing) :=
        taken.bind fun _ => .applyTrailing kept expr trailing
      have step : SameAt depth (do discard advance; Session.applyTrailing sub expr trailing)
          (do discard advance; Session.applyTrailing wider expr trailing) :=
        (SameAt.refl _).bind taken fun _ => .applyTrailing kept same expr trailing
      rw [climb_step role holds, climb_step role holds, ← step session here]
      split
      · rfl
      · next whole after ran =>
        split
        · next less => exact ih _ less whole after (((steps session).of_ok ran).trans here) rfl
        · rfl

theorem SameAt.followedBy {inner whole : ParseM Expr} (kept : (depthLaw grammar).Holds inner)
    (same : SameAt depth inner whole) (terminator : Token) :
    SameAt depth (followedBy terminator inner) (followedBy terminator whole) :=
  same.bind kept fun _ => .refl _

theorem SameAt.applyLeading (kept : ∀ power, (depthLaw grammar).Holds (sub power))
    (same : ∀ power, SameAt depth (sub power) (wider power)) (leading : Leading) :
    SameAt depth (applyLeading grammar sub leading) (applyLeading grammar wider leading) := by
  cases leading with
  | prefixed tag power => exact (same _).bind (kept _) fun _ => .refl _
  | group closing inner =>
    exact ((same inner).followedBy (kept inner) _).bind ((kept inner).followedBy _) fun _ => .refl _

theorem SameAt.operand (kept : ∀ power, (depthLaw grammar).Holds (sub power))
    (same : ∀ power, SameAt depth (sub power) (wider power)) :
    SameAt depth (operand grammar sub) (operand grammar wider) := by
  have looked : (depthLaw grammar).Holds get := .get
  have taken : (depthLaw grammar).Holds (discard advance) := .advance
  refine (SameAt.refl _).bind looked fun session => ?_
  dsimp only
  split
  · exact .refl _
  · cases grammar.leading? session.current with
    | some leading => exact (SameAt.refl _).bind taken fun _ => .applyLeading kept same leading
    | none => exact .refl _

/-- Reading within the levels that are left is reading with as many levels as are left. -/
theorem sameAt_expression {levels : Nat} (left : levels = grammar.maxDepth - depth)
    (power : Power) :
    SameAt depth (expressionWithin grammar levels power) (expression grammar power) := by
  intro session here
  unfold expression
  rw [left, here]

/-- An expression goes on in the same way whether its right operands are read within the levels
that are left, or with as many levels as are left. -/
theorem climb_expression {levels : Nat} {power : Power} {expr : Expr} {session : Session}
    (left : levels = grammar.maxDepth - session.depth) :
    climb grammar (expressionWithin grammar levels) power expr session =
      climb grammar (expression grammar) power expr session :=
  SameAt.climb (depthLaw grammar).holds_expressionWithin (sameAt_expression left) power expr
    session rfl

/-- An expression is read by the recursion on the count of open expressions: where as many are open
as may be, it fails; elsewhere one more is opened, and all expressions inside are read alike. -/
theorem expression_eq {power : Power} {session : Session} :
    expression grammar power session =
      if grammar.maxDepth ≤ session.depth then
        .error (.tooDeep grammar.maxDepth session.scanner.span) session
      else
        nested (do
          let first ← operand grammar (expression grammar)
          climb grammar (expression grammar) power first) session := by
  unfold expression
  cases left : grammar.maxDepth - session.depth with
  | zero => exact (if_pos (Nat.le_of_sub_eq_zero left)).symm
  | succ levels =>
    rw [if_neg (by omega)]
    have kept (power : Power) : (depthLaw grammar).Holds (expressionWithin grammar levels power) :=
      (depthLaw grammar).holds_expressionWithin power
    have same := @sameAt_expression grammar session.deeper.depth levels
      (by rw [depth_deeper]; omega)
    exact nested_congr (((SameAt.operand kept same).bind (.operand kept) fun first =>
      .climb kept same power first) session.deeper rfl)

end

end Session

end Precedence
