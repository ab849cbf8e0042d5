import Precedence.Expr.Basic
import Precedence.Grammar

namespace Precedence

theorem Grammar.isOperator_of_leading? {grammar : Grammar} {token : Token} {leading : Leading}
    (role : grammar.leading? token = some leading) : grammar.isOperator token = true := by
  unfold leading? at role
  split at role
  · assumption
  · cases role

theorem Grammar.isOperator_of_trailing? {grammar : Grammar} {token : Token} {trailing : Trailing}
    (role : grammar.trailing? token = some trailing) : grammar.isOperator token = true := by
  unfold trailing? at role
  split at role
  · assumption
  · cases role

/-- A way to read a row of tokens as an expression. A token that is a term has no leading role
beside that; which operands an operator takes is not restricted here. -/
inductive Derivation (grammar : Grammar) where
  | term (token : Token) (isTerm : grammar.isTerm token = true)
  | prefixed (token : Token) (tag : String) (power : Power)
      (notTerm : grammar.isTerm token = false)
      (role : grammar.leading? token = some (.prefixed tag power)) (arg : Derivation grammar)
  | group (token : Token) (closing : String) (inner : Power)
      (notTerm : grammar.isTerm token = false)
      (role : grammar.leading? token = some (.group closing inner)) (body : Derivation grammar)
  | infixed (lhs : Derivation grammar) (token : Token) (tag : String) (assoc : Associativity)
      (power : Power) (role : grammar.trailing? token = some (.infixed tag assoc power))
      (rhs : Derivation grammar)
  | postfixed (lhs : Derivation grammar) (token : Token) (tag : String) (power : Power)
      (role : grammar.trailing? token = some (.postfixed tag power))

namespace Derivation

variable {grammar : Grammar}

/-- The tokens that are read, a closing symbol at the end of each group. -/
def tokens : Derivation grammar → List Token
  | term token _ => [token]
  | prefixed token _ _ _ _ arg => token :: arg.tokens
  | group token closing _ _ _ body => token :: (body.tokens ++ [grammar.operatorToken closing])
  | infixed lhs token _ _ _ _ rhs => lhs.tokens ++ token :: rhs.tokens
  | postfixed lhs token _ _ _ => lhs.tokens ++ [token]

/-- The expression that is read, in which groups leave no trace. -/
def expr : Derivation grammar → Expr
  | term token _ => .term token.kind token.value
  | prefixed _ tag _ _ _ arg => .unary tag arg.expr
  | group _ _ _ _ _ body => body.expr
  | infixed lhs _ tag _ _ _ rhs => .binary tag lhs.expr rhs.expr
  | postfixed lhs _ tag _ _ => .unary tag lhs.expr

/-- The powers at which the operands are read that are still open at the right end. An operator
that comes next and holds at least as tightly as one of them belongs into that operand. -/
def openPowers : Derivation grammar → List Power
  | term _ _ => []
  | prefixed _ _ power _ _ arg => power :: arg.openPowers
  | group _ _ _ _ _ _ => []
  | infixed _ _ _ assoc power _ rhs => assoc.operandPower power :: rhs.openPowers
  | postfixed _ _ _ _ _ => []

/-- How many expressions are open at once while the tokens are read: left operands are read in
the expression they belong to, all others in one of their own. -/
def nest : Derivation grammar → Nat
  | term _ _ => 1
  | prefixed _ _ _ _ _ arg => 1 + arg.nest
  | group _ _ _ _ _ body => 1 + body.nest
  | infixed lhs _ _ _ _ _ rhs => max lhs.nest (1 + rhs.nest)
  | postfixed lhs _ _ _ _ => lhs.nest

theorem nest_pos (derivation : Derivation grammar) : 0 < derivation.nest := by
  induction derivation with
  | term token isTerm => exact Nat.zero_lt_one
  | prefixed => exact Nat.add_pos_left Nat.zero_lt_one _
  | group => exact Nat.add_pos_left Nat.zero_lt_one _
  | infixed lhs token tag assoc power role rhs left right =>
    exact Nat.lt_of_lt_of_le left (Nat.le_max_left _ _)
  | postfixed lhs token tag power role ih => exact ih

theorem tokens_ne_nil (derivation : Derivation grammar) : derivation.tokens ≠ [] := by
  cases derivation <;> simp [tokens]

theorem isTerm_or_isOperator_of_mem {derivation : Derivation grammar} {token : Token}
    (member : token ∈ derivation.tokens) :
    grammar.isTerm token = true ∨ grammar.isOperator token = true := by
  induction derivation with
  | term found isTerm =>
    obtain rfl := List.mem_singleton.mp member
    exact Or.inl isTerm
  | prefixed found tag power notTerm role arg ih =>
    rcases List.mem_cons.mp member with rfl | inside
    · exact Or.inr (Grammar.isOperator_of_leading? role)
    · exact ih inside
  | group found closing inner notTerm role body ih =>
    rcases List.mem_cons.mp member with rfl | behind
    · exact Or.inr (Grammar.isOperator_of_leading? role)
    · rcases List.mem_append.mp behind with inside | closes
      · exact ih inside
      · obtain rfl := List.mem_singleton.mp closes
        exact Or.inr (beq_self_eq_true grammar.operatorKind)
  | infixed lhs found tag assoc power role rhs left right =>
    rcases List.mem_append.mp member with first | behind
    · exact left first
    · rcases List.mem_cons.mp behind with rfl | second
      · exact Or.inr (Grammar.isOperator_of_trailing? role)
      · exact right second
  | postfixed lhs found tag power role ih =>
    rcases List.mem_append.mp member with inside | last
    · exact ih inside
    · obtain rfl := List.mem_singleton.mp last
      exact Or.inr (Grammar.isOperator_of_trailing? role)

/-- Whether an operator of the given power is left alone by every operand that is still open. -/
def YieldsTo (derivation : Derivation grammar) (power : Power) : Prop :=
  ∀ held ∈ derivation.openPowers, power < held

/-- Whether a token is left alone by every operand that is still open. -/
def LetsPass (derivation : Derivation grammar) (token : Token) : Prop :=
  ∀ trailing ∈ grammar.trailing? token, derivation.YieldsTo trailing.power

/-- Whether an expression read at the given power ends in front of a token: the token has no
trailing role, or one that holds too loosely for the expression and for all its open operands. -/
def StoppedBy (derivation : Derivation grammar) (power : Power) (token : Token) : Prop :=
  ∀ trailing ∈ grammar.trailing? token, trailing.power < power ∧ derivation.YieldsTo trailing.power

theorem StoppedBy.loose {derivation : Derivation grammar} {power : Power} {token : Token}
    (stopped : derivation.StoppedBy power token) :
    ∀ trailing ∈ grammar.trailing? token, trailing.power < power :=
  fun trailing role => (stopped trailing role).1

theorem StoppedBy.letsPass {derivation : Derivation grammar} {power : Power} {token : Token}
    (stopped : derivation.StoppedBy power token) : derivation.LetsPass token :=
  fun trailing role => (stopped trailing role).2

theorem LetsPass.stoppedBy {derivation : Derivation grammar} {power : Power} {token : Token}
    (passes : derivation.LetsPass token)
    (loose : ∀ trailing ∈ grammar.trailing? token, trailing.power < power) :
    derivation.StoppedBy power token :=
  fun trailing role => ⟨loose trailing role, passes trailing role⟩

theorem letsPass_of_openPowers_eq_nil {derivation : Derivation grammar} {token : Token}
    (closed : derivation.openPowers = []) : derivation.LetsPass token := by
  intro trailing role held member
  simp [closed] at member

/-- An expression whose last operand is read at some power leaves alone what ends that operand,
and nothing else. -/
theorem letsPass_iff_of_openPowers_eq_cons {whole last : Derivation grammar} {power : Power}
    {token : Token} (opens : whole.openPowers = power :: last.openPowers) :
    whole.LetsPass token ↔ last.StoppedBy power token := by
  refine forall_congr' fun trailing => forall_congr' fun role => ?_
  unfold YieldsTo
  rw [opens]
  exact List.forall_mem_cons

/-- Whether every operator has the operands that its power entitles it to, in an expression read
at the given power. The operators that take the expression so far as their left operand hold at
least that tightly, and no operand in front of them could have taken them in; every other
expression is read at the power of the operator or group it belongs to; and a group could not go
on beyond its closing symbol. -/
def WellBound : Derivation grammar → Power → Prop
  | term _ _, _ => True
  | prefixed _ _ power _ _ arg, _ => arg.WellBound power
  | group _ closing inner _ _ body, _ =>
    body.WellBound inner ∧ body.StoppedBy inner (grammar.operatorToken closing)
  | infixed lhs _ _ assoc power _ rhs, least =>
    lhs.WellBound least ∧ least ≤ power ∧ lhs.YieldsTo power ∧
      rhs.WellBound (assoc.operandPower power)
  | postfixed lhs _ _ power _, least =>
    lhs.WellBound least ∧ least ≤ power ∧ lhs.YieldsTo power

/-- An expression that was read at some power could have been read at any looser one. -/
theorem WellBound.of_le {derivation : Derivation grammar} {loose tight : Power}
    (le : loose ≤ tight) (bound : derivation.WellBound tight) : derivation.WellBound loose := by
  induction derivation with
  | term => trivial
  | prefixed => exact bound
  | group => exact bound
  | infixed lhs token tag assoc power role rhs ih _ =>
    obtain ⟨left, holds, yields, right⟩ := bound
    exact ⟨ih left, Power.le_trans le holds, yields, right⟩
  | postfixed lhs token tag power role ih =>
    obtain ⟨left, holds, yields⟩ := bound
    exact ⟨ih left, Power.le_trans le holds, yields⟩

instance {derivation : Derivation grammar} {power : Power} :
    Decidable (derivation.YieldsTo power) :=
  inferInstanceAs (Decidable (∀ held ∈ derivation.openPowers, power < held))

instance {derivation : Derivation grammar} {power : Power} {token : Token} :
    Decidable (derivation.StoppedBy power token) :=
  inferInstanceAs (Decidable (∀ trailing ∈ grammar.trailing? token,
    trailing.power < power ∧ derivation.YieldsTo trailing.power))

instance WellBound.decide : (derivation : Derivation grammar) → (power : Power) →
    Decidable (derivation.WellBound power)
  | term _ _, _ => isTrue trivial
  | prefixed _ _ power _ _ arg, _ => WellBound.decide arg power
  | group _ closing inner _ _ body, _ =>
    have := WellBound.decide body inner
    inferInstanceAs (Decidable (body.WellBound inner ∧
      body.StoppedBy inner (grammar.operatorToken closing)))
  | infixed lhs _ _ assoc power _ rhs, least =>
    have := WellBound.decide lhs least
    have := WellBound.decide rhs (assoc.operandPower power)
    inferInstanceAs (Decidable (lhs.WellBound least ∧ least ≤ power ∧ lhs.YieldsTo power ∧
      rhs.WellBound (assoc.operandPower power)))
  | postfixed lhs _ _ power _, least =>
    have := WellBound.decide lhs least
    inferInstanceAs (Decidable (lhs.WellBound least ∧ least ≤ power ∧ lhs.YieldsTo power))

end Derivation

end Precedence
