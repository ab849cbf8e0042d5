import Precedence.Proofs.Derivation.Basic
import Precedence.Proofs.Scanner.Takes
import Precedence.Reading

namespace Precedence

/-- What a reading does, one thing after the other: it takes a token, or it applies an operator to
operands that are complete. -/
inductive Action where
  | take (token : Token)
  | apply (role : Role) (tag : String)
deriving DecidableEq, Repr

def Action.token? : Action → Option Token
  | take token => some token
  | apply _ _ => none

namespace Derivation

variable {grammar : Grammar}

/-- What is done to read the tokens of a derivation. An operator is applied right behind the last
token of its operands, or behind its own. -/
def actions : Derivation grammar → List Action
  | term token _ => [.take token]
  | prefixed token tag _ _ _ arg => .take token :: (arg.actions ++ [.apply .prefixed tag])
  | group token closing _ _ _ body =>
    .take token :: (body.actions ++ [.take (grammar.operatorToken closing)])
  | infixed lhs token tag _ _ _ rhs =>
    lhs.actions ++ .take token :: (rhs.actions ++ [.apply .infixed tag])
  | postfixed lhs token tag _ _ => lhs.actions ++ [.take token, .apply .postfixed tag]

theorem filterMap_actions (derivation : Derivation grammar) :
    derivation.actions.filterMap Action.token? = derivation.tokens := by
  induction derivation with
  | term => rfl
  | prefixed token tag power notTerm role arg ih => simp [actions, tokens, Action.token?, ih]
  | group token closing inner notTerm role body ih => simp [actions, tokens, Action.token?, ih]
  | infixed lhs token tag assoc power role rhs left right =>
    simp [actions, tokens, Action.token?, left, right]
  | postfixed lhs token tag power role ih => simp [actions, tokens, Action.token?, ih]

end Derivation

/-- An operator that is applied to read a derivation: the tokens in front of all that belongs to
it, the derivation of the operator with its operands, its role and its tag. -/
structure Operation (grammar : Grammar) where
  front : List Token
  node : Derivation grammar
  role : Role
  tag : String

namespace Derivation

variable {grammar : Grammar}

/-- The operators of a derivation that stands behind some tokens, each behind those in its
operands, the left operand first. -/
def operations (front : List Token) : Derivation grammar → List (Operation grammar)
  | term _ _ => []
  | prefixed token tag power notTerm role arg =>
    arg.operations (front ++ [token]) ++
      [⟨front, prefixed token tag power notTerm role arg, .prefixed, tag⟩]
  | group token _ _ _ _ body => body.operations (front ++ [token])
  | infixed lhs token tag assoc power role rhs =>
    lhs.operations front ++ rhs.operations (front ++ lhs.tokens ++ [token]) ++
      [⟨front, infixed lhs token tag assoc power role rhs, .infixed, tag⟩]
  | postfixed lhs token tag power role =>
    lhs.operations front ++ [⟨front, postfixed lhs token tag power role, .postfixed, tag⟩]

end Derivation

/-- The word for the way in which a derivation uses its own symbol, if that is an operator. -/
def Derivation.usage {grammar : Grammar} : Derivation grammar → String
  | term _ _ => ""
  | prefixed _ _ _ _ _ _ => "prefix"
  | group _ _ _ _ _ _ => ""
  | infixed _ _ _ _ _ _ _ => "infix"
  | postfixed _ _ _ _ _ => "postfix"

/-- The operators of an expression with their operands, each behind those in its operands, the left
operand first. -/
def Expr.operations : Expr → List Expr
  | term _ _ => []
  | unary tag arg => arg.operations ++ [unary tag arg]
  | binary tag lhs rhs => lhs.operations ++ rhs.operations ++ [binary tag lhs rhs]

namespace Derivation

variable {grammar : Grammar} {front : List Token} {operation : Operation grammar}

theorem map_expr_operations {derivation : Derivation grammar} :
    (derivation.operations front).map (·.node.expr) = derivation.expr.operations := by
  induction derivation generalizing front with
  | term => rfl
  | prefixed token tag power notTerm role arg ih => simp [operations, expr, Expr.operations, ih]
  | group token closing inner notTerm role body ih => exact ih
  | infixed lhs token tag assoc power role rhs left right =>
    simp [operations, expr, Expr.operations, left, right]
  | postfixed lhs token tag power role ih => simp [operations, expr, Expr.operations, ih]

/-- An operator of a derivation has the role and the tag of its node, and stands with its operands
among the tokens. -/
theorem of_mem_operations {derivation : Derivation grammar}
    (member : operation ∈ derivation.operations front) :
    operation.role.word = operation.node.usage ∧
      operation.node.expr.tag? = some operation.tag ∧
      operation.front ++ operation.node.tokens <+: front ++ derivation.tokens := by
  induction derivation generalizing front with
  | term => cases member
  | prefixed token tag power notTerm role arg ih =>
    rcases List.mem_append.mp member with inside | last
    · obtain ⟨word, same, part⟩ := ih inside
      exact ⟨word, same, by simpa [tokens] using part⟩
    · obtain rfl := List.mem_singleton.mp last
      exact ⟨rfl, rfl, List.prefix_rfl⟩
  | group token closing inner notTerm role body ih =>
    obtain ⟨word, same, part⟩ := ih member
    exact ⟨word, same, part.trans ⟨[grammar.operatorToken closing], by simp [tokens]⟩⟩
  | infixed lhs token tag assoc power role rhs left right =>
    rcases List.mem_append.mp member with inside | last
    · rcases List.mem_append.mp inside with first | second
      · obtain ⟨word, same, part⟩ := left first
        exact ⟨word, same, part.trans ⟨token :: rhs.tokens, by simp [tokens]⟩⟩
      · obtain ⟨word, same, part⟩ := right second
        exact ⟨word, same, by simpa [tokens] using part⟩
    · obtain rfl := List.mem_singleton.mp last
      exact ⟨rfl, rfl, List.prefix_rfl⟩
  | postfixed lhs token tag power role ih =>
    rcases List.mem_append.mp member with inside | last
    · obtain ⟨word, same, part⟩ := ih inside
      exact ⟨word, same, part.trans ⟨[token], by simp [tokens]⟩⟩
    · obtain rfl := List.mem_singleton.mp last
      exact ⟨rfl, rfl, List.prefix_rfl⟩

end Derivation

namespace Action

/-- The operators that are applied, each with the number of tokens that were taken before it,
counted from a given number on. -/
def applications (taken : Nat) : List Action → List (Nat × Role × String)
  | [] => []
  | take _ :: rest => applications (taken + 1) rest
  | apply role tag :: rest => (taken, role, tag) :: applications taken rest

theorem applications_append {taken : Nat} {first second : List Action} :
    applications taken (first ++ second) =
      applications taken first ++
        applications (taken + (first.filterMap token?).length) second := by
  induction first generalizing taken with
  | nil => rfl
  | cons action rest ih =>
    cases action with
    | take token =>
      simp only [List.cons_append, applications, ih, List.filterMap_cons, token?,
        List.length_cons, Nat.add_assoc, Nat.add_comm 1]
    | apply role tag =>
      simp only [List.cons_append, applications, ih, List.filterMap_cons, token?]

end Action

/-- When an operator is applied, its own token and those of its operands have been taken, and no
further one. -/
theorem Derivation.applications_actions {grammar : Grammar} (derivation : Derivation grammar)
    (front : List Token) :
    Action.applications front.length derivation.actions =
      (derivation.operations front).map fun operation =>
        ((operation.front ++ operation.node.tokens).length, operation.role, operation.tag) := by
  induction derivation generalizing front with
  | term => rfl
  | prefixed token tag power notTerm role arg ih =>
    have inner := ih (front ++ [token])
    rw [List.length_append] at inner
    simp only [actions, operations, Action.applications, Action.applications_append,
      filterMap_actions, List.map_append, ← inner]
    simp [tokens]
    omega
  | group token closing inner notTerm role body ih =>
    have within := ih (front ++ [token])
    rw [List.length_append] at within
    simp only [actions, operations, Action.applications, Action.applications_append, ← within]
    simp
  | infixed lhs token tag assoc power role rhs left right =>
    have second := right (front ++ lhs.tokens ++ [token])
    rw [List.length_append, List.length_append] at second
    simp only [actions, operations, Action.applications, Action.applications_append,
      filterMap_actions, List.map_append, ← left front, ← second]
    simp [tokens]
    omega
  | postfixed lhs token tag power role ih =>
    simp only [actions, operations, Action.applications, Action.applications_append,
      filterMap_actions, List.map_append, ← ih front]
    simp [tokens, Nat.add_assoc]

namespace Reading

variable {first middle last : Reading} {actions : List Action}

/-- The reading behind some actions. With each token that is taken the one found next is reported,
with each operator that is applied the operator. -/
inductive Performs : Reading → List Action → Reading → Prop
  | nil {reading} : Performs reading [] reading
  | take {reading scanner actions last} : Scanner.next reading.scanner = .ok () scanner →
      Performs ⟨scanner, scanner.found ++ reading.trace⟩ actions last →
      Performs reading (.take reading.scanner.current :: actions) last
  | apply {reading role tag actions last} :
      Performs ⟨reading.scanner, .applied role tag :: reading.trace⟩ actions last →
      Performs reading (.apply role tag :: actions) last

theorem Performs.single {reading : Reading} {scanner : Scanner}
    (found : Scanner.next reading.scanner = .ok () scanner) :
    reading.Performs [.take reading.scanner.current]
      ⟨scanner, scanner.found ++ reading.trace⟩ :=
  .take found .nil

theorem Performs.applied {reading : Reading} {role : Role} {tag : String} :
    reading.Performs [.apply role tag] ⟨reading.scanner, .applied role tag :: reading.trace⟩ :=
  .apply .nil

theorem Performs.append {more : List Action} (before : first.Performs actions middle)
    (after : middle.Performs more last) : first.Performs (actions ++ more) last := by
  induction before with
  | nil => exact after
  | take found _ ih => exact .take found (ih after)
  | apply _ ih => exact .apply (ih after)

theorem Performs.takes (performs : first.Performs actions last) :
    first.scanner.Takes (actions.filterMap Action.token?) last.scanner := by
  induction performs with
  | nil => exact .nil
  | take found _ ih => exact .cons found ih
  | apply _ ih => exact ih

end Reading

end Precedence
