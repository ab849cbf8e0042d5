import Precedence.Proofs.Derivation.Basic

namespace Precedence

namespace Expr

/-- The terms of an expression from left to right. -/
def terms : Expr → List Token
  | term kind value => [⟨kind, value⟩]
  | unary _ arg => arg.terms
  | binary _ lhs rhs => lhs.terms ++ rhs.terms

/-- The expression with another one in the place of one of its terms, counted from the left. -/
def replaceTerm : Expr → Nat → Expr → Expr
  | term _ _, 0, part => part
  | term kind value, _ + 1, _ => term kind value
  | unary tag arg, place, part => unary tag (arg.replaceTerm place part)
  | binary tag lhs rhs, place, part =>
    if place < lhs.terms.length then binary tag (lhs.replaceTerm place part) rhs
    else binary tag lhs (rhs.replaceTerm (place - lhs.terms.length) part)

/-- All other terms stay where they are. -/
theorem terms_replaceTerm {part expr : Expr} {place : Nat} (inside : place < expr.terms.length) :
    (expr.replaceTerm place part).terms =
      expr.terms.take place ++ (part.terms ++ expr.terms.drop (place + 1)) := by
  induction expr generalizing place with
  | term kind value =>
    obtain rfl : place = 0 := Nat.lt_one_iff.mp inside
    simp [replaceTerm, terms]
  | unary tag arg ih => exact ih inside
  | binary tag lhs rhs left right =>
    simp only [terms, List.length_append] at inside
    unfold replaceTerm
    split
    · next first =>
      simp only [terms, left first, List.append_assoc]
      rw [List.take_append_of_le_length (Nat.le_of_lt first), List.drop_append_of_le_length first]
    · next behind =>
      have reached : lhs.terms.length ≤ place := Nat.le_of_not_lt behind
      have rest : place + 1 - lhs.terms.length = place - lhs.terms.length + 1 := by omega
      simp only [terms, right (show place - lhs.terms.length < rhs.terms.length by omega)]
      rw [List.take_append, List.take_of_length_le reached, List.drop_append,
        List.drop_eq_nil_of_le (Nat.le_succ_of_le reached), rest, List.nil_append,
        List.append_assoc]

end Expr

namespace Derivation

variable {grammar : Grammar} {part derivation : Derivation grammar} {place : Nat}

/-- The derivation with another one in the place of one of its terms, counted from the left. -/
def replaceTerm : Derivation grammar → Nat → Derivation grammar → Derivation grammar
  | term _ _, 0, part => part
  | term token isTerm, _ + 1, _ => term token isTerm
  | prefixed token tag power notTerm role arg, place, part =>
    prefixed token tag power notTerm role (arg.replaceTerm place part)
  | group token closing inner notTerm role body, place, part =>
    group token closing inner notTerm role (body.replaceTerm place part)
  | infixed lhs token tag assoc power role rhs, place, part =>
    if place < lhs.expr.terms.length then
      infixed (lhs.replaceTerm place part) token tag assoc power role rhs
    else
      infixed lhs token tag assoc power role (rhs.replaceTerm (place - lhs.expr.terms.length) part)
  | postfixed lhs token tag power role, place, part =>
    postfixed (lhs.replaceTerm place part) token tag power role

theorem expr_replaceTerm :
    (derivation.replaceTerm place part).expr = derivation.expr.replaceTerm place part.expr := by
  induction derivation generalizing place with
  | term token isTerm => cases place <;> rfl
  | prefixed token tag power notTerm role arg ih => exact congrArg (Expr.unary tag) ih
  | group token closing inner notTerm role body ih => exact ih
  | infixed lhs token tag assoc power role rhs left right =>
    unfold replaceTerm
    simp only [expr, Expr.replaceTerm]
    split
    · exact congrArg (Expr.binary tag · rhs.expr) left
    · exact congrArg (Expr.binary tag lhs.expr) right
  | postfixed lhs token tag power role ih => exact congrArg (Expr.unary tag) ih

/-- What is closed at its right end leaves open what was open. -/
theorem openPowers_replaceTerm (closed : part.openPowers = []) :
    (derivation.replaceTerm place part).openPowers = derivation.openPowers := by
  induction derivation generalizing place with
  | term token isTerm =>
    cases place with
    | zero => exact closed
    | succ place => rfl
  | prefixed token tag power notTerm role arg ih => exact congrArg (power :: ·) ih
  | group token closing inner notTerm role body ih => rfl
  | infixed lhs token tag assoc power role rhs left right =>
    unfold replaceTerm
    split
    · rfl
    · exact congrArg (assoc.operandPower power :: ·) right
  | postfixed lhs token tag power role ih => rfl

theorem yieldsTo_replaceTerm (closed : part.openPowers = []) {power : Power} :
    (derivation.replaceTerm place part).YieldsTo power ↔ derivation.YieldsTo power := by
  unfold YieldsTo
  rw [openPowers_replaceTerm closed]

/-- Where a term stands, whatever is closed and well bound by itself can stand too: the operators
around it are held as before. -/
theorem WellBound.replaceTerm {power : Power} (bound : derivation.WellBound power)
    (closed : part.openPowers = []) (fits : ∀ least, part.WellBound least) :
    (derivation.replaceTerm place part).WellBound power := by
  induction derivation generalizing place power with
  | term token isTerm =>
    cases place with
    | zero => exact fits power
    | succ place => exact bound
  | prefixed token tag held notTerm role arg ih => exact ih bound
  | group token closing inner notTerm role body ih =>
    obtain ⟨inside, stopped⟩ := bound
    refine ⟨ih inside, fun trailing known => ?_⟩
    exact (stopped trailing known).imp_right (yieldsTo_replaceTerm closed).mpr
  | infixed lhs token tag assoc held role rhs left right =>
    obtain ⟨first, holds, yields, second⟩ := bound
    unfold Derivation.replaceTerm
    split
    · exact ⟨left first, holds, (yieldsTo_replaceTerm closed).mpr yields, second⟩
    · exact ⟨first, holds, yields, right second⟩
  | postfixed lhs token tag held role ih =>
    obtain ⟨first, holds, yields⟩ := bound
    exact ⟨ih first, holds, (yieldsTo_replaceTerm closed).mpr yields⟩

/-- The levels of the part come on top of those around the term, of which the term itself was the
last. -/
theorem nest_replaceTerm_lt :
    (derivation.replaceTerm place part).nest < derivation.nest + part.nest := by
  have positive := part.nest_pos
  induction derivation generalizing place with
  | term token isTerm =>
    cases place with
    | zero => exact Nat.lt_add_of_pos_left Nat.zero_lt_one
    | succ place => exact Nat.lt_add_of_pos_right positive
  | prefixed token tag power notTerm role arg ih =>
    have inside := @ih place
    simp only [replaceTerm, nest]
    omega
  | group token closing inner notTerm role body ih =>
    have inside := @ih place
    simp only [replaceTerm, nest]
    omega
  | infixed lhs token tag assoc power role rhs left right =>
    have first := @left place
    have second := @right (place - lhs.expr.terms.length)
    unfold replaceTerm
    split
    · simp only [nest]
      omega
    · simp only [nest]
      omega
  | postfixed lhs token tag power role ih => exact ih

section
variable (apart : ∀ token, grammar.isOperator token = true → grammar.isTerm token = false)
include apart

/-- Where no operator is a term, the terms that are read are those of the expression. -/
theorem filter_isTerm_tokens : derivation.tokens.filter grammar.isTerm = derivation.expr.terms := by
  induction derivation with
  | term token isTerm => exact List.filter_cons_of_pos isTerm
  | prefixed token tag power notTerm role arg ih =>
    rw [tokens, List.filter_cons_of_neg (by simp [notTerm]), ih]
    rfl
  | group token closing inner notTerm role body ih =>
    have closes : grammar.isTerm (grammar.operatorToken closing) = false :=
      apart _ (by simp [Grammar.isOperator, Grammar.operatorToken])
    rw [tokens, List.filter_cons_of_neg (by simp [notTerm]), List.filter_append, ih,
      List.filter_cons_of_neg (by simp [closes])]
    exact List.append_nil _
  | infixed lhs token tag assoc power role rhs left right =>
    have operator := apart _ (Grammar.isOperator_of_trailing? role)
    rw [tokens, List.filter_append, List.filter_cons_of_neg (by simp [operator]), left, right]
    rfl
  | postfixed lhs token tag power role ih =>
    have operator := apart _ (Grammar.isOperator_of_trailing? role)
    rw [tokens, List.filter_append, ih, List.filter_cons_of_neg (by simp [operator])]
    exact List.append_nil _

/-- A term stands between the tokens on its left, with all terms before it, and those on its right;
and so does whatever is put in its place. -/
theorem exists_tokens_replaceTerm (inside : place < derivation.expr.terms.length) :
    ∃ front token back, derivation.tokens = front ++ token :: back ∧
      grammar.isTerm token = true ∧ (front.filter grammar.isTerm).length = place ∧
      ∀ part : Derivation grammar,
        (derivation.replaceTerm place part).tokens = front ++ (part.tokens ++ back) := by
  induction derivation generalizing place with
  | term token isTerm =>
    obtain rfl : place = 0 := Nat.lt_one_iff.mp inside
    exact ⟨[], token, [], rfl, isTerm, rfl, fun part => (List.append_nil _).symm⟩
  | prefixed token tag power notTerm role arg ih =>
    obtain ⟨front, found, back, split, isTerm, count, replaced⟩ := ih inside
    refine ⟨token :: front, found, back, congrArg (token :: ·) split, isTerm, ?_,
      fun part => congrArg (token :: ·) (replaced part)⟩
    rwa [List.filter_cons_of_neg (by simp [notTerm])]
  | group token closing inner notTerm role body ih =>
    obtain ⟨front, found, back, split, isTerm, count, replaced⟩ := ih inside
    refine ⟨token :: front, found, back ++ [grammar.operatorToken closing], ?_, isTerm, ?_,
      fun part => ?_⟩
    · simp [tokens, split]
    · rwa [List.filter_cons_of_neg (by simp [notTerm])]
    · simp [replaceTerm, tokens, replaced part]
  | infixed lhs token tag assoc power role rhs left right =>
    have operator := apart _ (Grammar.isOperator_of_trailing? role)
    have all := @filter_isTerm_tokens _ lhs apart
    simp only [expr, Expr.terms, List.length_append] at inside
    by_cases first : place < lhs.expr.terms.length
    · obtain ⟨front, found, back, split, isTerm, count, replaced⟩ := left first
      refine ⟨front, found, back ++ token :: rhs.tokens, ?_, isTerm, count, fun part => ?_⟩
      · simp [tokens, split]
      · simp [replaceTerm, if_pos first, tokens, replaced part]
    · obtain ⟨front, found, back, split, isTerm, count, replaced⟩ :=
        right (show place - lhs.expr.terms.length < rhs.expr.terms.length by omega)
      refine ⟨lhs.tokens ++ token :: front, found, back, ?_, isTerm, ?_, fun part => ?_⟩
      · simp [tokens, split]
      · rw [List.filter_append, List.filter_cons_of_neg (by simp [operator]), List.length_append,
          all, count]
        omega
      · simp [replaceTerm, if_neg first, tokens, replaced part]
  | postfixed lhs token tag power role ih =>
    obtain ⟨front, found, back, split, isTerm, count, replaced⟩ := ih inside
    refine ⟨front, found, back ++ [token], ?_, isTerm, count, fun part => ?_⟩
    · simp [tokens, split]
    · simp [replaceTerm, tokens, replaced part]

end

end Derivation

end Precedence
