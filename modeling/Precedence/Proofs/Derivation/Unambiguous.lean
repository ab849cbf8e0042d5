import Precedence.Proofs.Derivation.Basic

namespace Precedence

namespace Derivation

variable {grammar : Grammar}

/-- One derivation is what another one begins with: it is reached from there by going from an
operator to its left operand only. -/
inductive LeftPart : Derivation grammar → Derivation grammar → Prop
  | refl {whole} : LeftPart whole whole
  | infixed {part lhs token tag assoc power role rhs} :
      LeftPart part lhs → LeftPart part (infixed lhs token tag assoc power role rhs)
  | postfixed {part lhs token tag power role} :
      LeftPart part lhs → LeftPart part (postfixed lhs token tag power role)

/-- One derivation takes another one as the left operand of its outermost operator. -/
inductive Extends : Derivation grammar → Derivation grammar → Prop
  | infixed {lhs token tag assoc power role rhs} :
      Extends lhs (infixed lhs token tag assoc power role rhs)
  | postfixed {lhs token tag power role} : Extends lhs (postfixed lhs token tag power role)

theorem Extends.leftPart {part whole : Derivation grammar} (step : Extends part whole) :
    LeftPart part whole := by
  cases step with
  | infixed => exact .infixed .refl
  | postfixed => exact .postfixed .refl

theorem LeftPart.trans {part middle whole : Derivation grammar} (inner : LeftPart part middle)
    (outer : LeftPart middle whole) : LeftPart part whole := by
  induction outer with
  | refl => exact inner
  | infixed _ ih => exact .infixed ih
  | postfixed _ ih => exact .postfixed ih

theorem LeftPart.tokens_append {part whole : Derivation grammar} (left : LeftPart part whole) :
    ∃ rest, whole.tokens = part.tokens ++ rest := by
  induction left with
  | refl => exact ⟨[], (List.append_nil _).symm⟩
  | @infixed lhs token _ _ _ _ rhs _ ih =>
    obtain ⟨rest, same⟩ := ih
    exact ⟨rest ++ token :: rhs.tokens, by rw [tokens, same, List.append_assoc]⟩
  | @postfixed lhs token _ _ _ _ ih =>
    obtain ⟨rest, same⟩ := ih
    exact ⟨rest ++ [token], by rw [tokens, same, List.append_assoc]⟩

/-- A left part that is not the whole is taken as a left operand by another left part. -/
theorem LeftPart.eq_or_extends {part whole : Derivation grammar} (left : LeftPart part whole) :
    part = whole ∨ ∃ larger, Extends part larger ∧ LeftPart larger whole := by
  induction left with
  | refl => exact Or.inl rfl
  | infixed _ ih =>
    rcases ih with rfl | ⟨larger, step, left⟩
    · exact Or.inr ⟨_, .infixed, .refl⟩
    · exact Or.inr ⟨larger, step, .infixed left⟩
  | postfixed _ ih =>
    rcases ih with rfl | ⟨larger, step, left⟩
    · exact Or.inr ⟨_, .postfixed, .refl⟩
    · exact Or.inr ⟨larger, step, .postfixed left⟩

/-- Behind a left operand comes an operator that no operand in front of it could take in, and that
holds tightly enough for the expression. -/
theorem Extends.next {part whole : Derivation grammar} {power : Power} (step : Extends part whole)
    (bound : whole.WellBound power) :
    part.WellBound power ∧ ∃ token rest, whole.tokens = part.tokens ++ token :: rest ∧
      part.LetsPass token ∧ ∃ trailing ∈ grammar.trailing? token, power ≤ trailing.power := by
  cases step with
  | @infixed token _ _ _ role rhs =>
    obtain ⟨left, holds, yields, _⟩ := bound
    refine ⟨left, token, rhs.tokens, rfl, fun other same => ?_, _, role, holds⟩
    obtain rfl := Option.some.inj (role.symm.trans same)
    exact yields
  | @postfixed token _ _ role =>
    obtain ⟨left, holds, yields⟩ := bound
    refine ⟨left, token, [], rfl, fun other same => ?_, _, role, holds⟩
    obtain rfl := Option.some.inj (role.symm.trans same)
    exact yields

/-- The operator behind a left operand says how the operand is taken. -/
theorem Extends.of_tokens {lhs larger : Derivation grammar} {token : Token}
    {tail later : List Token} (step : Extends lhs larger)
    (same : lhs.tokens ++ token :: tail = larger.tokens ++ later) :
    (∃ tag assoc held role rhs,
      larger = Derivation.infixed lhs token tag assoc held role rhs ∧ tail = rhs.tokens ++ later) ∨
    ∃ tag held role,
      larger = Derivation.postfixed lhs token tag held role ∧ tail = later := by
  cases step with
  | @infixed other tag assoc held role rhs =>
    simp only [tokens, List.append_assoc, List.append_cancel_left_eq, List.cons_append,
      List.cons.injEq] at same
    obtain ⟨rfl, behind⟩ := same
    exact Or.inl ⟨tag, assoc, held, role, rhs, rfl, behind⟩
  | @postfixed other tag held role =>
    simp only [tokens, List.append_assoc, List.append_cancel_left_eq, List.cons_append,
      List.nil_append, List.cons.injEq] at same
    obtain ⟨rfl, behind⟩ := same
    exact Or.inr ⟨tag, held, role, rfl, behind⟩

/-- What comes behind a left part, in front of a token that the whole leaves alone. -/
theorem LeftPart.next {part whole : Derivation grammar} {power : Power} {token : Token}
    (left : LeftPart part whole) (bound : whole.WellBound power) (passes : whole.LetsPass token)
    (rest : List Token) :
    part.WellBound power ∧ ∃ next later,
      whole.tokens ++ token :: rest = part.tokens ++ next :: later ∧ part.LetsPass next := by
  induction left generalizing token rest with
  | refl => exact ⟨bound, token, rest, rfl, passes⟩
  | @infixed lhs operator tag assoc held role rhs _ ih =>
    obtain ⟨inner, next, later, split, free, _⟩ := Extends.infixed.next bound
    obtain ⟨fits, first, behind, same, passes⟩ := ih inner free (later ++ token :: rest)
    exact ⟨fits, first, behind, by rw [split, List.append_assoc, ← same]; rfl, passes⟩
  | @postfixed lhs operator tag held role _ ih =>
    obtain ⟨inner, next, later, split, free, _⟩ := Extends.postfixed.next bound
    obtain ⟨fits, first, behind, same, passes⟩ := ih inner free (later ++ token :: rest)
    exact ⟨fits, first, behind, by rw [split, List.append_assoc, ← same]; rfl, passes⟩

/-- An expression that ends in front of a token is no proper left part of one that goes on with
that token. -/
theorem LeftPart.eq_of_stoppedBy {part whole : Derivation grammar} {power : Power}
    {token other : Token} {rest others : List Token} (left : LeftPart part whole)
    (bound : whole.WellBound power) (stopped : part.StoppedBy power token)
    (passes : whole.LetsPass other)
    (same : part.tokens ++ token :: rest = whole.tokens ++ other :: others) : part = whole := by
  rcases left.eq_or_extends with equal | ⟨larger, step, further⟩
  · exact equal
  · obtain ⟨fits, next, later, split, _⟩ := further.next bound passes others
    obtain ⟨_, operator, operand, begins, _, trailing, role, holds⟩ := step.next fits
    rw [split, begins, List.append_assoc] at same
    obtain ⟨here, _⟩ := List.cons.inj (List.append_cancel_left same)
    exact absurd (stopped.loose trailing (here ▸ role)) (Power.not_lt.mpr holds)

/-- Whether the derivations that agree with a given one as far as it goes either begin with it, or
are what it begins with. -/
def Determined (first : Derivation grammar) : Prop :=
  ∀ (second : Derivation grammar) (power : Power) (token other : Token) (rest others : List Token),
    first.WellBound power → second.WellBound power → first.LetsPass token →
    second.LetsPass other → first.tokens ++ token :: rest = second.tokens ++ other :: others →
    LeftPart first second ∨ LeftPart second first

/-- Two derivations that both end where they stop agreeing are the same. -/
theorem Determined.eq {first second : Derivation grammar} {power : Power} {token other : Token}
    {rest others : List Token} (determined : first.Determined) (one : first.WellBound power)
    (two : second.WellBound power) (stopped : first.StoppedBy power token)
    (ends : second.StoppedBy power other)
    (same : first.tokens ++ token :: rest = second.tokens ++ other :: others) : first = second := by
  rcases determined second power token other rest others one two stopped.letsPass ends.letsPass same
    with left | left
  · exact left.eq_of_stoppedBy two stopped ends.letsPass same
  · exact (left.eq_of_stoppedBy one ends stopped.letsPass same.symm).symm

/-- Whether a derivation is an operand by itself, without an operator behind it. -/
def isOperand : Derivation grammar → Bool
  | term _ _ => true
  | prefixed _ _ _ _ _ _ => true
  | group _ _ _ _ _ _ => true
  | infixed _ _ _ _ _ _ _ => false
  | postfixed _ _ _ _ _ => false

/-- A derivation begins with the operand that the tokens begin with: none but its left operands
begin with its own tokens. -/
theorem leftPart_of_operand {operand second : Derivation grammar} {power : Power} {other : Token}
    {tokens others : List Token}
    (only : ∀ (found : Derivation grammar) (next : Token) (later : List Token),
      found.isOperand = true → found.WellBound power → found.LetsPass next →
      tokens = found.tokens ++ next :: later → operand = found)
    (bound : second.WellBound power) (passes : second.LetsPass other)
    (same : tokens = second.tokens ++ other :: others) : LeftPart operand second := by
  induction second generalizing other others with
  | term token isTerm =>
    obtain rfl := only _ other others rfl bound passes same
    exact .refl
  | prefixed token tag held notTerm role arg _ =>
    obtain rfl := only _ other others rfl bound passes same
    exact .refl
  | group token closing inner notTerm role body _ =>
    obtain rfl := only _ other others rfl bound passes same
    exact .refl
  | infixed lhs token tag assoc held role rhs ih _ =>
    obtain ⟨left, next, later, split, free, _⟩ := Extends.infixed.next bound
    have behind : tokens = lhs.tokens ++ next :: (later ++ other :: others) := by
      rw [same, split, List.append_assoc, List.cons_append]
    exact .infixed (ih left free behind)
  | postfixed lhs token tag held role ih =>
    obtain ⟨left, next, later, split, free, _⟩ := Extends.postfixed.next bound
    have behind : tokens = lhs.tokens ++ next :: (later ++ other :: others) := by
      rw [same, split, List.append_assoc, List.cons_append]
    exact .postfixed (ih left free behind)

/-- Where one derivation takes a left part of another one as its left operand, and what it makes of
it is the only possibility, it is itself a left part. -/
theorem leftPart_of_extends {lhs whole second : Derivation grammar} {power : Power}
    {other : Token} (others : List Token) (step : Extends lhs whole)
    (cases : LeftPart lhs second ∨ LeftPart second lhs) (bound : second.WellBound power)
    (passes : second.LetsPass other)
    (only : ∀ (larger : Derivation grammar) (next : Token) (later : List Token),
      Extends lhs larger → larger.WellBound power → larger.LetsPass next →
      second.tokens ++ other :: others = larger.tokens ++ next :: later → whole = larger) :
    LeftPart whole second ∨ LeftPart second whole := by
  rcases cases with left | left
  · rcases left.eq_or_extends with rfl | ⟨larger, further, part⟩
    · exact Or.inr step.leftPart
    · obtain ⟨fits, next, later, split, free⟩ := part.next bound passes others
      obtain rfl := only larger next later further fits free split
      exact Or.inl part
  · exact Or.inr (left.trans step.leftPart)

theorem determined_term {token : Token} {isTerm : grammar.isTerm token = true} :
    (term token isTerm).Determined := by
  intro second power next other rest others _ two _ passes same
  refine Or.inl (leftPart_of_operand ?_ two passes same)
  intro found next later operand _ _ same
  cases found with
  | term token' isTerm' =>
    obtain ⟨rfl, _⟩ := List.cons.inj same
    rfl
  | prefixed token' tag held notTerm role arg =>
    obtain ⟨rfl, _⟩ := List.cons.inj same
    exact absurd (isTerm.symm.trans notTerm) (by simp)
  | group token' closing inner notTerm role body =>
    obtain ⟨rfl, _⟩ := List.cons.inj same
    exact absurd (isTerm.symm.trans notTerm) (by simp)
  | infixed => cases operand
  | postfixed => cases operand

theorem determined_prefixed {token : Token} {tag : String} {held : Power}
    {notTerm : grammar.isTerm token = false}
    {role : grammar.leading? token = some (.prefixed tag held)} {arg : Derivation grammar}
    (determined : arg.Determined) : (prefixed token tag held notTerm role arg).Determined := by
  intro second power next other rest others one two free passes same
  refine Or.inl (leftPart_of_operand ?_ two passes same)
  intro found next' later operand bound openNext same
  cases found with
  | term token' isTerm =>
    obtain ⟨rfl, _⟩ := List.cons.inj same
    exact absurd (isTerm.symm.trans notTerm) (by simp)
  | prefixed token' tag' held' notTerm' role' arg' =>
    obtain ⟨rfl, after⟩ := List.cons.inj same
    cases Option.some.inj (role.symm.trans role')
    obtain rfl := determined.eq one bound ((letsPass_iff_of_openPowers_eq_cons rfl).mp free)
      ((letsPass_iff_of_openPowers_eq_cons rfl).mp openNext) after
    rfl
  | group token' closing inner notTerm' role' body =>
    obtain ⟨rfl, _⟩ := List.cons.inj same
    cases Option.some.inj (role.symm.trans role')
  | infixed => cases operand
  | postfixed => cases operand

theorem determined_group {token : Token} {closing : String} {inner : Power}
    {notTerm : grammar.isTerm token = false}
    {role : grammar.leading? token = some (.group closing inner)} {body : Derivation grammar}
    (determined : body.Determined) :
    (group token closing inner notTerm role body).Determined := by
  intro second power next other rest others one two _ passes same
  refine Or.inl (leftPart_of_operand ?_ two passes same)
  intro found next' later operand bound _ same
  cases found with
  | term token' isTerm =>
    obtain ⟨rfl, _⟩ := List.cons.inj same
    exact absurd (isTerm.symm.trans notTerm) (by simp)
  | prefixed token' tag' held notTerm' role' arg =>
    obtain ⟨rfl, _⟩ := List.cons.inj same
    cases Option.some.inj (role.symm.trans role')
  | group token' closing' inner' notTerm' role' body' =>
    obtain ⟨rfl, after⟩ := List.cons.inj same
    cases Option.some.inj (role.symm.trans role')
    have innerSame : body.tokens ++ grammar.operatorToken closing :: next :: rest =
        body'.tokens ++ grammar.operatorToken closing :: next' :: later := by
      simpa using after
    obtain rfl := determined.eq one.1 bound.1 one.2 bound.2 innerSame
    rfl
  | infixed => cases operand
  | postfixed => cases operand

theorem determined_infixed {lhs rhs : Derivation grammar} {token : Token} {tag : String}
    {assoc : Associativity} {held : Power}
    {role : grammar.trailing? token = some (.infixed tag assoc held)} (left : lhs.Determined)
    (right : rhs.Determined) : (infixed lhs token tag assoc held role rhs).Determined := by
  intro second power next other rest others one two free passes same
  have fromLeft : lhs.tokens ++ token :: (rhs.tokens ++ next :: rest) =
      second.tokens ++ other :: others := by
    rw [← same]
    simp [tokens]
  obtain ⟨fits, _, _, split, lets, _⟩ := Extends.infixed.next one
  obtain ⟨rfl, _⟩ := List.cons.inj (List.append_cancel_left split)
  have cases := left second power token other _ others fits two lets passes fromLeft
  refine leftPart_of_extends others .infixed cases two passes ?_
  intro larger next' later step bound openNext behind
  rcases step.of_tokens (fromLeft.trans behind) with
    ⟨tag', assoc', held', role', rhs', rfl, after⟩ | ⟨tag', held', role', rfl, _⟩
  · cases Option.some.inj (role.symm.trans role')
    obtain rfl := right.eq one.2.2.2 bound.2.2.2
      ((letsPass_iff_of_openPowers_eq_cons rfl).mp free)
      ((letsPass_iff_of_openPowers_eq_cons rfl).mp openNext) after
    rfl
  · cases Option.some.inj (role.symm.trans role')

theorem determined_postfixed {lhs : Derivation grammar} {token : Token} {tag : String}
    {held : Power} {role : grammar.trailing? token = some (.postfixed tag held)}
    (left : lhs.Determined) : (postfixed lhs token tag held role).Determined := by
  intro second power next other rest others one two _ passes same
  have fromLeft : lhs.tokens ++ token :: (next :: rest) = second.tokens ++ other :: others := by
    rw [← same]
    simp [tokens]
  obtain ⟨fits, _, _, split, lets, _⟩ := Extends.postfixed.next one
  obtain ⟨rfl, _⟩ := List.cons.inj (List.append_cancel_left split)
  have cases := left second power token other _ others fits two lets passes fromLeft
  refine leftPart_of_extends others .postfixed cases two passes ?_
  intro larger next' later step _ _ behind
  rcases step.of_tokens (fromLeft.trans behind) with
    ⟨tag', assoc', held', role', rhs', rfl, _⟩ | ⟨tag', held', role', rfl, _⟩
  · cases Option.some.inj (role.symm.trans role')
  · cases Option.some.inj (role.symm.trans role')
    rfl

theorem determined (first : Derivation grammar) : first.Determined := by
  induction first with
  | term token isTerm => exact determined_term
  | prefixed token tag power notTerm role arg ih => exact determined_prefixed ih
  | group token closing inner notTerm role body ih => exact determined_group ih
  | infixed lhs token tag assoc power role rhs left right => exact determined_infixed left right
  | postfixed lhs token tag power role ih => exact determined_postfixed ih

/-- A row of tokens has at most one derivation at each power: the first of its derivations that
ends in front of a token it could not go on with is the only one. -/
theorem eq_of_tokens {first second : Derivation grammar} {power : Power} {token other : Token}
    {rest others : List Token} (one : first.WellBound power) (two : second.WellBound power)
    (stopped : first.StoppedBy power token) (ends : second.StoppedBy power other)
    (same : first.tokens ++ token :: rest = second.tokens ++ other :: others) : first = second :=
  first.determined.eq one two stopped ends same

end Derivation

end Precedence
