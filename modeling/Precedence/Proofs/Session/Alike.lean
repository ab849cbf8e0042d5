import Precedence.Proofs.Session.Mirrored

namespace Precedence

/-- The same language with other operators. -/
def Grammar.withOperators (grammar : Grammar) (operators : Operators) : Grammar :=
  { grammar with operators }

/-- Whether something holds of the current token and of every one that comes behind it. -/
def Scanner.Ahead (holds : Token → Prop) (scanner : Scanner) : Prop :=
  ∀ tokens last, scanner.Takes tokens last → holds last.current

section
variable {holds : Token → Prop} {scanner last : Scanner} {tokens : List Token}

theorem Scanner.Ahead.current (ahead : scanner.Ahead holds) : holds scanner.current :=
  ahead [] scanner .nil

theorem Scanner.Ahead.takes (ahead : scanner.Ahead holds) (takes : scanner.Takes tokens last) :
    last.Ahead holds :=
  fun more final further => ahead (tokens ++ more) final (takes.append further)

end

/-- Whether a power and another one in its place are compared alike with the powers at which
operands are read, of which `related` says which one stands in the place of which. -/
def Power.HeldAlike (related : Power → Power → Prop) (power other : Power) : Prop :=
  ∀ least fewest, related least fewest → (power < least ↔ other < fewest)

/-- Whether two roles at the start of an operand differ in their powers only. -/
inductive Leading.Alike (related : Power → Power → Prop) : Leading → Leading → Prop
  | prefixed {tag power other} : related power other →
      Alike related (.prefixed tag power) (.prefixed tag other)
  | group {closing inner other} : related inner other →
      Alike related (.group closing inner) (.group closing other)

/-- Whether two roles behind an operand differ in their powers only. -/
inductive Trailing.Alike (related : Power → Power → Prop) : Trailing → Trailing → Prop
  | infixed {tag assoc power other} : power.HeldAlike related other →
      related (assoc.operandPower power) (assoc.operandPower other) →
      Alike related (.infixed tag assoc power) (.infixed tag assoc other)
  | postfixed {tag power other} : power.HeldAlike related other →
      Alike related (.postfixed tag power) (.postfixed tag other)

/-- Whether a symbol does the same by two tables, but for the powers. -/
structure Operators.Alike (related : Power → Power → Prop) (first second : Operators)
    (symbol : String) : Prop where
  leading : Option.Rel (Leading.Alike related) (first.leading? symbol) (second.leading? symbol)
  trailing : Option.Rel (Trailing.Alike related) (first.trailing? symbol) (second.trailing? symbol)

/-- Whether a token, if it is an operator at all, does the same with other operators. -/
def Grammar.AlikeAt (grammar : Grammar) (operators : Operators) (related : Power → Power → Prop)
    (token : Token) : Prop :=
  grammar.isOperator token = true → grammar.operators.Alike related operators token.value

section
variable {related : Power → Power → Prop}

theorem Trailing.Alike.power_lt_iff {one other : Trailing} (alike : one.Alike related other)
    {least fewest : Power} (same : related least fewest) :
    one.power < least ↔ other.power < fewest := by
  cases alike with
  | infixed held _ => exact held least fewest same
  | postfixed held => exact held least fewest same

theorem Operators.rolesOf_eq {operators : Operators} {symbol : String} :
    operators.rolesOf symbol = ((operators.leading? symbol).map Leading.role).toList ++
      ((operators.trailing? symbol).map Trailing.role).toList := by
  unfold rolesOf leading? trailing?
  cases operators.find? symbol with
  | none => rfl
  | some operator => rfl

theorem Leading.Alike.role_eq (one other : Leading) (alike : one.Alike related other) :
    one.role = other.role := by
  cases alike <;> rfl

theorem Trailing.Alike.role_eq (one other : Trailing) (alike : one.Alike related other) :
    one.role = other.role := by
  cases alike <;> rfl

theorem map_eq_of_rel {α β γ : Type} {same : α → β → Prop} {first : α → γ} {second : β → γ}
    {one : Option α} {other : Option β} (agree : ∀ a b, same a b → first a = second b)
    (rel : Option.Rel same one other) : one.map first = other.map second := by
  cases rel with
  | none => rfl
  | some alike => exact congrArg some (agree _ _ alike)

theorem Operators.Alike.rolesOf_eq {first second : Operators} {symbol : String}
    (alike : first.Alike related second symbol) :
    first.rolesOf symbol = second.rolesOf symbol := by
  rw [Operators.rolesOf_eq, Operators.rolesOf_eq,
    map_eq_of_rel Leading.Alike.role_eq alike.leading,
    map_eq_of_rel Trailing.Alike.role_eq alike.trailing]

theorem Operators.Alike.isSome_trailing?_eq {first second : Operators} {symbol : String}
    (alike : first.Alike related second symbol) :
    (first.trailing? symbol).isSome = (second.trailing? symbol).isSome := by
  have same := map_eq_of_rel Trailing.Alike.role_eq alike.trailing
  rw [← Option.isSome_map, same, Option.isSome_map]

variable {grammar : Grammar} {operators : Operators} {token : Token}

@[simp] theorem Grammar.isTerm_withOperators :
    (grammar.withOperators operators).isTerm token = grammar.isTerm token := rfl

@[simp] theorem Grammar.isOperator_withOperators :
    (grammar.withOperators operators).isOperator token = grammar.isOperator token := rfl

theorem Grammar.AlikeAt.leading (alike : grammar.AlikeAt operators related token) :
    Option.Rel (Leading.Alike related) (grammar.leading? token)
      ((grammar.withOperators operators).leading? token) := by
  unfold leading?
  rw [isOperator_withOperators]
  by_cases operator : grammar.isOperator token = true
  · rw [if_pos operator, if_pos operator]
    exact (alike operator).leading
  · rw [if_neg operator, if_neg operator]
    exact .none

theorem Grammar.AlikeAt.trailing (alike : grammar.AlikeAt operators related token) :
    Option.Rel (Trailing.Alike related) (grammar.trailing? token)
      ((grammar.withOperators operators).trailing? token) := by
  unfold trailing?
  rw [isOperator_withOperators]
  by_cases operator : grammar.isOperator token = true
  · rw [if_pos operator, if_pos operator]
    exact (alike operator).trailing
  · rw [if_neg operator, if_neg operator]
    exact .none

theorem Grammar.AlikeAt.reportMisplaced_eq (alike : grammar.AlikeAt operators related token) :
    Session.reportMisplaced grammar token =
      Session.reportMisplaced (grammar.withOperators operators) token := by
  unfold Session.reportMisplaced
  by_cases operator : grammar.isOperator token = true
  · have same := alike operator
    change (if _ ∧ _ then _ else _) = if grammar.isOperator token = true ∧
      (operators.trailing? token.value).isSome = true then
        Session.report (.misplaced token (operators.rolesOf token.value)) else pure ()
    rw [same.isSome_trailing?_eq, same.rolesOf_eq]
  · rw [if_neg fun both => operator both.1, if_neg fun both => operator both.1]

end

namespace Session

/-- Whether two readings are the same wherever something holds of all tokens to come. -/
def SameAhead {α : Type} (holds : Token → Prop) (run twin : ParseM α) : Prop :=
  ∀ session : Session, session.scanner.Ahead holds → run session = twin session

section
variable {α β : Type} {holds : Token → Prop} {grammar : Grammar} {run twin : ParseM α}

theorem SameAhead.refl (run : ParseM α) : SameAhead holds run run := fun _ _ => rfl

theorem Steady.ahead {session after : Session} {value : α} (steady : Steady grammar run)
    (ahead : session.scanner.Ahead holds) (ran : run session = .ok value after) :
    after.scanner.Ahead holds := by
  obtain ⟨tokens, takes⟩ := (steady session).of_ok ran
  exact ahead.takes takes

theorem SameAhead.bind {next wider : α → ParseM β} (steady : Steady grammar run)
    (first : SameAhead holds run twin)
    (second : ∀ value, SameAhead holds (next value) (wider value)) :
    SameAhead holds (run >>= next) (twin >>= wider) := by
  intro session ahead
  rw [bind_eq, bind_eq, ← first session ahead]
  cases ran : run session with
  | ok value after => exact second value after (steady.ahead ahead ran)
  | error error after => rfl

/-- What comes next may depend on the tokens to come. -/
theorem SameAhead.bindGet {next wider : Session → ParseM α}
    (same : ∀ session : Session, session.scanner.Ahead holds →
      SameAhead holds (next session) (wider session)) :
    SameAhead holds (get >>= next) (get >>= wider) :=
  fun session ahead => same session ahead session ahead

theorem SameAhead.nested (inner : SameAhead holds run twin) :
    SameAhead holds (nested run) (nested twin) := by
  intro session ahead
  rw [nested_eq, nested_eq, inner session.deeper ahead]

end

section
variable {grammar : Grammar} {operators : Operators} {related : Power → Power → Prop}
  {sub wider : Power → ParseM Expr}

/-- Whether expressions are read alike at powers that stand in each other's place. -/
def SubAlike (holds : Token → Prop) (related : Power → Power → Prop)
    (sub wider : Power → ParseM Expr) : Prop :=
  ∀ power other, related power other → SameAhead holds (sub power) (wider other)

theorem SameAhead.followedBy {holds : Token → Prop} {inner whole : ParseM Expr} (terminator : Token)
    (steady : Steady grammar inner) (same : SameAhead holds inner whole) :
    SameAhead holds (followedBy terminator inner) (followedBy terminator whole) :=
  same.bind steady fun _ => .refl _

theorem SameAhead.applyLeading {holds : Token → Prop}
    (steady : ∀ power, Steady grammar (sub power)) (same : SubAlike holds related sub wider)
    {one other : Leading} (alike : one.Alike related other) :
    SameAhead holds (applyLeading grammar sub one)
      (applyLeading (grammar.withOperators operators) wider other) := by
  cases alike with
  | prefixed operand => exact (same _ _ operand).bind (steady _) fun _ => .refl _
  | group inner =>
    exact ((same _ _ inner).followedBy _ (steady _)).bind ((steady _).followedBy _) fun _ => .refl _

theorem SameAhead.applyTrailing {holds : Token → Prop}
    (steady : ∀ power, Steady grammar (sub power)) (same : SubAlike holds related sub wider)
    (lhs : Expr) {one other : Trailing} (alike : one.Alike related other) :
    SameAhead holds (applyTrailing sub lhs one) (applyTrailing wider lhs other) := by
  cases alike with
  | infixed _ operand => exact (same _ _ operand).bind (steady _) fun _ => .refl _
  | postfixed _ => exact .refl _

theorem SameAhead.operand (steady : ∀ power, Steady grammar (sub power))
    (same : SubAlike (grammar.AlikeAt operators related) related sub wider) :
    SameAhead (grammar.AlikeAt operators related) (operand grammar sub)
      (operand (grammar.withOperators operators) wider) := by
  refine .bindGet fun session ahead => ?_
  have alike : grammar.AlikeAt operators related session.current := ahead.current
  dsimp only
  rw [Grammar.isTerm_withOperators]
  split
  · exact .refl _
  · rw [← alike.reportMisplaced_eq]
    have roles := alike.leading
    generalize grammar.leading? session.current = one,
      (grammar.withOperators operators).leading? session.current = other at roles
    cases roles with
    | some leading =>
      exact (SameAhead.refl _).bind (.advance : Steady grammar _) fun _ =>
        .applyLeading steady same leading
    | none => exact .refl _

/-- As long as the operators to come do the same by both tables, an expression goes on and stops
with both alike. -/
theorem SameAhead.climb (steady : ∀ power, Steady grammar (sub power))
    (same : SubAlike (grammar.AlikeAt operators related) related sub wider)
    {least fewest : Power} (start : related least fewest) (expr : Expr) :
    SameAhead (grammar.AlikeAt operators related) (climb grammar sub least expr)
      (climb (grammar.withOperators operators) wider fewest expr) := by
  intro session ahead
  induction pending : session.scanner.pending using Nat.strongRecOn generalizing expr session with
  | _ left ih =>
    subst pending
    have alike : grammar.AlikeAt operators related session.current := ahead.current
    have roles := alike.trailing
    rw [Session.climb, Session.climb]
    generalize grammar.trailing? session.current = one,
      (grammar.withOperators operators).trailing? session.current = other at roles
    cases roles with
    | none => rfl
    | @some trailing twin both =>
      have compared := both.power_lt_iff start
      by_cases loose : trailing.power < least
      · dsimp only
        rw [if_pos loose, if_pos (compared.mp loose)]
      · have steps : Steady grammar
            (do discard Session.advance; Session.applyTrailing sub expr trailing) :=
          Law.Holds.advance.bind fun _ => .applyTrailing steady expr trailing
        have step : SameAhead (grammar.AlikeAt operators related)
            (do discard Session.advance; Session.applyTrailing sub expr trailing)
            (do discard Session.advance; Session.applyTrailing wider expr twin) :=
          (SameAhead.refl _).bind (.advance : Steady grammar _) fun _ =>
            .applyTrailing steady same expr both
        dsimp only
        rw [if_neg loose, if_neg fun looser => loose (compared.mpr looser), ← step session ahead]
        split
        · rfl
        · next taken after ran =>
          split
          · next less => exact ih _ less taken after (steps.ahead ahead ran) rfl
          · rfl

theorem expressionWithin_sameAhead {levels : Nat} :
    SubAlike (grammar.AlikeAt operators related) related (expressionWithin grammar levels)
      (expressionWithin (grammar.withOperators operators) levels) := by
  induction levels with
  | zero => exact fun _ _ _ => .refl _
  | succ levels ih =>
    intro power other start
    have steady (power : Power) : Steady grammar (expressionWithin grammar levels power) :=
      (takesLaw grammar).holds_expressionWithin power
    exact .nested ((SameAhead.operand steady ih).bind (.operand steady) fun first =>
      .climb steady ih start first)

theorem complete_sameAhead (loosest : related .loosest .loosest) :
    SameAhead (grammar.AlikeAt operators related) (complete grammar)
      (complete (grammar.withOperators operators)) := by
  intro session ahead
  have inner : SameAhead (grammar.AlikeAt operators related) (expression grammar .loosest)
      (expression (grammar.withOperators operators) .loosest) :=
    fun session => expressionWithin_sameAhead _ _ loosest session
  have steady : Steady grammar (expression grammar .loosest) :=
    (takesLaw grammar).holds_expression .loosest
  have whole : expressionUntil grammar .loosest grammar.endToken session =
      expressionUntil (grammar.withOperators operators) .loosest grammar.endToken session :=
    inner.followedBy grammar.endToken steady session ahead
  rw [complete_eq, complete_eq, whole]
  rfl

end

end Session

/-- A text is read alike with two tables of operators if every operator token that can come up in
it does the same by both, but for powers that are compared alike. -/
theorem Grammar.parseTraced_withOperators {grammar : Grammar} {operators : Operators}
    {related : Power → Power → Prop} {text : List Char} (loosest : related .loosest .loosest)
    (ahead : ∀ scanner, Scanner.start grammar.lexicon grammar.endToken text = .ok scanner →
      scanner.Ahead (grammar.AlikeAt operators related)) :
    (grammar.withOperators operators).parseTraced text = grammar.parseTraced text := by
  have begins : Session.start (grammar.withOperators operators) text =
      Session.start grammar text := rfl
  unfold parseTraced
  rw [begins, Session.start_eq]
  cases started : Scanner.start grammar.lexicon grammar.endToken text with
  | error error => rfl
  | ok scanner =>
    dsimp only
    rw [Session.complete_sameAhead loosest (Session.ofScanner scanner) (ahead scanner started)]

end Precedence
