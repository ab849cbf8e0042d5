import Precedence.Proofs.Arithmetic.Words
import Precedence.Proofs.Derivation.Complete

namespace Precedence

/-- The symbol that stands for the nodes of a given tag. -/
def Operators.symbolFor (operators : Operators) (tag : String) : String :=
  ((operators.list.find? fun operator => operator.roles.tags.contains tag).map
    Operator.symbol).getD ""

namespace Expr

def height : Expr → Nat
  | term _ _ => 0
  | unary _ arg => arg.height + 1
  | binary _ lhs rhs => max lhs.height rhs.height + 1

/-- Whether an expression is made of names and numbers by the operators of arithmetic. -/
def isArithmetic : Expr → Bool
  | term kind value =>
    kind == "ident" && Arithmetic.isName value || kind == "num" && Arithmetic.isNumber value
  | unary tag arg => ["neg", "pos", "fact"].contains tag && arg.isArithmetic
  | binary tag lhs rhs =>
    ["add", "sub", "mul", "div", "pow"].contains tag && lhs.isArithmetic && rhs.isArithmetic

/-- The pieces in which an expression is written, with a group around each operator. -/
def pieces : Expr → List String
  | term _ value => [value]
  | unary tag arg =>
    let symbol := Operators.arithmetic.symbolFor tag
    if tag = "fact" then "(" :: (arg.pieces ++ [symbol, ")"])
    else "(" :: symbol :: (arg.pieces ++ [")"])
  | binary tag lhs rhs =>
    "(" :: (lhs.pieces ++ Operators.arithmetic.symbolFor tag :: (rhs.pieces ++ [")"]))

end Expr

namespace Derivation

/-- Two terms never stand side by side. -/
theorem tokens_isChain {grammar : Grammar} (derivation : Derivation grammar) :
    derivation.tokens.IsChain grammar.Apart := by
  induction derivation with
  | term token isTerm => exact .singleton token
  | prefixed token tag power notTerm role arg ih =>
    exact ih.cons fun _ _ => Or.inl (Grammar.isOperator_of_leading? role)
  | group token closing inner notTerm role body ih =>
    have closes : (body.tokens ++ [grammar.operatorToken closing]).IsChain grammar.Apart := by
      refine ih.append (.singleton _) fun last _ next head => Or.inr ?_
      obtain rfl := Option.some.inj head
      simp [Grammar.isOperator, Grammar.operatorToken]
    exact closes.cons fun _ _ => Or.inl (Grammar.isOperator_of_leading? role)
  | infixed lhs token tag assoc power role rhs left right =>
    have operator := Grammar.isOperator_of_trailing? role
    have behind := right.cons fun _ _ => Or.inl operator
    refine left.append behind fun last _ next head => Or.inr ?_
    obtain rfl := Option.some.inj head
    exact operator
  | postfixed lhs token tag power role ih =>
    refine ih.append (.singleton _) fun last _ next head => Or.inr ?_
    obtain rfl := Option.some.inj head
    exact Grammar.isOperator_of_trailing? role

end Derivation

namespace Arithmetic

open Grammar (arithmeticLexicon)

/-- The language of arithmetic with any limit on nesting. -/
abbrev limited (depth : Nat) : Grammar := Grammar.arithmetic.withMaxDepth depth

/-- A derivation of the pieces in which an expression is written, each of them a word. -/
structure Writes {depth : Nat} (expr : Expr) (derivation : Derivation (limited depth)) :
    Prop where
  reads : derivation.expr = expr
  pieces : derivation.tokens.map Token.value = expr.pieces
  words : ∀ token ∈ derivation.tokens, IsWord token
  bound : ∀ power, derivation.WellBound power
  closed : derivation.openPowers = []
  nest : derivation.nest ≤ 2 * expr.height + 1

variable {depth : Nat}

theorem exists_writes_term {kind value : String}
    (arithmetic : (Expr.term kind value).isArithmetic = true) :
    ∃ derivation : Derivation (limited depth), Writes (.term kind value) derivation := by
  simp only [Expr.isArithmetic, Bool.or_eq_true, Bool.and_eq_true, beq_iff_eq] at arithmetic
  have word : IsWord ⟨kind, value⟩ := by
    rcases arithmetic with ⟨rfl, valid⟩ | ⟨rfl, valid⟩
    · exact .name valid
    · exact .number valid
  have isTerm : (limited depth).isTerm ⟨kind, value⟩ = true := by
    rcases arithmetic with ⟨rfl, _⟩ | ⟨rfl, _⟩
    · rfl
    · rfl
  refine ⟨.term ⟨kind, value⟩ isTerm, rfl, rfl, ?_, fun _ => trivial, rfl, ?_⟩
  · simpa [Derivation.tokens] using word
  · simp [Derivation.nest, Expr.height]

theorem isTerm_op {value : String} : (limited depth).isTerm ⟨"op", value⟩ = false := rfl

/-- An operator expression is written in a group of its own. -/
theorem exists_writes_group {expr : Expr} {body : Derivation (limited depth)}
    (reads : body.expr = expr)
    (pieces : "(" :: (body.tokens.map Token.value ++ [")"]) = expr.pieces)
    (words : ∀ token ∈ body.tokens, IsWord token) (bound : body.WellBound .loosest)
    (nest : body.nest ≤ 2 * expr.height) :
    ∃ derivation : Derivation (limited depth), Writes expr derivation := by
  have opens : (limited depth).leading? ⟨"op", "("⟩ = some (.group ")" .loosest) := by
    rw [Grammar.leading?_withMaxDepth]
    decide +kernel
  have closes : (limited depth).trailing? ⟨"op", ")"⟩ = none := by
    rw [Grammar.trailing?_withMaxDepth]
    decide +kernel
  have stopped : body.StoppedBy .loosest ⟨"op", ")"⟩ := by
    intro trailing role
    cases closes.symm.trans role
  refine ⟨.group ⟨"op", "("⟩ ")" .loosest isTerm_op opens body, reads, ?_, ?_,
    fun _ => ⟨bound, stopped⟩, rfl, ?_⟩
  · simpa [Derivation.tokens, Grammar.operatorToken] using pieces
  · intro token member
    simp only [Derivation.tokens, List.mem_cons, List.mem_append, List.not_mem_nil,
      or_false] at member
    rcases member with rfl | member | rfl
    · exact .symbol (by decide : isSymbol '(' = true)
    · exact words token member
    · exact .symbol (by decide : isSymbol ')' = true)
  · simp only [Derivation.nest]
    omega

theorem sign_role {tag : String} (sign : tag ∈ ["neg", "pos"]) :
    (∃ power, (limited depth).leading? ⟨"op", Operators.arithmetic.symbolFor tag⟩ =
      some (.prefixed tag power)) ∧ IsWord ⟨"op", Operators.arithmetic.symbolFor tag⟩ := by
  rw [Grammar.leading?_withMaxDepth]
  simp only [List.mem_cons, List.not_mem_nil, or_false] at sign
  rcases sign with rfl | rfl
  · exact ⟨⟨⟨5⟩, by decide +kernel⟩, .symbol (by decide : isSymbol '-' = true)⟩
  · exact ⟨⟨⟨5⟩, by decide +kernel⟩, .symbol (by decide : isSymbol '+' = true)⟩

theorem joint_role {tag : String} (joint : tag ∈ ["add", "sub", "mul", "div", "pow"]) :
    (∃ assoc power,
      (limited depth).trailing? ⟨"op", Operators.arithmetic.symbolFor tag⟩ =
        some (.infixed tag assoc power)) ∧ IsWord ⟨"op", Operators.arithmetic.symbolFor tag⟩ := by
  rw [Grammar.trailing?_withMaxDepth]
  simp only [List.mem_cons, List.not_mem_nil, or_false] at joint
  rcases joint with rfl | rfl | rfl | rfl | rfl
  · exact ⟨⟨.left, ⟨0⟩, by decide +kernel⟩, .symbol (by decide : isSymbol '+' = true)⟩
  · exact ⟨⟨.left, ⟨0⟩, by decide +kernel⟩, .symbol (by decide : isSymbol '-' = true)⟩
  · exact ⟨⟨.left, ⟨2⟩, by decide +kernel⟩, .symbol (by decide : isSymbol '*' = true)⟩
  · exact ⟨⟨.left, ⟨2⟩, by decide +kernel⟩, .symbol (by decide : isSymbol '/' = true)⟩
  · exact ⟨⟨.right, ⟨4⟩, by decide +kernel⟩, .symbol (by decide : isSymbol '^' = true)⟩

theorem exists_writes_unary {tag : String} {arg : Expr}
    {derivation : Derivation (limited depth)} (known : tag ∈ ["neg", "pos", "fact"])
    (writes : Writes arg derivation) :
    ∃ whole : Derivation (limited depth), Writes (.unary tag arg) whole := by
  have nest := writes.nest
  by_cases postfixed : tag = "fact"
  · subst postfixed
    have role : (limited depth).trailing? ⟨"op", "!"⟩ =
        some (.postfixed "fact" ⟨6⟩) := by
      rw [Grammar.trailing?_withMaxDepth]
      decide +kernel
    have symbol : Operators.arithmetic.symbolFor "fact" = "!" := by decide +kernel
    have free : derivation.YieldsTo ⟨6⟩ := by simp [Derivation.YieldsTo, writes.closed]
    refine @exists_writes_group depth _ (.postfixed derivation ⟨"op", "!"⟩ "fact" ⟨6⟩ role) ?_ ?_ ?_
      ⟨writes.bound _, by decide, free⟩ ?_
    · simp [Derivation.expr, writes.reads]
    · simp [Derivation.tokens, Expr.pieces, writes.pieces, symbol]
    · simp only [Derivation.tokens, List.mem_append, List.mem_singleton]
      rintro token (member | rfl)
      · exact writes.words token member
      · exact .symbol (by decide : isSymbol '!' = true)
    · simp only [Derivation.nest, Expr.height]
      omega
  · have sign : tag ∈ ["neg", "pos"] := by simpa [postfixed] using known
    obtain ⟨⟨power, role⟩, word⟩ := sign_role sign
    refine @exists_writes_group depth _ (.prefixed _ tag power isTerm_op role derivation) ?_ ?_ ?_
      (writes.bound power) ?_
    · simp [Derivation.expr, writes.reads]
    · simp [Derivation.tokens, Expr.pieces, writes.pieces, postfixed]
    · simp only [Derivation.tokens, List.mem_cons]
      rintro token (rfl | member)
      · exact word
      · exact writes.words token member
    · simp only [Derivation.nest, Expr.height]
      omega

theorem exists_writes_binary {tag : String} {left right : Expr}
    {lhs rhs : Derivation (limited depth)}
    (known : tag ∈ ["add", "sub", "mul", "div", "pow"]) (first : Writes left lhs)
    (second : Writes right rhs) :
    ∃ whole : Derivation (limited depth), Writes (.binary tag left right) whole := by
  obtain ⟨⟨assoc, power, role⟩, word⟩ := joint_role known
  have nest := first.nest
  have other := second.nest
  have free : lhs.YieldsTo power := by simp [Derivation.YieldsTo, first.closed]
  have holds : Power.loosest ≤ power := Nat.zero_le _
  refine @exists_writes_group depth _ (.infixed lhs _ tag assoc power role rhs) ?_ ?_ ?_
    ⟨first.bound _, holds, free, second.bound _⟩ ?_
  · simp [Derivation.expr, first.reads, second.reads]
  · simp [Derivation.tokens, Expr.pieces, first.pieces, second.pieces]
  · simp only [Derivation.tokens, List.mem_append, List.mem_cons]
    rintro token (member | rfl | member)
    · exact first.words token member
    · exact word
    · exact second.words token member
  · simp only [Derivation.nest, Expr.height]
    omega

/-- Every expression of arithmetic can be written, two levels deep for each of its own. -/
theorem exists_writes {expr : Expr} (arithmetic : expr.isArithmetic = true) :
    ∃ derivation : Derivation (limited depth), Writes expr derivation := by
  induction expr with
  | term kind value => exact exists_writes_term arithmetic
  | unary tag arg ih =>
    simp only [Expr.isArithmetic, Bool.and_eq_true, List.contains_iff_mem] at arithmetic
    obtain ⟨known, operand⟩ := arithmetic
    obtain ⟨derivation, writes⟩ := ih operand
    exact exists_writes_unary known writes
  | binary tag left right ihLeft ihRight =>
    simp only [Expr.isArithmetic, Bool.and_eq_true, List.contains_iff_mem] at arithmetic
    obtain ⟨⟨known, leftOperand⟩, rightOperand⟩ := arithmetic
    obtain ⟨lhs, first⟩ := ihLeft leftOperand
    obtain ⟨rhs, second⟩ := ihRight rightOperand
    exact exists_writes_binary known first second

/-- An expression of arithmetic that is written with a group around each operator, and with blanks
wherever they may stand, is read back as it was, if it may be nested twice as deep as it is high. -/
theorem parse_of_spells {expr : Expr} {text : List Char} {depth : Nat}
    (arithmetic : expr.isArithmetic = true) (spells : Spells expr.pieces text)
    (room : 2 * expr.height + 1 ≤ depth) :
    (Grammar.arithmetic.withMaxDepth depth).parse text = .ok expr := by
  obtain ⟨derivation, writes⟩ := @exists_writes depth expr arithmetic
  rw [← writes.pieces] at spells
  obtain ⟨first, last, found, takes, ended⟩ := @takes_of_spells derivation.tokens
    (.ofText arithmeticLexicon Grammar.arithmetic.endToken text) rfl spells writes.words
    derivation.tokens_isChain
  have started := Scanner.start_of_next found
  have none : (limited depth).trailing? (limited depth).endToken = none := by
    rw [Grammar.trailing?_withMaxDepth]
    exact (by decide +kernel : Grammar.arithmetic.trailing? Grammar.arithmetic.endToken = none)
  have stopped : derivation.StoppedBy .loosest (limited depth).endToken := by
    intro trailing role
    cases none.symm.trans role
  have parsed := @Derivation.parse_of_takes (limited depth) _ text _ _ started
    (writes.bound _) takes ended stopped (Nat.le_trans writes.nest room)
  rwa [writes.reads] at parsed

theorem signed_power_read_back :
    (Grammar.arithmetic.withMaxDepth 5).parse "(-\t( a ^12))".toList =
      .ok (.unary "neg" (.binary "pow" (.term "ident" "a") (.term "num" "12"))) := by
  have pieces : (Expr.unary "neg" (.binary "pow" (.term "ident" "a") (.term "num" "12"))).pieces =
      ["(", "-", "(", "a", "^", "12", ")", ")"] := by decide +kernel
  have spells : Spells ["(", "-", "(", "a", "^", "12", ")", ")"] "(-\t( a ^12))".toList :=
    @Spells.cons [] _ _ _ rfl (@Spells.cons [] _ _ _ rfl (@Spells.cons ['\t'] _ _ _ rfl
      (@Spells.cons [' '] _ _ _ rfl (@Spells.cons [' '] _ _ _ rfl (@Spells.cons [] _ _ _ rfl
        (@Spells.cons [] _ _ _ rfl (@Spells.cons [] _ _ _ rfl (.nil rfl))))))))
  exact parse_of_spells (by decide +kernel) (pieces ▸ spells) (by decide)

end Arithmetic

end Precedence
