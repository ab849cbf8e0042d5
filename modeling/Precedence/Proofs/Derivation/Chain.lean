import Precedence.Proofs.Derivation.Threshold

namespace Precedence

/-- An infix operator of a given power, grouping a given way, and the term behind it. -/
structure Link (grammar : Grammar) (assoc : Associativity) (power : Power) where
  operator : Token
  tag : String
  role : grammar.trailing? operator = some (.infixed tag assoc power)
  term : Token
  isTerm : grammar.isTerm term = true

/-- Terms with infix operators between them, all of the same power and grouping the same way. -/
structure Chain (grammar : Grammar) (assoc : Associativity) (power : Power) where
  first : Token
  isTerm : grammar.isTerm first = true
  links : List (Link grammar assoc power)

variable {grammar : Grammar} {assoc : Associativity} {power : Power}

/-- A term as an expression. -/
def Token.expr (token : Token) : Expr := .term token.kind token.value

namespace Link

/-- The expression that takes a link in behind its left operand. -/
def appendTo (lhs : Expr) (link : Link grammar assoc power) : Expr :=
  .binary link.tag lhs link.term.expr

/-- The expression in which every operator takes all that comes behind it. -/
def nested (first : Token) : List (Link grammar assoc power) → Expr
  | [] => first.expr
  | link :: rest => .binary link.tag first.expr (nested link.term rest)

/-- The derivation that takes a link in behind its left operand. -/
def extend (lhs : Derivation grammar) (link : Link grammar assoc power) : Derivation grammar :=
  .infixed lhs link.operator link.tag assoc power link.role (.term link.term link.isTerm)

/-- The derivation in which every operator takes all that comes behind it. -/
def absorb (first : Token) (isTerm : grammar.isTerm first = true) :
    List (Link grammar assoc power) → Derivation grammar
  | [] => .term first isTerm
  | link :: rest => .infixed (.term first isTerm) link.operator link.tag assoc power link.role
      (absorb link.term link.isTerm rest)

/-- The tokens of links, one behind the other. -/
def tokens (links : List (Link grammar assoc power)) : List Token :=
  links.flatMap fun link => [link.operator, link.term]

variable {links : List (Link grammar assoc power)}

theorem tokens_foldl_extend (lhs : Derivation grammar) :
    (links.foldl extend lhs).tokens = lhs.tokens ++ tokens links := by
  induction links generalizing lhs with
  | nil => exact (List.append_nil _).symm
  | cons link rest ih =>
    rw [List.foldl_cons, ih]
    simp [extend, Derivation.tokens, tokens]

theorem expr_foldl_extend (lhs : Derivation grammar) :
    (links.foldl extend lhs).expr = links.foldl appendTo lhs.expr :=
  (List.foldl_hom Derivation.expr fun _ _ => rfl).symm

/-- The expression so far is a complete left operand as long as every right operand ends in front
of the next operator. -/
theorem wellBound_foldl_extend {lhs : Derivation grammar} (ends : power < assoc.operandPower power)
    (bound : lhs.WellBound .loosest) (yields : lhs.YieldsTo power) :
    (links.foldl extend lhs).WellBound .loosest := by
  induction links generalizing lhs with
  | nil => exact bound
  | cons link rest ih =>
    refine @ih (extend lhs link) ⟨bound, power.loosest_le, yields, trivial⟩ ?_
    intro held openPower
    obtain rfl := List.mem_singleton.mp openPower
    exact ends

/-- Left operands are no level more. -/
theorem nest_foldl_extend_le {lhs : Derivation grammar} (low : lhs.nest ≤ 2) :
    (links.foldl extend lhs).nest ≤ 2 := by
  induction links generalizing lhs with
  | nil => exact low
  | cons link rest ih => exact @ih (extend lhs link) (Nat.max_le.mpr ⟨low, Nat.le_refl 2⟩)

/-- The last link is the outermost one. -/
theorem exists_foldl_appendTo (links : List (Link grammar assoc power)) (tag : String)
    (lhs : Expr) (term : Token) :
    ∃ (last : String) (most : Expr) (final : Token),
      links.foldl appendTo (.binary tag lhs term.expr) = .binary last most final.expr := by
  induction links generalizing tag lhs term with
  | nil => exact ⟨tag, lhs, term, rfl⟩
  | cons link rest ih => exact ih link.tag _ link.term

variable {first : Token} {isTerm : grammar.isTerm first = true}

theorem tokens_absorb : (absorb first isTerm links).tokens = first :: tokens links := by
  induction links generalizing first with
  | nil => rfl
  | cons link rest ih => simp [absorb, Derivation.tokens, ih, tokens]

theorem expr_absorb : (absorb first isTerm links).expr = nested first links := by
  induction links generalizing first with
  | nil => rfl
  | cons link rest ih => exact congrArg (Expr.binary link.tag first.expr) ih

/-- Every operator belongs to the right operand in front of it, as long as that is read at the
power of the operators. -/
theorem wellBound_absorb {least : Power} (absorbs : assoc.operandPower power = power)
    (holds : least ≤ power) : (absorb first isTerm links).WellBound least := by
  induction links generalizing first least with
  | nil => exact trivial
  | cons link rest ih =>
    refine ⟨trivial, holds, nofun, ?_⟩
    rw [absorbs]
    exact ih (Power.le_iff.mpr (Nat.le_refl _))

theorem nest_absorb : (absorb first isTerm links).nest = links.length + 1 := by
  induction links generalizing first with
  | nil => rfl
  | cons link rest ih =>
    simp only [absorb, Derivation.nest, ih, List.length_cons]
    omega

end Link

namespace Chain

def tokens (chain : Chain grammar assoc power) : List Token :=
  chain.first :: Link.tokens chain.links

/-- A chain as `(a # b) # c`. -/
def leftNested (chain : Chain grammar assoc power) : Expr :=
  chain.links.foldl Link.appendTo chain.first.expr

/-- A chain as `a # (b # c)`. -/
def rightNested (chain : Chain grammar assoc power) : Expr := Link.nested chain.first chain.links

variable {chain : Chain grammar assoc power} {text : List Char}

/-- With one operator there is only one way to group. -/
theorem leftNested_eq_rightNested (short : chain.links.length ≤ 1) :
    chain.leftNested = chain.rightNested := by
  unfold leftNested rightNested
  match chain.links, short with
  | [], _ => rfl
  | [link], _ => rfl

/-- With two operators and more the groupings differ: the right operand of the whole is a term in
the one, and holds an operator in the other. -/
theorem leftNested_ne_rightNested (long : 2 ≤ chain.links.length) :
    chain.leftNested ≠ chain.rightNested := by
  unfold leftNested rightNested
  match chain.links, long with
  | link :: next :: more, _ =>
    obtain ⟨tag, lhs, term, left⟩ := Link.exists_foldl_appendTo (next :: more) link.tag
      chain.first.expr link.term
    exact fun same => nomatch left.symm.trans same

/-- The derivation of a chain in which every operator ends the operand in front of it. -/
def groupLeft (chain : Chain grammar assoc power) : Derivation grammar :=
  chain.links.foldl Link.extend (.term chain.first chain.isTerm)

/-- The derivation of a chain in which every operator belongs to the operand in front of it. -/
def groupRight (chain : Chain grammar assoc power) : Derivation grammar :=
  Link.absorb chain.first chain.isTerm chain.links

theorem tokens_groupLeft : chain.groupLeft.tokens = chain.tokens := Link.tokens_foldl_extend _

theorem tokens_groupRight : chain.groupRight.tokens = chain.tokens := Link.tokens_absorb

theorem expr_groupLeft : chain.groupLeft.expr = chain.leftNested := Link.expr_foldl_extend _

theorem expr_groupRight : chain.groupRight.expr = chain.rightNested := Link.expr_absorb

theorem nest_groupLeft_le : chain.groupLeft.nest ≤ 2 :=
  Link.nest_foldl_extend_le (Nat.le_succ 1 : 1 ≤ 2)

theorem nest_groupRight : chain.groupRight.nest = chain.links.length + 1 := Link.nest_absorb

theorem groupLeft_covers (ends : power < assoc.operandPower power)
    (split : (grammar.tokenize text).1 = .ok chain.tokens) : chain.groupLeft.Covers text :=
  Derivation.covers_of_tokenize (Link.wellBound_foldl_extend ends trivial nofun)
    (split.trans (congrArg Except.ok tokens_groupLeft.symm))

theorem groupRight_covers (absorbs : assoc.operandPower power = power)
    (split : (grammar.tokenize text).1 = .ok chain.tokens) : chain.groupRight.Covers text :=
  Derivation.covers_of_tokenize (Link.wellBound_absorb absorbs power.loosest_le)
    (split.trans (congrArg Except.ok tokens_groupRight.symm))

end Chain

/-- A chain of operators of one power groups as its associativity says, with one exception: no
operand is held tighter than by the tightest power, so there an operator that should end the right
operand in front of it belongs to it. -/
theorem chain_groups_by_associativity {chain : Chain grammar assoc power} {text : List Char}
    (noTrailing : grammar.trailing? grammar.endToken = none)
    (split : (grammar.tokenize text).1 = .ok chain.tokens) :
    (assoc = .left → 2 ≤ grammar.maxDepth →
      (grammar.parse text = .ok chain.leftNested ↔
        power ≠ .tightest ∨ chain.links.length ≤ 1)) ∧
    (assoc = .right ∨ power = .tightest → chain.links.length + 1 ≤ grammar.maxDepth →
      grammar.parse text = .ok chain.rightNested) := by
  have right (absorbs : assoc.operandPower power = power)
      (room : chain.links.length + 1 ≤ grammar.maxDepth) :
      grammar.parse text = .ok chain.rightNested := by
    have covers := Chain.groupRight_covers absorbs split
    rw [← Chain.expr_groupRight]
    exact covers.parse noTrailing (Nat.le_trans (Nat.le_of_eq Chain.nest_groupRight) room)
  refine ⟨?_, ?_⟩
  · rintro rfl room
    by_cases top : power = .tightest
    · subst top
      refine ⟨fun parsed => Or.inr ?_, fun few => ?_⟩
      · have same := (Chain.groupRight_covers rfl split).expr_eq noTrailing parsed
        by_contra long
        exact Chain.leftNested_ne_rightNested (Nat.lt_of_not_le long)
          (same.trans Chain.expr_groupRight)
      · have short := few.resolve_left (absurd rfl)
        rw [Chain.leftNested_eq_rightNested short]
        exact right rfl (Nat.le_trans (Nat.succ_le_succ short) room)
    · have covers := Chain.groupLeft_covers (Power.lt_tighter top) split
      refine ⟨fun _ => Or.inl top, fun _ => ?_⟩
      rw [← Chain.expr_groupLeft]
      exact covers.parse noTrailing (Nat.le_trans Chain.nest_groupLeft_le room)
  · rintro (rfl | rfl) room
    · exact right rfl room
    · cases assoc with
      | left => exact right rfl room
      | right => exact right rfl room

theorem isTerm_ident (name : String) : Grammar.arithmetic.isTerm ⟨"ident", name⟩ = true := by
  simp [Grammar.isTerm, Grammar.arithmetic]

/-- `a-b+c` in arithmetic, where sums and differences hold equally tightly. -/
def differenceAndSum : Chain .arithmetic .left ⟨0⟩ where
  first := ⟨"ident", "a"⟩
  isTerm := isTerm_ident "a"
  links := [
    ⟨⟨"op", "-"⟩, "sub", by decide +kernel, ⟨"ident", "b"⟩, isTerm_ident "b"⟩,
    ⟨⟨"op", "+"⟩, "add", by decide +kernel, ⟨"ident", "c"⟩, isTerm_ident "c"⟩]

theorem differenceAndSum_groups_left :
    (Grammar.arithmetic.tokenize "a-b+c".toList).1 = .ok differenceAndSum.tokens ∧
    Grammar.arithmetic.parse "a-b+c".toList =
      .ok (.binary "add" (.binary "sub" (.term "ident" "a") (.term "ident" "b"))
        (.term "ident" "c")) := by
  have noTrailing : Grammar.arithmetic.trailing? Grammar.arithmetic.endToken = none := by
    decide +kernel
  have split : (Grammar.arithmetic.tokenize "a-b+c".toList).1 = .ok differenceAndSum.tokens := by
    decide +kernel
  have room : 2 ≤ Grammar.arithmetic.maxDepth := by decide +kernel
  have loose : (⟨0⟩ : Power) ≠ .tightest := by decide
  exact ⟨split, ((chain_groups_by_associativity noTrailing split).1 rfl room).mpr (Or.inl loose)⟩

/-- Sums alone, which hold as tightly as can be. -/
def Grammar.tightSums : Grammar :=
  { arithmetic with
    operators := .ofList [⟨"+", .ofTrailing (.infixed "add" .left .tightest)⟩] }

/-- `a+b+c` where nothing holds tighter. -/
def tightSum : Chain .tightSums .left .tightest where
  first := ⟨"ident", "a"⟩
  isTerm := isTerm_ident "a"
  links := [
    ⟨⟨"op", "+"⟩, "add", by decide +kernel, ⟨"ident", "b"⟩, isTerm_ident "b"⟩,
    ⟨⟨"op", "+"⟩, "add", by decide +kernel, ⟨"ident", "c"⟩, isTerm_ident "c"⟩]

theorem tightSum_does_not_group_left :
    Grammar.tightSums.trailing? Grammar.tightSums.endToken = none ∧
    Grammar.tightSums.endToken ∉ tightSum.tokens ∧
    (Grammar.tightSums.tokenize "a+b+c".toList).1 = .ok tightSum.tokens ∧
    2 ≤ Grammar.tightSums.maxDepth ∧
    Grammar.tightSums.parse "a+b+c".toList = .ok tightSum.rightNested ∧
    Grammar.tightSums.parse "a+b+c".toList ≠ .ok tightSum.leftNested := by
  decide +kernel

end Precedence
