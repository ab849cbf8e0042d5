import Precedence.Grammar
import Precedence.Proofs.Scanner.Stream

namespace Precedence

/-- What has to come next in an expression: the start of an operand, or something that can follow
a complete one. -/
inductive Turn where
  | operand
  | operator
deriving DecidableEq, Repr

/-- A reader of expressions that does not ask how tightly an operator holds. All that it keeps in
mind is what has to come next, and the closing symbols of the groups that are open, the innermost
first. -/
structure Recogniser where
  turn : Turn
  closings : List Token
deriving DecidableEq, Repr

namespace Recogniser

def start : Recogniser := ⟨.operand, []⟩

/-- Closes the innermost group, if that is what a token does. With no group open, only the end of
the text could come. -/
def close (grammar : Grammar) (token : Token) : List Token → Except Expectation Recogniser
  | [] => .error (.token grammar.endToken)
  | closing :: outer =>
    if token = closing then .ok ⟨.operator, outer⟩ else .error (.token closing)

/-- Takes one token, or answers with what had to come in its place. -/
def step (grammar : Grammar) (token : Token) : Recogniser → Except Expectation Recogniser
  | ⟨.operand, closings⟩ =>
    if grammar.isTerm token then .ok ⟨.operator, closings⟩
    else
      match grammar.leading? token with
      | some (.prefixed _ _) => .ok ⟨.operand, closings⟩
      | some (.group closing _) => .ok ⟨.operand, grammar.operatorToken closing :: closings⟩
      | none => .error .operand
  | ⟨.operator, closings⟩ =>
    match grammar.trailing? token with
    | some (.infixed _ _ _) => .ok ⟨.operand, closings⟩
    | some (.postfixed _ _) => .ok ⟨.operator, closings⟩
    | none => close grammar token closings

/-- Looks at the end mark behind a complete operand. A mark that also closes groups closes all of
them, since it comes again and again. -/
def finish (grammar : Grammar) : List Token → Except Expectation Unit
  | [] => .ok ()
  | closing :: outer =>
    if grammar.endToken = closing then finish grammar outer else .error (.token closing)

/-- Takes all that comes, up to the end of the text or to the first token that is refused. -/
def run (grammar : Grammar) : Recogniser → TokenStream → Except ParseError Unit
  | recogniser, .token token span rest =>
    match recogniser.step grammar token with
    | .ok next => next.run grammar rest
    | .error expected => .error (.unexpected token expected span)
  | ⟨.operand, _⟩, .finish pos =>
    .error (.unexpected grammar.endToken .operand (.emptyAt pos))
  | ⟨.operator, closings⟩, .finish pos =>
    match finish grammar closings with
    | .ok () => .ok ()
    | .error expected => .error (.unexpected grammar.endToken expected (.emptyAt pos))
  | _, .failure error => .error (.scan error)
termination_by structural _ stream => stream

end Recogniser

/-- What becomes of a text when nothing but the order of operands and operators matters. -/
def Grammar.recognise (grammar : Grammar) (text : List Char) : Except ParseError Unit :=
  Recogniser.start.run grammar (grammar.lexicon.stream (.ofText text))

/-- The power at which the body of a group is read. -/
def Leading.inner? : Leading → Option Power
  | prefixed _ _ => none
  | group _ inner => some inner

/-- Grammars in which a group takes in every operator up to its closing symbol, and in which the
end mark is no word and no part of an expression. -/
structure Grammar.Flat (grammar : Grammar) : Prop where
  groups : ∀ operator ∈ grammar.operators.list, ∀ leading ∈ operator.roles.leading?,
    ∀ inner ∈ leading.inner?, inner = .loosest
  endNotTerm : grammar.isTerm grammar.endToken = false
  endNotLeading : grammar.leading? grammar.endToken = none
  endNotTrailing : grammar.trailing? grammar.endToken = none
  endNoWord : grammar.endToken.kind ∉ grammar.lexicon.kinds

theorem Grammar.Flat.inner_eq {grammar : Grammar} (flat : grammar.Flat) {token : Token}
    {closing : String} {inner : Power}
    (role : grammar.leading? token = some (.group closing inner)) : inner = .loosest := by
  unfold leading? at role
  split at role
  · obtain ⟨operator, found, opens⟩ := Option.bind_eq_some_iff.mp role
    exact flat.groups operator (List.mem_of_find?_eq_some found) _ opens inner rfl
  · cases role

theorem Grammar.arithmetic_flat : Grammar.arithmetic.Flat where
  groups := by decide +kernel
  endNotTerm := by decide +kernel
  endNotLeading := by decide +kernel
  endNotTrailing := by decide +kernel
  endNoWord := by decide +kernel

end Precedence
