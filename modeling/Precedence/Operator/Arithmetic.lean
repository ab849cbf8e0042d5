import Precedence.Operator.Basic

namespace Precedence

/-- The operators of arithmetic: signs, sums and differences, products and quotients, powers,
which group to the right, factorials, and parentheses. -/
def Operators.arithmetic : Operators :=
  .ofList [
    ⟨"+", (Roles.ofLeading (.prefixed "pos" ⟨5⟩)).withTrailing (.infixed "add" .left ⟨0⟩)⟩,
    ⟨"-", (Roles.ofLeading (.prefixed "neg" ⟨5⟩)).withTrailing (.infixed "sub" .left ⟨0⟩)⟩,
    ⟨"(", Roles.ofLeading (.group ")" ⟨0⟩)⟩,
    ⟨"*", Roles.ofTrailing (.infixed "mul" .left ⟨2⟩)⟩,
    ⟨"/", Roles.ofTrailing (.infixed "div" .left ⟨2⟩)⟩,
    ⟨"^", Roles.ofTrailing (.infixed "pow" .right ⟨4⟩)⟩,
    ⟨"!", Roles.ofTrailing (.postfixed "fact" ⟨6⟩)⟩]

end Precedence
