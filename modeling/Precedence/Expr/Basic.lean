namespace Precedence

/-- An expression: a term with its kind and text, or an operator, known by its tag, with its one
or two operands. Groups leave no trace. -/
inductive Expr where
  | term (kind value : String)
  | unary (tag : String) (arg : Expr)
  | binary (tag : String) (lhs rhs : Expr)
deriving DecidableEq, Repr

namespace Expr

def tag? : Expr → Option String
  | term _ _ => none
  | unary tag _ => some tag
  | binary tag _ _ => some tag

def isTerm : Expr → Bool
  | term _ _ => true
  | unary _ _ => false
  | binary _ _ _ => false

/-- The written form: a term stands for itself, an operator in parentheses before its operands. -/
def text : Expr → String
  | term _ value => value
  | unary tag arg => "(" ++ tag ++ " " ++ arg.text ++ ")"
  | binary tag lhs rhs => "(" ++ tag ++ " " ++ lhs.text ++ " " ++ rhs.text ++ ")"

end Expr

end Precedence
