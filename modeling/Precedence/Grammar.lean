import Precedence.Operator.Arithmetic
import Precedence.Reading

namespace Precedence

/-- A language of expressions: its words, the token that marks the end of a text, the kinds of
tokens that are operands by themselves, the kind of those that are operators, what each operator
does, and how deep expressions may be nested. -/
structure Grammar where
  lexicon : Lexicon
  endToken : Token
  termKinds : List String := ["ident", "num"]
  operatorKind : String := "op"
  operators : Operators
  maxDepth : Nat := 256
deriving DecidableEq

namespace Grammar

def isTerm (grammar : Grammar) (token : Token) : Bool := grammar.termKinds.contains token.kind

def isOperator (grammar : Grammar) (token : Token) : Bool := token.kind == grammar.operatorKind

/-- The operator token with a given symbol. -/
def operatorToken (grammar : Grammar) (symbol : String) : Token := ⟨grammar.operatorKind, symbol⟩

/-- What a token does at the start of an operand. Only operators are looked up. -/
def leading? (grammar : Grammar) (token : Token) : Option Leading :=
  if grammar.isOperator token then grammar.operators.leading? token.value else none

/-- What a token does after a complete operand. Only operators are looked up. -/
def trailing? (grammar : Grammar) (token : Token) : Option Trailing :=
  if grammar.isOperator token then grammar.operators.trailing? token.value else none

/-- Splits a text into tokens, and answers with the reports too. -/
def tokenize (grammar : Grammar) (text : List Char) : Except ScanError (List Token) × List String :=
  match Reading.start grammar.lexicon grammar.endToken text with
  | .error error => (.error error, [])
  | .ok reading =>
    match reading.collect with
    | .ok tokens final => (.ok tokens, final.lines)
    | .error error final => (.error error, final.lines)

/-- The words of arithmetic: names, whole numbers and operators, with blanks between them. -/
def arithmeticPattern : String :=
  "(?P<ident>[a-zA-Z_][a-zA-Z_0-9]*)|(?P<num>[0-9]+)|(?P<op>[+\\-*/()!^])|[ \\n\\r\\t]+"

theorem arithmeticPattern_isOk : (Lexicon.ofSource arithmeticPattern).toOption.isSome = true := by
  decide +kernel

def arithmeticLexicon : Lexicon :=
  (Lexicon.ofSource arithmeticPattern).toOption.get arithmeticPattern_isOk

/-- The language of arithmetic. -/
def arithmetic : Grammar where
  lexicon := arithmeticLexicon
  endToken := ⟨"eof", ""⟩
  operators := .arithmetic

end Grammar

end Precedence
