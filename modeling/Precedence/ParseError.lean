import Precedence.Text.Bytes
import Precedence.Text.Span
import Precedence.Token

namespace Precedence

/-- Why a text could not be scanned any further, each cause with the place. A match that ends
inside a character of the text in front of it splits that character. -/
inductive ScanError where
  | unrecognized (c : Char) (pos : Nat)
  | emptyMatch (pos : Nat)
  | splitCharacter (pos : Nat)
deriving DecidableEq, Repr

def ScanError.pos : ScanError → Nat
  | unrecognized _ pos => pos
  | emptyMatch pos => pos
  | splitCharacter pos => pos

def ScanError.message : ScanError → String
  | unrecognized c pos => "Unrecognized character '" ++ String.singleton c ++ "' at " ++ pos.repr
  | emptyMatch pos => "Token pattern matched the empty string at " ++ pos.repr
  | splitCharacter pos => "Token pattern split a character at " ++ pos.repr

/-- What had to come next. -/
inductive Expectation where
  | operand
  | token (wanted : Token)
deriving DecidableEq, Repr

def Expectation.text : Expectation → String
  | operand => "an operand"
  | token wanted => wanted.text

/-- Why a text is not an expression. An expression is endless when the mark of the end of the
text is itself an operator that always asks for more. -/
inductive ParseError where
  | scan (error : ScanError)
  | unexpected (found : Token) (expected : Expectation) (span : Span)
  | tooDeep (limit : Nat) (span : Span)
  | endless (span : Span)
deriving DecidableEq, Repr

/-- The broad kinds of errors. A lexicon that matches the empty text or splits a character, and a
language whose expressions have no end, are at fault themselves. -/
inductive ErrorKind where
  | lexical
  | unexpectedToken
  | tooDeep
  | internal
deriving DecidableEq, Repr

namespace ParseError

def kind : ParseError → ErrorKind
  | scan (.unrecognized _ _) => .lexical
  | scan (.emptyMatch _) => .internal
  | scan (.splitCharacter _) => .internal
  | unexpected _ _ _ => .unexpectedToken
  | tooDeep _ _ => .tooDeep
  | endless _ => .internal

/-- The text that an error is about: a character that no token begins with, a token, or the place
where no token could be found. -/
def span : ParseError → Span
  | scan (.unrecognized c pos) => ⟨pos, pos + c.utf8Size⟩
  | scan (.emptyMatch pos) => .emptyAt pos
  | scan (.splitCharacter pos) => .emptyAt pos
  | unexpected _ _ span => span
  | tooDeep _ span => span
  | endless span => span

def message : ParseError → String
  | scan error => error.message
  | unexpected found expected span =>
    "Expected " ++ expected.text ++ ", but found " ++ found.text ++ " at " ++ span.text
  | tooDeep limit span =>
    "Expression nested more than " ++ limit.repr ++ " levels deep at " ++ span.text
  | endless span => "Expression without an end at " ++ span.text

/-- Whether a reading never comes back to report an error: a split character breaks it off in the
middle of what is being done, and an endless expression goes on forever. -/
def breaksOff : ParseError → Bool
  | scan (.splitCharacter _) => true
  | endless _ => true
  | _ => false

end ParseError

end Precedence
