import Precedence.Operator.Roles
import Precedence.Text.Quoted
import Precedence.Text.Span
import Precedence.Token

namespace Precedence

/-- What is reported while a text is read: a token that was found, an operator that was applied
to its operands, a symbol in a place where none of its roles fits, and the failure of the whole. -/
inductive Event where
  | scanned (token : Token) (span : Span)
  | applied (role : Role) (tag : String)
  | misplaced (token : Token) (roles : List Role)
  | failed (message : String)
deriving DecidableEq, Repr

/-- The line that reports an event, with its level in front. -/
def Event.line : Event → String
  | scanned token span =>
    "TRACE scanned " ++ token.kind ++ " token " ++ quoted token.value ++ " at " ++ span.text
  | applied role tag => "TRACE applying " ++ role.word ++ " " ++ tag
  | misplaced token roles =>
    "DEBUG operator " ++ token.text ++ " cannot begin an operand (roles: FixityTypes(" ++
      " | ".intercalate (roles.map Role.name) ++ "))"
  | failed message => "DEBUG parse failed: " ++ message

/-- The letter behind the level tells what is reported by a line. -/
theorem Event.line_letter (event : Event) :
    event.line.toList[6]? = some (match event with
      | scanned _ _ => 's'
      | applied _ _ => 'a'
      | misplaced _ _ => 'o'
      | failed _ => 'p') := by
  cases event with
  | scanned token span =>
    change ("TRACE scanned " ++ token.kind ++ " token " ++ quoted token.value ++ " at " ++
      span.text).toList[6]? = _
    simp only [String.toList_append, List.append_assoc]
    rfl
  | applied role tag =>
    change ("TRACE applying " ++ role.word ++ " " ++ tag).toList[6]? = _
    simp only [String.toList_append, List.append_assoc]
    rfl
  | misplaced token roles =>
    change ("DEBUG operator " ++ token.text ++ " cannot begin an operand (roles: FixityTypes(" ++
      " | ".intercalate (roles.map Role.name) ++ "))").toList[6]? = _
    simp only [String.toList_append, List.append_assoc]
    rfl
  | failed message =>
    change ("DEBUG parse failed: " ++ message).toList[6]? = _
    rw [String.toList_append]
    rfl

end Precedence
