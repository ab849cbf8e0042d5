namespace Precedence

/-- A word of the text being read, with the kind of word it is. Two tokens are the same when both
their kinds and their texts are. -/
structure Token where
  kind : String
  value : String
deriving DecidableEq, Repr

/-- A token is shown by its text, or by its kind when it has none. -/
def Token.text (token : Token) : String :=
  if token.value.isEmpty then "<" ++ token.kind ++ ">" else "'" ++ token.value ++ "'"

end Precedence
