import Precedence.Expr.Basic
import Precedence.Grammar

namespace Precedence

/-- A text that is being read as an expression: its tokens, how many expressions are open, one
inside the other, and how often a token was taken or could not be. -/
structure Session extends Reading where
  depth : Nat
  moves : Nat
deriving DecidableEq

abbrev ParseM := EStateM ParseError Session

namespace Session

/-- The token to be read next. -/
def current (session : Session) : Token := session.scanner.current

def report (event : Event) : ParseM Unit :=
  modify fun session => { session with trace := event :: session.trace }

/-- Takes the current token. -/
def advance : ParseM Token := fun session =>
  match Reading.advance session.toReading with
  | .ok token reading => .ok token ⟨reading, session.depth, session.moves + 1⟩
  | .error error reading => .error (.scan error) ⟨reading, session.depth, session.moves + 1⟩

/-- Fails because something else had to come next. -/
def unexpected {α : Type} (expected : Expectation) : ParseM α := do
  let session ← get
  throw (.unexpected session.current expected session.scanner.span)

/-- Reads something inside one more open expression, which is closed again whether or not the
reading succeeds; only where it breaks off does it stay open. -/
def nested {α : Type} (inner : ParseM α) : ParseM α := fun session =>
  match inner { session with depth := session.depth + 1 } with
  | .ok value after => .ok value { after with depth := after.depth - 1 }
  | .error error after =>
    .error error (if error.breaksOff then after else { after with depth := after.depth - 1 })

/-- Reads what `inner` reads, after which a given token must come. The token is not taken. -/
def followedBy (terminator : Token) (inner : ParseM Expr) : ParseM Expr := do
  let expr ← inner
  if (← get).current ≠ terminator then unexpected (.token terminator)
  return expr

/-- Reads the rest of an operand after the symbol that begins it. Sub-expressions are read by
`sub`, each at its power. -/
def applyLeading (grammar : Grammar) (sub : Power → ParseM Expr) : Leading → ParseM Expr
  | .prefixed tag power => do
    let arg ← sub power
    report (.applied .prefixed tag)
    return .unary tag arg
  | .group closing inner => do
    let expr ← followedBy (grammar.operatorToken closing) (sub inner)
    discard advance
    return expr

/-- Reads the rest of an operator expression after its left operand and its symbol. -/
def applyTrailing (sub : Power → ParseM Expr) (lhs : Expr) : Trailing → ParseM Expr
  | .infixed tag assoc power => do
    let rhs ← sub (assoc.operandPower power)
    report (.applied .infixed tag)
    return .binary tag lhs rhs
  | .postfixed tag _ => do
    report (.applied .postfixed tag)
    return .unary tag lhs

/-- Reports a symbol that is an operator, but none that an operand can begin with. -/
def reportMisplaced (grammar : Grammar) (token : Token) : ParseM Unit := do
  if grammar.isOperator token ∧ (grammar.operators.trailing? token.value).isSome then
    report (.misplaced token (grammar.operators.rolesOf token.value))

/-- Reads an operand: a term, or what a leading symbol begins. -/
def operand (grammar : Grammar) (sub : Power → ParseM Expr) : ParseM Expr := do
  let token := (← get).current
  if grammar.isTerm token then
    discard advance
    return .term token.kind token.value
  match grammar.leading? token with
  | some leading =>
    discard advance
    applyLeading grammar sub leading
  | none =>
    reportMisplaced grammar token
    unexpected .operand

/-- Goes on with an expression as long as the next symbol holds its left operand at least as
tightly as `power` says. A symbol that leaves as much to take as before is the end mark, which
asks for more whenever it is come to; then there is no end to the expression. -/
def climb (grammar : Grammar) (sub : Power → ParseM Expr) (power : Power) (expr : Expr)
    (session : Session) : EStateM.Result ParseError Session Expr :=
  match grammar.trailing? session.current with
  | none => .ok expr session
  | some trailing =>
    if trailing.power < power then .ok expr session
    else
      match (do discard advance; applyTrailing sub expr trailing : ParseM Expr) session with
      | .error error after => .error error after
      | .ok expr after =>
        if _less : after.scanner.pending < session.scanner.pending then
          climb grammar sub power expr after
        else .error (.endless after.scanner.span) after
termination_by session.scanner.pending

/-- Reads an expression of operators that hold at least as tightly as the given power, inside
which so many levels may still be opened. -/
def expressionWithin (grammar : Grammar) : Nat → Power → ParseM Expr
  | 0, _ => do throw (.tooDeep grammar.maxDepth (← get).scanner.span)
  | levels + 1, power => nested do
    let first ← operand grammar (expressionWithin grammar levels)
    climb grammar (expressionWithin grammar levels) power first

/-- Reads an expression with as many levels as are left. -/
def expression (grammar : Grammar) (power : Power) : ParseM Expr := fun session =>
  expressionWithin grammar (grammar.maxDepth - session.depth) power session

/-- Reads an expression that a given token must follow. -/
def expressionUntil (grammar : Grammar) (power : Power) (terminator : Token) : ParseM Expr :=
  followedBy terminator (expression grammar power)

/-- Reads a whole text, up to the end mark, and reports its failure. -/
def complete (grammar : Grammar) : ParseM Expr := fun session =>
  match expressionUntil grammar .loosest grammar.endToken session with
  | .ok expr after => .ok expr after
  | .error error after =>
    if error.breaksOff then .error error after
    else .error error { after with trace := .failed error.message :: after.trace }

/-- The session at the first token of a text. -/
def start (grammar : Grammar) (text : List Char) : Except ParseError Session :=
  match Reading.start grammar.lexicon grammar.endToken text with
  | .ok reading => .ok ⟨reading, 0, 0⟩
  | .error error => .error (.scan error)

end Session

namespace Grammar

/-- Reads a text as an expression, and answers with the reports too. -/
def parseTraced (grammar : Grammar) (text : List Char) :
    Except ParseError Expr × List Event :=
  match Session.start grammar text with
  | .error error => (.error error, [])
  | .ok session =>
    match Session.complete grammar session with
    | .ok expr after => (.ok expr, after.trace.reverse)
    | .error error after => (.error error, after.trace.reverse)

def parse (grammar : Grammar) (text : List Char) : Except ParseError Expr :=
  (grammar.parseTraced text).1

/-- The lines that are reported while a text is read as an expression. -/
def log (grammar : Grammar) (text : List Char) : List String :=
  (grammar.parseTraced text).2.map Event.line

end Grammar

end Precedence
