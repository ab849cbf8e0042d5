import Precedence.Character.Age
import Precedence.Character.Alphabetic
import Precedence.Character.Case
import Precedence.Character.Category
import Precedence.Character.Charset
import Precedence.Character.Encoding
import Precedence.Character.Hex
import Precedence.Character.Number
import Precedence.Character.Property
import Precedence.Character.Ranges
import Precedence.Character.Script
import Precedence.Character.Segment
import Precedence.Character.Space
import Precedence.Character.Table
import Precedence.Character.Word
import Precedence.Event
import Precedence.Expr.Basic
import Precedence.Expr.Json
import Precedence.Grammar
import Precedence.Json
import Precedence.Lexicon
import Precedence.Operator.Arithmetic
import Precedence.Operator.Basic
import Precedence.Operator.Power
import Precedence.Operator.Roles
import Precedence.ParseError
import Precedence.Reading
import Precedence.Regex.Basic
import Precedence.Regex.Boundary
import Precedence.Regex.Bracket
import Precedence.Regex.Escape
import Precedence.Regex.Extent.Basic
import Precedence.Regex.Extent.Charset
import Precedence.Regex.Extent.Growth
import Precedence.Regex.Extent.Memo
import Precedence.Regex.Extent.Words
import Precedence.Regex.Flags
import Precedence.Regex.Nested
import Precedence.Regex.Program
import Precedence.Regex.Property
import Precedence.Regex.Reader
import Precedence.Regex.Search
import Precedence.Regex.Simplify
import Precedence.Scanner
import Precedence.Session
import Precedence.Text.Bytes
import Precedence.Text.Cursor
import Precedence.Text.Quoted
import Precedence.Text.Span
import Precedence.Token
import Precedence.Proofs.Derivation.Basic
import Precedence.Proofs.Regex.Captures
import Precedence.Proofs.Scanner.Partition
import Precedence.Proofs.Scanner.Tokens
import Precedence.Proofs.Derivation.Sound
import Precedence.Proofs.Session.Parse
import Precedence.Proofs.Derivation.Complete
import Precedence.Proofs.Derivation.Unambiguous
import Precedence.Proofs.Recogniser.Basic
import Precedence.Proofs.Arithmetic.Lexer
import Precedence.Proofs.Arithmetic.Lexicon
import Precedence.Proofs.Recogniser.Simulation
import Precedence.Proofs.Arithmetic.Words
import Precedence.Proofs.Arithmetic.RoundTrip
import Precedence.Proofs.Session.CutOff
import Precedence.Proofs.Session.Limit
import Precedence.Proofs.Derivation.Threshold
import Precedence.Proofs.Derivation.Chain
import Precedence.Proofs.Scanner.Items
import Precedence.Proofs.Session.Raised
import Precedence.Proofs.Session.Mirrored
import Precedence.Proofs.Session.Lookahead
import Precedence.Proofs.Session.Places
import Precedence.Proofs.Regex.Closed
import Precedence.Proofs.Regex.Enclosed
import Precedence.Proofs.Regex.Anchored
import Precedence.Proofs.Derivation.Opens
import Precedence.Proofs.Derivation.Paths
import Precedence.Proofs.Operator.History
import Precedence.Proofs.Session.Alike
import Precedence.Proofs.Session.PowerOrder
import Precedence.Proofs.Session.Extension
import Precedence.Proofs.Derivation.Replace
import Precedence.Proofs.Arithmetic.Spelling
import Precedence.Proofs.Arithmetic.Substitution
import Precedence.Proofs.Scanner.Attempts
import Precedence.Proofs.Session.Calls
import Precedence.Proofs.Session.Looser
import Precedence.Proofs.Session.Moves
import Precedence.Proofs.Expr.Text
import Precedence.Proofs.Expr.Json
import Precedence.Proofs.Arithmetic.Text
import Precedence.Proofs.Session.Failure
import Precedence.Proofs.Session.Trace
import Precedence.Proofs.Session.Replay
import Precedence.Proofs.Text.View
