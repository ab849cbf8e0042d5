import Precedence.Event
import Precedence.Scanner

namespace Precedence

/-- A scanner together with all that was reported so far, latest first. -/
structure Reading where
  scanner : Scanner
  trace : List Event
deriving DecidableEq

/-- What is reported when a scanner has come to its current token. The end mark, which takes no
text, is not reported. -/
def Scanner.found (scanner : Scanner) : List Event :=
  if scanner.span.isEmpty then [] else [.scanned scanner.current scanner.span]

abbrev ReadM := EStateM ScanError Reading

namespace Reading

/-- The reading at the first token of a text. -/
def start (lexicon : Lexicon) (endToken : Token) (text : List Char) : Except ScanError Reading :=
  match Scanner.start lexicon endToken text with
  | .ok scanner => .ok ⟨scanner, scanner.found⟩
  | .error error => .error error

/-- Takes the current token, and reports the one that is found next. -/
def advance : ReadM Token := fun reading =>
  match Scanner.advance reading.scanner with
  | .ok token scanner => .ok token ⟨scanner, scanner.found ++ reading.trace⟩
  | .error error scanner => .error error ⟨scanner, reading.trace⟩

theorem advance_pending {reading after : Reading} {token : Token}
    (taken : advance reading = .ok token after) :
    after.scanner.pending < reading.scanner.pending ∨
      reading.scanner.pending = 0 ∧ after.scanner.pending = 0 := by
  unfold advance at taken
  split at taken
  · next scanned =>
    cases taken
    exact Scanner.advance_pending scanned
  · cases taken

/-- Takes all tokens up to the end mark. -/
def collect (reading : Reading) : EStateM.Result ScanError Reading (List Token) :=
  if _more : reading.scanner.atEnd = true then .ok [] reading
  else
    match _taken : advance reading with
    | .error error after => .error error after
    | .ok token after =>
      match collect after with
      | .error error final => .error error final
      | .ok tokens final => .ok (token :: tokens) final
termination_by reading.scanner.pending
decreasing_by
  have left := advance_pending _taken
  have someLeft : reading.scanner.pending ≠ 0 :=
    fun none => _more (Scanner.pending_eq_zero.mp none).2
  omega

/-- Looks at all tokens that are left without taking them; only the reports remain. -/
def collectAhead : ReadM (List Token) := fun reading =>
  match collect reading with
  | .ok tokens final => .ok tokens { reading with trace := final.trace }
  | .error error final => .error error { reading with trace := final.trace }

/-- The reports in the order in which they were made. -/
def lines (reading : Reading) : List String := reading.trace.reverse.map Event.line

end Reading

end Precedence
