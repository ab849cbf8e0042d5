import Precedence.Character.Word

namespace Precedence

/-- How a place lies to the words around it. A half edge looks at one side only. -/
inductive WordPlace where
  | edge
  | inside
  | start
  | stop
  | startHalf
  | stopHalf
deriving DecidableEq, Repr

def WordPlace.holds (place : WordPlace) (before after : Bool) : Bool :=
  match place with
  | edge => before != after
  | inside => before == after
  | start => !before && after
  | stop => before && !after
  | startHalf => !before
  | stopHalf => !after

/-- A condition on a place in a text that takes no character. Words are made of the characters
of ASCII or of all. -/
inductive Boundary where
  | textStart
  | textEnd
  | lineStart
  | lineEnd
  | lineStartCrlf
  | lineEndCrlf
  | word (place : WordPlace) (ascii : Bool)
deriving DecidableEq, Repr

/-- Whether a condition holds between the character before a place and the one after it. There
is none before the start of the text, and none after its end. In the two conditions on lines
with carriage returns, no line starts or ends inside a pair of return and line feed. -/
def Boundary.holds (boundary : Boundary) (before? after? : Option Char) : Bool :=
  match boundary with
  | textStart => before?.isNone
  | textEnd => after?.isNone
  | lineStart => before?.isNone || before? == some '\n'
  | lineEnd => after?.isNone || after? == some '\n'
  | lineStartCrlf =>
    before?.isNone || before? == some '\n' || (before? == some '\r' && after? != some '\n')
  | lineEndCrlf =>
    after?.isNone || after? == some '\r' || (after? == some '\n' && before? != some '\r')
  | word place false => place.holds (before?.any isWord) (after?.any isWord)
  | word place true => place.holds (before?.any isAsciiWord) (after?.any isAsciiWord)

end Precedence
