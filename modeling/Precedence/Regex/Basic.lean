import Precedence.Character.Charset
import Precedence.Regex.Boundary

namespace Precedence

/-- A regular expression. Where two ways to match compete, the first branch of `alt` goes before
the second, and a greedy repetition prefers one more round to none. A group is marked whether it
has a name or not. -/
inductive Regex where
  | empty
  | set (chars : Charset)
  | boundary (condition : Boundary)
  | group (name? : Option String) (body : Regex)
  | cat (first second : Regex)
  | alt (first second : Regex)
  | repetition (body : Regex) (least : Nat) (most? : Option Nat) (greedy : Bool)
deriving DecidableEq, Repr

namespace Regex

/-- Whether the empty text is all that an expression can match. -/
def takesNothing : Regex → Bool
  | empty => true
  | set _ => false
  | boundary _ => true
  | group _ body => body.takesNothing
  | cat first second => first.takesNothing && second.takesNothing
  | alt first second => first.takesNothing && second.takesNothing
  | repetition body _ _ _ => body.takesNothing

/-- Whether every match takes at least one character. -/
def takesSomething : Regex → Bool
  | empty => false
  | set _ => true
  | boundary _ => false
  | group _ body => body.takesSomething
  | cat first second => first.takesSomething || second.takesSomething
  | alt first second => first.takesSomething && second.takesSomething
  | repetition body least _ _ => decide (0 < least) && body.takesSomething

/-- The named groups in the order in which they open. -/
def groupNames : Regex → List String
  | empty => []
  | set _ => []
  | boundary _ => []
  | group name? body => name?.toList ++ body.groupNames
  | cat first second => first.groupNames ++ second.groupNames
  | alt first second => first.groupNames ++ second.groupNames
  | repetition body _ _ _ => body.groupNames

/-- Whether no part of an expression is a group. -/
def groupFree : Regex → Bool
  | empty => true
  | set _ => true
  | boundary _ => true
  | group _ _ => false
  | cat first second => first.groupFree && second.groupFree
  | alt first second => first.groupFree && second.groupFree
  | repetition body _ _ _ => body.groupFree

/-- The code point of an expression that stands for one character. -/
def letter? : Regex → Option Nat
  | set ⟨[(low, high)]⟩ => if low = high then some low else none
  | _ => none

/-- The expressions that are matched one after the other. -/
def factors : Regex → List Regex
  | empty => []
  | cat first second => first.factors ++ second.factors
  | single => [single]

/-- The expressions that are tried one after the other. -/
def branches : Regex → List Regex
  | alt first second => first.branches ++ second.branches
  | single => [single]

/-- Matches the given expressions one after the other. -/
def chain : List Regex → Regex
  | [] => empty
  | [last] => last
  | first :: second :: rest => cat first (chain (second :: rest))

/-- Matches the first of the given expressions that leads to a match. -/
def options : List Regex → Regex
  | [] => set .empty
  | [last] => last
  | first :: second :: rest => alt first (options (second :: rest))

end Regex

end Precedence
