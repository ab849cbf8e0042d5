import Precedence.Regex.Basic
import Precedence.Regex.Extent.Charset
import Precedence.Regex.Extent.Words

/-!
How large the automaton over bytes of an expression is. Each expression has two of them, one that
reads a text forward and marks its groups, and one that reads it backward. An expression is of use
only if both stay below a limit.
-/

namespace Precedence

inductive Direction where
  | forward
  | backward
deriving DecidableEq, Repr

/-- How the parts of an expression add to an automaton: the expression as a whole, and each of its
branches if it is a choice. -/
structure Growth where
  whole : Extent → Extent
  branches : List (Extent → Extent)

def Growth.ofWhole (grow : Extent → Extent) : Growth := ⟨grow, [grow]⟩

namespace Extent

/-- Lays out a set of characters. One character is laid out byte by byte, and characters of ASCII
as the ways out of one state. -/
def addSet (direction : Direction) (chars : Charset) (extent : Extent) : Extent :=
  match (Regex.set chars).letter? with
  | some n => (encoding n).foldl (fun extent _ => extent.addState) extent
  | none =>
    if chars.isAscii then extent.addState.addEdges chars.ranges.length
    else match direction with
      | .forward => extent.addForward chars.byteSequences
      | .backward => extent.addBackward chars.byteSequences

/-- Lays out a choice between branches, which join again after it. -/
def addChoice (branches : List (Extent → Extent)) (extent : Extent) : Extent :=
  match branches with
  | first :: second :: rest =>
    let start := ((second (first extent).link).link.addFork 2).addState
    rest.foldl (fun extent grow => (grow extent).link.addWay) start
  | [single] => single extent
  | [] => extent.addState

/-- Lays out a repetition without an upper bound. The body of one without a lower bound can do with
one fork if it always takes something. -/
def addLoop (grow : Extent → Extent) (takes : Bool) (least : Nat) (extent : Extent) : Extent :=
  match least with
  | 0 =>
    if takes then (grow (extent.addFork 1)).link.leaveByFork
    else (((grow extent).link.addFork 2).addFork 2).addState
  | 1 => (grow extent).link.addExit 1
  | least + 2 => (grow (times grow (least + 1) extent).link).link.addExit 1

/-- Lays out a repetition with an upper bound. -/
def addBounded (grow : Extent → Extent) (least most : Nat) (extent : Extent) : Extent :=
  if least = 0 ∧ most = 1 then (grow (extent.addFork 2)).link.addState
  else if least = most then times grow least extent
  else
    (more (fun extent => grow (extent.addFork 2)) (most - least)
      (times grow least extent).link.addState).link

end Extent

namespace Regex

/-- The bytes of an expression that stands for one word. -/
def word? : Regex → Option (List Nat)
  | set chars => (set chars).letter?.map encoding
  | cat first second => first.word?.bind fun start => second.word?.map (start ++ ·)
  | _ => none

/-- The words that the branches of a choice stand for, if each stands for one. -/
def words? : Regex → Option (List (List Nat))
  | alt first second => first.words?.bind fun start => second.words?.map (start ++ ·)
  | single => single.word?.map ([·])

/-- The least number of characters that an expression takes. There is none if some part of it
cannot match. -/
def shortest? : Regex → Option Nat
  | empty => some 0
  | set chars => if chars.ranges.isEmpty then none else some 1
  | boundary _ => some 0
  | group _ body => body.shortest?
  | cat first second => first.shortest?.bind fun n => second.shortest?.map (n + ·)
  | alt first second => first.shortest?.bind fun n => second.shortest?.map (min n)
  | repetition body least _ _ => body.shortest?.map (least * ·)

/-- How an expression adds to an automaton. Only an automaton that reads forward marks groups. -/
def growth (direction : Direction) : Regex → Growth
  | empty => .ofWhole .addState
  | set chars => .ofWhole (.addSet direction chars)
  | boundary _ => .ofWhole .addState
  | group _ body =>
    let grow := (body.growth direction).whole
    .ofWhole (match direction with
      | .forward => fun extent => (grow extent.addState).link.addState
      | .backward => grow)
  | cat first second =>
    let (early, late) := match direction with
      | .forward => ((first.growth direction).whole, (second.growth direction).whole)
      | .backward => ((second.growth direction).whole, (first.growth direction).whole)
    .ofWhole fun extent => late (early extent).link
  | alt first second =>
    let branches := (first.growth direction).branches ++ (second.growth direction).branches
    let whole (extent : Extent) : Extent :=
      match (alt first second).words?, direction with
      | some words, .forward => extent.addWords words
      | some words, .backward => extent.addWords (words.map List.reverse)
      | none, _ => extent.addChoice branches
    ⟨whole, branches⟩
  | repetition body least most? _ =>
    let grow := (body.growth direction).whole
    .ofWhole (match most? with
      | none => .addLoop grow (body.shortest?.any (0 < ·)) least
      | some most => .addBounded grow least most)

/-- Whether every match begins at the start of the text. -/
def fromStart : Regex → Bool
  | boundary .textStart => true
  | group _ body => body.fromStart
  | cat first second => first.fromStart || (first.takesNothing && second.fromStart)
  | alt first second => first.fromStart && second.fromStart
  | repetition body least _ _ => decide (0 < least) && body.fromStart
  | _ => false

/-- Whether every match stops at the end of the text. -/
def toEnd : Regex → Bool
  | boundary .textEnd => true
  | group _ body => body.toEnd
  | cat first second => second.toEnd || (second.takesNothing && first.toEnd)
  | alt first second => first.toEnd && second.toEnd
  | repetition body least _ _ => decide (0 < least) && body.toEnd
  | _ => false

/-- The automaton of an expression. Unless it is held to the side of the text where it begins, it
passes over any bytes first. The one that reads forward marks the whole match. -/
def extent (direction : Direction) (regex : Regex) : Extent :=
  let held := match direction with
    | .forward => regex.fromStart
    | .backward => regex.toEnd
  let start := if held then Extent.zero.addState else ((Extent.zero.addFork 2).addState.addEdges 1)
  let grow := (regex.growth direction).whole
  match direction with
  | .forward => (grow start.addState).link.addState.addState
  | .backward => (grow start).link.addState

/-- Whether both automata of an expression stay below the limit. -/
def fits (regex : Regex) : Bool :=
  decide ((regex.extent .forward).bytes ≤ Extent.maxBytes) &&
    decide ((regex.extent .backward).bytes ≤ Extent.maxBytes)

end Regex

end Precedence
