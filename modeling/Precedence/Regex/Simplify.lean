import Precedence.Regex.Basic

/-!
Expressions are put together in a simple form: nothing empty stands in a chain, chains and choices
are not nested directly, a choice between characters is a set, and what all branches of a choice
begin with stands once in front of it. An expression in this form matches as before.
-/

namespace Precedence

namespace Regex

/-- Matches the given expressions one after the other. -/
def concat (parts : List Regex) : Regex := chain (parts.flatMap factors)

/-- The factors of an expression, those that are single characters in a row taken together. -/
def pieces : List Regex → List (List Regex)
  | [] => []
  | part :: rest =>
    match pieces rest with
    | (next :: more) :: others =>
      if part.letter?.isSome && next.letter?.isSome then (part :: next :: more) :: others
      else [part] :: (next :: more) :: others
    | others => [part] :: others

/-- The pieces that two expressions begin with alike. What holds a group is like nothing else. -/
def sharedPieces : List (List Regex) → List (List Regex) → List (List Regex)
  | first :: rest, other :: others =>
    if first = other ∧ first.all groupFree then first :: sharedPieces rest others else []
  | _, _ => []

/-- The pieces that all branches of a choice begin with, where each has more than one. -/
def commonPieces (parts : List (List (List Regex))) : List (List Regex) :=
  match parts with
  | first :: second :: rest =>
    if parts.all (1 < ·.length) then (second :: rest).foldl sharedPieces first else []
  | _ => []

/-- The set of the characters that some branches stand for, if each of them is one character or
each is a set. -/
def mergedSet? (parts : List Regex) : Option Charset :=
  match parts.mapM letter? with
  | some letters => some (.ofRanges (letters.map fun n => (n, n)))
  | none =>
    let chars? : Regex → Option Charset
      | set chars => if (set chars).letter?.isSome then none else some chars
      | _ => none
    (parts.mapM chars?).map (·.foldl Charset.union .empty)

/-- A choice whose branches share no piece in front. -/
def merge (parts : List Regex) : Regex :=
  let flat := parts.flatMap branches
  match flat with
  | [single] => single
  | _ =>
    match mergedSet? flat with
    | some chars => set chars
    | none => options flat

/-- Matches the first of the given expressions that leads to a match. -/
def choice (parts : List Regex) : Regex :=
  let flat := parts.flatMap branches
  let split := flat.map fun part => pieces part.factors
  match commonPieces split with
  | [] => merge flat
  | common =>
    concat (common.flatten ++
      [merge (split.map fun part => chain (part.drop common.length).flatten)])

/-- Repeats an expression. A body that takes nothing is repeated once at most, and a repetition
that allows no round at all matches the empty text without its body. -/
def repeated (body : Regex) (least : Nat) (most? : Option Nat) (greedy : Bool) : Regex :=
  let least := if body.takesNothing then min least 1 else least
  let most? := if body.takesNothing then some ((most?.map (min · 1)).getD 1) else most?
  if least = 0 ∧ most? = some 0 then empty
  else if least = 1 ∧ most? = some 1 then body
  else repetition body least most? greedy

end Regex

end Precedence
