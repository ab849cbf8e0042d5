namespace Precedence

/-- What a stretch of a pattern stands for, and how deeply the stretch is nested. -/
structure Nested (α : Type) where
  value : α
  height : Nat
deriving DecidableEq, Repr

namespace Nested

/-- What is not nested at all. -/
def flat {α : Type} (value : α) : Nested α := ⟨value, 0⟩

/-- The height of the deepest of some stretches. -/
def tallest {α : Type} (parts : List (Nested α)) : Nat := (parts.map height).foldl max 0

end Nested

/-- How deeply a pattern may be nested. -/
def maxNesting : Nat := 250

end Precedence
