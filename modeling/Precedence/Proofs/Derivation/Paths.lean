import Precedence.Proofs.Arithmetic.RoundTrip
import Precedence.Proofs.Derivation.Opens
import Precedence.Proofs.Derivation.Threshold

namespace Precedence

/-- A step from an operator down to one of its operands. -/
inductive Expr.Branch where
  | operand
  | left
  | right
deriving DecidableEq, Repr

/-- The ways down from an expression to its terms, from left to right. -/
def Expr.paths : Expr → List (List Branch)
  | term _ _ => [[]]
  | unary _ arg => arg.paths.map (.operand :: ·)
  | binary _ lhs rhs => lhs.paths.map (.left :: ·) ++ rhs.paths.map (.right :: ·)

namespace Derivation

/-- A step down a derivation: from an operator to one of its operands, or into a group. -/
inductive Step where
  | prefixed
  | group
  | left
  | right
  | postfixed
deriving DecidableEq, Repr

/-- Whether a step leads to an operand that is read by itself. Left operands are not: they have been
read when their operator comes. -/
def Step.opens : Step → Bool
  | prefixed => true
  | group => true
  | left => false
  | right => true
  | postfixed => false

variable {grammar : Grammar}

/-- The ways down from a derivation to its terms, from left to right. -/
def paths : Derivation grammar → List (List Step)
  | term _ _ => [[]]
  | prefixed _ _ _ _ _ arg => arg.paths.map (.prefixed :: ·)
  | group _ _ _ _ _ body => body.paths.map (.group :: ·)
  | infixed lhs _ _ _ _ _ rhs => lhs.paths.map (.left :: ·) ++ rhs.paths.map (.right :: ·)
  | postfixed lhs _ _ _ _ => lhs.paths.map (.postfixed :: ·)

end Derivation

namespace Grammar

open Precedence.Derivation (Step)

variable {grammar : Grammar}

end Grammar

namespace Arithmetic

/-- The reading of a name with so many signs behind it. -/
def signs : Nat → Derivation .arithmetic
  | 0 => .term ⟨"ident", "a"⟩ (by decide +kernel)
  | count + 1 => .postfixed (signs count) ⟨"op", "!"⟩ "fact" ⟨6⟩ (by decide +kernel)

variable {count : Nat}

theorem openPowers_signs : (signs count).openPowers = [] := by
  cases count <;> rfl

theorem wellBound_signs : (signs count).WellBound .loosest := by
  induction count with
  | zero => exact trivial
  | succ count ih =>
    refine ⟨ih, Power.loosest_le _, ?_⟩
    intro held member
    simp [openPowers_signs] at member

theorem nest_signs : (signs count).nest = 1 := by
  induction count with
  | zero => rfl
  | succ count ih => exact ih

theorem isWord_of_mem_signs {token : Token} (member : token ∈ (signs count).tokens) :
    IsWord token := by
  induction count with
  | zero =>
    obtain rfl := List.mem_singleton.mp member
    exact .name (by decide)
  | succ count ih =>
    rcases List.mem_append.mp member with before | last
    · exact ih before
    · obtain rfl := List.mem_singleton.mp last
      exact .symbol (by decide : isSymbol '!' = true)

theorem height_signs : (signs count).expr.height = count := by
  induction count with
  | zero => rfl
  | succ count ih => exact congrArg (· + 1) ih

/-- Pieces can be written one behind the other. -/
theorem exists_spells (pieces : List String) : ∃ text, Spells pieces text := by
  induction pieces with
  | nil => exact ⟨[], .nil rfl⟩
  | cons piece pieces ih =>
    obtain ⟨rest, spells⟩ := ih
    exact ⟨[] ++ (piece.toList ++ rest), .cons rfl spells⟩

/-- Left operands take no level: under every limit but 0 there are expressions of any height. -/
theorem exists_height {depth : Nat} (someLevel : 1 ≤ depth) (height : Nat) :
    ∃ text expr, (Grammar.arithmetic.withMaxDepth depth).parse text = .ok expr ∧
      expr.height = height := by
  obtain ⟨text, spells⟩ := exists_spells ((signs height).tokens.map Token.value)
  obtain ⟨first, last, found, takes, ended⟩ := @takes_of_spells (signs height).tokens
    (.ofText Grammar.arithmeticLexicon Grammar.arithmetic.endToken text) rfl spells
    (fun _ => isWord_of_mem_signs) (signs height).tokens_isChain
  have covers : (signs height).Covers text :=
    ⟨wellBound_signs, first, last, Scanner.start_of_next found, takes, ended⟩
  have noTrailing : Grammar.arithmetic.trailing? Grammar.arithmetic.endToken = none := by
    decide +kernel
  exact ⟨text, _, covers.parse noTrailing (nest_signs.symm ▸ someLevel), height_signs⟩

end Arithmetic

end Precedence
