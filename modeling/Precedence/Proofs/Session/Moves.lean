import Precedence.Proofs.Scanner.Attempts
import Precedence.Proofs.Session.Mirrored

namespace Precedence

namespace Session

variable {grammar : Grammar} {session : Session} {scanner : Scanner} {sub : Power → ParseM Expr}
  {left budget extra levels : Nat}

/-- Whether so many tokens are left in front of the end of the text, or of a place where no further
token can be found. -/
def HasLeft (session : Session) (grammar : Grammar) (left : Nat) : Prop :=
  ∃ stream, session.scanner.Shows grammar.lexicon grammar.endToken stream ∧ stream.length = left

theorem HasLeft.moved (has : session.HasLeft grammar left)
    (found : Scanner.next session.scanner = .ok () scanner) :
    (session.moved scanner).HasLeft grammar (left - 1) := by
  obtain ⟨stream, sees, rfl⟩ := has
  exact ⟨stream.tail, sees.behind found, stream.length_tail⟩

theorem HasLeft.exists_next (ended : session.HasLeft grammar 0) :
    session.current = grammar.endToken ∧
      ∃ scanner, Scanner.next session.scanner = .ok () scanner := by
  obtain ⟨_, sees, noneLeft⟩ := ended
  exact sees.exists_next noneLeft

/-- Whether the moves so far and the tokens that are left keep to a budget. At the end of the text
the end mark may have been taken a few times beyond that. -/
def Thrifty (session : Session) (grammar : Grammar) (budget extra : Nat) : Prop :=
  ∃ left, session.HasLeft grammar left ∧
    (session.moves + left ≤ budget ∨ left = 0 ∧ session.moves ≤ budget + extra)

/-- Whether a reading has failed within so many moves, and not because there was no end to it. -/
def FailsWithin (most : Nat) (error : ParseError) (after : Session) : Prop :=
  after.moves ≤ most ∧ ∀ span, error ≠ .endless span

theorem FailsWithin.of_le {less most : Nat} {error : ParseError} {after : Session}
    (le : less ≤ most) (fails : FailsWithin less error after) : FailsWithin most error after :=
  ⟨Nat.le_trans fails.1 le, fails.2⟩

theorem FailsWithin.closed {most : Nat} {error : ParseError} {after closed : Session}
    (fails : FailsWithin most error after) (same : closed.moves = after.moves) :
    FailsWithin most error (if error.breaksOff then after else closed) := by
  split
  · exact fails
  · exact ⟨same ▸ fails.1, fails.2⟩

theorem Thrifty.moves_le (thrifty : session.Thrifty grammar budget extra) :
    session.moves ≤ budget + extra := by
  obtain ⟨left, _, within | ⟨_, within⟩⟩ := thrifty
  · omega
  · exact within

theorem Thrifty.of_le {more : Nat} (le : extra ≤ more)
    (thrifty : session.Thrifty grammar budget extra) : session.Thrifty grammar budget more := by
  obtain ⟨left, has, within | ⟨ended, within⟩⟩ := thrifty
  · exact ⟨left, has, Or.inl within⟩
  · exact ⟨left, has, Or.inr ⟨ended, by omega⟩⟩

theorem Thrifty.endToken_eq (thrifty : session.Thrifty grammar budget extra) :
    session.scanner.endToken = grammar.endToken := by
  obtain ⟨_, ⟨_, sees, _⟩, _⟩ := thrifty
  exact sees.endToken_eq

/-- To take a token of the text keeps to the budget; only to take the end mark goes beyond it. -/
theorem Thrifty.moved_cases (thrifty : session.Thrifty grammar budget extra)
    (found : Scanner.next session.scanner = .ok () scanner) :
    (session.moved scanner).Thrifty grammar budget 0 ∨
      session.current = grammar.endToken ∧ (session.moved scanner).HasLeft grammar 0 ∧
        (session.moved scanner).moves ≤ budget + (extra + 1) := by
  obtain ⟨left, has, within⟩ := thrifty
  have behind := has.moved found
  rw [moves_moved]
  cases left with
  | zero => exact Or.inr ⟨has.exists_next.1, behind, by omega⟩
  | succ left =>
    refine Or.inl ⟨left, behind, Or.inl ?_⟩
    rw [moves_moved]
    omega

theorem Thrifty.moved (thrifty : session.Thrifty grammar budget extra)
    (found : Scanner.next session.scanner = .ok () scanner) :
    (session.moved scanner).Thrifty grammar budget (extra + 1) := by
  rcases thrifty.moved_cases found with inner | ⟨_, ended, within⟩
  · exact inner.of_le (Nat.zero_le _)
  · exact ⟨0, ended, Or.inr ⟨rfl, within⟩⟩

/-- Only behind a token of the text can there be none to find, and the failed move is the one that
was kept for that token. -/
theorem Thrifty.stopped (thrifty : session.Thrifty grammar budget extra) {error : ScanError}
    (stuck : Scanner.next session.scanner = .error error scanner) :
    FailsWithin budget (.scan error) (session.stopped scanner) := by
  obtain ⟨left, has, within⟩ := thrifty
  refine ⟨?_, nofun⟩
  rw [moves_stopped]
  cases left with
  | zero =>
    obtain ⟨_, _, found⟩ := has.exists_next
    cases stuck.symm.trans found
  | succ left => omega

/-- How many moves an expression can take inside which so many levels may be opened: no more than
keep to the budget, and then one for each level. Where it begins with the end mark, which is no
term, it fails. -/
structure Frugal (grammar : Grammar) (levels : Nat) (sub : Power → ParseM Expr) : Prop where
  spends {session : Session} {budget : Nat} (power : Power) :
    session.Thrifty grammar budget 0 → session.Ends (sub power)
      (fun _ after => after.Thrifty grammar budget levels) (FailsWithin (budget + levels))
  barren {session : Session} (power : Power) : grammar.isTerm grammar.endToken = false →
    session.HasLeft grammar 0 → session.Ends (sub power) (fun _ _ => False)
      (FailsWithin (session.moves + levels))

theorem applyLeading_fails {failed : ParseError → Session → Prop}
    (fails : ∀ power, session.Ends (sub power) (fun _ _ => False) failed) (leading : Leading) :
    session.Ends (applyLeading grammar sub leading) (fun _ _ => False) failed := by
  cases leading with
  | prefixed tag power => exact ends_applyLeading_prefixed.mpr (fails power)
  | group closing inner =>
    exact ends_applyLeading_group.mpr (ends_followedBy.mpr
      ((fails inner).imp (fun _ _ never => never.elim) fun _ _ => id))

theorem Frugal.applyLeading (frugal : Frugal grammar levels sub)
    (thrifty : session.Thrifty grammar budget 0) (leading : Leading) :
    session.Ends (applyLeading grammar sub leading)
      (fun _ after => after.Thrifty grammar budget (levels + 1))
      (FailsWithin (budget + (levels + 1))) := by
  cases leading with
  | prefixed tag power =>
    refine ends_applyLeading_prefixed.mpr ((frugal.spends power thrifty).imp ?_ ?_)
    · exact fun _ after behind => Thrifty.of_le (Nat.le_succ levels) behind
    · exact fun _ _ => FailsWithin.of_le (by omega)
  | group closing inner =>
    refine ends_applyLeading_group.mpr (ends_followedBy.mpr
      ((frugal.spends inner thrifty).imp ?_ fun _ _ => FailsWithin.of_le (by omega)))
    intro _ after behind
    have most := behind.moves_le
    refine ⟨fun _ => ends_advance.mpr ⟨fun _ => behind.moved, fun _ _ stuck => ?_⟩,
      fun _ => ⟨by omega, nofun⟩⟩
    exact (behind.stopped stuck).of_le (by omega)

theorem Frugal.operand (frugal : Frugal grammar levels sub)
    (thrifty : session.Thrifty grammar budget 0) :
    session.Ends (operand grammar sub)
      (fun _ after => after.Thrifty grammar budget (levels + 1))
      (FailsWithin (budget + (levels + 1))) := by
  have most := thrifty.moves_le
  refine ends_operand.mpr ⟨fun _ => ends_advance.mpr ⟨fun _ found => ?_, fun _ _ stuck => ?_⟩,
    fun notTerm leading _ => ends_advance.mpr ⟨fun scanner found => ?_, fun _ _ stuck => ?_⟩,
    fun _ _ => ⟨?_, nofun⟩⟩
  · exact (thrifty.moved found).of_le (by omega)
  · exact (thrifty.stopped stuck).of_le (by omega)
  · rcases thrifty.moved_cases found with inner | ⟨mark, ended, within⟩
    · exact frugal.applyLeading inner leading
    · refine (applyLeading_fails (fun power => frugal.barren power (mark ▸ notTerm) ended)
        leading).imp (fun _ _ never => never.elim) fun _ _ => FailsWithin.of_le (by omega)
  · exact (thrifty.stopped stuck).of_le (by omega)
  · exact Nat.le_trans most (by omega)

theorem Frugal.operand_barren (frugal : Frugal grammar levels sub)
    (notTerm : grammar.isTerm grammar.endToken = false) (ended : session.HasLeft grammar 0) :
    session.Ends (Session.operand grammar sub) (fun _ _ => False)
      (FailsWithin (session.moves + (levels + 1))) := by
  obtain ⟨mark, next, found⟩ := ended.exists_next
  refine ends_operand.mpr ⟨fun isTerm => ?_, fun _ leading _ => ?_, fun _ _ => ⟨?_, nofun⟩⟩
  · rw [mark, notTerm] at isTerm
    cases isTerm
  · refine (ends_advance_of_next found).mpr ((applyLeading_fails
      (fun power => frugal.barren power notTerm (ended.moved found)) leading).imp
        (fun _ _ => id) fun _ _ => FailsWithin.of_le ?_)
    rw [moves_moved]
    omega
  · exact Nat.le_add_right _ _

theorem Frugal.applyTrailing (frugal : Frugal grammar levels sub)
    (thrifty : session.Thrifty grammar budget 0) (lhs : Expr) (trailing : Trailing) :
    session.Ends (Session.applyTrailing sub lhs trailing)
      (fun _ after => after.Thrifty grammar budget (levels + 1))
      (FailsWithin (budget + (levels + 1))) := by
  cases trailing with
  | infixed tag assoc power =>
    refine ends_applyTrailing_infixed.mpr ((frugal.spends _ thrifty).imp ?_ ?_)
    · exact fun _ after behind => Thrifty.of_le (Nat.le_succ levels) behind
    · exact fun _ _ => FailsWithin.of_le (by omega)
  | postfixed tag power =>
    exact ends_applyTrailing_postfixed.mpr (thrifty.of_le (Nat.zero_le _))

/-- An operator behind an operand is a token of the text, so that it keeps to the budget and there
is less to take behind it. -/
theorem Frugal.climb (frugal : Frugal grammar levels sub)
    (steady : ∀ power, Steady grammar (sub power))
    (noTrailing : grammar.trailing? grammar.endToken = none) {power : Power} {expr : Expr}
    (thrifty : session.Thrifty grammar budget (levels + 1)) :
    session.Ends (Session.climb grammar sub power expr)
      (fun _ after => after.Thrifty grammar budget (levels + 1))
      (FailsWithin (budget + (levels + 1))) := by
  refine ends_climb_of_invariant (fun _ session => session.Thrifty grammar budget (levels + 1))
    (fun _ _ kept _ => kept) ?_ thrifty
  intro lhs session trailing thrifty role _
  have inner := Grammar.ne_endToken_of_trailing? noTrailing role
  refine ends_advance.mpr
    ⟨fun scanner found => ?_, fun _ _ stuck => (thrifty.stopped stuck).of_le (by omega)⟩
  rcases thrifty.moved_cases found with moved | ⟨mark, _⟩
  · refine ((frugal.applyTrailing moved lhs trailing).and
      (Law.Holds.applyTrailing steady lhs trailing _)).imp ?_ fun _ _ fails => fails.1
    rintro _ after ⟨behind, tokens, takes⟩
    have less := (Scanner.Takes.cons found takes).pending_lt (thrifty.endToken_eq ▸ inner)
    exact ⟨behind, fun still => absurd less still⟩
  · exact absurd mark inner

theorem expressionWithin_frugal (noTrailing : grammar.trailing? grammar.endToken = none) :
    Frugal grammar levels (expressionWithin grammar levels) := by
  induction levels with
  | zero =>
    constructor
    · intro session budget power thrifty
      exact ends_expressionWithin_zero.mpr ⟨thrifty.moves_le, nofun⟩
    · intro session power _ _
      exact ends_expressionWithin_zero.mpr ⟨Nat.le_refl _, nofun⟩
  | succ levels ih =>
    constructor
    · intro session budget power thrifty
      have inside : session.deeper.Thrifty grammar budget 0 := thrifty
      refine ends_expressionWithin_succ.mpr ((ih.operand inside).imp (fun first after behind => ?_)
        fun _ _ fails => fails.closed rfl)
      have steady (power : Power) : Steady grammar (expressionWithin grammar levels power) :=
        (takesLaw grammar).holds_expressionWithin power
      exact (ih.climb steady noTrailing behind).imp (fun _ _ => id)
        fun _ _ fails => fails.closed rfl
    · intro session power notTerm ended
      have inside : session.deeper.HasLeft grammar 0 := ended
      exact ends_expressionWithin_succ.mpr ((ih.operand_barren notTerm inside).imp
        (fun _ _ never => never.elim) fun _ _ fails => fails.closed rfl)

theorem complete_frugal (noTrailing : grammar.trailing? grammar.endToken = none)
    (thrifty : session.Thrifty grammar budget 0) :
    session.Ends (complete grammar) (fun _ after => after.moves ≤ budget + grammar.maxDepth)
      (FailsWithin (budget + grammar.maxDepth)) := by
  refine ends_complete.mpr (ends_followedBy.mpr (ends_expression.mpr
    (((expressionWithin_frugal noTrailing).spends .loosest thrifty).imp ?_ ?_)))
  · intro _ after behind
    have most := behind.moves_le
    refine ⟨fun _ => by omega, fun _ => FailsWithin.closed ⟨by omega, nofun⟩ rfl⟩
  · exact fun _ _ fails => (fails.of_le (by omega)).closed rfl

end Session

namespace Grammar

/-- How often a token is taken, or cannot be, while a text is read as an expression. -/
def moves (grammar : Grammar) (text : List Char) : Nat :=
  match Session.start grammar text with
  | .error _ => 0
  | .ok session =>
    match Session.complete grammar session with
    | .ok _ after => after.moves
    | .error _ after => after.moves

/-- Where the end mark never goes on with an expression, every text is read to its end, with no
more moves than there are tokens and levels. -/
theorem ends_with_moves {grammar : Grammar}
    (noTrailing : grammar.trailing? grammar.endToken = none) (text : List Char) :
    (∀ span, grammar.parse text ≠ .error (.endless span)) ∧
      grammar.moves text ≤ (grammar.lexicon.stream (.ofText text)).length + grammar.maxDepth := by
  unfold parse parseTraced moves
  rw [Session.start_eq]
  rcases Scanner.start_cases text with ⟨scanner, started, shown⟩ | ⟨stuck, started, _⟩
  · rw [started]
    dsimp only
    have thrifty : (Session.ofScanner scanner).Thrifty grammar
        (grammar.lexicon.stream (.ofText text)).length 0 :=
      ⟨_, ⟨_, shown, rfl⟩, Or.inl (Nat.le_of_eq (Nat.zero_add _))⟩
    have ends := Session.complete_frugal noTrailing thrifty
    unfold Session.Ends at ends
    generalize Session.complete grammar (Session.ofScanner scanner) = result at ends ⊢
    cases result with
    | ok expr after => exact ⟨fun _ => nofun, ends⟩
    | error error after => exact ⟨fun span same => ends.2 span (Except.error.inj same), ends.1⟩
  · rw [started]
    exact ⟨fun _ => nofun, Nat.zero_le _⟩

/-- Where the end mark never goes on with an expression, whatever else it may be, every text is
read to its end: tokens are taken at most as often as the text has bytes and expressions may be
nested, and once more. -/
theorem parse_terminates {grammar : Grammar}
    (noTrailing : grammar.trailing? grammar.endToken = none) (text : List Char) :
    (∀ span, grammar.parse text ≠ .error (.endless span)) ∧
      grammar.moves text ≤ byteLength text + grammar.maxDepth + 1 := by
  obtain ⟨ends, few⟩ := ends_with_moves noTrailing text
  have tokens : (grammar.lexicon.stream (.ofText text)).length ≤ byteLength text :=
    Nat.le_trans Lexicon.length_stream_le length_le_byteLength
  exact ⟨ends, by omega⟩

/-- A closing parenthesis that marks the end of the text closes any number of groups. -/
theorem end_mark_closes_groups :
    ∃ grammar : Grammar, grammar.trailing? grammar.endToken = none ∧
      grammar.endToken = grammar.operatorToken ")" ∧
      grammar.parse "((a".toList = .ok (.term "ident" "a") ∧ grammar.moves "((a".toList = 5 ∧
      grammar.moves "((a".toList ≤ byteLength "((a".toList + grammar.maxDepth + 1 := by
  refine ⟨{ arithmetic with endToken := ⟨"op", ")"⟩, maxDepth := 3 }, by decide +kernel, rfl,
    by decide +kernel, by decide +kernel, (parse_terminates ?_ _).2⟩
  decide +kernel

end Grammar

end Precedence
