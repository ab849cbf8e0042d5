import Precedence.Proofs.Scanner.Stream
import Precedence.Proofs.Session.Parse

namespace Precedence

/-- What can be said of an error of a reading that may open so many levels, where so many tokens
were left: an expression comes to an end; and it is too deep only if the levels do not outnumber
the tokens, at one of the places where tokens stand. -/
structure Grammar.Fails (grammar : Grammar) (spans : List Span) (levels left : Nat)
    (error : ParseError) : Prop where
  ends : ∀ span, error ≠ .endless span
  limited : ∀ limit span, error = .tooDeep limit span →
    limit = grammar.maxDepth ∧ span ∈ spans ∧ levels ≤ left

namespace Grammar.Fails

variable {grammar : Grammar} {spans : List Span} {levels left : Nat}

theorem of_scan {error : ScanError} : grammar.Fails spans levels left (.scan error) :=
  ⟨nofun, nofun⟩

theorem of_unexpected {token : Token} {expected : Expectation} {span : Span} :
    grammar.Fails spans levels left (.unexpected token expected span) :=
  ⟨nofun, nofun⟩

/-- An expression inside another one is read behind a token of its own. -/
theorem outer {error : ParseError} (fails : grammar.Fails spans levels left error) :
    grammar.Fails spans (levels + 1) (left + 1) error where
  ends := fails.ends
  limited := by
    intro limit span same
    obtain ⟨whole, member, room⟩ := fails.limited limit span same
    exact ⟨whole, member, Nat.succ_le_succ room⟩

end Grammar.Fails

namespace Session

variable {grammar : Grammar} {spans : List Span} {levels left : Nat} {session : Session}
  {scanner : Scanner} {sub : Power → ParseM Expr}

/-- Whether a session has no more than so many tokens in front of it, all of them at given
places. -/
def Sees (session : Session) (grammar : Grammar) (spans : List Span) (left : Nat) : Prop :=
  ∃ stream, session.scanner.Shows grammar.lexicon grammar.endToken stream ∧
    stream.length ≤ left ∧ stream.spans ⊆ spans

theorem Sees.succ (sees : session.Sees grammar spans left) :
    session.Sees grammar spans (left + 1) := by
  obtain ⟨stream, showsStream, few, within⟩ := sees
  exact ⟨stream, showsStream, Nat.le_succ_of_le few, within⟩

theorem Sees.span_mem (sees : session.Sees grammar spans left) : session.scanner.span ∈ spans := by
  obtain ⟨stream, showsStream, _, within⟩ := sees
  exact within showsStream.span_mem

/-- Whether a session comes behind another one, with no more to take than that. -/
def Reaches (session : Session) (grammar : Grammar) (spans : List Span) (left : Nat)
    (after : Session) : Prop :=
  after.Sees grammar spans left ∧ after.scanner.pending ≤ session.scanner.pending

theorem Sees.moved (sees : session.Sees grammar spans left)
    (found : Scanner.next session.scanner = .ok () scanner) :
    session.Reaches grammar spans left (session.moved scanner) := by
  obtain ⟨stream, showsStream, few, within⟩ := sees
  refine ⟨⟨stream.tail, showsStream.behind found, ?_, ?_⟩, Scanner.next_pending_le found⟩
  · exact Nat.le_trans TokenStream.length_tail_le few
  · exact List.Subset.trans TokenStream.spans_tail_subset within

/-- A token of the text is one less to come. -/
theorem Sees.moved_inner (sees : session.Sees grammar spans left)
    (inner : session.current ≠ grammar.endToken)
    (found : Scanner.next session.scanner = .ok () scanner) :
    ∃ fewer, left = fewer + 1 ∧ (session.moved scanner).Sees grammar spans fewer ∧
      scanner.pending < session.scanner.pending := by
  obtain ⟨stream, showsStream, few, within⟩ := sees
  have length := showsStream.length_eq inner
  refine ⟨left - 1, by omega, ⟨stream.tail, showsStream.behind found, by omega, ?_⟩, ?_⟩
  · exact List.Subset.trans TokenStream.spans_tail_subset within
  · exact showsStream.pending_lt found inner

/-- Whether `sub` opens no more levels than there are tokens, and never goes on without end. -/
def IsBounded (grammar : Grammar) (spans : List Span) (levels : Nat)
    (sub : Power → ParseM Expr) : Prop :=
  ∀ power (session : Session) left, session.Sees grammar spans left →
    session.Ends (sub power) (fun _ after => session.Reaches grammar spans left after)
      fun error _ => grammar.Fails spans levels left error

theorem applyLeading_isBounded {leading : Leading} (bounded : IsBounded grammar spans levels sub)
    (sees : session.Sees grammar spans left) :
    session.Ends (applyLeading grammar sub leading)
      (fun _ after => session.Reaches grammar spans left after)
      fun error _ => grammar.Fails spans levels left error := by
  cases leading with
  | prefixed tag power =>
    exact ends_applyLeading_prefixed.mpr (bounded power session left sees)
  | group closing inner =>
    refine ends_applyLeading_group.mpr (ends_followedBy.mpr
      ((bounded inner session left sees).imp ?_ fun _ _ => id))
    rintro _ after ⟨behind, less⟩
    refine ⟨fun _ => ends_advance.mpr ⟨fun scanner found => ?_, fun _ _ _ => Grammar.Fails.of_scan⟩,
      fun _ => Grammar.Fails.of_unexpected⟩
    obtain ⟨final, still⟩ := behind.moved found
    exact ⟨final, Nat.le_trans still less⟩

theorem applyTrailing_isBounded {trailing : Trailing} {lhs : Expr}
    (bounded : IsBounded grammar spans levels sub) (sees : session.Sees grammar spans left) :
    session.Ends (applyTrailing sub lhs trailing)
      (fun _ after => session.Reaches grammar spans left after)
      fun error _ => grammar.Fails spans levels left error := by
  cases trailing with
  | infixed tag assoc power =>
    exact ends_applyTrailing_infixed.mpr (bounded _ session left sees)
  | postfixed tag power =>
    exact ends_applyTrailing_postfixed.mpr ⟨sees, Nat.le_refl _⟩

theorem operand_isBounded (noLeading : grammar.leading? grammar.endToken = none)
    (bounded : IsBounded grammar spans levels sub) (sees : session.Sees grammar spans left) :
    session.Ends (operand grammar sub) (fun _ after => session.Reaches grammar spans left after)
      fun error _ => grammar.Fails spans (levels + 1) left error := by
  refine ends_operand.mpr ⟨fun _ => ends_advance.mpr ⟨?_, ?_⟩, fun _ leading role => ?_, ?_⟩
  · exact fun scanner found => sees.moved found
  · exact fun _ _ _ => Grammar.Fails.of_scan
  · have inner : session.current ≠ grammar.endToken := by
      intro ended
      cases noLeading.symm.trans (ended ▸ role)
    refine ends_advance.mpr ⟨fun scanner found => ?_, fun _ _ _ => Grammar.Fails.of_scan⟩
    obtain ⟨fewer, rfl, behind, less⟩ := sees.moved_inner inner found
    refine (applyLeading_isBounded bounded behind).imp ?_ fun _ _ fails => fails.outer
    rintro _ after ⟨final, still⟩
    exact ⟨final.succ, Nat.le_trans still (Nat.le_of_lt less)⟩
  · exact fun _ _ => Grammar.Fails.of_unexpected

theorem climb_isBounded {power : Power} {expr : Expr} {first : Session}
    (noTrailing : grammar.trailing? grammar.endToken = none)
    (bounded : IsBounded grammar spans levels sub)
    (reaches : first.Reaches grammar spans left session) :
    session.Ends (climb grammar sub power expr)
      (fun _ after => first.Reaches grammar spans left after)
      fun error _ => grammar.Fails spans (levels + 1) left error := by
  refine ends_climb_of_invariant (fun _ session => first.Reaches grammar spans left session)
    (fun _ _ reaches _ => reaches) ?_ reaches
  rintro lhs session trailing ⟨sees, bound⟩ role _
  have inner := Grammar.ne_endToken_of_trailing? noTrailing role
  refine ends_advance.mpr ⟨fun scanner found => ?_, fun _ _ _ => Grammar.Fails.of_scan⟩
  obtain ⟨fewer, rfl, behind, less⟩ := sees.moved_inner inner found
  refine (applyTrailing_isBounded bounded behind).imp ?_ fun _ _ fails => fails.outer
  rintro _ after ⟨final, still⟩
  have shorter : after.scanner.pending < session.scanner.pending := Nat.lt_of_le_of_lt still less
  exact ⟨⟨final.succ, Nat.le_trans (Nat.le_of_lt shorter) bound⟩, fun more => absurd shorter more⟩

theorem expressionWithin_isBounded (noLeading : grammar.leading? grammar.endToken = none)
    (noTrailing : grammar.trailing? grammar.endToken = none) :
    IsBounded grammar spans levels (expressionWithin grammar levels) := by
  induction levels with
  | zero =>
    intro power session left sees
    refine ends_expressionWithin_zero.mpr ⟨nofun, ?_⟩
    rintro limit span same
    cases same
    exact ⟨rfl, sees.span_mem, Nat.zero_le _⟩
  | succ levels ih =>
    intro power session left sees
    have inside : session.deeper.Sees grammar spans left := sees
    refine ends_expressionWithin_succ.mpr ((operand_isBounded noLeading ih inside).imp ?_
      fun _ _ => id)
    intro first after reaches
    exact climb_isBounded noTrailing ih reaches

theorem expressionUntil_isBounded {power : Power} {terminator : Token}
    (noLeading : grammar.leading? grammar.endToken = none)
    (noTrailing : grammar.trailing? grammar.endToken = none)
    (sees : session.Sees grammar spans left) :
    session.Ends (expressionUntil grammar power terminator) (fun _ _ => True)
      fun error _ => grammar.Fails spans (grammar.maxDepth - session.depth) left error := by
  refine ends_followedBy.mpr (ends_expression.mpr
    ((expressionWithin_isBounded noLeading noTrailing power session left sees).imp ?_
      fun _ _ => id))
  exact fun _ _ _ => ⟨fun _ => trivial, fun _ => Grammar.Fails.of_unexpected⟩

end Session

/-- Whatever a text fails with, it is not that an expression would not end; and it is nested too
deep only if the limit does not exceed the number of its tokens. -/
theorem Grammar.parse_fails {grammar : Grammar} {text : List Char} {error : ParseError}
    (noLeading : grammar.leading? grammar.endToken = none)
    (noTrailing : grammar.trailing? grammar.endToken = none)
    (failed : grammar.parse text = .error error) :
    grammar.Fails (grammar.lexicon.stream (.ofText text)).spans grammar.maxDepth
      (grammar.lexicon.stream (.ofText text)).length error := by
  rcases Scanner.start_cases text with ⟨scanner, started, shown⟩ | ⟨stuck, started, _⟩
  · have sees : (Session.ofScanner scanner).Sees grammar
        (grammar.lexicon.stream (.ofText text)).spans
        (grammar.lexicon.stream (.ofText text)).length :=
      ⟨_, shown, Nat.le_refl _, List.Subset.refl _⟩
    rw [parse_of_start started] at failed
    cases ran : Session.expressionUntil grammar .loosest grammar.endToken
        (Session.ofScanner scanner) with
    | ok expr after => cases (congrArg Session.answer ran).symm.trans failed
    | error cause after =>
      cases (congrArg Session.answer ran).symm.trans failed
      exact (Session.expressionUntil_isBounded noLeading noTrailing sees).of_error ran
  · cases (parse_of_start_error started).symm.trans failed
    exact Fails.of_scan

end Precedence
