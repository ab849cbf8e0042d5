import Mathlib.Data.Nat.Find
import Precedence.Proofs.Derivation.Complete
import Precedence.Proofs.Derivation.Sound
import Precedence.Proofs.Session.CutOff
import Precedence.Proofs.Session.Limit

namespace Precedence

open Session

variable {grammar : Grammar} {text : List Char} {depth : Nat}

namespace Derivation

/-- Whether a derivation is one of a whole text: of all its tokens, up to the end mark. -/
def Covers (derivation : Derivation grammar) (text : List Char) : Prop :=
  derivation.WellBound .loosest ∧
    ∃ first last, Scanner.start grammar.lexicon grammar.endToken text = .ok first ∧
      first.Takes derivation.tokens last ∧ last.current = grammar.endToken

theorem stoppedBy_of_trailing?_eq_none {derivation : Derivation grammar} {power : Power}
    {token : Token} (noTrailing : grammar.trailing? token = none) :
    derivation.StoppedBy power token := by
  intro trailing role
  cases noTrailing.symm.trans role

theorem covers_of_tokenize {derivation : Derivation grammar} (bound : derivation.WellBound .loosest)
    (split : (grammar.tokenize text).1 = .ok derivation.tokens) : derivation.Covers text :=
  ⟨bound, Grammar.takes_of_tokenize split⟩

/-- A text has no more than one derivation. -/
theorem Covers.eq {derivation other : Derivation grammar}
    (noTrailing : grammar.trailing? grammar.endToken = none) (covers : derivation.Covers text)
    (again : other.Covers text) : derivation = other := by
  obtain ⟨bound, first, last, started, takes, ended⟩ := covers
  obtain ⟨fits, first', last', started', takes', ended'⟩ := again
  cases started.symm.trans started'
  obtain ⟨rest, later, agree⟩ := takes.agree takes' (ended.trans ended'.symm)
  rw [ended, ended'] at agree
  exact eq_of_tokens bound fits (stoppedBy_of_trailing?_eq_none noTrailing)
    (stoppedBy_of_trailing?_eq_none noTrailing) agree

/-- A text is read as derived under every limit that leaves room for it. -/
theorem Covers.parse {derivation : Derivation grammar}
    (noTrailing : grammar.trailing? grammar.endToken = none) (covers : derivation.Covers text)
    (room : derivation.nest ≤ depth) :
    (grammar.withMaxDepth depth).parse text = .ok derivation.expr := by
  obtain ⟨bound, first, last, started, takes, ended⟩ := covers
  obtain ⟨after, ran⟩ := read_whole_of_takes bound takes ended
    (stoppedBy_of_trailing?_eq_none noTrailing) room
  have cuts : CutsOff (expressionWithin (grammar.withMaxDepth grammar.maxDepth) depth .loosest)
      (expressionWithin (grammar.withMaxDepth depth) depth .loosest) :=
    expressionWithin_cutsOff (Nat.le_refl depth) .loosest
  have parsed : (grammar.withMaxDepth depth).parse text = _ := Grammar.parse_of_start started
  exact parsed.trans (congrArg answer ((cuts.followedBy grammar.endToken).ok ran))

/-- A text that is read under some limit has a derivation, which the end mark would end, and for
which the limit leaves room. -/
theorem exists_covers_stopped {expr : Expr}
    (parsed : (grammar.withMaxDepth depth).parse text = .ok expr) :
    ∃ derivation : Derivation grammar, derivation.Covers text ∧ derivation.expr = expr ∧
      derivation.nest ≤ depth ∧ derivation.StoppedBy .loosest grammar.endToken := by
  obtain ⟨first, after, started, ran⟩ := Grammar.parse_ok parsed
  have cuts : CutsOff (expressionWithin (grammar.withMaxDepth depth) depth .loosest)
      (expressionWithin (grammar.withMaxDepth grammar.maxDepth) depth .loosest) :=
    expressionWithin_cutsOff (Nat.le_refl depth) .loosest
  have ends : (ofScanner first).Ends
      (followedBy grammar.endToken (expressionWithin grammar depth .loosest))
      (fun expr after => ∃ derivation : Derivation grammar, derivation.Covers text ∧
        derivation.expr = expr ∧ derivation.nest ≤ depth ∧
        derivation.StoppedBy .loosest grammar.endToken) fun _ _ => True := by
    refine ends_followedBy.mpr ((expressionWithin_readsDerivations .loosest (ofScanner first)).imp
      ?_ fun _ _ => id)
    rintro _ after ⟨derivation, rfl, spans, stopped⟩
    refine ⟨fun ended => ⟨derivation, ?_, rfl, spans.within, ended ▸ stopped⟩, fun _ => trivial⟩
    exact ⟨spans.bound, first, after.scanner, started, spans.takes, ended⟩
  exact ends.of_ok ((cuts.followedBy grammar.endToken).ok ran)

theorem exists_covers {expr : Expr}
    (parsed : (grammar.withMaxDepth depth).parse text = .ok expr) :
    ∃ derivation : Derivation grammar, derivation.Covers text ∧ derivation.expr = expr ∧
      derivation.nest ≤ depth := by
  obtain ⟨derivation, covers, same, within, _⟩ := exists_covers_stopped parsed
  exact ⟨derivation, covers, same, within⟩

/-- A text is read as derived or not at all. -/
theorem Covers.expr_eq {derivation : Derivation grammar} {expr : Expr}
    (noTrailing : grammar.trailing? grammar.endToken = none) (covers : derivation.Covers text)
    (parsed : grammar.parse text = .ok expr) : expr = derivation.expr := by
  obtain ⟨other, again, rfl, _⟩ := @exists_covers grammar text grammar.maxDepth expr parsed
  rw [again.eq noTrailing covers]

/-- Of each term, from left to right, how many operands it stands in that are read by themselves:
the operand of a prefix operator, the right one of an infix operator, and what a group holds. -/
def termDepths : Derivation grammar → List Nat
  | term _ _ => [0]
  | prefixed _ _ _ _ _ arg => arg.termDepths.map (· + 1)
  | group _ _ _ _ _ body => body.termDepths.map (· + 1)
  | infixed lhs _ _ _ _ _ rhs => lhs.termDepths ++ rhs.termDepths.map (· + 1)
  | postfixed lhs _ _ _ _ => lhs.termDepths

theorem lt_nest_of_mem_termDepths {derivation : Derivation grammar} {steps : Nat}
    (member : steps ∈ derivation.termDepths) : steps < derivation.nest := by
  induction derivation generalizing steps with
  | term token isTerm =>
    obtain rfl := List.mem_singleton.mp member
    exact Nat.zero_lt_one
  | prefixed token tag power notTerm role arg ih =>
    obtain ⟨inner, inside, rfl⟩ := List.mem_map.mp member
    have less := ih inside
    simp only [nest]
    omega
  | group token closing inner notTerm role body ih =>
    obtain ⟨inner, inside, rfl⟩ := List.mem_map.mp member
    have less := ih inside
    simp only [nest]
    omega
  | infixed lhs token tag assoc power role rhs left right =>
    simp only [nest]
    rcases List.mem_append.mp member with inside | behind
    · have less := left inside
      omega
    · obtain ⟨inner, inside, rfl⟩ := List.mem_map.mp behind
      have less := right inside
      omega
  | postfixed lhs token tag power role ih => exact ih member

theorem exists_mem_termDepths (derivation : Derivation grammar) :
    ∃ steps ∈ derivation.termDepths, derivation.nest = steps + 1 := by
  induction derivation with
  | term token isTerm => exact ⟨0, List.mem_singleton_self 0, rfl⟩
  | prefixed token tag power notTerm role arg ih =>
    obtain ⟨steps, member, same⟩ := ih
    exact ⟨steps + 1, List.mem_map_of_mem member, by simp only [nest, same]; omega⟩
  | group token closing inner notTerm role body ih =>
    obtain ⟨steps, member, same⟩ := ih
    exact ⟨steps + 1, List.mem_map_of_mem member, by simp only [nest, same]; omega⟩
  | infixed lhs token tag assoc power role rhs left right =>
    obtain ⟨steps, member, same⟩ := left
    obtain ⟨more, inside, equal⟩ := right
    simp only [nest]
    rcases Nat.le_total lhs.nest (1 + rhs.nest) with le | le
    · exact ⟨more + 1, List.mem_append_right _ (List.mem_map_of_mem inside), by omega⟩
    · exact ⟨steps, List.mem_append_left _ member, by omega⟩
  | postfixed lhs token tag power role ih => exact ih

end Derivation

namespace Grammar

theorem fails_withMaxDepth {error : ParseError}
    (noLeading : grammar.leading? grammar.endToken = none)
    (noTrailing : grammar.trailing? grammar.endToken = none)
    (failed : (grammar.withMaxDepth depth).parse text = .error error) :
    (grammar.withMaxDepth depth).Fails (grammar.lexicon.stream (.ofText text)).spans depth
      (grammar.lexicon.stream (.ofText text)).length error :=
  @parse_fails (grammar.withMaxDepth depth) text error noLeading noTrailing failed

/-- The least limit under which a text is not found to be nested too deep. No more levels are
needed than there are tokens, and one for the end of the text. -/
theorem exists_least_limit (noLeading : grammar.leading? grammar.endToken = none)
    (noTrailing : grammar.trailing? grammar.endToken = none) (text : List Char) :
    ∃ threshold ≤ (grammar.lexicon.stream (.ofText text)).length + 1,
      (∀ limit span, (grammar.withMaxDepth threshold).parse text ≠
        .error (.tooDeep limit span)) ∧
      ∀ depth < threshold, ∃ limit span,
        (grammar.withMaxDepth depth).parse text = .error (.tooDeep limit span) := by
  classical
  have enough : ∀ limit span,
      (grammar.withMaxDepth ((grammar.lexicon.stream (.ofText text)).length + 1)).parse text ≠
        .error (.tooDeep limit span) := by
    intro limit span failed
    obtain ⟨_, _, room⟩ :=
      (fails_withMaxDepth noLeading noTrailing failed).limited limit span rfl
    exact absurd room (Nat.not_succ_le_self _)
  have someLimit : ∃ depth, ∀ limit span,
      (grammar.withMaxDepth depth).parse text ≠ .error (.tooDeep limit span) := ⟨_, enough⟩
  refine ⟨Nat.find someLimit, Nat.find_min' someLimit enough, Nat.find_spec someLimit, ?_⟩
  intro depth less
  simpa only [not_forall, not_not] using Nat.find_min someLimit less

/-- The limit on nesting does nothing but cut off. From some limit on, no higher than the number of
tokens and one more, a text comes to the same, which is not that it is nested too deep; under all
lower ones it is. If it is read at all, that limit is one more than the greatest depth of a term
in its derivation. -/
theorem nesting_limit_cuts_off (noLeading : grammar.leading? grammar.endToken = none)
    (noTrailing : grammar.trailing? grammar.endToken = none) (text : List Char) :
    ∃ threshold result,
      threshold ≤ (grammar.lexicon.stream (.ofText text)).length + 1 ∧
      (∀ limit span, result ≠ .error (.tooDeep limit span)) ∧
      (∀ span, result ≠ .error (.endless span)) ∧
      (∀ depth, threshold ≤ depth → (grammar.withMaxDepth depth).parse text = result) ∧
      (∀ depth < threshold, ∃ span ∈ (grammar.lexicon.stream (.ofText text)).spans,
        (grammar.withMaxDepth depth).parse text = .error (.tooDeep depth span)) ∧
      ∀ expr, result = .ok expr → ∃ derivation : Derivation grammar,
        derivation.Covers text ∧ (∀ other, other.Covers text → other = derivation) ∧
        derivation.expr = expr ∧ (∀ steps ∈ derivation.termDepths, steps < threshold) ∧
        ∃ steps ∈ derivation.termDepths, threshold = steps + 1 := by
  obtain ⟨threshold, few, shallow, deep⟩ := exists_least_limit noLeading noTrailing text
  refine ⟨threshold, (grammar.withMaxDepth threshold).parse text, few, shallow, ?_, ?_, ?_, ?_⟩
  · intro span failed
    exact (fails_withMaxDepth noLeading noTrailing failed).ends span rfl
  · exact fun depth le => parse_withMaxDepth_of_le le shallow
  · intro depth less
    obtain ⟨limit, span, failed⟩ := deep depth less
    obtain ⟨rfl, member, _⟩ :=
      (fails_withMaxDepth noLeading noTrailing failed).limited limit span rfl
    exact ⟨span, member, failed⟩
  · intro expr parsed
    obtain ⟨derivation, covers, same, within⟩ := Derivation.exists_covers parsed
    have least : derivation.nest = threshold := by
      refine Nat.le_antisymm within (Nat.le_of_not_lt fun less => ?_)
      obtain ⟨limit, span, failed⟩ := deep _ less
      cases (covers.parse noTrailing (Nat.le_refl _)).symm.trans failed
    refine ⟨derivation, covers, fun other again => again.eq noTrailing covers, same, ?_, ?_⟩
    · exact fun steps member => least ▸ Derivation.lt_nest_of_mem_termDepths member
    · exact least ▸ derivation.exists_mem_termDepths

/-- Two groups are two levels more; the sign behind them is none. -/
theorem nested_groups_cut_off :
    (∀ depth, 3 ≤ depth → (arithmetic.withMaxDepth depth).parse "((a))!".toList =
      .ok (.unary "fact" (.term "ident" "a"))) ∧
    ∀ depth < 3, ∃ span,
      (arithmetic.withMaxDepth depth).parse "((a))!".toList = .error (.tooDeep depth span) := by
  have enough : (arithmetic.withMaxDepth 3).parse "((a))!".toList =
      .ok (.unary "fact" (.term "ident" "a")) := by decide +kernel
  have short : (arithmetic.withMaxDepth 2).parse "((a))!".toList =
      .error (.tooDeep 2 ⟨2, 3⟩) := by decide +kernel
  have noLeading : arithmetic.leading? arithmetic.endToken = none := by decide +kernel
  have noTrailing : arithmetic.trailing? arithmetic.endToken = none := by decide +kernel
  obtain ⟨threshold, result, _, shallow, _, same, deep, _⟩ :=
    nesting_limit_cuts_off noLeading noTrailing "((a))!".toList
  have least : threshold = 3 := by
    refine Nat.le_antisymm (Nat.le_of_not_lt fun more => ?_) (Nat.le_of_not_lt fun less => ?_)
    · obtain ⟨span, _, failed⟩ := deep 3 more
      cases enough.symm.trans failed
    · exact shallow _ _ ((same 2 (Nat.le_of_lt_succ less)).symm.trans short)
  subst least
  refine ⟨fun depth le => ?_, fun depth less => ?_⟩
  · exact (same depth le).trans ((same 3 (Nat.le_refl 3)).symm.trans enough)
  · obtain ⟨span, _, failed⟩ := deep depth less
    exact ⟨span, failed⟩

end Grammar

end Precedence
