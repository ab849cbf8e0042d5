import Precedence.Proofs.Scanner.Takes
import Precedence.Proofs.Session.Ends

namespace Precedence

instance decidableEqExcept {ε α : Type} [DecidableEq ε] [DecidableEq α] :
    DecidableEq (Except ε α)
  | .ok first, .ok second =>
    decidable_of_iff (first = second) ⟨congrArg Except.ok, Except.ok.inj⟩
  | .error first, .error second =>
    decidable_of_iff (first = second) ⟨congrArg Except.error, Except.error.inj⟩
  | .ok _, .error _ => isFalse nofun
  | .error _, .ok _ => isFalse nofun

/-- The session that begins at a scanner in front of the first token of a text. -/
def Session.ofScanner (scanner : Scanner) : Session := ⟨⟨scanner, scanner.found⟩, 0, 0⟩

@[simp] theorem Session.scanner_ofScanner {scanner : Scanner} :
    (ofScanner scanner).scanner = scanner := rfl

@[simp] theorem Session.current_ofScanner {scanner : Scanner} :
    (ofScanner scanner).current = scanner.current := rfl

@[simp] theorem Session.depth_ofScanner {scanner : Scanner} : (ofScanner scanner).depth = 0 := rfl

theorem Session.start_eq {grammar : Grammar} {text : List Char} :
    start grammar text =
      match Scanner.start grammar.lexicon grammar.endToken text with
      | .ok scanner => .ok (ofScanner scanner)
      | .error error => .error (.scan error) := by
  unfold Session.start Reading.start
  cases Scanner.start grammar.lexicon grammar.endToken text <;> rfl

/-- What becomes of a text depends on its first token, and then on the expression in front of the
end mark; the reports do not matter. -/
theorem Grammar.parse_eq {grammar : Grammar} {text : List Char} :
    grammar.parse text =
      match Scanner.start grammar.lexicon grammar.endToken text with
      | .error error => .error (.scan error)
      | .ok scanner =>
        match Session.expressionUntil grammar .loosest grammar.endToken
          (Session.ofScanner scanner) with
        | .ok expr _ => .ok expr
        | .error error _ => .error error := by
  unfold Grammar.parse Grammar.parseTraced Session.complete
  rw [Session.start_eq]
  cases Scanner.start grammar.lexicon grammar.endToken text with
  | error error => rfl
  | ok scanner =>
    dsimp only
    cases Session.expressionUntil grammar .loosest grammar.endToken
      (Session.ofScanner scanner) with
    | ok expr after => rfl
    | error error after =>
      dsimp only
      split
      · next same => split at same <;> cases same
      · next same =>
        split at same
        · cases same
          rfl
        · cases same
          rfl

section
variable {grammar : Grammar} {text : List Char}

/-- What a reading comes to, apart from the session after it. -/
def Session.answer : EStateM.Result ParseError Session Expr → Except ParseError Expr
  | .ok expr _ => .ok expr
  | .error error _ => .error error

theorem Session.exists_of_answer_ok {result : EStateM.Result ParseError Session Expr} {expr : Expr}
    (same : answer result = .ok expr) : ∃ after, result = .ok expr after := by
  cases result with
  | ok found after =>
    cases same
    exact ⟨after, rfl⟩
  | error error after => cases same

theorem Session.exists_of_answer_error {result : EStateM.Result ParseError Session Expr}
    {error : ParseError} (same : answer result = .error error) :
    ∃ after, result = .error error after := by
  cases result with
  | ok found after => cases same
  | error found after =>
    cases same
    exact ⟨after, rfl⟩

theorem Grammar.parse_of_start {scanner : Scanner}
    (started : Scanner.start grammar.lexicon grammar.endToken text = .ok scanner) :
    grammar.parse text = Session.answer
      (Session.expressionUntil grammar .loosest grammar.endToken (Session.ofScanner scanner)) := by
  rw [parse_eq, started]
  rfl

theorem Grammar.parse_of_start_error {error : ScanError}
    (stuck : Scanner.start grammar.lexicon grammar.endToken text = .error error) :
    grammar.parse text = .error (.scan error) := by
  rw [parse_eq, stuck]

theorem Grammar.parseTraced_of_ok {first : Scanner} {expr : Expr} {after : Session}
    (started : Scanner.start grammar.lexicon grammar.endToken text = .ok first)
    (ran : Session.complete grammar (Session.ofScanner first) = .ok expr after) :
    grammar.parseTraced text = (.ok expr, after.trace.reverse) := by
  simp only [parseTraced, Session.start_eq, started, ran]

theorem Grammar.parseTraced_of_error {first : Scanner} {error : ParseError} {after : Session}
    (started : Scanner.start grammar.lexicon grammar.endToken text = .ok first)
    (ran : Session.complete grammar (Session.ofScanner first) = .error error after) :
    grammar.parseTraced text = (.error error, after.trace.reverse) := by
  simp only [parseTraced, Session.start_eq, started, ran]

/-- Before the first token is found nothing is reported, not even that none could be found. -/
theorem Grammar.parseTraced_of_start_error {cause : ScanError}
    (stuck : Scanner.start grammar.lexicon grammar.endToken text = .error cause) :
    grammar.parseTraced text = (.error (.scan cause), []) := by
  simp only [parseTraced, Session.start_eq, stuck]

end

theorem Grammar.parse_ok {grammar : Grammar} {text : List Char} {expr : Expr}
    (parsed : grammar.parse text = .ok expr) :
    ∃ scanner after, Scanner.start grammar.lexicon grammar.endToken text = .ok scanner ∧
      Session.expressionUntil grammar .loosest grammar.endToken (Session.ofScanner scanner) =
        .ok expr after := by
  rw [parse_eq] at parsed
  split at parsed
  · cases parsed
  · next scanner started =>
    split at parsed
    · next after ran =>
      cases parsed
      exact ⟨scanner, after, started, ran⟩
    · cases parsed

/-- The same language with another limit on nesting. -/
def Grammar.withMaxDepth (grammar : Grammar) (maxDepth : Nat) : Grammar := { grammar with maxDepth }

section
variable {grammar : Grammar} {maxDepth : Nat} {token : Token}

@[simp] theorem Grammar.leading?_withMaxDepth :
    (grammar.withMaxDepth maxDepth).leading? token = grammar.leading? token := rfl

@[simp] theorem Grammar.trailing?_withMaxDepth :
    (grammar.withMaxDepth maxDepth).trailing? token = grammar.trailing? token := rfl

end

/-- The tokens in front of the end mark are those that a text is split into. -/
theorem Reading.collect_of_takes (reading : Reading) {tokens : List Token} {last : Scanner}
    (takes : reading.scanner.Takes tokens last) (ended : last.current = last.endToken)
    (inner : reading.scanner.endToken ∉ tokens) :
    ∃ final, reading.collect = .ok tokens final := by
  generalize first : reading.scanner = scanner at takes inner
  induction takes generalizing reading with
  | nil =>
    subst first
    rw [collect, dif_pos (by simp [Scanner.atEnd, ended])]
    exact ⟨reading, rfl⟩
  | @cons scanner next last tokens found _ ih =>
    subst first
    have here : reading.scanner.endToken ≠ reading.scanner.current ∧
        reading.scanner.endToken ∉ tokens := by simpa using inner
    have advances : reading.advance =
        .ok reading.scanner.current ⟨next, next.found ++ reading.trace⟩ := by
      simp only [advance, Scanner.advance, found]
    obtain ⟨final, collected⟩ := ih ⟨next, next.found ++ reading.trace⟩ ended rfl
      (by simpa [Scanner.next_endToken found] using here.2)
    refine ⟨final, ?_⟩
    rw [collect, dif_neg (by simpa [Scanner.atEnd] using Ne.symm here.1)]
    split
    · next failed => cases advances.symm.trans failed
    · next taken =>
      cases advances.symm.trans taken
      rw [collected]

theorem Grammar.tokenize_of_takes {grammar : Grammar} {text : List Char} {tokens : List Token}
    {first last : Scanner}
    (started : Scanner.start grammar.lexicon grammar.endToken text = .ok first)
    (takes : first.Takes tokens last) (ended : last.current = last.endToken)
    (inner : first.endToken ∉ tokens) : (grammar.tokenize text).1 = .ok tokens := by
  obtain ⟨final, collected⟩ := Reading.collect_of_takes ⟨first, first.found⟩
    takes ended inner
  unfold Grammar.tokenize Reading.start
  rw [started]
  dsimp only
  rw [collected]

theorem Reading.next_of_advance {reading after : Reading} {token : Token}
    (taken : reading.advance = .ok token after) :
    token = reading.scanner.current ∧ Scanner.next reading.scanner = .ok () after.scanner := by
  unfold advance Scanner.advance at taken
  cases found : Scanner.next reading.scanner with
  | ok _ scanner =>
    rw [found] at taken
    cases taken
    exact ⟨rfl, rfl⟩
  | error error scanner =>
    rw [found] at taken
    cases taken

theorem Reading.takes_of_collect {reading final : Reading} {tokens : List Token}
    (collected : reading.collect = .ok tokens final) :
    reading.scanner.Takes tokens final.scanner ∧
      final.scanner.current = final.scanner.endToken := by
  fun_induction Reading.collect reading generalizing tokens with
  | case1 reading ended =>
    cases collected
    exact ⟨.nil, eq_of_beq ended⟩
  | case2 reading more error after failed => cases collected
  | case3 reading more token after taken error last failed ih => cases collected
  | case4 reading more token after taken rest last behind ih =>
    cases collected
    obtain ⟨rfl, found⟩ := next_of_advance taken
    obtain ⟨takes, ended⟩ := ih behind
    exact ⟨.cons found takes, ended⟩

/-- The tokens that a text is split into are those in front of the end mark. -/
theorem Grammar.takes_of_tokenize {grammar : Grammar} {text : List Char} {tokens : List Token}
    (split : (grammar.tokenize text).1 = .ok tokens) :
    ∃ first last, Scanner.start grammar.lexicon grammar.endToken text = .ok first ∧
      first.Takes tokens last ∧ last.current = grammar.endToken := by
  unfold tokenize Reading.start at split
  cases started : Scanner.start grammar.lexicon grammar.endToken text with
  | error error =>
    rw [started] at split
    cases split
  | ok first =>
    rw [started] at split
    dsimp only at split
    cases collected : Reading.collect ⟨first, first.found⟩ with
    | error error final =>
      rw [collected] at split
      cases split
    | ok found final =>
      rw [collected] at split
      cases split
      obtain ⟨takes, ended⟩ := Reading.takes_of_collect collected
      have mark := takes.endToken.trans (Scanner.start_endToken started)
      exact ⟨first, final.scanner, rfl, takes, ended.trans mark⟩

end Precedence
