import Precedence.Grammar
import Precedence.Proofs.Scanner.Stream

namespace Precedence

/-- The tokens to come, if the end of the text comes behind them, and otherwise what stands in the
way. -/
def TokenStream.tokens : TokenStream → Except ScanError (List Token)
  | token first _ rest => rest.tokens.map (first :: ·)
  | finish _ => .ok []
  | failure error => .error error

namespace Scanner

variable {lexicon : Lexicon} {endToken token : Token} {scanner : Scanner} {span : Span}
  {rest : TokenStream} {pos : Nat}

/-- A token of the text is never taken for the end mark, if that is no word. -/
theorem Shows.not_atEnd (endNoWord : endToken.kind ∉ lexicon.kinds)
    (sees : scanner.Shows lexicon endToken (.token token span rest)) :
    ¬ scanner.atEnd = true := by
  cases sees with
  | token known =>
    intro ended
    obtain rfl : token = endToken := eq_of_beq ended
    exact endNoWord known

theorem Shows.atEnd (sees : scanner.Shows lexicon endToken (.finish pos)) :
    scanner.atEnd = true := by
  cases sees with
  | finish _ => exact beq_self_eq_true endToken

theorem Shows.current_eq (sees : scanner.Shows lexicon endToken (.token token span rest)) :
    scanner.current = token := by
  cases sees with
  | token _ => rfl

end Scanner

/-- Where the end mark is no word, the tokens that are taken up to it are those to come. -/
theorem Reading.collect_of_shows {lexicon : Lexicon} {endToken : Token} {reading : Reading}
    {stream : TokenStream} (endNoWord : endToken.kind ∉ lexicon.kinds)
    (sees : reading.scanner.Shows lexicon endToken stream) :
    (∃ tokens final, reading.collect = .ok tokens final ∧ stream.tokens = .ok tokens) ∨
      ∃ error final, reading.collect = .error error final ∧ stream.tokens = .error error := by
  induction stream generalizing reading with
  | token token span rest ih =>
    have here := sees.current_eq
    rw [collect, dif_neg (sees.not_atEnd endNoWord)]
    rcases sees.next_cases with ⟨after, found, behind⟩ | ⟨error, after, stuck, fails⟩
    · have advances : reading.advance = .ok token ⟨after, after.found ++ reading.trace⟩ := by
        simp only [advance, Scanner.advance, found, here]
      have collects := @ih ⟨after, after.found ++ reading.trace⟩ behind
      split
      · next failed => cases advances.symm.trans failed
      · next taken =>
        cases advances.symm.trans taken
        rcases collects with ⟨tokens, final, collected, same⟩ | ⟨error, final, collected, same⟩
        · refine Or.inl ⟨token :: tokens, final, by rw [collected], ?_⟩
          rw [TokenStream.tokens, same, Except.map]
        · refine Or.inr ⟨error, final, by rw [collected], ?_⟩
          rw [TokenStream.tokens, same, Except.map]
    · have advances : reading.advance = .error error ⟨after, reading.trace⟩ := by
        simp only [advance, Scanner.advance, stuck]
      obtain rfl : rest = .failure error := fails
      split
      · next failed =>
        cases advances.symm.trans failed
        exact Or.inr ⟨error, _, rfl, rfl⟩
      · next taken => cases advances.symm.trans taken
  | finish pos =>
    rw [collect, dif_pos sees.atEnd]
    exact Or.inl ⟨[], reading, rfl, rfl⟩
  | failure error =>
    generalize reading.scanner = scanner at sees
    cases sees

/-- Where the end mark is no word, a text is split into all the tokens that its lexicon finds. -/
theorem Grammar.tokenize_eq {grammar : Grammar} {text : List Char}
    (endNoWord : grammar.endToken.kind ∉ grammar.lexicon.kinds) :
    (grammar.tokenize text).1 = (grammar.lexicon.stream (.ofText text)).tokens := by
  unfold tokenize Reading.start
  rcases @Scanner.start_cases grammar.lexicon grammar.endToken text with
    ⟨scanner, started, sees⟩ | ⟨error, stuck, fails⟩
  · rw [started]
    have collects := @Reading.collect_of_shows _ _ ⟨scanner, scanner.found⟩ _ endNoWord sees
    rcases collects with ⟨tokens, final, collected, same⟩ | ⟨error, final, collected, same⟩
    · dsimp only
      rw [collected, same]
    · dsimp only
      rw [collected, same]
  · rw [stuck, fails]
    rfl

end Precedence
