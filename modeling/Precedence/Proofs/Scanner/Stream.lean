import Precedence.Proofs.Scanner.Scan

namespace Precedence

/-- The tokens that are still to come in a text, each with its span, up to the end of the text or
to a place where no token can be found. -/
inductive TokenStream where
  | token (token : Token) (span : Span) (rest : TokenStream)
  | finish (pos : Nat)
  | failure (error : ScanError)
deriving DecidableEq, Repr

/-- What comes behind the first token. Nothing comes behind the end of a text. -/
def TokenStream.tail : TokenStream → TokenStream
  | token _ _ rest => rest
  | finish pos => finish pos
  | failure error => failure error

/-- How many tokens are still to come. -/
def TokenStream.length : TokenStream → Nat
  | token _ _ rest => rest.length + 1
  | finish _ => 0
  | failure _ => 0

/-- Where the tokens to come stand, and the end of the text behind them. -/
def TokenStream.spans : TokenStream → List Span
  | token _ span rest => span :: rest.spans
  | finish pos => [.emptyAt pos]
  | failure _ => []

theorem TokenStream.length_tail (stream : TokenStream) :
    stream.tail.length = stream.length - 1 := by
  cases stream with
  | token _ _ rest => exact (Nat.add_sub_cancel ..).symm
  | finish pos => rfl
  | failure error => rfl

theorem TokenStream.length_tail_le {stream : TokenStream} :
    stream.tail.length ≤ stream.length := by
  rw [length_tail]
  exact Nat.sub_le _ _

theorem TokenStream.spans_tail_subset {stream : TokenStream} :
    stream.tail.spans ⊆ stream.spans := by
  cases stream with
  | token _ span rest => exact List.subset_cons_self span rest.spans
  | finish pos => exact List.Subset.refl _
  | failure error => exact List.Subset.refl _

/-- The tokens that a lexicon finds from a place on. -/
def Lexicon.stream (lexicon : Lexicon) (cursor : Cursor) : TokenStream :=
  match _scanned : lexicon.scan cursor with
  | .token token span next => .token token span (lexicon.stream next)
  | .finish final => .finish final.pos
  | .failure error _ => .failure error
termination_by cursor.rest.length
decreasing_by exact Lexicon.scan_token_length_lt _scanned

theorem Lexicon.stream_eq {lexicon : Lexicon} {cursor : Cursor} :
    lexicon.stream cursor =
      match lexicon.scan cursor with
      | .token token span next => .token token span (lexicon.stream next)
      | .finish final => .finish final.pos
      | .failure error _ => .failure error := by
  rw [stream]
  split
  · next scanned => rw [scanned]
  · next scanned => rw [scanned]
  · next scanned => rw [scanned]

theorem Lexicon.stream_of_word {lexicon : Lexicon} {front rest : List Char} {pos : Nat}
    {kind value : String} (nonempty : front ≠ [])
    (matched : lexicon.match? (front ++ rest) = some ⟨byteLength front, some (kind, value)⟩) :
    lexicon.stream ⟨front ++ rest, pos⟩ =
      .token ⟨kind, value⟩ ⟨pos, pos + byteLength front⟩
        (lexicon.stream ⟨rest, pos + byteLength front⟩) := by
  rw [stream_eq, scan_of_word nonempty matched]

/-- What a scanner has in front of it: the tokens to come, of which it has found the first, or the
end of its text, for which the end mark stands. -/
inductive Scanner.Shows (lexicon : Lexicon) (endToken : Token) : Scanner → TokenStream → Prop
  | token {cursor token span} : token.kind ∈ lexicon.kinds →
      Shows lexicon endToken ⟨lexicon, endToken, cursor, token, span⟩
        (.token token span (lexicon.stream cursor))
  | finish {cursor} : cursor.rest = [] →
      Shows lexicon endToken ⟨lexicon, endToken, cursor, endToken, .emptyAt cursor.pos⟩
        (.finish cursor.pos)

namespace Scanner

variable {lexicon : Lexicon} {endToken : Token}

/-- Finding the next token: either it is the first one to come, or none can be found. -/
theorem next_cases (scanner : Scanner) :
    (∃ after, next scanner = .ok () after ∧
      after.Shows scanner.lexicon scanner.endToken (scanner.lexicon.stream scanner.cursor)) ∨
    ∃ error after, next scanner = .error error after ∧
      scanner.lexicon.stream scanner.cursor = .failure error := by
  unfold next
  rw [Lexicon.stream_eq]
  cases scanned : scanner.lexicon.scan scanner.cursor with
  | token token span cursor =>
    exact Or.inl ⟨_, rfl, .token (Lexicon.scan_token_kind_mem scanned)⟩
  | finish cursor =>
    exact Or.inl ⟨_, rfl, .finish (Lexicon.scan_finish_rest scanned)⟩
  | failure error cursor =>
    exact Or.inr ⟨error, _, rfl, rfl⟩

theorem start_cases (text : List Char) :
    (∃ scanner, start lexicon endToken text = .ok scanner ∧
      scanner.Shows lexicon endToken (lexicon.stream (.ofText text))) ∨
    ∃ error, start lexicon endToken text = .error error ∧
      lexicon.stream (.ofText text) = .failure error := by
  unfold start
  rcases (ofText lexicon endToken text).next_cases with
    ⟨scanner, found, showsStream⟩ | ⟨error, after, stuck, fails⟩
  · rw [found]
    exact Or.inl ⟨scanner, rfl, showsStream⟩
  · rw [stuck]
    exact Or.inr ⟨error, rfl, fails⟩

/-- Taking a token leaves those that come behind it. -/
theorem Shows.next_cases {scanner : Scanner} {stream : TokenStream}
    (sees : scanner.Shows lexicon endToken stream) :
    (∃ after, next scanner = .ok () after ∧ after.Shows lexicon endToken stream.tail) ∨
    ∃ error after, next scanner = .error error after ∧ stream.tail = .failure error := by
  cases sees with
  | token _ => exact Scanner.next_cases _
  | @finish cursor done =>
    have ends : lexicon.stream cursor = .finish cursor.pos := by
      rw [Lexicon.stream_eq, Lexicon.scan_of_rest_eq_nil done]
    have found := Scanner.next_cases ⟨lexicon, endToken, cursor, endToken, .emptyAt cursor.pos⟩
    dsimp only at found
    rwa [ends] at found

variable {scanner : Scanner} {stream : TokenStream}

theorem Shows.behind {after : Scanner} (sees : scanner.Shows lexicon endToken stream)
    (found : Scanner.next scanner = .ok () after) : after.Shows lexicon endToken stream.tail := by
  rcases sees.next_cases with ⟨other, same, behind⟩ | ⟨error, other, stuck, _⟩
  · cases found.symm.trans same
    exact behind
  · cases found.symm.trans stuck

theorem Shows.endToken_eq (sees : scanner.Shows lexicon endToken stream) :
    scanner.endToken = endToken := by
  cases sees with
  | token _ => rfl
  | finish _ => rfl

/-- Where no token is left, the end mark can be taken. -/
theorem Shows.exists_next (sees : scanner.Shows lexicon endToken stream)
    (ended : stream.length = 0) :
    scanner.current = endToken ∧ ∃ after, next scanner = .ok () after := by
  cases sees with
  | token _ => cases ended
  | finish done =>
    rcases (Shows.finish done).next_cases with ⟨after, found, _⟩ | ⟨_, _, _, failed⟩
    · exact ⟨rfl, after, found⟩
    · cases failed

/-- Every token but the end mark leaves less to take. -/
theorem Shows.pending_lt {after : Scanner} (sees : scanner.Shows lexicon endToken stream)
    (found : next scanner = .ok () after) (inner : scanner.current ≠ endToken) :
    after.pending < scanner.pending := by
  rcases next_pending found with less | ⟨nothing, _⟩
  · exact less
  · have atEnd := eq_of_beq (pending_eq_zero.mp nothing).2
    exact absurd (atEnd.trans sees.endToken_eq) inner

theorem Shows.span_mem (sees : scanner.Shows lexicon endToken stream) :
    scanner.span ∈ stream.spans := by
  cases sees with
  | token _ => exact List.mem_cons_self ..
  | finish _ => exact List.mem_singleton_self _

/-- Only the end mark can be taken without a token less to come. -/
theorem Shows.length_eq (sees : scanner.Shows lexicon endToken stream)
    (inner : scanner.current ≠ endToken) : stream.length = stream.tail.length + 1 := by
  cases sees with
  | token _ => rfl
  | finish _ => exact absurd rfl inner

end Scanner

end Precedence
