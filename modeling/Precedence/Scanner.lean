import Precedence.Lexicon
import Precedence.ParseError
import Precedence.Text.Cursor

namespace Precedence

/-- What comes of looking for the next token: a token with its span, the end of the text, or an
error; each with the place that was reached. -/
inductive Scan where
  | token (token : Token) (span : Span) (cursor : Cursor)
  | finish (cursor : Cursor)
  | failure (error : ScanError) (cursor : Cursor)
deriving DecidableEq, Repr

/-- Looks for the next token, passing over matches that are no tokens. Every round moves the
cursor on, so the text that is left bounds their number. -/
def Lexicon.scan (lexicon : Lexicon) (cursor : Cursor) : Scan :=
  match _shape : cursor.rest with
  | [] => .finish cursor
  | c :: _ =>
    match lexicon.match? cursor.rest with
    | none => .failure (.unrecognized c cursor.pos) cursor
    | some hit =>
      if _empty : hit.length = 0 then .failure (.emptyMatch cursor.pos) cursor
      else
        match _moved : cursor.advance? hit.length with
        | none => .failure (.splitCharacter cursor.pos) cursor
        | some next =>
          match hit.word? with
          | some (kind, value) => .token ⟨kind, value⟩ (cursor.spanTo next) next
          | none => lexicon.scan next
termination_by cursor.rest.length
decreasing_by exact cursor.advance?_length_lt _moved _empty (by simp [_shape])

theorem Lexicon.scan_token_length_lt {lexicon : Lexicon} {cursor next : Cursor} {token : Token}
    {span : Span} (found : lexicon.scan cursor = .token token span next) :
    next.rest.length < cursor.rest.length := by
  fun_induction Lexicon.scan lexicon cursor with
  | case5 cursor c rest shape hit matched someByte after moved kind value word =>
    obtain ⟨_, _, rfl⟩ := Scan.token.inj found
    exact cursor.advance?_length_lt moved someByte (by simp [shape])
  | case6 cursor c rest shape hit matched someByte after moved skipped ih =>
    exact Nat.lt_trans (ih found) (cursor.advance?_length_lt moved someByte (by simp [shape]))
  | _ => cases found

theorem Lexicon.scan_finish_rest {lexicon : Lexicon} {cursor next : Cursor}
    (finished : lexicon.scan cursor = .finish next) : next.rest = [] := by
  fun_induction Lexicon.scan lexicon cursor with
  | case1 cursor shape =>
    obtain rfl := Scan.finish.inj finished
    exact shape
  | case6 cursor c rest shape hit matched someByte after moved skipped ih => exact ih finished
  | _ => cases finished

/-- A text that is being split into tokens: the place reached, the token in front of it that was
found last, and where that token stands. -/
structure Scanner where
  lexicon : Lexicon
  endToken : Token
  cursor : Cursor
  current : Token
  span : Span
deriving DecidableEq

abbrev ScanM := EStateM ScanError Scanner

namespace Scanner

/-- The scanner in front of a text, before its first token is found. -/
def ofText (lexicon : Lexicon) (endToken : Token) (text : List Char) : Scanner where
  lexicon
  endToken
  cursor := .ofText text
  current := endToken
  span := .emptyAt 0

/-- Whether the current token is the one that marks the end of the text. -/
def atEnd (scanner : Scanner) : Bool := scanner.current == scanner.endToken

/-- Finds the next token. At the end of the text that is the end mark. When the scan fails, the
current token stays, but the text passed over is not looked at again. -/
def next : ScanM Unit := fun scanner =>
  match scanner.lexicon.scan scanner.cursor with
  | .token token span cursor => .ok () { scanner with cursor, current := token, span }
  | .finish cursor =>
    .ok () { scanner with cursor, current := scanner.endToken, span := .emptyAt cursor.pos }
  | .failure error cursor => .error error { scanner with cursor }

/-- Takes the current token and finds the next one. -/
def advance : ScanM Token := fun scanner =>
  match next scanner with
  | .ok _ after => .ok scanner.current after
  | .error error after => .error error after

/-- The scanner at the first token of a text. -/
def start (lexicon : Lexicon) (endToken : Token) (text : List Char) : Except ScanError Scanner :=
  match next (ofText lexicon endToken text) with
  | .ok _ scanner => .ok scanner
  | .error error _ => .error error

/-- How much there is still to take. Only at the end of the text, with the end mark in front,
there is nothing. -/
def pending (scanner : Scanner) : Nat :=
  2 * scanner.cursor.rest.length + (!scanner.atEnd).toNat

theorem pending_eq_zero {scanner : Scanner} :
    scanner.pending = 0 ↔ scanner.cursor.rest = [] ∧ scanner.atEnd = true := by
  rw [← List.length_eq_zero_iff]
  unfold pending
  cases scanner.atEnd
  · simp
  · simp only [Bool.not_true, Bool.toNat_false, and_true]
    omega

theorem pending_lt_of_length_lt {first second : Scanner}
    (shorter : first.cursor.rest.length < second.cursor.rest.length) :
    first.pending < second.pending := by
  have bound := Bool.toNat_le (!first.atEnd)
  unfold pending
  omega

/-- Finding the next token leaves less to take, unless there was nothing. -/
theorem next_pending {scanner after : Scanner} (found : next scanner = .ok () after) :
    after.pending < scanner.pending ∨ scanner.pending = 0 ∧ after.pending = 0 := by
  unfold next at found
  split at found
  · next scanned =>
    cases found
    exact Or.inl (pending_lt_of_length_lt (Lexicon.scan_token_length_lt scanned))
  · next scanned =>
    have rest := Lexicon.scan_finish_rest scanned
    have zero : after.pending = 0 := by
      obtain ⟨_, same⟩ := EStateM.Result.ok.inj found
      exact pending_eq_zero.mpr ⟨same ▸ rest, by simp [← same, atEnd]⟩
    omega
  · cases found

theorem next_pending_le {scanner after : Scanner} (found : next scanner = .ok () after) :
    after.pending ≤ scanner.pending := by
  rcases next_pending found with less | ⟨nothing, still⟩
  · exact Nat.le_of_lt less
  · exact Nat.le_of_eq (still.trans nothing.symm)

/-- Taking a token leaves less to take, unless there was nothing. -/
theorem advance_pending {scanner after : Scanner} {token : Token}
    (taken : advance scanner = .ok token after) :
    after.pending < scanner.pending ∨ scanner.pending = 0 ∧ after.pending = 0 := by
  unfold advance at taken
  split at taken
  · next found =>
    cases taken
    exact next_pending found
  · cases taken

end Scanner

end Precedence
