import Mathlib.Data.List.Chain
import Precedence.Proofs.Arithmetic.Lexicon
import Precedence.Proofs.Scanner.Scan
import Precedence.Proofs.Scanner.Takes

namespace Precedence

/-- Whether of two tokens side by side one at least is an operator. -/
def Grammar.Apart (grammar : Grammar) (first second : Token) : Prop :=
  grammar.isOperator first = true ∨ grammar.isOperator second = true

namespace Arithmetic

open Grammar (arithmeticLexicon)

/-- Whether a text is not empty, begins with one kind of character and goes on with another. -/
def isRun (first part : Char → Bool) (text : List Char) : Bool :=
  match text with
  | [] => false
  | c :: rest => first c && rest.all part

def isName (value : String) : Bool := isRun isNameStart isNamePart value.toList

def isNumber (value : String) : Bool := isRun Char.isDigit Char.isDigit value.toList

/-- The tokens that texts of arithmetic are made of. -/
inductive IsWord : Token → Prop
  | name {value} : isName value = true → IsWord ⟨"ident", value⟩
  | number {value} : isNumber value = true → IsWord ⟨"num", value⟩
  | symbol {c} : isSymbol c = true → IsWord ⟨"op", String.ofList [c]⟩

/-- Texts that consist of given pieces, with any blanks in front of them, between and behind. -/
inductive Spells : List String → List Char → Prop
  | nil {blanks} : blanks.all isBlank = true → Spells [] blanks
  | cons {blanks piece pieces rest} : blanks.all isBlank = true → Spells pieces rest →
      Spells (piece :: pieces) (blanks ++ (piece.toList ++ rest))

theorem isNamePart_of_isBlank {c : Char} (blank : isBlank c = true) : isNamePart c = false := by
  have range := isBlank_iff.mp blank
  rw [← Bool.not_eq_true, isNamePart_iff]
  omega

theorem isNamePart_of_isSymbol {c : Char} (symbol : isSymbol c = true) : isNamePart c = false := by
  have range := isSymbol_iff.mp symbol
  rw [← Bool.not_eq_true, isNamePart_iff]
  omega

/-- A run of characters ends in front of one that does not belong to it. -/
theorem takeWhile_append_of_head {chars : Char → Bool} {front rest : List Char}
    (all : front.all chars = true) (ends : ∀ c ∈ rest.head?, chars c = false) :
    (front ++ rest).takeWhile chars = front := by
  rw [List.takeWhile_append_of_pos (List.all_eq_true.mp all)]
  cases rest with
  | nil => simp
  | cons c rest => simp [ends c rfl]

theorem exists_cons_of_isRun {first part : Char → Bool} {text : List Char}
    (run : isRun first part text = true) :
    ∃ c rest, text = c :: rest ∧ first c = true ∧ rest.all part = true := by
  unfold isRun at run
  split at run
  · cases run
  · next c rest =>
    obtain ⟨begins, goesOn⟩ := Bool.and_eq_true_iff.mp run
    exact ⟨c, rest, rfl, begins, goesOn⟩

/-- A word is found as a token, unless the text behind it goes on with it. -/
theorem scan_word {token : Token} {rest : List Char} {pos : Nat} (word : IsWord token)
    (ends : token.kind ≠ "op" → ∀ c ∈ rest.head?, isNamePart c = false) :
    arithmeticLexicon.scan ⟨token.value.toList ++ rest, pos⟩ =
      .token token ⟨pos, pos + byteLength token.value.toList⟩
        ⟨rest, pos + byteLength token.value.toList⟩ := by
  cases word with
  | @name value valid =>
    obtain ⟨c, part, same, first, all⟩ := exists_cons_of_isRun valid
    have run := takeWhile_append_of_head all (ends (by simp))
    have matched := @match?_name c (part ++ rest) first
    rw [run, ← same, ← List.cons_append, ← same, String.ofList_toList] at matched
    exact Lexicon.scan_of_word (by simp [same]) matched
  | @number value valid =>
    obtain ⟨c, part, same, first, all⟩ := exists_cons_of_isRun valid
    have stops : ∀ d ∈ rest.head?, d.isDigit = false := by
      intro d head
      have noPart := ends (by simp) d head
      rw [isNamePart_eq, Bool.or_eq_false_iff] at noPart
      exact noPart.2
    have run := takeWhile_append_of_head all stops
    have matched := @match?_number c (part ++ rest) first
    rw [run, ← same, ← List.cons_append, ← same, String.ofList_toList] at matched
    exact Lexicon.scan_of_word (by simp [same]) matched
  | @symbol c valid =>
    have matched := @match?_symbol c rest valid
    rw [String.toList_ofList]
    exact @Lexicon.scan_of_word _ [c] rest pos _ _ (by simp) matched

theorem scan_dropWhile {text : List Char} {pos : Nat} :
    arithmeticLexicon.scan ⟨text, pos⟩ =
      arithmeticLexicon.scan
        ⟨text.dropWhile isBlank, pos + byteLength (text.takeWhile isBlank)⟩ := by
  cases text with
  | nil => rfl
  | cons c rest =>
    by_cases blank : isBlank c = true
    · have whole : c :: rest.takeWhile isBlank ++ rest.dropWhile isBlank = c :: rest := by
        rw [List.cons_append, List.takeWhile_append_dropWhile]
      have matched := @match?_blank c rest blank
      rw [← whole] at matched
      have skips := @Lexicon.scan_of_skipped _ (c :: rest.takeWhile isBlank)
        (rest.dropWhile isBlank) pos (by simp) matched
      rw [whole] at skips
      rw [List.takeWhile_cons_of_pos blank, List.dropWhile_cons_of_pos blank]
      exact skips
    · rw [List.dropWhile_cons_of_neg blank, List.takeWhile_cons_of_neg blank]
      rfl

/-- Blanks are passed over. -/
theorem scan_blanks {blanks rest : List Char} {pos : Nat} (all : blanks.all isBlank = true) :
    arithmeticLexicon.scan ⟨blanks ++ rest, pos⟩ =
      arithmeticLexicon.scan ⟨rest, pos + byteLength blanks⟩ := by
  have each := List.all_eq_true.mp all
  rw [scan_dropWhile, @scan_dropWhile rest, List.takeWhile_append_of_pos each,
    List.dropWhile_append_of_pos each, byteLength_append, Nat.add_assoc]

/-- No word goes on with a text that begins with blanks or with a symbol. -/
theorem Spells.head_of_symbol {tokens : List Token} {text : List Char}
    (spells : Spells (tokens.map Token.value) text) (words : ∀ token ∈ tokens, IsWord token)
    (symbol : ∀ token ∈ tokens.head?, token.kind = "op") :
    ∀ c ∈ text.head?, isNamePart c = false := by
  have blankFirst : ∀ {blanks rest : List Char}, blanks.all isBlank = true →
      (∀ c ∈ rest.head?, isNamePart c = false) →
      ∀ c ∈ (blanks ++ rest).head?, isNamePart c = false := by
    intro blanks rest all others c head
    cases blanks with
    | nil => exact others c head
    | cons blank blanks =>
      obtain rfl : blank = c := by simpa using head
      exact isNamePart_of_isBlank (List.all_eq_true.mp all _ (List.mem_cons_self ..))
  cases tokens with
  | nil =>
    cases spells with
    | nil all => simpa using @blankFirst text [] all (by simp)
  | cons token tokens =>
    cases spells with
    | @cons blanks _ _ rest all later =>
      refine blankFirst all fun c head => ?_
      have kind := symbol token rfl
      cases words token (List.mem_cons_self ..) with
      | name _ => simp at kind
      | number _ => simp at kind
      | @symbol d valid =>
        obtain rfl : d = c := by simpa using head
        exact isNamePart_of_isSymbol valid

/-- A word ends where the words of other tokens begin, if one of the two is an operator. -/
theorem Spells.ends_word {token : Token} {tokens : List Token} {text : List Char}
    (spells : Spells (tokens.map Token.value) text) (words : ∀ token ∈ tokens, IsWord token)
    (beside : ∀ next ∈ tokens.head?, Grammar.arithmetic.Apart token next) :
    token.kind ≠ "op" → ∀ c ∈ text.head?, isNamePart c = false := by
  intro noSymbol
  refine spells.head_of_symbol words fun next head => ?_
  rcases beside next head with symbol | symbol
  · exact absurd (eq_of_beq symbol) noSymbol
  · exact eq_of_beq symbol

/-- A text that spells tokens is split into just these tokens. -/
theorem takes_of_spells {tokens : List Token} {scanner : Scanner}
    (lexicon : scanner.lexicon = arithmeticLexicon)
    (spells : Spells (tokens.map Token.value) scanner.cursor.rest)
    (words : ∀ token ∈ tokens, IsWord token) (apart : tokens.IsChain Grammar.arithmetic.Apart) :
    ∃ first last, Scanner.next scanner = .ok () first ∧ first.Takes tokens last ∧
      last.current = scanner.endToken := by
  induction tokens generalizing scanner with
  | nil =>
    generalize whole : scanner.cursor.rest = text at spells
    cases spells with
    | nil all =>
      have done : arithmeticLexicon.scan ⟨[], scanner.cursor.pos + byteLength text⟩ =
          .finish ⟨[], scanner.cursor.pos + byteLength text⟩ := Lexicon.scan_of_rest_eq_nil rfl
      have skips := @scan_blanks text [] scanner.cursor.pos all
      rw [List.append_nil, done, ← whole, ← lexicon] at skips
      exact ⟨_, _, @Scanner.next_of_finish scanner _ skips, .nil, rfl⟩
  | cons token tokens ih =>
    generalize whole : scanner.cursor.rest = text at spells
    cases spells with
    | @cons blanks _ _ rest all later =>
      obtain ⟨beside, apart⟩ := List.isChain_cons.mp apart
      have others : ∀ token ∈ tokens, IsWord token :=
        fun other member => words other (List.mem_cons_of_mem _ member)
      have word := words token (List.mem_cons_self ..)
      have skips := @scan_blanks blanks (token.value.toList ++ rest) scanner.cursor.pos all
      rw [scan_word word (later.ends_word others beside), ← whole, ← lexicon] at skips
      have found := @Scanner.next_of_token scanner _ _ _ skips
      obtain ⟨second, last, goesOn, takes, ended⟩ := @ih
        { scanner with cursor := ⟨rest, _⟩, current := token, span := _ } lexicon later others apart
      exact ⟨_, last, found, .cons goesOn takes, ended⟩

end Arithmetic

end Precedence
