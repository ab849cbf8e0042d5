import Precedence.Proofs.Arithmetic.Words
import Precedence.Proofs.Regex.Captures
import Precedence.Proofs.Scanner.Tokens

namespace Precedence

namespace Arithmetic

open Grammar (arithmeticLexicon)

/-- The tokens of a text of arithmetic that lies at byte `pos`, without patterns: blanks are
dropped, names and numbers are taken as far as they go, and every symbol stands for itself. -/
def lex (pos : Nat) : List Char → Except ScanError (List Token)
  | [] => .ok []
  | c :: rest =>
    if isBlank c then lex (pos + c.utf8Size) rest
    else if isNameStart c then
      let name := c :: rest.takeWhile isNamePart
      (lex (pos + byteLength name) (rest.dropWhile isNamePart)).map
        (⟨"ident", String.ofList name⟩ :: ·)
    else if c.isDigit then
      let number := c :: rest.takeWhile Char.isDigit
      (lex (pos + byteLength number) (rest.dropWhile Char.isDigit)).map
        (⟨"num", String.ofList number⟩ :: ·)
    else if isSymbol c then
      (lex (pos + c.utf8Size) rest).map (⟨"op", String.ofList [c]⟩ :: ·)
    else .error (.unrecognized c pos)
termination_by text => text.length
decreasing_by
  · exact Nat.lt_succ_self _
  · exact Nat.lt_succ_of_le (List.dropWhile_suffix _).length_le
  · exact Nat.lt_succ_of_le (List.dropWhile_suffix _).length_le
  · exact Nat.lt_succ_self _

/-- Whether a character occurs in the words of arithmetic or between them. -/
def isKnown (c : Char) : Bool := isBlank c || isNamePart c || isSymbol c

/-- A character that begins no word and is no blank is not matched. -/
theorem match?_of_unknown {c : Char} {rest : List Char} (blank : isBlank c = false)
    (name : isNameStart c = false) (digit : c.isDigit = false) (symbol : isSymbol c = false) :
    arithmeticLexicon.match? (c :: rest) = none := by
  have live := @live_start c rest
  simp only [blank, name, digit, symbol, Bool.false_eq_true, if_false, List.append_nil] at live
  have whole : program.run 0 none none [⟨18, .start⟩] (c :: rest) = none := by
    rw [Program.run, live, ending?_start]
    rfl
  have missed : program.search? (c :: rest) = none := by
    unfold Program.search? Program.searchFrom?
    rw [show program.start = 18 from rfl, whole]
    exact @Program.searchFrom?_of_textStart program 17 1 c rest rfl
  unfold Lexicon.match?
  rw [lexicon_program, missed]
  rfl

theorem tokens_of_run {c : Char} {rest : List Char} {kind : String} {pos : Nat}
    (chars : Char → Bool) (matched : arithmeticLexicon.match? (c :: rest) =
      some ⟨byteLength (c :: rest.takeWhile chars),
        some (kind, String.ofList (c :: rest.takeWhile chars))⟩) :
    (arithmeticLexicon.stream ⟨c :: rest, pos⟩).tokens =
      (arithmeticLexicon.stream ⟨rest.dropWhile chars,
        pos + byteLength (c :: rest.takeWhile chars)⟩).tokens.map
          (⟨kind, String.ofList (c :: rest.takeWhile chars)⟩ :: ·) := by
  have whole : (c :: rest.takeWhile chars) ++ rest.dropWhile chars = c :: rest := by
    rw [List.cons_append, List.takeWhile_append_dropWhile]
  rw [← whole] at matched
  rw [← whole, Lexicon.stream_of_word (List.cons_ne_nil _ _) matched, TokenStream.tokens]

/-- The tokens that the pattern of arithmetic finds are those that are found by hand. -/
theorem stream_tokens (pos : Nat) (text : List Char) :
    (arithmeticLexicon.stream ⟨text, pos⟩).tokens = lex pos text := by
  fun_induction lex pos text with
  | case1 pos =>
    rw [Lexicon.stream_eq, Lexicon.scan_of_rest_eq_nil rfl]
    rfl
  | case2 pos c rest blank ih =>
    have skips : arithmeticLexicon.scan ⟨c :: rest, pos⟩ =
        arithmeticLexicon.scan ⟨rest, pos + c.utf8Size⟩ := by
      simpa using @scan_blanks [c] rest pos (by simpa using blank)
    rw [← ih, Lexicon.stream_eq, @Lexicon.stream_eq _ ⟨rest, _⟩, skips]
  | case3 pos c rest blank first name ih =>
    rw [← ih]
    exact tokens_of_run isNamePart (match?_name first)
  | case4 pos c rest blank name first number ih =>
    rw [← ih]
    exact tokens_of_run Char.isDigit (match?_number first)
  | case5 pos c rest blank name digit symbol ih =>
    have found := @Lexicon.stream_of_word _ [c] rest pos _ _ (by simp) (match?_symbol symbol)
    rw [← ih, ← List.singleton_append, found]
    rfl
  | case6 pos c rest blank name digit symbol =>
    have missed := @match?_of_unknown c rest (Bool.eq_false_iff.mpr blank)
      (Bool.eq_false_iff.mpr name) (Bool.eq_false_iff.mpr digit) (Bool.eq_false_iff.mpr symbol)
    rw [Lexicon.stream_eq, Lexicon.scan_of_unmatched missed]
    rfl

/-- Whether an error is about the first character that is not known of a text at byte `pos`. -/
def IsFirstUnknown (pos : Nat) (text : List Char) (error : ScanError) : Prop :=
  ∃ before c after, text = before ++ c :: after ∧ before.all isKnown = true ∧
    isKnown c = false ∧ error = .unrecognized c (pos + byteLength before)

section
variable {pos : Nat} {c : Char} {front rest : List Char} {error : ScanError}

theorem isFirstUnknown_cons (known : isKnown c = true) :
    IsFirstUnknown pos (c :: rest) error ↔ IsFirstUnknown (pos + c.utf8Size) rest error := by
  refine ⟨fun ⟨before, d, after, split, all, unknown, same⟩ => ?_,
    fun ⟨before, d, after, split, all, unknown, same⟩ => ?_⟩
  · cases before with
    | nil =>
      obtain ⟨rfl, _⟩ := List.cons.inj split
      cases known.symm.trans unknown
    | cons first before =>
      obtain ⟨rfl, behind⟩ := List.cons.inj split
      rw [List.all_cons, Bool.and_eq_true] at all
      rw [byteLength_cons, ← Nat.add_assoc] at same
      exact ⟨before, d, after, behind, all.2, unknown, same⟩
  · refine ⟨c :: before, d, after, by rw [split, List.cons_append], ?_, unknown, ?_⟩
    · rw [List.all_cons, known, all, Bool.and_self]
    · rw [same, byteLength_cons, Nat.add_assoc]

theorem isFirstUnknown_append (known : front.all isKnown = true) :
    IsFirstUnknown pos (front ++ rest) error ↔
      IsFirstUnknown (pos + byteLength front) rest error := by
  induction front generalizing pos with
  | nil => rfl
  | cons c front ih =>
    obtain ⟨here, later⟩ := Bool.and_eq_true_iff.mp known
    rw [List.cons_append, isFirstUnknown_cons here, ih later, byteLength_cons, Nat.add_assoc]

theorem isFirstUnknown_run {chars : Char → Bool} (first : isKnown c = true)
    (others : ∀ d, chars d = true → isKnown d = true) :
    IsFirstUnknown pos (c :: rest) error ↔
      IsFirstUnknown (pos + byteLength (c :: rest.takeWhile chars)) (rest.dropWhile chars)
        error := by
  have known : (c :: rest.takeWhile chars).all isKnown = true := by
    rw [List.all_cons, first, Bool.true_and, List.all_eq_true]
    exact fun d member => others d (List.all_eq_true.mp List.all_takeWhile d member)
  rw [← isFirstUnknown_append known, List.cons_append, List.takeWhile_append_dropWhile]

theorem map_eq_error_iff {α β : Type} {change : α → β} {result : Except ScanError α} :
    result.map change = .error error ↔ result = .error error := by
  cases result <;> simp [Except.map]

end

/-- Reading by hand fails at the first character that is not known, and nowhere else. -/
theorem lex_eq_error_iff (pos : Nat) (text : List Char) (error : ScanError) :
    lex pos text = .error error ↔ IsFirstUnknown pos text error := by
  fun_induction lex pos text with
  | case1 pos => simp [IsFirstUnknown]
  | case2 pos c rest blank ih =>
    rw [ih, isFirstUnknown_cons (by simp [isKnown, blank])]
  | case3 pos c rest blank first name ih =>
    have known : isKnown c = true := by simp [isKnown, isNamePart_eq, first]
    rw [map_eq_error_iff, ih]
    exact (isFirstUnknown_run known fun d part => by simp [isKnown, part]).symm
  | case4 pos c rest blank name first number ih =>
    have known : ∀ d, Char.isDigit d = true → isKnown d = true :=
      fun d digit => by simp [isKnown, isNamePart_eq, digit]
    rw [map_eq_error_iff, ih]
    exact (isFirstUnknown_run (known c first) known).symm
  | case5 pos c rest blank name digit symbol ih =>
    rw [map_eq_error_iff, ih, isFirstUnknown_cons (by simp [isKnown, symbol])]
  | case6 pos c rest blank name digit symbol =>
    have unknown : isKnown c = false := by simp [isKnown, isNamePart_eq, blank, name, digit, symbol]
    refine ⟨fun same => ?_, fun ⟨before, d, after, split, all, _, same⟩ => ?_⟩
    · obtain rfl := Except.error.inj same
      exact ⟨[], c, rest, rfl, rfl, unknown, rfl⟩
    · cases before with
      | nil =>
        obtain ⟨rfl, _⟩ := List.cons.inj split
        rw [same]
        rfl
      | cons first before =>
        obtain ⟨rfl, _⟩ := List.cons.inj split
        cases unknown.symm.trans (Bool.and_eq_true_iff.mp all).1

/-- Splitting a text of arithmetic into tokens is reading it by hand. It fails exactly if the text
holds a character that is not known, and then at the first of them. -/
theorem tokenize_eq_lex (text : List Char) :
    (Grammar.arithmetic.tokenize text).1 = lex 0 text ∧
      ((∃ error, (Grammar.arithmetic.tokenize text).1 = .error error) ↔
        ∃ c ∈ text, isKnown c = false) ∧
      ∀ error, (Grammar.arithmetic.tokenize text).1 = .error error ↔
        ∃ before c after, text = before ++ c :: after ∧ before.all isKnown = true ∧
          isKnown c = false ∧ error = .unrecognized c (byteLength before) := by
  have same : (Grammar.arithmetic.tokenize text).1 = lex 0 text := by
    rw [Grammar.tokenize_eq (by decide +kernel)]
    exact stream_tokens 0 text
  have fails : ∀ error, (Grammar.arithmetic.tokenize text).1 = .error error ↔
      IsFirstUnknown 0 text error := by
    intro error
    rw [same, lex_eq_error_iff]
  refine ⟨same, ⟨?_, ?_⟩, fun error => ?_⟩
  · rintro ⟨error, failed⟩
    obtain ⟨before, c, after, rfl, _, unknown, _⟩ := (fails error).mp failed
    exact ⟨c, by simp, unknown⟩
  · rintro ⟨c, member, unknown⟩
    have someUnknown : (text.find? (!isKnown ·)).isSome = true :=
      List.find?_isSome.mpr ⟨c, member, by simp [unknown]⟩
    obtain ⟨d, found⟩ := Option.isSome_iff_exists.mp someUnknown
    obtain ⟨notKnown, before, after, split, all⟩ := List.find?_eq_some_iff_append.mp found
    refine ⟨_, (fails _).mpr ⟨before, d, after, split, ?_, by simpa using notKnown, rfl⟩⟩
    simpa using all
  · rw [fails, IsFirstUnknown]
    simp only [Nat.zero_add]

end Arithmetic

end Precedence
