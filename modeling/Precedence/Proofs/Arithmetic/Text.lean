import Precedence.Proofs.Arithmetic.Spelling
import Precedence.Proofs.Expr.Text

namespace Precedence

namespace Arithmetic

theorem isInner_of_isNamePart {c : Char} (part : isNamePart c = true) : isInner c = true := by
  rw [isNamePart_iff] at part
  simp only [isInner, Bool.and_eq_true, bne_iff_ne, ne_eq]
  refine ⟨⟨?_, ?_⟩, ?_⟩ <;> rintro rfl <;> simp at part

theorem isPlain_of_isRun {first part : Char → Bool} {word : String}
    (run : isRun first part word.toList = true) (begins : ∀ c, first c = true → isNamePart c = true)
    (goesOn : ∀ c, part c = true → isNamePart c = true) : isPlain word = true := by
  obtain ⟨c, rest, letters, head, tail⟩ := exists_cons_of_isRun run
  have inner : rest.all isInner = true := List.all_eq_true.mpr fun d member =>
    isInner_of_isNamePart (goesOn d (List.all_eq_true.mp tail d member))
  rw [isPlain, letters, List.all_cons, isInner_of_isNamePart (begins c head), inner]
  rfl

theorem isPlain_of_isName {value : String} (name : isName value = true) : isPlain value = true :=
  isPlain_of_isRun name (fun c start => by rw [isNamePart_eq, start, Bool.true_or])
    fun _ part => part

theorem isPlain_of_isNumber {value : String} (number : isNumber value = true) :
    isPlain value = true := by
  have digits : ∀ c, Char.isDigit c = true → isNamePart c = true :=
    fun c digit => by rw [isNamePart_eq, digit, Bool.or_true]
  exact isPlain_of_isRun number digits digits

/-- A name does not begin with a digit. -/
theorem not_isNumber_of_isName {value : String} (name : isName value = true) :
    isNumber value = false := by
  obtain ⟨c, rest, letters, start, _⟩ := exists_cons_of_isRun name
  have letter := isNameStart_iff.mp start
  rw [← Bool.not_eq_true]
  intro number
  obtain ⟨d, more, letters', digit, _⟩ := exists_cons_of_isRun number
  obtain rfl : c = d := (List.cons.inj (letters.symm.trans letters')).1
  have range := isDigit_iff.mp digit
  omega

end Arithmetic

open Arithmetic
open Grammar (arithmetic)

namespace Expr

variable {expr first second : Expr}

theorem hasPlainWords_of_isArithmetic (known : expr.isArithmetic = true) :
    expr.hasPlainWords = true := by
  induction expr with
  | term kind value =>
    simp only [isArithmetic, Bool.or_eq_true, Bool.and_eq_true] at known
    rcases known with ⟨_, name⟩ | ⟨_, number⟩
    · exact isPlain_of_isName name
    · exact isPlain_of_isNumber number
  | unary tag arg ih =>
    simp only [isArithmetic, Bool.and_eq_true, List.contains_iff_mem] at known
    have tags : ∀ tag ∈ ["neg", "pos", "fact"], isPlain tag = true := by decide +kernel
    rw [hasPlainWords, tags tag known.1, ih known.2]
    rfl
  | binary tag lhs rhs left right =>
    simp only [isArithmetic, Bool.and_eq_true, List.contains_iff_mem] at known
    have tags : ∀ tag ∈ ["add", "sub", "mul", "div", "pow"], isPlain tag = true := by
      decide +kernel
    rw [hasPlainWords, tags tag known.1.1, left known.1.2, right known.2]
    rfl

/-- In arithmetic the text of a term tells its kind. -/
theorem eq_of_withoutKinds_eq (known : first.isArithmetic = true)
    (known' : second.isArithmetic = true) (same : first.withoutKinds = second.withoutKinds) :
    first = second := by
  induction first generalizing second with
  | term kind value =>
    cases second with
    | term other text =>
      obtain rfl : value = text := (term.inj same).2
      simp only [isArithmetic, Bool.or_eq_true, Bool.and_eq_true, beq_iff_eq] at known known'
      rcases known with ⟨rfl, name⟩ | ⟨rfl, number⟩
      · rcases known' with ⟨rfl, _⟩ | ⟨_, number⟩
        · rfl
        · cases (not_isNumber_of_isName name).symm.trans number
      · rcases known' with ⟨_, name⟩ | ⟨rfl, _⟩
        · cases (not_isNumber_of_isName name).symm.trans number
        · rfl
    | unary tag arg => cases same
    | binary tag lhs rhs => cases same
  | unary tag arg ih =>
    cases second with
    | term kind value => cases same
    | unary tag' arg' =>
      obtain ⟨rfl, args⟩ := unary.inj same
      rw [ih (Bool.and_eq_true_iff.mp known).2 (Bool.and_eq_true_iff.mp known').2 args]
    | binary tag' lhs rhs => cases same
  | binary tag lhs rhs left right =>
    cases second with
    | term kind value => cases same
    | unary tag' arg => cases same
    | binary tag' lhs' rhs' =>
      obtain ⟨rfl, lefts, rights⟩ := binary.inj same
      simp only [isArithmetic, Bool.and_eq_true] at known known'
      rw [left known.1.2 known'.1.2 lefts, right known.2 known'.2 rights]

end Expr

namespace Grammar

variable {token : Token}

theorem exists_operator_of_leading? {grammar : Grammar} {leading : Leading}
    (role : grammar.leading? token = some leading) :
    ∃ operator ∈ grammar.operators.list, operator.roles.leading? = some leading := by
  rw [leading?, if_pos (isOperator_of_leading? role)] at role
  obtain ⟨operator, found, gives⟩ := Option.bind_eq_some_iff.mp role
  exact ⟨operator, List.mem_of_find?_eq_some found, gives⟩

theorem exists_operator_of_trailing? {grammar : Grammar} {trailing : Trailing}
    (role : grammar.trailing? token = some trailing) :
    ∃ operator ∈ grammar.operators.list, operator.roles.trailing? = some trailing := by
  rw [trailing?, if_pos (isOperator_of_trailing? role)] at role
  obtain ⟨operator, found, gives⟩ := Option.bind_eq_some_iff.mp role
  exact ⟨operator, List.mem_of_find?_eq_some found, gives⟩

theorem prefixed_tag_mem {tag : String} {power : Power}
    (role : arithmetic.leading? token = some (.prefixed tag power)) : tag ∈ ["neg", "pos"] := by
  have tags : ∀ operator ∈ Operators.arithmetic.list,
      ∀ tag ∈ operator.roles.leading?.bind Leading.tag?, tag ∈ ["neg", "pos"] := by
    decide +kernel
  obtain ⟨operator, known, gives⟩ := exists_operator_of_leading? role
  exact tags operator known tag (by rw [gives]; rfl)

theorem trailing_tag_mem {trailing : Trailing}
    (role : arithmetic.trailing? token = some trailing) :
    trailing.tag ∈ if trailing.role = .infixed then ["add", "sub", "mul", "div", "pow"]
      else ["fact"] := by
  have tags : ∀ operator ∈ Operators.arithmetic.list, ∀ trailing ∈ operator.roles.trailing?,
      trailing.tag ∈ if trailing.role = .infixed then ["add", "sub", "mul", "div", "pow"]
        else ["fact"] := by
    decide +kernel
  obtain ⟨operator, known, gives⟩ := exists_operator_of_trailing? role
  exact tags operator known trailing gives

end Grammar

/-- What is read from words of arithmetic is an expression of arithmetic. -/
theorem Derivation.isArithmetic_expr {derivation : Derivation arithmetic}
    (words : ∀ token ∈ derivation.tokens, IsWord token) : derivation.expr.isArithmetic = true := by
  induction derivation with
  | term token isTerm =>
    cases words token (List.mem_singleton_self token) with
    | name valid => simp [expr, Expr.isArithmetic, valid]
    | number valid => simp [expr, Expr.isArithmetic, valid]
    | symbol _ => cases isTerm
  | prefixed token tag power notTerm role arg ih =>
    have operand := ih fun other member => words other (List.mem_cons_of_mem _ member)
    have known : tag ∈ ["neg", "pos", "fact"] :=
      List.mem_append_left ["fact"] (Grammar.prefixed_tag_mem role)
    rw [expr, Expr.isArithmetic, List.contains_iff_mem.mpr known, operand]
    rfl
  | group token closing inner notTerm role body ih =>
    exact ih fun other member =>
      words other (List.mem_cons_of_mem _ (List.mem_append_left _ member))
  | infixed lhs token tag assoc power role rhs left right =>
    have first := left fun other member => words other (List.mem_append_left _ member)
    have second := right fun other member =>
      words other (List.mem_append_right _ (List.mem_cons_of_mem _ member))
    have joint : tag ∈ ["add", "sub", "mul", "div", "pow"] := Grammar.trailing_tag_mem role
    rw [expr, Expr.isArithmetic, List.contains_iff_mem.mpr joint, first, second]
    rfl
  | postfixed lhs token tag power role ih =>
    have operand := ih fun other member => words other (List.mem_append_left _ member)
    have only : tag ∈ ["fact"] := Grammar.trailing_tag_mem role
    obtain rfl := List.mem_singleton.mp only
    rw [expr, Expr.isArithmetic, operand]
    rfl

theorem Grammar.isArithmetic_of_parse {source : List Char} {expr : Expr}
    (parsed : arithmetic.parse source = .ok expr) : expr.isArithmetic = true := by
  obtain ⟨derivation, covers, rfl, _⟩ :=
    @Derivation.exists_covers arithmetic source arithmetic.maxDepth expr parsed
  exact derivation.isArithmetic_expr covers.spelt.words

namespace Expr

/-- The written form of expressions is unambiguous, if all tags and texts of terms are words: it
tells everything but the kinds of terms. Of what was read as arithmetic it tells the kinds too. -/
theorem text_tells_expression :
    (∀ first second : Expr, first.hasPlainWords = true → second.hasPlainWords = true →
      (first.text = second.text ↔ first.withoutKinds = second.withoutKinds)) ∧
    ∀ source other first second, arithmetic.parse source = .ok first →
      arithmetic.parse other = .ok second → first.text = second.text → first = second := by
  refine ⟨fun first second plain plain' => text_eq_iff_withoutKinds_eq plain plain', ?_⟩
  intro source other first second parsed parsed' same
  have known := Grammar.isArithmetic_of_parse parsed
  have known' := Grammar.isArithmetic_of_parse parsed'
  have alike := (text_eq_iff_withoutKinds_eq (hasPlainWords_of_isArithmetic known)
    (hasPlainWords_of_isArithmetic known')).mp same
  exact eq_of_withoutKinds_eq known known' alike

theorem signed_sum_told :
    (binary "add" (term "ident" "a") (unary "neg" (term "num" "1"))).hasPlainWords = true ∧
    (binary "add" (term "x" "a") (unary "neg" (term "y" "1"))).hasPlainWords = true ∧
    ((binary "add" (term "ident" "a") (unary "neg" (term "num" "1"))).text =
        (binary "add" (term "x" "a") (unary "neg" (term "y" "1"))).text ↔
      (binary "add" (term "ident" "a") (unary "neg" (term "num" "1"))).withoutKinds =
        (binary "add" (term "x" "a") (unary "neg" (term "y" "1"))).withoutKinds) ∧
    ∃ first second, arithmetic.parse "a+-1".toList = .ok first ∧
      arithmetic.parse "(a) + (-1)".toList = .ok second ∧
      first.text = "(add a (neg 1))" ∧ second.text = "(add a (neg 1))" ∧ first = second := by
  have plain : (binary "add" (term "ident" "a") (unary "neg" (term "num" "1"))).hasPlainWords =
      true := by decide +kernel
  have other : (binary "add" (term "x" "a") (unary "neg" (term "y" "1"))).hasPlainWords =
      true := by decide +kernel
  have parsed : arithmetic.parse "a+-1".toList =
      .ok (binary "add" (term "ident" "a") (unary "neg" (term "num" "1"))) := by decide +kernel
  have parsed' : arithmetic.parse "(a) + (-1)".toList =
      .ok (binary "add" (term "ident" "a") (unary "neg" (term "num" "1"))) := by decide +kernel
  exact ⟨plain, other, text_tells_expression.1 _ _ plain other, _, _, parsed, parsed',
    by decide +kernel, by decide +kernel, text_tells_expression.2 _ _ _ _ parsed parsed' rfl⟩

end Expr

end Precedence
