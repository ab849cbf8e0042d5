import Precedence.Expr.Basic
import Precedence.Proofs.Arithmetic.Words

namespace Precedence

/-- Whether a character may stand inside the words of a written expression. The others part the
words. -/
def isInner (c : Char) : Bool := c != ' ' && c != '(' && c != ')'

/-- Whether a text is one word of a written expression. -/
def isPlain (word : String) : Bool := !word.toList.isEmpty && word.toList.all isInner

/-- Whether no word goes on with a text. -/
def Parted (text : List Char) : Prop := ∀ c ∈ text.head?, isInner c = false

theorem parted_cons {c : Char} {rest : List Char} (parts : isInner c = false) :
    Parted (c :: rest) := by
  rintro _ ⟨⟩
  exact parts

theorem exists_cons_of_isPlain {word : String} (plain : isPlain word = true) :
    ∃ c rest, word.toList = c :: rest ∧ isInner c = true := by
  unfold isPlain at plain
  cases letters : word.toList with
  | nil => simp [letters] at plain
  | cons c rest =>
    rw [letters, List.all_cons] at plain
    exact ⟨c, rest, rfl, by simp_all⟩

/-- A word is as long as it can be, in front of a text that does not go on with it. -/
theorem word_eq_of_append {word other : String} {rest more : List Char}
    (plain : isPlain word = true) (plain' : isPlain other = true) (parted : Parted rest)
    (parted' : Parted more) (same : word.toList ++ rest = other.toList ++ more) :
    word = other ∧ rest = more := by
  have longest := Arithmetic.takeWhile_append_of_head (Bool.and_eq_true_iff.mp plain).2 parted
  have longest' := Arithmetic.takeWhile_append_of_head (Bool.and_eq_true_iff.mp plain').2 parted'
  have words : word.toList = other.toList := by rw [← longest, same, longest']
  rw [words] at same
  exact ⟨String.ext words, List.append_cancel_left same⟩

namespace Expr

/-- Whether all tags and all texts of terms are words. -/
def hasPlainWords : Expr → Bool
  | term _ value => isPlain value
  | unary tag arg => isPlain tag && arg.hasPlainWords
  | binary tag lhs rhs => isPlain tag && lhs.hasPlainWords && rhs.hasPlainWords

/-- The expression without the kinds of its terms. -/
def withoutKinds : Expr → Expr
  | term _ value => term "" value
  | unary tag arg => unary tag arg.withoutKinds
  | binary tag lhs rhs => binary tag lhs.withoutKinds rhs.withoutKinds

/-- The kinds of terms are not written. -/
theorem text_withoutKinds (expr : Expr) : expr.withoutKinds.text = expr.text := by
  induction expr with
  | term kind value => rfl
  | unary tag arg ih => rw [withoutKinds, text, text, ih]
  | binary tag lhs rhs left right => rw [withoutKinds, text, text, left, right]

/-- The written form of an operator expression: the tag and the operands, in parentheses. -/
theorem toList_text_unary {tag : String} {arg : Expr} {rest : List Char} :
    (unary tag arg).text.toList ++ rest =
      '(' :: (tag.toList ++ ' ' :: (arg.text.toList ++ ')' :: rest)) := by
  simp [text]

theorem toList_text_binary {tag : String} {lhs rhs : Expr} {rest : List Char} :
    (binary tag lhs rhs).text.toList ++ rest =
      '(' :: (tag.toList ++
        ' ' :: (lhs.text.toList ++ ' ' :: (rhs.text.toList ++ ')' :: rest))) := by
  simp [text]

/-- Operators have the same tag where the same text begins with them. -/
theorem tag_eq_of_append {tag other : String} {rest more : List Char}
    (plain : isPlain tag = true) (plain' : isPlain other = true)
    (same : '(' :: (tag.toList ++ ' ' :: rest) = '(' :: (other.toList ++ ' ' :: more)) :
    tag = other ∧ rest = more := by
  obtain ⟨rfl, behind⟩ := word_eq_of_append plain plain' (parted_cons rfl) (parted_cons rfl)
    (List.cons.inj same).2
  exact ⟨rfl, (List.cons.inj behind).2⟩

/-- A term does not begin with a parenthesis. -/
theorem term_ne_group {value : String} {rest more : List Char} (plain : isPlain value = true) :
    value.toList ++ rest ≠ '(' :: more := by
  obtain ⟨c, letters, begins, inner⟩ := exists_cons_of_isPlain plain
  rw [begins]
  intro same
  obtain rfl : c = '(' := (List.cons.inj same).1
  cases inner

/-- A text begins with the written form of no more than one expression, of which all but the kinds
of its terms is known. Behind its first operand an operator of one operand is closed, and one of
two goes on. -/
theorem withoutKinds_eq_of_append {first second : Expr} {rest more : List Char}
    (plain : first.hasPlainWords = true) (plain' : second.hasPlainWords = true)
    (parted : Parted rest) (parted' : Parted more)
    (same : first.text.toList ++ rest = second.text.toList ++ more) :
    first.withoutKinds = second.withoutKinds ∧ rest = more := by
  induction first generalizing second rest more with
  | term kind value =>
    cases second with
    | term other text =>
      obtain ⟨rfl, behind⟩ := word_eq_of_append plain plain' parted parted' same
      exact ⟨rfl, behind⟩
    | unary tag arg =>
      rw [toList_text_unary] at same
      exact absurd same (term_ne_group plain)
    | binary tag lhs rhs =>
      rw [toList_text_binary] at same
      exact absurd same (term_ne_group plain)
  | unary tag arg ih =>
    obtain ⟨word, operand⟩ := Bool.and_eq_true_iff.mp plain
    cases second with
    | term other text =>
      rw [toList_text_unary] at same
      exact absurd same.symm (term_ne_group plain')
    | unary tag' arg' =>
      obtain ⟨word', operand'⟩ := Bool.and_eq_true_iff.mp plain'
      rw [toList_text_unary, toList_text_unary] at same
      obtain ⟨rfl, behind⟩ := tag_eq_of_append word word' same
      obtain ⟨args, closed⟩ := ih operand operand' (parted_cons rfl) (parted_cons rfl) behind
      exact ⟨by rw [withoutKinds, withoutKinds, args], (List.cons.inj closed).2⟩
    | binary tag' lhs rhs =>
      simp only [hasPlainWords, Bool.and_eq_true] at plain'
      rw [toList_text_unary, toList_text_binary] at same
      obtain ⟨rfl, behind⟩ := tag_eq_of_append word plain'.1.1 same
      obtain ⟨_, closed⟩ := ih operand plain'.1.2 (parted_cons rfl) (parted_cons rfl) behind
      cases (List.cons.inj closed).1
  | binary tag lhs rhs left right =>
    simp only [hasPlainWords, Bool.and_eq_true] at plain
    obtain ⟨⟨word, operand⟩, further⟩ := plain
    cases second with
    | term other text =>
      rw [toList_text_binary] at same
      exact absurd same.symm (term_ne_group plain')
    | unary tag' arg =>
      obtain ⟨word', operand'⟩ := Bool.and_eq_true_iff.mp plain'
      rw [toList_text_binary, toList_text_unary] at same
      obtain ⟨rfl, behind⟩ := tag_eq_of_append word word' same
      obtain ⟨_, closed⟩ := left operand operand' (parted_cons rfl) (parted_cons rfl) behind
      cases (List.cons.inj closed).1
    | binary tag' lhs' rhs' =>
      simp only [hasPlainWords, Bool.and_eq_true] at plain'
      obtain ⟨⟨word', operand'⟩, further'⟩ := plain'
      rw [toList_text_binary, toList_text_binary] at same
      obtain ⟨rfl, behind⟩ := tag_eq_of_append word word' same
      obtain ⟨lefts, behind⟩ := left operand operand' (parted_cons rfl) (parted_cons rfl) behind
      obtain ⟨rights, closed⟩ := right further further' (parted_cons rfl) (parted_cons rfl)
        (List.cons.inj behind).2
      exact ⟨by rw [withoutKinds, withoutKinds, lefts, rights], (List.cons.inj closed).2⟩

/-- Expressions are written alike if and only if they are the same up to the kinds of terms. -/
theorem text_eq_iff_withoutKinds_eq {first second : Expr} (plain : first.hasPlainWords = true)
    (plain' : second.hasPlainWords = true) :
    first.text = second.text ↔ first.withoutKinds = second.withoutKinds := by
  refine ⟨fun same => ?_, fun same => ?_⟩
  · exact (@withoutKinds_eq_of_append _ _ [] [] plain plain' nofun nofun
      (congrArg (·.toList ++ []) same)).1
  · rw [← text_withoutKinds first, same, text_withoutKinds]

end Expr

end Precedence
