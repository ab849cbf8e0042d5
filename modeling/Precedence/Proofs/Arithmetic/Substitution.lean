import Precedence.Proofs.Arithmetic.Spelling
import Precedence.Proofs.Derivation.Replace

namespace Precedence

/-- An element that is picked comes, among those picked, behind the ones picked before it. -/
theorem getElem?_filter_of_getElem? {α : Type} {picks : α → Bool} {list : List α} {place : Nat}
    {element : α} (here : list[place]? = some element) (picked : picks element = true) :
    (list.filter picks)[((list.take place).filter picks).length]? = some element := by
  have split : list = list.take place ++ element :: list.drop (place + 1) := by
    obtain ⟨inside, rfl⟩ := List.getElem?_eq_some_iff.mp here
    rw [← List.drop_eq_getElem_cons inside, List.take_append_drop]
  have filtered : list.filter picks = (list.take place).filter picks ++
      element :: (list.drop (place + 1)).filter picks := by
    rw [← List.filter_cons_of_pos picked, ← List.filter_append, ← split]
  rw [filtered, List.getElem?_append_right (Nat.le_refl _), Nat.sub_self]
  rfl

namespace Arithmetic

open Grammar (arithmetic)

/-- A derivation in a group of its own. -/
def grouped (body : Derivation arithmetic) : Derivation arithmetic :=
  .group ⟨"op", "("⟩ ")" .loosest (by decide +kernel) (by decide +kernel) body

theorem wellBound_grouped {body : Derivation arithmetic} (bound : body.WellBound .loosest)
    (power : Power) : (grouped body).WellBound power :=
  ⟨bound, Derivation.stoppedBy_of_trailing?_eq_none (by decide +kernel)⟩

theorem spelt_grouped {body : Derivation arithmetic} {text : List Char}
    (spelt : Spelt body.tokens text) :
    Spelt (grouped body).tokens ('(' :: (text ++ [')'])) := by
  have opens : Spelt [⟨"op", "("⟩] ['('] := .word (.symbol (by decide : isSymbol '(' = true))
  have closes : Spelt [⟨"op", ")"⟩] [')'] := .word (.symbol (by decide : isSymbol ')' = true))
  exact opens.append (spelt.append closes)

theorem isTerm_eq_false_of_isOperator (token : Token)
    (operator : arithmetic.isOperator token = true) : arithmetic.isTerm token = false := by
  obtain ⟨kind, value⟩ := token
  obtain rfl : kind = "op" := eq_of_beq operator
  rfl

section
variable {whole : Derivation arithmetic} {text : List Char}

theorem map_fst_items (covers : whole.Covers text) :
    (arithmetic.items text).map Prod.fst = whole.tokens ++ [arithmetic.endToken] :=
  (TokenStream.tokens_eq_ok ((stream_tokens 0 text).trans covers.lex_eq)).2

theorem map_fst_filter {items : List (Token × Span)} :
    (items.filter (arithmetic.isTerm ·.1)).map Prod.fst =
      (items.map Prod.fst).filter arithmetic.isTerm := by
  rw [List.filter_map]
  rfl

/-- The terms that are found in a text are those of the expression that is read. -/
theorem map_fst_term_items (covers : whole.Covers text) :
    ((arithmetic.items text).filter (arithmetic.isTerm ·.1)).map Prod.fst = whole.expr.terms := by
  have mark : arithmetic.isTerm arithmetic.endToken = false := rfl
  rw [map_fst_filter, map_fst_items covers, List.filter_append,
    Derivation.filter_isTerm_tokens isTerm_eq_false_of_isOperator,
    List.filter_cons_of_neg (by simp [mark])]
  exact List.append_nil _

/-- Where a term stands in a text that has a derivation, a group can stand that holds another such
text. -/
theorem exists_covers_replaceTerm {body : Derivation arithmetic} {inner : List Char}
    {place : Nat} {token : Token} {span : Span} (covers : whole.Covers text)
    (within : body.Covers inner)
    (found : ((arithmetic.items text).filter (arithmetic.isTerm ·.1))[place]? =
      some (token, span)) :
    ∃ before after, text = before ++ (token.value.toList ++ after) ∧
      span = ⟨byteLength before, byteLength before + byteLength token.value.toList⟩ ∧
      whole.expr.terms[place]? = some token ∧
      (whole.replaceTerm place (grouped body)).Covers
        (before ++ ('(' :: (inner ++ [')']) ++ after)) := by
  have known : whole.expr.terms[place]? = some token := by
    rw [← map_fst_term_items covers, List.getElem?_map, found]
    rfl
  obtain ⟨inside, _⟩ := List.getElem?_eq_some_iff.mp known
  obtain ⟨front, term, back, split, isTerm, count, replaced⟩ :=
    Derivation.exists_tokens_replaceTerm isTerm_eq_false_of_isOperator inside
  have spelt := covers.spelt
  rw [split] at spelt
  obtain ⟨before, after, parts, frontSpelt, backSpelt, item⟩ :=
    spelt.exists_split (split ▸ whole.tokens_isChain)
  have here : (arithmetic.items text)[front.length]? = some (term,
      ⟨byteLength before, byteLength before + byteLength term.value.toList⟩) := by
    have found := item 0 arithmetic.endToken
    rwa [Nat.zero_add] at found
  have samePlace : (((arithmetic.items text).take front.length).filter
      (arithmetic.isTerm ·.1)).length = place := by
    rw [← List.length_map Prod.fst, map_fst_filter, List.map_take, map_fst_items covers, split,
      List.append_assoc, List.take_left, count]
  have picked := @getElem?_filter_of_getElem? _ (arithmetic.isTerm ·.1) _ _ _ here isTerm
  rw [samePlace, found] at picked
  obtain ⟨rfl, rfl⟩ := Prod.mk.inj (Option.some.inj picked)
  refine ⟨before, after, parts, rfl, known, Derivation.covers_of_spelt ?_ ?_⟩
  · exact covers.1.replaceTerm rfl (wellBound_grouped within.1)
  · rw [replaced]
    exact frontSpelt.append ((spelt_grouped within.spelt).append backSpelt)

end

/-- In a text that is read as an expression, another such text can stand, in parentheses, for any of
the terms: around the term all is read as before, and in its place what was read for the other text.
No more levels are needed than both texts have by themselves, taken together. -/
theorem parse_of_term_replaced {text inner : List Char} {limit other place : Nat}
    {whole part : Expr} {token : Token} {span : Span}
    (read : (arithmetic.withMaxDepth limit).parse text = .ok whole)
    (readInner : (arithmetic.withMaxDepth other).parse inner = .ok part)
    (found : ((arithmetic.items text).filter (arithmetic.isTerm ·.1))[place]? =
      some (token, span)) :
    whole.terms[place]? = some token ∧
    ∃ before after, text = before ++ (token.value.toList ++ after) ∧
      span = ⟨byteLength before, byteLength before + byteLength token.value.toList⟩ ∧
      ∀ depth, limit + other ≤ depth →
        (arithmetic.withMaxDepth depth).parse (before ++ '(' :: (inner ++ ')' :: after)) =
          .ok (whole.replaceTerm place part) := by
  obtain ⟨derivation, covers, rfl, nest⟩ := Derivation.exists_covers read
  obtain ⟨body, within, rfl, nestInner⟩ := Derivation.exists_covers readInner
  obtain ⟨before, after, parts, placed, known, replaced⟩ :=
    exists_covers_replaceTerm covers within found
  refine ⟨known, before, after, parts, placed, fun depth room => ?_⟩
  have levels := @Derivation.nest_replaceTerm_lt _ (grouped body) derivation place
  have groupedNest : (grouped body).nest = 1 + body.nest := rfl
  have groupedExpr : (grouped body).expr = body.expr := rfl
  have parsed := replaced.parse (by decide +kernel) (show _ ≤ depth by omega)
  rw [Derivation.expr_replaceTerm, groupedExpr] at parsed
  simpa using parsed

/-- A sum in the place of the second factor of a product. -/
theorem factor_replaced_by_sum :
    (arithmetic.withMaxDepth 2).parse "a*b".toList =
      .ok (.binary "mul" (.term "ident" "a") (.term "ident" "b")) ∧
    (arithmetic.withMaxDepth 2).parse "x+1".toList =
      .ok (.binary "add" (.term "ident" "x") (.term "num" "1")) ∧
    ((arithmetic.items "a*b".toList).filter (arithmetic.isTerm ·.1))[1]? =
      some (⟨"ident", "b"⟩, ⟨2, 3⟩) ∧
    (arithmetic.withMaxDepth 4).parse "a*(x+1)".toList =
      .ok (.binary "mul" (.term "ident" "a")
        (.binary "add" (.term "ident" "x") (.term "num" "1"))) := by
  have read : (arithmetic.withMaxDepth 2).parse "a*b".toList =
      .ok (.binary "mul" (.term "ident" "a") (.term "ident" "b")) := by decide +kernel
  have readInner : (arithmetic.withMaxDepth 2).parse "x+1".toList =
      .ok (.binary "add" (.term "ident" "x") (.term "num" "1")) := by decide +kernel
  have found : ((arithmetic.items "a*b".toList).filter (arithmetic.isTerm ·.1))[1]? =
      some (⟨"ident", "b"⟩, ⟨2, 3⟩) := by decide +kernel
  obtain ⟨_, before, after, parts, placed, replaced⟩ :=
    parse_of_term_replaced read readInner found
  have same : before = ['a', '*'] ∧ after = [] := by
    rcases before with _ | ⟨c, _ | ⟨d, _ | ⟨e, rest⟩⟩⟩
    · cases placed
    · obtain ⟨rfl, _⟩ := List.cons.inj parts
      exact absurd placed (by decide)
    · simpa [eq_comm, and_assoc] using parts
    · simp at parts
  obtain ⟨rfl, rfl⟩ := same
  exact ⟨read, readInner, found, replaced 4 (by decide)⟩

end Arithmetic

end Precedence
