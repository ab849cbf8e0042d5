import Precedence.Proofs.Arithmetic.Lexer
import Precedence.Proofs.Arithmetic.RoundTrip
import Precedence.Proofs.Derivation.Threshold
import Precedence.Proofs.Scanner.Items

namespace Precedence

namespace Arithmetic

open Grammar (arithmetic arithmeticLexicon)

section
variable {blanks text rest : List Char} {pieces more : List String}

theorem Spells.blanks_append (all : blanks.all isBlank = true) (spells : Spells pieces text) :
    Spells pieces (blanks ++ text) := by
  cases spells with
  | nil others => exact .nil (by rw [List.all_append, all, others, Bool.and_self])
  | cons others later =>
    rw [← List.append_assoc]
    exact .cons (by rw [List.all_append, all, others, Bool.and_self]) later

theorem Spells.append (first : Spells pieces text) (second : Spells more rest) :
    Spells (pieces ++ more) (text ++ rest) := by
  induction first with
  | nil all => exact second.blanks_append all
  | cons all _ ih =>
    rw [List.append_assoc, List.append_assoc]
    exact .cons all ih

end

/-- Whether a text consists of given tokens, all of them words, and of blanks. -/
structure Spelt (tokens : List Token) (text : List Char) : Prop where
  spells : Spells (tokens.map Token.value) text
  words : ∀ token ∈ tokens, IsWord token

section
variable {blanks text rest : List Char} {tokens more : List Token} {token : Token} {pos : Nat}

theorem Spelt.nil (all : blanks.all isBlank = true) : Spelt [] blanks := ⟨.nil all, nofun⟩

theorem Spelt.cons (all : blanks.all isBlank = true) (word : IsWord token)
    (later : Spelt tokens rest) :
    Spelt (token :: tokens) (blanks ++ (token.value.toList ++ rest)) :=
  ⟨.cons all later.spells, List.forall_mem_cons.mpr ⟨word, later.words⟩⟩

theorem Spelt.append (first : Spelt tokens text) (second : Spelt more rest) :
    Spelt (tokens ++ more) (text ++ rest) := by
  refine ⟨?_, List.forall_mem_append.mpr ⟨first.words, second.words⟩⟩
  rw [List.map_append]
  exact first.spells.append second.spells

theorem Spelt.word (word : IsWord token) : Spelt [token] token.value.toList := by
  have spelt := @Spelt.cons [] [] [] token rfl word (.nil rfl)
  rwa [List.nil_append, List.append_nil] at spelt

theorem exists_of_map_eq_ok {result : Except ScanError (List Token)}
    (same : result.map (token :: ·) = .ok tokens) :
    ∃ later, result = .ok later ∧ tokens = token :: later := by
  cases result with
  | error error => cases same
  | ok later => exact ⟨later, rfl, (Except.ok.inj same).symm⟩

/-- A name or a number that was taken as far as it goes. -/
theorem Spelt.run {c : Char} {kind : String} (chars : Char → Bool)
    (word : IsWord ⟨kind, String.ofList (c :: rest.takeWhile chars)⟩)
    (later : Spelt tokens (rest.dropWhile chars)) :
    Spelt (⟨kind, String.ofList (c :: rest.takeWhile chars)⟩ :: tokens) (c :: rest) := by
  have spelt := (Spelt.word word).append later
  rwa [String.toList_ofList, List.singleton_append, List.cons_append,
    List.takeWhile_append_dropWhile] at spelt

theorem isRun_takeWhile {c : Char} {first part : Char → Bool} (begins : first c = true) :
    isRun first part (String.ofList (c :: rest.takeWhile part)).toList = true := by
  rw [String.toList_ofList, isRun, begins, Bool.true_and]
  exact List.all_takeWhile

/-- A text that is split into tokens consists of them. -/
theorem spelt_of_lex (pos : Nat) (text : List Char) :
    ∀ tokens, lex pos text = .ok tokens → Spelt tokens text := by
  fun_induction lex pos text with
  | case1 pos =>
    intro tokens lexed
    cases lexed
    exact .nil rfl
  | case2 pos c rest blank ih =>
    intro tokens lexed
    have spelt := ih tokens lexed
    exact ⟨@Spells.blanks_append [c] _ _ (by simpa using blank) spelt.spells, spelt.words⟩
  | case3 pos c rest blank first name ih =>
    intro tokens lexed
    obtain ⟨later, behind, rfl⟩ := exists_of_map_eq_ok lexed
    exact .run isNamePart (.name (isRun_takeWhile first)) (ih later behind)
  | case4 pos c rest blank name first number ih =>
    intro tokens lexed
    obtain ⟨later, behind, rfl⟩ := exists_of_map_eq_ok lexed
    exact .run Char.isDigit (.number (isRun_takeWhile first)) (ih later behind)
  | case5 pos c rest blank name digit symbol ih =>
    intro tokens lexed
    obtain ⟨later, behind, rfl⟩ := exists_of_map_eq_ok lexed
    have spelt := (Spelt.word (.symbol symbol)).append (ih later behind)
    rwa [String.toList_ofList] at spelt
  | case6 pos c rest blank name digit symbol =>
    intro tokens lexed
    cases lexed

theorem stream_of_spelt (all : blanks.all isBlank = true) (word : IsWord token)
    (later : Spelt tokens rest) (beside : ∀ next ∈ tokens.head?, arithmetic.Apart token next) :
    arithmeticLexicon.stream ⟨blanks ++ (token.value.toList ++ rest), pos⟩ =
      .token token
        ⟨pos + byteLength blanks, pos + byteLength blanks + byteLength token.value.toList⟩
        (arithmeticLexicon.stream
          ⟨rest, pos + byteLength blanks + byteLength token.value.toList⟩) := by
  rw [Lexicon.stream_eq, scan_blanks all, scan_word word (later.spells.ends_word later.words beside)]

/-- A text parts at any of its tokens, which is found just there, into what the tokens before it
are spelt in and what those behind it are, wherever the text begins. -/
theorem Spelt.exists_split {front back : List Token} (spelt : Spelt (front ++ token :: back) text)
    (apart : (front ++ token :: back).IsChain arithmetic.Apart) :
    ∃ before after, text = before ++ (token.value.toList ++ after) ∧ Spelt front before ∧
      Spelt back after ∧ ∀ pos endToken,
        ((arithmeticLexicon.stream ⟨text, pos⟩).items endToken)[front.length]? =
          some (token, ⟨pos + byteLength before,
            pos + byteLength before + byteLength token.value.toList⟩) := by
  obtain ⟨spells, words⟩ := spelt
  induction front generalizing text with
  | nil =>
    obtain ⟨word, others⟩ := List.forall_mem_cons.mp words
    obtain ⟨beside, _⟩ := List.isChain_cons.mp apart
    cases spells with
    | @cons blanks _ _ rest all later =>
      have behind : Spelt back rest := ⟨later, others⟩
      refine ⟨blanks, rest, rfl, .nil all, behind, fun pos endToken => ?_⟩
      rw [stream_of_spelt all word behind beside]
      rfl
  | cons first front ih =>
    obtain ⟨word, others⟩ := List.forall_mem_cons.mp words
    obtain ⟨beside, chain⟩ := List.isChain_cons.mp apart
    cases spells with
    | @cons blanks _ _ rest all later =>
      obtain ⟨before, after, rfl, frontSpelt, behind, found⟩ := ih chain later others
      refine ⟨blanks ++ (first.value.toList ++ before), after, by simp only [List.append_assoc],
        .cons all word frontSpelt, behind, fun pos endToken => ?_⟩
      rw [stream_of_spelt all word ⟨later, others⟩ beside, TokenStream.items, List.length_cons,
        List.getElem?_cons_succ, found]
      simp only [byteLength_append, Nat.add_assoc]

end

end Arithmetic

namespace Derivation

open Arithmetic
open Grammar (arithmetic)

variable {derivation : Derivation arithmetic} {text : List Char}

/-- A text that has a derivation is split into its tokens. -/
theorem Covers.lex_eq (covers : derivation.Covers text) : lex 0 text = .ok derivation.tokens := by
  obtain ⟨_, first, last, started, takes, ended⟩ := covers
  have mark := Scanner.start_endToken started
  have inner : first.endToken ∉ derivation.tokens := by
    intro member
    rw [mark] at member
    rcases isTerm_or_isOperator_of_mem member with isTerm | operator
    · cases isTerm
    · cases operator
  have split := Grammar.tokenize_of_takes started takes
    (ended.trans (takes.endToken.trans mark).symm) inner
  rw [Grammar.tokenize_eq (by decide +kernel)] at split
  exact (stream_tokens 0 text).symm.trans split

theorem Covers.spelt (covers : derivation.Covers text) : Spelt derivation.tokens text :=
  spelt_of_lex 0 text derivation.tokens covers.lex_eq

/-- A text that consists of the tokens of a derivation has this derivation. -/
theorem covers_of_spelt (bound : derivation.WellBound .loosest)
    (spelt : Spelt derivation.tokens text) : derivation.Covers text := by
  obtain ⟨first, last, found, takes, ended⟩ := @takes_of_spells derivation.tokens
    (.ofText arithmetic.lexicon arithmetic.endToken text) rfl spelt.spells spelt.words
    derivation.tokens_isChain
  exact ⟨bound, first, last, Scanner.start_of_next found, takes, ended⟩

end Derivation

end Precedence
