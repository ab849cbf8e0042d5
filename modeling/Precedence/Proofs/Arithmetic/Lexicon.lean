import Precedence.Grammar
import Precedence.Proofs.Regex.Run

namespace Precedence

namespace Arithmetic

open Grammar (arithmeticLexicon)

/-- The states in which the words of arithmetic are matched. -/
def program : Program where
  states := #[
    .accept,
    .fork 2 0,
    .take ⟨[(9, 10), (13, 13), (32, 32)]⟩ 1,
    .leave "op" 0,
    .take ⟨[(33, 33), (40, 43), (45, 45), (47, 47), (94, 94)]⟩ 3,
    .enter "op" 4,
    .fork 5 2,
    .leave "num" 0,
    .fork 9 7,
    .take ⟨[(48, 57)]⟩ 8,
    .enter "num" 9,
    .fork 10 6,
    .leave "ident" 0,
    .fork 14 12,
    .take ⟨[(48, 57), (65, 90), (95, 95), (97, 122)]⟩ 13,
    .take ⟨[(65, 90), (95, 95), (97, 122)]⟩ 13,
    .enter "ident" 15,
    .fork 16 11,
    .check .textStart 17]
  start := 18

theorem lexicon_program : arithmeticLexicon.program = program := by
  decide +kernel

theorem lexicon_kinds : arithmeticLexicon.kinds = ["ident", "num", "op"] := by
  decide +kernel

def isNameStart (c : Char) : Bool := c.isAlpha || c == '_'

def isNamePart (c : Char) : Bool := c.isAlphanum || c == '_'

def isSymbol (c : Char) : Bool := ['+', '-', '*', '/', '(', ')', '!', '^'].contains c

def isBlank (c : Char) : Bool := [' ', '\n', '\r', '\t'].contains c

section
variable {c : Char}

theorem isNameStart_iff : isNameStart c = true ↔
    65 ≤ c.toNat ∧ c.toNat ≤ 90 ∨ 97 ≤ c.toNat ∧ c.toNat ≤ 122 ∨ c.toNat = 95 := by
  have letter : c.isAlpha = (decide (65 ≤ c.val ∧ c.val ≤ 90) ||
      decide (97 ≤ c.val) && decide (c.val ≤ 122)) := rfl
  simp only [isNameStart, letter, Bool.or_eq_true, Bool.and_eq_true, decide_eq_true_eq, beq_iff_eq,
    ← Char.toNat_inj, UInt32.le_iff_toNat_le, Char.toNat, or_assoc]
  rfl

theorem isDigit_iff : c.isDigit = true ↔ 48 ≤ c.toNat ∧ c.toNat ≤ 57 := by
  simp only [Char.isDigit, Bool.and_eq_true, decide_eq_true_eq, ge_iff_le,
    UInt32.le_iff_toNat_le, Char.toNat]
  rfl

theorem isNamePart_eq : isNamePart c = (isNameStart c || c.isDigit) := by
  simp only [isNamePart, isNameStart, Char.isAlphanum]
  cases c.isAlpha <;> cases c.isDigit <;> simp

theorem isSymbol_iff : isSymbol c = true ↔
    c.toNat = 33 ∨ 40 ≤ c.toNat ∧ c.toNat ≤ 43 ∨ c.toNat = 45 ∨ c.toNat = 47 ∨ c.toNat = 94 := by
  simp only [isSymbol, List.contains_cons, List.contains_nil, Bool.or_eq_true, beq_iff_eq,
    ← Char.toNat_inj, Bool.false_eq_true]
  simp
  omega

theorem isBlank_iff : isBlank c = true ↔
    9 ≤ c.toNat ∧ c.toNat ≤ 10 ∨ c.toNat = 13 ∨ c.toNat = 32 := by
  simp only [isBlank, List.contains_cons, List.contains_nil, Bool.or_eq_true, beq_iff_eq,
    ← Char.toNat_inj, Bool.false_eq_true]
  simp
  omega

theorem isNamePart_iff : isNamePart c = true ↔ 48 ≤ c.toNat ∧ c.toNat ≤ 57 ∨
    65 ≤ c.toNat ∧ c.toNat ≤ 90 ∨ 97 ≤ c.toNat ∧ c.toNat ≤ 122 ∨ c.toNat = 95 := by
  rw [isNamePart_eq, Bool.or_eq_true, isNameStart_iff, isDigit_iff, or_comm]

theorem contains_nameStart :
    (⟨[(65, 90), (95, 95), (97, 122)]⟩ : Charset).contains c = isNameStart c := by
  rw [Bool.eq_iff_iff, isNameStart_iff]
  simp [Charset.contains, inRanges]
  omega

theorem contains_namePart :
    (⟨[(48, 57), (65, 90), (95, 95), (97, 122)]⟩ : Charset).contains c = isNamePart c := by
  rw [Bool.eq_iff_iff, isNamePart_iff]
  simp [Charset.contains, inRanges]
  omega

theorem contains_digit : (⟨[(48, 57)]⟩ : Charset).contains c = c.isDigit := by
  rw [Bool.eq_iff_iff, isDigit_iff]
  simp [Charset.contains, inRanges]

theorem contains_symbol :
    (⟨[(33, 33), (40, 43), (45, 45), (47, 47), (94, 94)]⟩ : Charset).contains c = isSymbol c := by
  rw [Bool.eq_iff_iff, isSymbol_iff]
  simp [Charset.contains, inRanges]
  omega

theorem contains_blank :
    (⟨[(9, 10), (13, 13), (32, 32)]⟩ : Charset).contains c = isBlank c := by
  rw [Bool.eq_iff_iff, isBlank_iff]
  simp [Charset.contains, inRanges]
  omega

end

/-- The attempt in the middle of a word of some kind, at the start of a text. -/
def inWord (state : Nat) (kind : String) : Attempt := ⟨state, ⟨[(kind, 0)], []⟩⟩

/-- The attempt at the end of a word of some kind. -/
def endOfWord (kind : String) (stop : Nat) : Attempt := ⟨0, ⟨[(kind, 0)], [(kind, 0, stop)]⟩⟩

theorem settle_start {text : List Char} :
    program.settle ⟨0, none, text⟩ [⟨18, .start⟩] =
      [inWord 15 "ident", inWord 9 "num", inWord 4 "op", ⟨2, .start⟩] := by
  simp [Program.settle, Program.follow, program, Boundary.holds, Captures.enter,
    Captures.start, inWord]

theorem settle_name (place : Place) : program.settle place [inWord 13 "ident"] =
    [inWord 14 "ident", endOfWord "ident" place.pos] := by
  simp [Program.settle, Program.follow, program, Captures.leave, inWord, endOfWord]

theorem settle_number (place : Place) : program.settle place [inWord 8 "num"] =
    [inWord 9 "num", endOfWord "num" place.pos] := by
  simp [Program.settle, Program.follow, program, Captures.leave, inWord, endOfWord]

theorem settle_symbol (place : Place) : program.settle place [inWord 3 "op"] =
    [endOfWord "op" place.pos] := by
  simp [Program.settle, Program.follow, program, Captures.leave, inWord, endOfWord]

theorem settle_blanks (place : Place) : program.settle place [⟨1, .start⟩] =
    [⟨2, .start⟩, ⟨0, .start⟩] := by
  simp [Program.settle, Program.follow, program, Captures.start]

theorem take?_inWord {c : Char} {state next : Nat} {kind : String} {chars : Charset}
    (waits : program.states[state]? = some (.take chars next)) :
    program.take? c (inWord state kind) =
      if chars.contains c then some (inWord next kind) else none := by
  unfold Program.take? inWord
  rw [waits]

theorem take?_blank {c : Char} :
    program.take? c ⟨2, .start⟩ = if isBlank c then some ⟨1, .start⟩ else none := by
  rw [← contains_blank]
  rfl

/-- What can go on behind the first character of a text. -/
theorem live_start {c : Char} {rest : List Char} :
    ((program.settle ⟨0, none, c :: rest⟩ [⟨18, .start⟩]).takeWhile
        (!program.accepts ·)).filterMap (program.take? c) =
      (if isNameStart c then [inWord 13 "ident"] else []) ++
        ((if c.isDigit then [inWord 8 "num"] else []) ++
          ((if isSymbol c then [inWord 3 "op"] else []) ++
            if isBlank c then [⟨1, .start⟩] else [])) := by
  have name : program.take? c (inWord 15 "ident") =
      if isNameStart c then some (inWord 13 "ident") else none := by
    rw [← contains_nameStart]
    exact take?_inWord rfl
  have number : program.take? c (inWord 9 "num") =
      if c.isDigit then some (inWord 8 "num") else none := by
    rw [← contains_digit]
    exact take?_inWord rfl
  have symbol : program.take? c (inWord 4 "op") =
      if isSymbol c then some (inWord 3 "op") else none := by
    rw [← contains_symbol]
    exact take?_inWord rfl
  have waiting : (program.settle ⟨0, none, c :: rest⟩ [⟨18, .start⟩]).takeWhile
      (!program.accepts ·) =
        [inWord 15 "ident", inWord 9 "num", inWord 4 "op", ⟨2, .start⟩] := by
    rw [settle_start]
    decide
  rw [waiting]
  simp only [List.filterMap_cons, List.filterMap_nil, name, number, symbol, take?_blank]
  cases isNameStart c <;> cases c.isDigit <;> cases isSymbol c <;> cases isBlank c <;> rfl

theorem ending?_start {text : List Char} :
    program.ending? 0 (program.settle ⟨0, none, text⟩ [⟨18, .start⟩]) =
      none := by
  rw [settle_start]
  decide

/-- When one attempt is left behind the first character, it decides what is found. -/
theorem search?_of_live {c : Char} {rest : List Char} {attempt : Attempt} {ending : Ending}
    (live : ((program.settle ⟨0, none, c :: rest⟩ [⟨18, .start⟩]).takeWhile
      (!program.accepts ·)).filterMap (program.take? c) = [attempt])
    (runs : program.run 1 (some c) none [attempt] rest = some ending) :
    program.search? (c :: rest) = some ⟨0, ending.stop, ending.captures⟩ := by
  have whole : program.run 0 none none [⟨18, .start⟩] (c :: rest) = some ending := by
    rw [Program.run, live, ending?_start, ← runs]
    rfl
  unfold Program.search? Program.searchFrom?
  rw [show program.start = 18 from rfl, whole]

theorem stretch_takeWhile {c : Char} {rest : List Char} (chars : Char → Bool) :
    stretch (c :: rest) 0 (1 + (rest.takeWhile chars).length) = c :: rest.takeWhile chars := by
  have front := List.prefix_iff_eq_take.mp (List.takeWhile_prefix (l := rest) chars)
  rw [stretch, List.drop_zero, Nat.sub_zero, Nat.add_comm, List.take_succ_cons, ← front]

/-- A match in which a group of one kind took part is a token of that kind. -/
theorem match?_of_search {text word : List Char} {kind : String} {stop : Nat}
    (known : kind ∈ ["ident", "num", "op"])
    (found : program.search? text = some ⟨0, stop, (endOfWord kind stop).captures⟩)
    (taken : stretch text 0 stop = word) :
    arithmeticLexicon.match? text = some ⟨byteLength word, some (kind, String.ofList word)⟩ := by
  have read : arithmeticLexicon.wordOf? text (endOfWord kind stop).captures =
      some (kind, String.ofList word) := by
    unfold Lexicon.wordOf?
    rw [lexicon_kinds, ← taken]
    simp only [List.mem_cons, List.not_mem_nil, or_false] at known
    rcases known with rfl | rfl | rfl
    · simp [endOfWord]
    · simp [endOfWord]
    · simp [endOfWord]
  unfold Lexicon.match?
  rw [lexicon_program, found]
  simp only [Option.map_some, taken, read]

variable {c : Char} {rest : List Char}

theorem match?_name (first : isNameStart c = true) :
    arithmeticLexicon.match? (c :: rest) =
      some ⟨byteLength (c :: rest.takeWhile isNamePart),
        some ("ident", String.ofList (c :: rest.takeWhile isNamePart))⟩ := by
  have others : c.isDigit = false ∧ isSymbol c = false ∧ isBlank c = false := by
    have range := isNameStart_iff.mp first
    simp only [← Bool.not_eq_true, isDigit_iff, isSymbol_iff, isBlank_iff]
    omega
  have live := @live_start c rest
  simp only [first, others, Bool.false_eq_true, if_true, if_false, List.append_nil] at live
  have takes : ∀ d, program.take? d (inWord 14 "ident") =
      if isNamePart d then some (inWord 13 "ident") else none := by
    intro d
    rw [← contains_namePart]
    exact take?_inWord rfl
  have runs := Program.run_of_loop settle_name rfl (fun _ => rfl) takes 1 (some c) none rest
  exact match?_of_search (by simp) (search?_of_live live runs) (stretch_takeWhile isNamePart)

theorem match?_number (first : c.isDigit = true) :
    arithmeticLexicon.match? (c :: rest) =
      some ⟨byteLength (c :: rest.takeWhile Char.isDigit),
        some ("num", String.ofList (c :: rest.takeWhile Char.isDigit))⟩ := by
  have others : isNameStart c = false ∧ isSymbol c = false ∧ isBlank c = false := by
    have range := isDigit_iff.mp first
    simp only [← Bool.not_eq_true, isNameStart_iff, isSymbol_iff, isBlank_iff]
    omega
  have live := @live_start c rest
  simp only [first, others, Bool.false_eq_true, if_true, if_false, List.append_nil,
    List.nil_append] at live
  have takes : ∀ d, program.take? d (inWord 9 "num") =
      if d.isDigit then some (inWord 8 "num") else none := by
    intro d
    rw [← contains_digit]
    exact take?_inWord rfl
  have runs := Program.run_of_loop settle_number rfl (fun _ => rfl) takes 1 (some c) none rest
  exact match?_of_search (by simp) (search?_of_live live runs) (stretch_takeWhile Char.isDigit)

theorem match?_symbol (first : isSymbol c = true) :
    arithmeticLexicon.match? (c :: rest) =
      some ⟨byteLength [c], some ("op", String.ofList [c])⟩ := by
  have others : isNameStart c = false ∧ c.isDigit = false ∧ isBlank c = false := by
    have range := isSymbol_iff.mp first
    simp only [← Bool.not_eq_true, isNameStart_iff, isDigit_iff, isBlank_iff]
    omega
  have live := @live_start c rest
  simp only [first, others, Bool.false_eq_true, if_true, if_false, List.append_nil,
    List.nil_append] at live
  have runs := Program.run_of_ended (settle_symbol ⟨1, some c, rest⟩) rfl none
  exact match?_of_search (by simp) (search?_of_live live runs) rfl

/-- Blanks are matched, but are no token. -/
theorem match?_blank (first : isBlank c = true) :
    arithmeticLexicon.match? (c :: rest) =
      some ⟨byteLength (c :: rest.takeWhile isBlank), none⟩ := by
  have others : isNameStart c = false ∧ c.isDigit = false ∧ isSymbol c = false := by
    have range := isBlank_iff.mp first
    simp only [← Bool.not_eq_true, isNameStart_iff, isDigit_iff, isSymbol_iff]
    omega
  have live := @live_start c rest
  simp only [first, others, Bool.false_eq_true, if_true, if_false, List.nil_append] at live
  have runs := @Program.run_of_loop program isBlank ⟨1, .start⟩ ⟨2, .start⟩
    (fun _ => ⟨0, .start⟩) settle_blanks rfl (fun _ => rfl) (fun _ => take?_blank)
    1 (some c) none rest
  have read : arithmeticLexicon.wordOf? (c :: rest) .start = none := by
    unfold Lexicon.wordOf?
    simp [Captures.start]
  unfold Lexicon.match?
  rw [lexicon_program, search?_of_live live runs]
  simp only [Option.map_some, stretch_takeWhile, read]

end Arithmetic

end Precedence
