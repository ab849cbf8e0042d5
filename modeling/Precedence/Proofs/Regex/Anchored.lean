import Precedence.Proofs.Regex.Enclosed
import Precedence.Proofs.Scanner.Partition

namespace Precedence

namespace Regex

/-- A single alternative is no choice. -/
theorem choice_single {part : Regex} (single : part.branches = [part]) : choice [part] = part := by
  simp [choice, merge, commonPieces, single]

theorem branches_chain_boundary {condition : Boundary} {rest : List Regex} :
    (chain (boundary condition :: rest)).branches = [chain (boundary condition :: rest)] := by
  cases rest <;> rfl

/-- What begins with a condition begins by checking it. -/
theorem start_chain_boundary {condition : Boundary} {rest : List Regex} :
    ∃ next, (chain (boundary condition :: rest)).program.states[
      (chain (boundary condition :: rest)).program.start]? = some (.check condition next) := by
  cases rest with
  | nil => exact ⟨0, rfl⟩
  | cons second rest =>
    exact ⟨((chain (second :: rest)).build 0 #[.accept]).1, Array.getElem?_push_size⟩

end Regex

theorem value_enclose_anchorGroup {whole : Nested Regex} :
    (RegexReader.OpenGroup.enclose RegexReader.anchorGroup whole).value =
      .chain (.boundary .textStart :: whole.value.factors) := by
  change Regex.choice [.chain (.boundary .textStart :: (whole.value.factors ++ []))] = _
  rw [List.append_nil, Regex.choice_single Regex.branches_chain_boundary]

namespace Lexicon

variable {lexicon : Lexicon} {source : String}

/-- A pattern that is well formed by itself is held to the start of the text as a whole. -/
theorem ofText?_anchoredText {whole regex : Regex}
    (wellFormed : Regex.ofText? source.toList = some whole)
    (accepted : Regex.ofText? (anchoredText source) = some regex) :
    regex = .chain (.boundary .textStart :: whole.factors) := by
  obtain ⟨inner, read, height⟩ := Option.bind_eq_some_iff.mp wellFormed
  obtain ⟨outer, readOuter, heightOuter⟩ := Option.bind_eq_some_iff.mp accepted
  obtain rfl : inner.value = whole := by
    split at height
    · exact Option.some.inj height
    · cases height
  obtain rfl : outer.value = regex := by
    split at heightOuter
    · exact Option.some.inj heightOuter
    · cases heightOuter
  have length : (anchoredText source).length + 1 = source.toList.length + 4 + 2 := by
    simp [anchoredText]
  rw [length, RegexReader.read?_anchoredText] at readOuter
  rcases RegexReader.read?_enclosed ⟨_, rfl, .append source.toList⟩ read (Nat.lt_add_of_pos_right
    (by decide : 0 < 3)) with lost | closed
  · cases readOuter.symm.trans lost
  · cases readOuter.symm.trans closed
    exact value_enclose_anchorGroup

theorem start_of_wellFormed (accepted : ofSource source = .ok lexicon)
    (wellFormed : (Regex.ofText? source.toList).isSome) :
    ∃ next, lexicon.program.states[lexicon.program.start]? = some (.check .textStart next) := by
  obtain ⟨whole, read⟩ := Option.isSome_iff_exists.mp wellFormed
  unfold ofSource at accepted
  split at accepted
  · cases accepted
  · next regex readAnchored =>
    obtain rfl := ofText?_anchoredText read readAnchored
    split at accepted
    · cases accepted
    · split at accepted
      · cases accepted
      · cases accepted
        exact Regex.start_chain_boundary

theorem scan_ne_splitCharacter (front : lexicon.MatchesFront) {cursor after : Cursor} {pos : Nat} :
    lexicon.scan cursor ≠ .failure (.splitCharacter pos) after := by
  intro scanned
  obtain ⟨_, _, _, _, stops⟩ := scan_stops front cursor
  rw [scanned] at stops
  cases stops

/-- A token can be looked for without a character being split, whatever comes of it. -/
theorem next_cases_of_front {scanner : Scanner} (front : scanner.lexicon.MatchesFront) :
    (∃ after, Scanner.next scanner = .ok () after) ∨
      ∃ cause after, Scanner.next scanner = .error cause after ∧
        ∀ pos, cause ≠ .splitCharacter pos := by
  cases scanned : scanner.lexicon.scan scanner.cursor with
  | token token span cursor => exact Or.inl ⟨_, Scanner.next_of_token scanned⟩
  | finish cursor => exact Or.inl ⟨_, Scanner.next_of_finish scanned⟩
  | failure cause cursor =>
    refine Or.inr ⟨cause, _, Scanner.next_of_failure scanned, ?_⟩
    rintro pos rfl
    exact scan_ne_splitCharacter front scanned

/-- A lexicon whose pattern is well formed by itself only ever matches the front of the text in
front of it: what is found there starts where the text does, takes as many bytes as the match says,
and holds the text of the token. The scanner goes on right behind it, so that it never splits a
character, neither in front of the first token nor behind any other. -/
theorem wellFormed_source_matches_front (accepted : ofSource source = .ok lexicon)
    (wellFormed : (Regex.ofText? source.toList).isSome) :
    (∀ text hit, lexicon.match? text = some hit → ∃ found front rest,
      lexicon.program.search? text = some found ∧ found.start = 0 ∧
      stretch text found.start found.stop = front ∧ text = front ++ rest ∧
      hit.length = byteLength front ∧
      (∀ kind value, hit.word? = some (kind, value) → value.toList <:+: front) ∧
      ∀ pos, Cursor.advance? ⟨text, pos⟩ hit.length = some ⟨rest, pos + byteLength front⟩) ∧
    (∀ endToken text, (∃ scanner, Scanner.start lexicon endToken text = .ok scanner) ∨
      ∃ cause, Scanner.start lexicon endToken text = .error cause ∧
        ∀ pos, cause ≠ .splitCharacter pos) ∧
    ∀ scanner, scanner.lexicon = lexicon →
      (∃ token after, Scanner.advance scanner = .ok token after) ∨
      ∃ cause after, Scanner.advance scanner = .error cause after ∧
        ∀ pos, cause ≠ .splitCharacter pos := by
  obtain ⟨next, held⟩ := start_of_wellFormed accepted wellFormed
  have front := matchesFront_of_textStart held
  refine ⟨fun text hit matched => ?_, fun endToken text => ?_, ?_⟩
  · obtain ⟨found, front, rest, searched, start, taken, whole, length, inside⟩ :=
      exists_front_of_textStart held matched
    refine ⟨found, front, rest, searched, start, taken, whole, length, inside, fun pos => ?_⟩
    rw [whole, length]
    exact Cursor.advance?_append
  · unfold Scanner.start
    rcases @next_cases_of_front (.ofText lexicon endToken text) front with
      ⟨after, found⟩ | ⟨cause, after, stuck, noSplit⟩
    · exact Or.inl ⟨after, by rw [found]⟩
    · exact Or.inr ⟨cause, by rw [stuck], noSplit⟩
  · rintro scanner rfl
    unfold Scanner.advance
    rcases next_cases_of_front front with ⟨after, found⟩ | ⟨cause, after, stuck, noSplit⟩
    · exact Or.inl ⟨_, after, by rw [found]⟩
    · exact Or.inr ⟨cause, after, by rw [stuck], noSplit⟩

theorem eq_ok_get {ε α : Type} :
    (result : Except ε α) → (isOk : result.toOption.isSome = true) →
      result = .ok (result.toOption.get isOk)
  | .ok _, _ => rfl

theorem arithmeticPattern_matches_front :
    Grammar.arithmeticLexicon.match? "ab é".toList = some ⟨2, some ("ident", "ab")⟩ ∧
    (∃ found front rest, Grammar.arithmeticLexicon.program.search? "ab é".toList = some found ∧
      found.start = 0 ∧ stretch "ab é".toList found.start found.stop = front ∧
      "ab é".toList = front ++ rest ∧ 2 = byteLength front ∧ "ab".toList <:+: front) ∧
    ∀ endToken, (∃ scanner,
        Scanner.start Grammar.arithmeticLexicon endToken "ab é".toList = .ok scanner) ∨
      ∃ cause, Scanner.start Grammar.arithmeticLexicon endToken "ab é".toList = .error cause ∧
        ∀ pos, cause ≠ .splitCharacter pos := by
  have accepted : ofSource Grammar.arithmeticPattern = .ok Grammar.arithmeticLexicon :=
    eq_ok_get _ Grammar.arithmeticPattern_isOk
  have wellFormed : (Regex.ofText? Grammar.arithmeticPattern.toList).isSome = true := by
    decide +kernel
  have matched : Grammar.arithmeticLexicon.match? "ab é".toList =
      some ⟨2, some ("ident", "ab")⟩ := by decide +kernel
  obtain ⟨fronts, starts, _⟩ := wellFormed_source_matches_front accepted wellFormed
  obtain ⟨found, front, rest, searched, start, taken, whole, length, inside, _⟩ :=
    fronts _ _ matched
  exact ⟨matched, ⟨found, front, rest, searched, start, taken, whole, length, inside _ _ rfl⟩,
    fun endToken => starts endToken _⟩

/-- A pattern that closes the group it is put into and opens another one for what follows, so that
only its first alternative is held to the start of the text. -/
def looseSource : String := "(?P<y>a)|c)|(?:(?P<x>b)"

theorem looseSource_isOk : (ofSource looseSource).toOption.isSome = true := by decide +kernel

def looseLexicon : Lexicon := (ofSource looseSource).toOption.get looseSource_isOk

theorem looseLexicon_matches_elsewhere :
    ofSource looseSource = .ok looseLexicon ∧
    (∃ found, looseLexicon.program.search? "zb".toList = some found ∧ found.start = 1) ∧
    looseLexicon.match? "zb".toList = some ⟨1, some ("x", "b")⟩ ∧
    ¬ "b".toList <:+: "zb".toList.take 1 ∧
    looseLexicon.match? "éb".toList = some ⟨1, some ("x", "b")⟩ ∧
    Cursor.advance? ⟨"éb".toList, 0⟩ 1 = none ∧
    Scanner.start looseLexicon ⟨"eof", ""⟩ "éb".toList = .error (.splitCharacter 0) := by
  have scanned : looseLexicon.scan (.ofText "éb".toList) =
      .failure (.splitCharacter 0) (.ofText "éb".toList) := by decide +kernel
  have stuck : Scanner.next (.ofText looseLexicon ⟨"eof", ""⟩ "éb".toList) = _ :=
    Scanner.next_of_failure scanned
  refine ⟨eq_ok_get _ looseSource_isOk, ?_, by decide +kernel, by decide, by decide +kernel,
    by decide, ?_⟩
  · exact ⟨_, Option.eq_some_of_isSome (by decide +kernel), by decide +kernel⟩
  · unfold Scanner.start
    rw [stuck]

end Lexicon

end Precedence
