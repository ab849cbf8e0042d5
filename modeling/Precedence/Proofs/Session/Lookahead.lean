import Precedence.Proofs.Scanner.Items
import Precedence.Proofs.Session.Mirrored

namespace Precedence

namespace Grammar

variable {grammar : Grammar} {text other : List Char}

/-- The error with which the reading of a text is given up after it began, and the token in front of
it then, with its span. -/
def givesUp? (grammar : Grammar) (text : List Char) : Option (ParseError × Token × Span) :=
  match Session.start grammar text with
  | .error _ => none
  | .ok session =>
    match Session.complete grammar session with
    | .ok _ _ => none
    | .error error after => some (error, after.current, after.scanner.span)

/-- Whether the reading of a text is given up in front of the item of a given number: something
else had to come there, or an expression that is nested too deep begins there. -/
def RaisesOn (grammar : Grammar) (text : List Char) (error : ParseError) (place : Nat) : Prop :=
  (error.kind = .unexpectedToken ∨ error.kind = .tooDeep) ∧
  ∃ item, grammar.givesUp? text = some (error, item) ∧ (grammar.items text)[place]? = some item

instance {error : ParseError} {place : Nat} : Decidable (grammar.RaisesOn text error place) :=
  decidable_of_iff ((error.kind = .unexpectedToken ∨ error.kind = .tooDeep) ∧
      ((grammar.items text)[place]?).isSome ∧
      grammar.givesUp? text = ((grammar.items text)[place]?).map (error, ·)) <| by
    unfold RaisesOn
    cases (grammar.items text)[place]? with
    | none => simp
    | some item => simp

/-- How a reading can fail: in front of an obstacle, in front of an item, or at the end mark. -/
theorem Raises.cases_of_standsAt {first after : Scanner} {error : ParseError}
    (stands : grammar.StandsAt text 0 first) (raises : grammar.Raises first error after) :
    (∃ cause, error = .scan cause ∧ (grammar.stream text).obstacle? = some cause) ∨
    ∃ place, grammar.StandsAt text place after ∧ error.span = after.span ∧
      ((error.kind = .unexpectedToken ∨ error.kind = .tooDeep) ∨
        after.current = grammar.endToken) := by
  cases raises with
  | @scan tokens last cause _ takes stuck =>
    obtain ⟨place, there, _⟩ := stands.takes takes
    exact Or.inl ⟨cause, rfl, there.obstacle?_of_next stuck⟩
  | unexpected takes =>
    obtain ⟨place, there, _⟩ := stands.takes takes
    exact Or.inr ⟨place, there, rfl, Or.inl (Or.inl rfl)⟩
  | tooDeep takes =>
    obtain ⟨place, there, _⟩ := stands.takes takes
    exact Or.inr ⟨place, there, rfl, Or.inl (Or.inr rfl)⟩
  | endless takes nothing =>
    obtain ⟨place, there, _⟩ := stands.takes takes
    have atEnd := eq_of_beq (Scanner.pending_eq_zero.mp nothing).2
    exact Or.inr ⟨place, there, rfl, Or.inr (atEnd.trans there.sees.endToken_eq)⟩

theorem parse_of_complete {session : Session} (started : Session.start grammar text = .ok session) :
    grammar.parse text = Session.answer (Session.complete grammar session) := by
  unfold parse parseTraced
  rw [started]
  dsimp only
  cases Session.complete grammar session <;> rfl

theorem start_of_scanner {first : Scanner}
    (started : Scanner.start grammar.lexicon grammar.endToken text = .ok first) :
    Session.start grammar text = .ok (Session.ofScanner first) := by
  rw [Session.start_eq, started]

theorem givesUp?_eq_some {error : ParseError} {item : Token × Span} :
    grammar.givesUp? text = some (error, item) ↔
      ∃ first after, Scanner.start grammar.lexicon grammar.endToken text = .ok first ∧
        Session.complete grammar (Session.ofScanner first) = .error error after ∧
        item = (after.current, after.scanner.span) := by
  unfold givesUp?
  rw [Session.start_eq]
  cases Scanner.start grammar.lexicon grammar.endToken text with
  | error cause => simp
  | ok first =>
    dsimp only
    cases ran : Session.complete grammar (Session.ofScanner first) with
    | ok expr after => simp [ran]
    | error cause after =>
      refine ⟨fun same => ?_, fun known => ?_⟩
      · cases same
        exact ⟨first, after, rfl, ran, rfl⟩
      · obtain ⟨_, _, same, failed, rfl⟩ := known
        cases same
        cases ran.symm.trans failed
        rfl

theorem RaisesOn.parse_eq {error : ParseError} {place : Nat}
    (raises : grammar.RaisesOn text error place) : grammar.parse text = .error error := by
  obtain ⟨_, item, givesUp, _⟩ := raises
  obtain ⟨first, after, started, failed, _⟩ := givesUp?_eq_some.mp givesUp
  rw [parse_of_complete (start_of_scanner started), failed]
  rfl

theorem raisesOn_of_standsAt {first : Scanner} {error : ParseError} {after : Session} {place : Nat}
    (started : Scanner.start grammar.lexicon grammar.endToken text = .ok first)
    (failed : Session.complete grammar (Session.ofScanner first) = .error error after)
    (kind : error.kind = .unexpectedToken ∨ error.kind = .tooDeep)
    (stands : grammar.StandsAt text place after.scanner) : grammar.RaisesOn text error place :=
  ⟨kind, _, givesUp?_eq_some.mpr ⟨first, after, started, failed, rfl⟩, stands.item_eq⟩

section
variable {place : Nat} (same : ((grammar.items text).map Prod.fst).take (place + 1) =
  ((grammar.items other).map Prod.fst).take (place + 1))
include same

theorem lt_length_of_take_eq (inside : place < (grammar.items text).length) :
    place < (grammar.items other).length := by
  have lengths := congrArg List.length same
  simp only [List.length_take, List.length_map] at lengths
  omega

theorem StandsAt.current_eq {here : Nat} {scanner twin : Scanner} (le : here ≤ place)
    (stands : grammar.StandsAt text here scanner) (standsTwin : grammar.StandsAt other here twin) :
    scanner.current = twin.current := by
  have items := congrArg (·[here]?) same
  simp only [List.getElem?_take_of_lt (Nat.lt_succ_of_le le), List.getElem?_map] at items
  rw [show (grammar.items text)[here]? = _ from stands.item_eq,
    show (grammar.items other)[here]? = _ from standsTwin.item_eq] at items
  exact Option.some.inj items

/-- Scanners of two texts go the same way as long as they stand in front of the same items. -/
theorem mirrors_of_items (endNoWord : grammar.endToken.kind ∉ grammar.lexicon.kinds)
    (inside : place < (grammar.items text).length) :
    Scanner.Mirrors grammar.endToken
      (fun scanner twin => ∃ here ≤ place, grammar.StandsAt text here scanner ∧
        grammar.StandsAt other here twin)
      fun scanner => ∃ here > place, grammar.StandsAt text here scanner where
  current_eq := by
    rintro scanner twin ⟨here, le, stands, standsTwin⟩
    exact StandsAt.current_eq same le stands standsTwin
  endToken_eq := by
    rintro scanner twin ⟨here, le, stands, standsTwin⟩
    exact ⟨stands.sees.endToken_eq, standsTwin.sees.endToken_eq⟩
  next := by
    rintro scanner twin after ⟨here, le, stands, standsTwin⟩ found
    have insideTwin := lt_length_of_take_eq same inside
    rcases stands.next_cases with
      ⟨_, found', behind⟩ | ⟨_, found', still, ended, _⟩ | ⟨_, _, stuck, _⟩
    · cases found.symm.trans found'
      rcases Nat.lt_or_ge place (here + 1) with past | inner
      · exact Or.inl ⟨here + 1, past, behind⟩
      · rcases standsTwin.next_cases with
          ⟨final, foundTwin, behindTwin⟩ | ⟨_, _, _, _, last⟩ | ⟨_, _, _, _, last⟩
        · exact Or.inr ⟨final, foundTwin, here + 1, inner, behind, behindTwin⟩
        · exact absurd insideTwin (Nat.not_lt_of_le (last ▸ inner))
        · exact absurd insideTwin (Nat.not_lt_of_le (last ▸ inner))
    · cases found.symm.trans found'
      have endedTwin := (StandsAt.current_eq same le stands standsTwin).symm.trans ended
      obtain ⟨final, foundTwin, stillTwin⟩ := standsTwin.next_of_end endNoWord endedTwin
      exact Or.inr ⟨final, foundTwin, here, le, still, stillTwin⟩
    · cases found.symm.trans stuck
  parted_next := by
    rintro scanner after ⟨here, past, stands⟩ found
    rcases stands.next_cases with ⟨_, found', behind⟩ | ⟨_, found', still, _⟩ | ⟨_, _, stuck, _⟩
    · cases found.symm.trans found'
      exact ⟨here + 1, Nat.lt_succ_of_lt past, behind⟩
    · cases found.symm.trans found'
      exact ⟨here, past, still⟩
    · cases found.symm.trans stuck

end

theorem exists_start_of_lt {place : Nat} (inside : place < (grammar.items text).length) :
    ∃ first, Scanner.start grammar.lexicon grammar.endToken text = .ok first ∧
      grammar.StandsAt text 0 first := by
  rcases start_cases with started | ⟨cause, _, fails⟩
  · exact started
  · rw [items, fails] at inside
    exact absurd inside (Nat.not_lt_zero place)

/-- As far as their items are the same, two texts are read in the same way. -/
theorem complete_parallel_of_take {place : Nat}
    (noTrailing : grammar.trailing? grammar.endToken = none)
    (endNoWord : grammar.endToken.kind ∉ grammar.lexicon.kinds)
    (inside : place < (grammar.items text).length)
    (same : ((grammar.items text).map Prod.fst).take (place + 1) =
      ((grammar.items other).map Prod.fst).take (place + 1)) :
    ∃ first twin, Scanner.start grammar.lexicon grammar.endToken text = .ok first ∧
      Scanner.start grammar.lexicon grammar.endToken other = .ok twin ∧
      grammar.StandsAt text 0 first ∧
      Session.Parallel
        (fun scanner twin => ∃ here ≤ place, grammar.StandsAt text here scanner ∧
          grammar.StandsAt other here twin)
        (fun scanner => ∃ here > place, grammar.StandsAt text here scanner)
        (Session.complete grammar (Session.ofScanner first))
        (Session.complete grammar (Session.ofScanner twin)) := by
  obtain ⟨first, started, stands⟩ := exists_start_of_lt inside
  obtain ⟨twin, startedTwin, standsTwin⟩ := exists_start_of_lt (lt_length_of_take_eq same inside)
  exact ⟨first, twin, started, startedTwin, stands,
    Session.complete_parallel (mirrors_of_items same endNoWord inside) noTrailing
      ⟨0, Nat.zero_le place, stands, standsTwin⟩⟩

/-- Reading a text never comes upon an obstacle that is not there. -/
theorem complete_ne_scan {first : Scanner} {cause : ScanError} {after : Session}
    (stands : grammar.StandsAt text 0 first) (clear : (grammar.stream text).obstacle? = none) :
    Session.complete grammar (Session.ofScanner first) ≠ .error (.scan cause) after := by
  intro failed
  have raises := (Session.complete_steady (Session.ofScanner first)).of_error failed
  cases raises with
  | scan takes stuck =>
    obtain ⟨place, there, _⟩ := stands.takes takes
    cases clear.symm.trans (there.obstacle?_of_next stuck)

theorem items_of_tokenize {tokens : List Token}
    (endNoWord : grammar.endToken.kind ∉ grammar.lexicon.kinds)
    (split : (grammar.tokenize text).1 = .ok tokens) :
    (grammar.stream text).obstacle? = none ∧
      (grammar.items text).map Prod.fst = tokens ++ [grammar.endToken] := by
  rw [tokenize_eq endNoWord] at split
  exact TokenStream.tokens_eq_ok split

/-- Two texts of the same tokens are read as the same expression, or fail alike. -/
theorem parse_of_tokenize_eq {tokens : List Token}
    (noTrailing : grammar.trailing? grammar.endToken = none)
    (endNoWord : grammar.endToken.kind ∉ grammar.lexicon.kinds)
    (split : (grammar.tokenize text).1 = .ok tokens)
    (splitOther : (grammar.tokenize other).1 = .ok tokens) :
    (∃ expr, grammar.parse text = .ok expr ∧ grammar.parse other = .ok expr) ∨
      ∃ error span, grammar.parse text = .error error ∧
        grammar.parse other = .error (error.placedAt span) := by
  obtain ⟨clear, listed⟩ := items_of_tokenize endNoWord split
  obtain ⟨_, listedOther⟩ := items_of_tokenize endNoWord splitOther
  have count : (grammar.items text).length = tokens.length + 1 := by
    simpa using congrArg List.length listed
  have inside : tokens.length < (grammar.items text).length := count ▸ Nat.lt_succ_self _
  have nothingPast {scanner : Scanner} :
      ¬ ∃ here > tokens.length, grammar.StandsAt text here scanner := by
    rintro ⟨here, past, there⟩
    exact absurd there.inside (Nat.not_lt_of_le (count ▸ past))
  obtain ⟨first, twin, started, startedTwin, stands, both⟩ := complete_parallel_of_take noTrailing
    endNoWord inside (congrArg (List.take _) (listed.trans listedOther.symm))
  have noScan := fun cause after => @complete_ne_scan _ _ _ cause after stands clear
  rw [parse_of_complete (start_of_scanner started),
    parse_of_complete (start_of_scanner startedTwin)]
  generalize Session.complete grammar (Session.ofScanner first) = result,
    Session.complete grammar (Session.ofScanner twin) = resultTwin at both noScan ⊢
  cases both with
  | ok _ => exact Or.inl ⟨_, rfl, rfl⟩
  | error _ same => exact Or.inr ⟨_, _, rfl, congrArg Except.error same⟩
  | stuck => exact absurd rfl (noScan _ _)
  | pastOk past => exact absurd past nothingPast
  | pastError past => exact absurd past nothingPast

/-- What is given up in front of an item does not depend on what comes behind it. -/
theorem RaisesOn.of_take {error : ParseError} {place : Nat}
    (noTrailing : grammar.trailing? grammar.endToken = none)
    (endNoWord : grammar.endToken.kind ∉ grammar.lexicon.kinds)
    (raises : grammar.RaisesOn text error place)
    (same : ((grammar.items text).map Prod.fst).take (place + 1) =
      ((grammar.items other).map Prod.fst).take (place + 1)) :
    ∃ span, grammar.RaisesOn other (error.placedAt span) place := by
  obtain ⟨kind, _, givesUp, item⟩ := raises
  obtain ⟨first, after, started, failed, rfl⟩ := givesUp?_eq_some.mp givesUp
  have inside := (List.getElem?_eq_some_iff.mp item).1
  obtain ⟨_, twin, sameStart, startedTwin, _, both⟩ := complete_parallel_of_take noTrailing
    endNoWord inside same
  cases started.symm.trans sameStart
  rw [failed] at both
  generalize ran : Session.complete grammar (Session.ofScanner twin) = result at both
  cases both with
  | @error _ _ _ final kept alike =>
    obtain ⟨here, _, stands, standsTwin⟩ := kept
    obtain rfl := stands.place_eq stream_inOrder item rfl
    subst alike
    exact ⟨_, raisesOn_of_standsAt startedTwin ran (by rwa [ParseError.kind_placedAt]) standsTwin⟩
  | stuck => exact absurd kind (not_or.mpr ParseError.kind_scan)
  | pastError past =>
    obtain ⟨here, behind, stands⟩ := past
    exact absurd (stands.place_eq stream_inOrder item rfl) (Nat.ne_of_gt behind)

/-- In front of an obstacle, reading a text is given up at the obstacle or at an item before it. -/
theorem parse_of_obstacle {cause : ScanError}
    (endNoWord : grammar.endToken.kind ∉ grammar.lexicon.kinds)
    (blocks : (grammar.stream text).obstacle? = some cause) :
    grammar.parse text = .error (.scan cause) ∨
      ∃ error place item, grammar.RaisesOn text error place ∧
        (grammar.items text)[place]? = some item ∧ error.span = item.2 ∧
        item.2.stop ≤ cause.pos := by
  rcases start_cases with ⟨first, started, stands⟩ | ⟨other, stuck, fails⟩
  · have ends := @Session.complete_steady grammar (Session.ofScanner first)
    have noEnd {place : Nat} {scanner : Scanner} (there : grammar.StandsAt text place scanner) :
        scanner.current ≠ grammar.endToken := fun ended =>
      nomatch blocks.symm.trans (there.obstacle?_eq_none endNoWord ended)
    cases ran : Session.complete grammar (Session.ofScanner first) with
    | ok expr after =>
      obtain ⟨ended, tokens, takes⟩ := ends.of_ok ran
      obtain ⟨place, there, _⟩ := stands.takes takes
      exact absurd ended (noEnd there)
    | error error after =>
      rcases Raises.cases_of_standsAt stands (ends.of_error ran) with
        ⟨other, rfl, same⟩ | ⟨place, there, span, kind | ended⟩
      · obtain rfl := Option.some.inj (blocks.symm.trans same)
        refine Or.inl ?_
        rw [parse_of_complete (start_of_scanner started), ran]
        rfl
      · exact Or.inr ⟨error, place, _, raisesOn_of_standsAt started ran kind there, there.item_eq,
          span, there.stop_le stream_inOrder blocks⟩
      · exact absurd ended (noEnd there)
  · rw [fails] at blocks
    cases blocks
    exact Or.inl (parse_of_start_error stuck)

theorem exists_raisesOn {error : ParseError} (failed : grammar.parse text = .error error)
    (kind : error.kind = .unexpectedToken ∨ error.kind = .tooDeep) :
    ∃ place, grammar.RaisesOn text error place := by
  rcases parse_error_cases failed with ⟨cause, rfl, _⟩ | ⟨first, after, started, ran, raises⟩
  · exact absurd kind (not_or.mpr ParseError.kind_scan)
  · rcases start_cases with ⟨_, same, stands⟩ | ⟨_, stuck, _⟩
    · cases started.symm.trans same
      rcases raises.cases_of_standsAt stands with ⟨_, rfl, _⟩ | ⟨place, there, _⟩
      · exact absurd kind (not_or.mpr ParseError.kind_scan)
      · exact ⟨place, raisesOn_of_standsAt started ran kind there⟩
    · cases started.symm.trans stuck

variable (grammar) in
/-- A text is read as its items say, and only as far as the item in front of which reading is given
up: what comes behind it does not matter, nor does where the items stand. Where an obstacle comes
behind the items, it is reported unless reading was given up before. -/
theorem parse_depends_on_items (noTrailing : grammar.trailing? grammar.endToken = none)
    (endNoWord : grammar.endToken.kind ∉ grammar.lexicon.kinds) (text : List Char) :
    (∀ other tokens, (grammar.tokenize text).1 = .ok tokens →
      (grammar.tokenize other).1 = .ok tokens →
      (∃ expr, grammar.parse text = .ok expr ∧ grammar.parse other = .ok expr) ∨
      ∃ error span, grammar.parse text = .error error ∧
        grammar.parse other = .error (error.placedAt span)) ∧
    (∀ error, grammar.parse text = .error error →
      error.kind = .unexpectedToken ∨ error.kind = .tooDeep →
      ∃ place, grammar.RaisesOn text error place) ∧
    (∀ other error place, grammar.RaisesOn text error place →
      ((grammar.items text).map Prod.fst).take (place + 1) =
        ((grammar.items other).map Prod.fst).take (place + 1) →
      ∃ span, grammar.parse other = .error (error.placedAt span) ∧
        grammar.RaisesOn other (error.placedAt span) place) ∧
    ∀ cause, (grammar.tokenize text).1 = .error cause →
      grammar.parse text = .error (.scan cause) ∨
      ∃ error place item, grammar.parse text = .error error ∧
        grammar.RaisesOn text error place ∧ (grammar.items text)[place]? = some item ∧
        error.span = item.2 ∧ item.2.stop ≤ cause.pos := by
  refine ⟨fun other tokens split splitOther => ?_, fun error failed kind => ?_,
    fun other error place raises same => ?_, fun cause stuck => ?_⟩
  · exact parse_of_tokenize_eq noTrailing endNoWord split splitOther
  · exact exists_raisesOn failed kind
  · obtain ⟨span, raisesOther⟩ := raises.of_take noTrailing endNoWord same
    exact ⟨span, raisesOther.parse_eq, raisesOther⟩
  · rw [tokenize_eq endNoWord] at stuck
    refine (parse_of_obstacle endNoWord (TokenStream.tokens_eq_error stuck)).imp_right ?_
    rintro ⟨error, place, item, raises, known, span, before⟩
    exact ⟨error, place, item, raises.parse_eq, raises, known, span, before⟩

/-- Whatever comes behind a closing parenthesis that stands where an operand has to begin, it is not
looked at, be it a character that no token begins with. -/
theorem stray_parenthesis_hides_rest :
    (arithmetic.trailing? arithmetic.endToken = none ∧
      arithmetic.endToken.kind ∉ arithmetic.lexicon.kinds) ∧
    (arithmetic.tokenize "1+)$".toList).1 = .error (.unrecognized '$' 3) ∧
    (∃ error place item, arithmetic.parse "1+)$".toList = .error error ∧
      arithmetic.RaisesOn "1+)$".toList error place ∧
      (arithmetic.items "1+)$".toList)[place]? = some item ∧ error.span = item.2 ∧
      item.2.stop ≤ 3) ∧
    ∀ other, ((arithmetic.items "1+)$".toList).map Prod.fst).take 3 =
        ((arithmetic.items other).map Prod.fst).take 3 →
      ∃ span, arithmetic.parse other = .error (.unexpected ⟨"op", ")"⟩ .operand span) := by
  have noTrailing : arithmetic.trailing? arithmetic.endToken = none := by decide +kernel
  have endNoWord : arithmetic.endToken.kind ∉ arithmetic.lexicon.kinds := by decide +kernel
  have stuck : (arithmetic.tokenize "1+)$".toList).1 = .error (.unrecognized '$' 3) := by
    decide +kernel
  have raises : arithmetic.RaisesOn "1+)$".toList
      (.unexpected ⟨"op", ")"⟩ .operand ⟨2, 3⟩) 2 := by decide +kernel
  obtain ⟨_, _, alike, before⟩ :=
    parse_depends_on_items arithmetic noTrailing endNoWord "1+)$".toList
  refine ⟨⟨noTrailing, endNoWord⟩, stuck, ?_, fun other same => ?_⟩
  · rcases before _ stuck with reported | known
    · cases reported.symm.trans raises.parse_eq
    · exact known
  · obtain ⟨span, failed, _⟩ := alike other _ 2 raises same
    exact ⟨span, failed⟩

end Grammar

end Precedence
