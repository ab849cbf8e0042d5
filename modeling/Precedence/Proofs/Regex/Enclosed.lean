import Precedence.Lexicon
import Precedence.Proofs.Regex.Closed

namespace Precedence

namespace RegexReader

/-- A reader with one more group open around it, and with other text left. -/
def within (reader : RegexReader) (outer : OpenGroup) (more : List Char) : RegexReader :=
  { reader with rest := more, groups := reader.groups ++ [outer] }

/-- Whether a reader has just read the same as another one inside a group, and has the same left up
to a closing parenthesis. -/
def Inside (outer : OpenGroup) (reader wide : RegexReader) : Prop :=
  ∃ more, wide = reader.within outer more ∧ Closed reader.rest more

section
variable {reader : RegexReader} {outer : OpenGroup} {rest more any : List Char}

theorem repeatLast?_inside {least : Nat} {most? : Option Nat} {greedy : Bool}
    (closed : Closed rest more) :
    Agrees (Inside outer) (reader.repeatLast? least most? greedy rest)
      ((reader.within outer any).repeatLast? least most? greedy more) := by
  unfold repeatLast? within
  dsimp only
  split
  · exact .some ⟨more, rfl, closed⟩
  · exact .none

theorem closeGroup?_inside (closed : Closed rest more) :
    Agrees (Inside outer) (reader.closeGroup? rest)
      ((reader.within outer any).closeGroup? more) := by
  obtain ⟨_, flags, branches, groups, names⟩ := reader
  cases groups with
  | nil => exact .none
  | cons group groups => exact .some ⟨more, rfl, closed⟩

theorem openNamed?_inside (closed : Closed rest more) :
    Agrees (Inside outer) (reader.openNamed? rest)
      ((reader.within outer any).openNamed? more) := by
  refine (readName?_agrees closed).bind ?_
  rintro ⟨name, rest⟩ ⟨_, more⟩ ⟨rfl, behind⟩
  change Agrees _ (if reader.names.contains name then none else _)
    (if reader.names.contains name then none else _)
  split
  · exact .none
  · exact .some ⟨more, rfl, behind⟩

/-- What becomes of the flags that were read behind `(?`: they open a group, or hold from there
on. -/
def setFlags? (reader : RegexReader) :
    Option (Flags × Char × Bool × List Char) → Option RegexReader
  | some (flags, ':', _, rest) => some (reader.openGroup .plain flags rest)
  | some (flags, _, true, rest) =>
    some { reader with
      rest, flags, branches := { reader.branches with items := none :: reader.branches.items } }
  | _ => none

theorem setFlags?_inside {flags : Flags} (closed : Closed rest more) :
    Agrees (Inside outer) (reader.setFlags? (flags.read? [] false rest))
      ((reader.within outer any).setFlags? (flags.read? [] false more)) := by
  cases read : flags.read? [] false rest with
  | none => exact .none
  | some switched =>
    obtain ⟨other, readWide, same⟩ := Flags.read?_agrees closed switched read
    obtain ⟨flags, mark, someLetter, rest⟩ := switched
    obtain ⟨_, _, _, more⟩ := other
    obtain ⟨rfl, rfl, rfl, behind⟩ := same
    rw [readWide]
    by_cases colon : mark = ':'
    · subst colon
      exact .some ⟨more, rfl, behind⟩
    · cases someLetter with
      | true => simpa [setFlags?, colon] using Agrees.some ⟨more, rfl, behind⟩
      | false => simpa [setFlags?, colon] using Agrees.none

/-- Opens a group as its front says, or sets flags. -/
def enterGroup? (reader : RegexReader) : List Char → Option RegexReader
  | '?' :: '=' :: _ => none
  | '?' :: '!' :: _ => none
  | '?' :: '<' :: '=' :: _ => none
  | '?' :: '<' :: '!' :: _ => none
  | '?' :: 'P' :: '<' :: rest => reader.openNamed? rest
  | '?' :: '<' :: rest => reader.openNamed? rest
  | '?' :: rest => reader.setFlags? (reader.flags.read? [] false rest)
  | rest => some (reader.openGroup (.marked none) reader.flags rest)

/-- What comes behind the parenthesis that opens a group is told by the same characters. -/
theorem enterGroup?_inside (closed : Closed rest more) :
    Agrees (Inside outer) (reader.enterGroup? rest)
      ((reader.within outer any).enterGroup? more) := by
  unfold enterGroup?
  split
  · exact .none
  · exact .none
  · exact .none
  · exact .none
  · next rest =>
    obtain ⟨_, rfl, marked⟩ := closed.cons_cases
    obtain ⟨_, rfl, named⟩ := marked.cons_cases
    obtain ⟨more, rfl, behind⟩ := named.cons_cases
    exact openNamed?_inside behind
  · next rest noEqual noNot =>
    split
    · exact absurd closed.tail.head_eq (by decide)
    · exact absurd closed.tail.head_eq (by decide)
    · obtain ⟨rest, rfl, _⟩ := closed.tail.tail.cons_cases_wide (by decide)
      exact absurd rfl (noEqual rest)
    · obtain ⟨rest, rfl, _⟩ := closed.tail.tail.cons_cases_wide (by decide)
      exact absurd rfl (noNot rest)
    · exact absurd closed.tail.head_eq (by decide)
    · exact openNamed?_inside closed.tail.tail
    · next noAngle =>
      obtain ⟨more, rfl, _⟩ := closed.tail.cons_cases
      exact absurd rfl (noAngle more)
    · next noMark =>
      obtain ⟨more, rfl, _⟩ := closed.cons_cases
      exact absurd rfl (noMark more)
  · next rest noEqual noNot noEqualBefore noNotBefore noName noAngle =>
    split
    · obtain ⟨rest, rfl, _⟩ := closed.tail.cons_cases_wide (by decide)
      exact absurd rfl (noEqual rest)
    · obtain ⟨rest, rfl, _⟩ := closed.tail.cons_cases_wide (by decide)
      exact absurd rfl (noNot rest)
    · obtain ⟨rest, rfl, _⟩ := closed.tail.cons_cases_wide (by decide)
      exact absurd rfl (noAngle rest)
    · obtain ⟨rest, rfl, _⟩ := closed.tail.cons_cases_wide (by decide)
      exact absurd rfl (noAngle rest)
    · obtain ⟨_, rfl, named⟩ := closed.tail.cons_cases_wide (by decide)
      obtain ⟨rest, rfl, _⟩ := named.cons_cases_wide (by decide)
      exact absurd rfl (noName rest)
    · obtain ⟨rest, rfl, _⟩ := closed.tail.cons_cases_wide (by decide)
      exact absurd rfl (noAngle rest)
    · exact setFlags?_inside closed.tail
    · next noMark =>
      obtain ⟨more, rfl, _⟩ := closed.cons_cases
      exact absurd rfl (noMark more)
  · next noMark =>
    have unmarked {tail : List Char} : more ≠ '?' :: tail := by
      rintro rfl
      obtain ⟨rest, rfl, _⟩ := closed.cons_cases_wide (by decide)
      exact noMark rest rfl
    split
    · exact absurd rfl unmarked
    · exact absurd rfl unmarked
    · exact absurd rfl unmarked
    · exact absurd rfl unmarked
    · exact absurd rfl unmarked
    · exact absurd rfl unmarked
    · exact absurd rfl unmarked
    · exact .some ⟨_, rfl, closed⟩

theorem readGroup?_inside (closed : Closed rest more) :
    Agrees (Inside outer) (reader.readGroup? rest)
      ((reader.within outer any).readGroup? more) :=
  enterGroup?_inside (closed.skip reader.flags)

theorem step?_inside {c : Char} (closed : Closed rest more) :
    Agrees (Inside outer) (reader.step? c rest) ((reader.within outer any).step? c more) := by
  obtain ⟨greedy, lazyRest⟩ := readLazy_sameUpTo closed
  unfold step?
  split
  · exact readGroup?_inside closed
  · exact closeGroup?_inside closed
  · exact .some ⟨more, rfl, closed⟩
  · refine (readBracket?_agrees closed).map ?_
    rintro ⟨chars, rest⟩ ⟨_, more⟩ ⟨rfl, behind⟩
    exact ⟨more, rfl, behind⟩
  · dsimp only
    rw [greedy]
    exact repeatLast?_inside lazyRest
  · dsimp only
    rw [greedy]
    exact repeatLast?_inside lazyRest
  · dsimp only
    rw [greedy]
    exact repeatLast?_inside lazyRest
  · refine (readBounds?_agrees closed).bind ?_
    rintro ⟨least, most?, rest⟩ ⟨_, _, more⟩ ⟨rfl, rfl, behind⟩
    obtain ⟨greedy, lazyRest⟩ := readLazy_sameUpTo (behind.skip reader.flags)
    change Agrees _ _ ((reader.within outer any).repeatLast? least most?
      (readLazy (reader.flags.skip more)).1 (readLazy (reader.flags.skip more)).2)
    rw [← greedy]
    exact repeatLast?_inside lazyRest
  · refine (readEscape?_agrees closed).map ?_
    rintro ⟨item, rest⟩ ⟨_, more⟩ ⟨rfl, behind⟩
    exact ⟨more, rfl, behind⟩
  · change Agrees _ _ (reader.flags.dot?.map _)
    cases reader.flags.dot? with
    | none => exact .none
    | some chars => exact .some ⟨more, rfl, closed⟩
  · exact .some ⟨more, rfl, closed⟩
  · exact .some ⟨more, rfl, closed⟩
  · exact .some ⟨more, rfl, closed⟩

/-- What a group around a whole pattern makes of it, when it is closed and the pattern ends. -/
def OpenGroup.enclose (outer : OpenGroup) (whole : Nested Regex) : Nested Regex :=
  (outer.around.push ⟨outer.kind.wrap whole.value, whole.height + 1⟩).close

/-- A pattern does not end inside a group. -/
theorem read?_within {fuel : Nat} :
    (reader.within outer more).read? (fuel + 1) =
      match reader.flags.skip more with
      | [] => none
      | c :: rest => ((reader.within outer more).step? c rest).bind (read? fuel) := by
  have skips : (reader.within outer more).flags.skip (reader.within outer more).rest =
      reader.flags.skip more := rfl
  rw [read?, skips]
  cases reader.flags.skip more with
  | nil => simp [within]
  | cons c rest => rfl

theorem read?_of_closed {fuel : Nat} (last : reader.groups = []) :
    ((reader.within outer more).step? ')' []).bind (read? (fuel + 1)) =
      some (OpenGroup.enclose outer reader.branches.close) := by
  obtain ⟨_, flags, branches, groups, names⟩ := reader
  subst last
  have skips : outer.flags.skip [] = [] := by
    unfold Flags.skip
    split <;> rfl
  change read? (fuel + 1) ⟨[], outer.flags, _, [], names⟩ = _
  rw [read?, skips]
  rfl

/-- A pattern that is well formed by itself is read in the same way inside a group, which is closed
behind it, unless the closing parenthesis is lost in a comment. -/
theorem read?_enclosed {wide : RegexReader} {fuel further : Nat} {whole : Nested Regex}
    (inside : Inside outer reader wide) (read : reader.read? fuel = some whole)
    (moreFuel : fuel < further) :
    wide.read? further = none ∨ wide.read? further = some (OpenGroup.enclose outer whole) := by
  induction fuel generalizing further reader wide with
  | zero => cases read
  | succ fuel ih =>
    obtain ⟨further, rfl⟩ : ∃ less, further = less + 1 := ⟨further - 1, by omega⟩
    obtain ⟨more, rfl, closed⟩ := inside
    have skipped := closed.skip reader.flags
    rw [read?] at read
    rw [read?_within]
    generalize reader.flags.skip reader.rest = front, reader.flags.skip more = frontWide
      at skipped read
    cases front with
    | nil =>
      rcases skipped.nil_cases with rfl | rfl
      · exact Or.inl rfl
      · obtain ⟨rest, rfl⟩ : ∃ less, further = less + 1 := ⟨further - 1, by omega⟩
        refine Or.inr ?_
        dsimp only at read ⊢
        split at read
        · next last =>
          cases read
          exact read?_of_closed (List.isEmpty_iff.mp last)
        · cases read
    | cons c rest =>
      obtain ⟨restWide, rfl, behind⟩ := skipped.cons_cases
      obtain ⟨next, stepped, later⟩ := Option.bind_eq_some_iff.mp read
      obtain ⟨other, steppedWide, still⟩ := step?_inside behind next stepped
      dsimp only
      rw [steppedWide]
      exact ih still later (Nat.lt_of_succ_lt_succ moreFuel)

end

/-- The group that is put around a pattern, behind the condition that holds it to the start. -/
def anchorGroup : OpenGroup where
  kind := .plain
  around := Branches.start.push (.flat (.boundary .textStart))
  flags := {}

/-- In front of the pattern itself, its anchor and the group around it have been read. -/
theorem read?_anchoredText {source : String} {fuel : Nat} :
    (ofText (Lexicon.anchoredText source)).read? (fuel + 2) =
      ((ofText source.toList).within anchorGroup (source.toList ++ [')'])).read? fuel := rfl

end RegexReader

end Precedence
