import Mathlib.Data.List.TakeDrop
import Precedence.Regex.Reader

namespace Precedence

/-- Whether a text is another one with a closing parenthesis put behind it. Where the text ends in a
comment, which goes on to the end of its line, the parenthesis is lost. -/
def Closed (text wide : List Char) : Prop := wide = text ++ [')'] ∨ wide = text

/-- Whether whatever is read is also read of another text, with a result that is related. -/
def Agrees {α β : Type} (related : α → β → Prop) (read : Option α) (wide : Option β) : Prop :=
  ∀ result, read = some result → ∃ other, wide = some other ∧ related result other

/-- Whether the same is read, and what is left is the same up to a closing parenthesis. -/
def SameUpTo {α : Type} (result other : α × List Char) : Prop :=
  result.1 = other.1 ∧ Closed result.2 other.2

section
variable {text rest wide : List Char} {c : Char}

theorem Closed.refl (text : List Char) : Closed text text := Or.inr rfl

theorem Closed.append (text : List Char) : Closed text (text ++ [')']) := Or.inl rfl

theorem Closed.cons (closed : Closed text wide) (c : Char) : Closed (c :: text) (c :: wide) :=
  closed.imp (congrArg (c :: ·)) (congrArg (c :: ·))

theorem Closed.nil_cases (closed : Closed [] wide) : wide = [] ∨ wide = [')'] := closed.symm

theorem Closed.cons_cases (closed : Closed (c :: rest) wide) :
    ∃ more, wide = c :: more ∧ Closed rest more := by
  rcases closed with rfl | rfl
  · exact ⟨rest ++ [')'], rfl, .append rest⟩
  · exact ⟨rest, rfl, .refl rest⟩

theorem Closed.head_eq {more : List Char} {d : Char} (closed : Closed (c :: rest) (d :: more)) :
    d = c := by
  obtain ⟨_, same, _⟩ := closed.cons_cases
  exact (List.cons.inj same).1

theorem Closed.tail {more : List Char} (closed : Closed (c :: rest) (c :: more)) :
    Closed rest more := by
  obtain ⟨_, same, behind⟩ := closed.cons_cases
  rwa [(List.cons.inj same).2]

theorem Closed.length_le (closed : Closed text wide) : text.length ≤ wide.length := by
  rcases closed with rfl | rfl
  · simp
  · exact Nat.le_refl _

theorem Closed.eq_nil (closed : Closed text []) : text = [] := by
  rcases closed with whole | rfl
  · simp at whole
  · rfl

/-- Anything but the parenthesis stands in both texts. -/
theorem Closed.cons_cases_wide {more : List Char} (closed : Closed text (c :: more))
    (other : c ≠ ')') : ∃ rest, text = c :: rest ∧ Closed rest more := by
  rcases closed with whole | rfl
  · cases text with
    | nil => exact absurd (List.cons.inj whole).1 other
    | cons d rest =>
      obtain ⟨rfl, rfl⟩ := List.cons.inj whole
      exact ⟨rest, rfl, .append rest⟩
  · exact ⟨more, rfl, .refl more⟩

theorem Closed.dropWhile (closed : Closed text wide) (drops : Char → Bool) :
    Closed (text.dropWhile drops) (wide.dropWhile drops) := by
  rcases closed with rfl | rfl
  · induction text with
    | nil =>
      cases dropsMark : drops ')' with
      | true => exact Or.inr (by simp [dropsMark])
      | false => exact Or.inl (by simp [dropsMark])
    | cons c rest ih =>
      cases dropped : drops c with
      | true => simpa [dropped] using ih
      | false => exact Or.inl (by simp [dropped])
  · exact .refl _

theorem Closed.takeWhile_eq (closed : Closed text wide) {keeps : Char → Bool}
    (breaks : text.dropWhile keeps ≠ []) : wide.takeWhile keeps = text.takeWhile keeps := by
  rcases closed with rfl | rfl
  · induction text with
    | nil => exact absurd rfl breaks
    | cons c rest ih =>
      cases kept : keeps c with
      | true =>
        rw [List.dropWhile_cons_of_pos kept] at breaks
        simp [kept, ih breaks]
      | false => simp [kept]
  · rfl

theorem closed_skipSpaced {inComment : Bool} :
    Closed (skipSpaced inComment text) (skipSpaced inComment (text ++ [')'])) := by
  induction text generalizing inComment with
  | nil =>
    cases inComment with
    | true => exact .refl []
    | false => exact .append []
  | cons c rest ih =>
    unfold skipSpaced
    dsimp only [List.cons_append]
    split
    · exact ih
    · split
      · exact ih
      · split
        · exact ih
        · exact .append (c :: rest)

theorem Closed.skip (closed : Closed text wide) (flags : Flags) :
    Closed (flags.skip text) (flags.skip wide) := by
  rcases closed with rfl | rfl
  · unfold Flags.skip
    split
    · exact closed_skipSpaced
    · exact .append text
  · exact .refl _

end

section
variable {α β γ δ : Type}

theorem Agrees.none {related : α → β → Prop} {wide : Option β} : Agrees related none wide := nofun

theorem Agrees.some {related : α → β → Prop} {result : α} {other : β}
    (same : related result other) : Agrees related (some result) (some other) := by
  rintro _ ⟨⟩
  exact ⟨other, rfl, same⟩

theorem Agrees.bind {related : α → β → Prop} {after : γ → δ → Prop} {read : Option α}
    {wide : Option β} {next : α → Option γ} {nextWide : β → Option δ}
    (first : Agrees related read wide)
    (second : ∀ result other, related result other →
      Agrees after (next result) (nextWide other)) :
    Agrees after (read.bind next) (wide.bind nextWide) := by
  intro result found
  obtain ⟨middle, rfl, later⟩ := Option.bind_eq_some_iff.mp found
  obtain ⟨other, rfl, same⟩ := first middle rfl
  exact second middle other same result later

theorem Agrees.map {related : α → β → Prop} {after : γ → δ → Prop} {read : Option α}
    {wide : Option β} {change : α → γ} {changeWide : β → δ} (first : Agrees related read wide)
    (second : ∀ result other, related result other → after (change result) (changeWide other)) :
    Agrees after (read.map change) (wide.map changeWide) := by
  intro result found
  obtain ⟨middle, rfl, rfl⟩ := Option.map_eq_some_iff.mp found
  obtain ⟨other, rfl, same⟩ := first middle rfl
  exact ⟨_, rfl, second middle other same⟩

theorem Agrees.bindSame {after : γ → δ → Prop} {read : Option α} {next : α → Option γ}
    {nextWide : α → Option δ} (second : ∀ result, Agrees after (next result) (nextWide result)) :
    Agrees after (read.bind next) (read.bind nextWide) := by
  cases read with
  | none => exact .none
  | some result => exact second result

/-- What was read may be changed on both sides alike. -/
theorem Agrees.mapFst {read wide : Option (α × List Char)} (first : Agrees SameUpTo read wide)
    (change : α → γ) :
    Agrees SameUpTo (read.map fun result => (change result.1, result.2))
      (wide.map fun result => (change result.1, result.2)) := by
  refine first.map ?_
  rintro ⟨value, rest⟩ ⟨_, more⟩ ⟨rfl, closed⟩
  exact ⟨rfl, closed⟩

theorem Agrees.mapSame {rest more : List Char} (closed : Closed rest more) (read : Option α)
    (change : α → γ) :
    Agrees SameUpTo (read.map fun value => (change value, rest))
      (read.map fun value => (change value, more)) := by
  cases read with
  | none => exact .none
  | some result => exact .some ⟨rfl, closed⟩

end

section
variable {flags : Flags} {text wide : List Char}

theorem readDigits?_agrees {count value : Nat} (closed : Closed text wide) :
    Agrees SameUpTo (readDigits? flags count value text) (readDigits? flags count value wide) := by
  induction count generalizing value text wide with
  | zero => exact .some ⟨rfl, closed⟩
  | succ count ih =>
    cases text with
    | nil => exact .none
    | cons c rest =>
      obtain ⟨more, rfl, behind⟩ := closed.cons_cases
      exact .bindSame fun digit => ih (behind.skip flags)

theorem readBraced?_agrees {fuel further : Nat} {read : Nat × Nat} (closed : Closed text wide)
    (le : fuel ≤ further) :
    Agrees SameUpTo (readBraced? flags fuel read text) (readBraced? flags further read wide) := by
  induction fuel generalizing further read text wide with
  | zero => exact .none
  | succ fuel ih =>
    obtain ⟨further, rfl⟩ := Nat.exists_eq_add_of_le' (Nat.le_trans (Nat.le_add_left 1 fuel) le)
    cases text with
    | nil => exact .none
    | cons c rest =>
      obtain ⟨more, rfl, behind⟩ := closed.cons_cases
      unfold readBraced?
      split
      · exact .some ⟨rfl, behind.skip flags⟩
      · exact .bindSame fun digit => ih (behind.skip flags) (Nat.le_of_succ_le_succ le)

/-- The character of a number that was read, if it stands for one. -/
def codePoint? (flags : Flags) (digits : Nat) (read : Nat × List Char) :
    Option (Char × List Char) :=
  if digits = 2 ∧ !flags.unicode ∧ 0x80 ≤ read.1 then none else (charAt? read.1).map (·, read.2)

theorem readCodePoint?_agrees {digits : Nat} (closed : Closed text wide) :
    Agrees SameUpTo (readCodePoint? flags digits text) (readCodePoint? flags digits wide) := by
  have plain : Agrees SameUpTo
      ((readDigits? flags digits 0 text).bind (codePoint? flags digits))
      ((readDigits? flags digits 0 wide).bind (codePoint? flags digits)) := by
    refine (readDigits?_agrees closed).bind ?_
    rintro ⟨value, rest⟩ ⟨_, more⟩ ⟨rfl, behind⟩
    unfold codePoint?
    split
    · exact .none
    · exact .mapSame behind _ _
  cases text with
  | nil => rcases closed.nil_cases with rfl | rfl <;> exact plain
  | cons c rest =>
    obtain ⟨more, rfl, behind⟩ := closed.cons_cases
    by_cases brace : c = '\x7b'
    · subst brace
      unfold readCodePoint?
      refine (readBraced?_agrees (behind.skip flags) closed.length_le).bind ?_
      rintro ⟨⟨count, value⟩, rest⟩ ⟨⟨_, _⟩, more⟩ ⟨⟨⟩, behind⟩
      dsimp only
      split
      · exact .none
      · exact .mapSame behind _ _
    · unfold readCodePoint?
      split
      · next shape => exact absurd (List.cons.inj shape).1 brace
      · split
        · next shape => exact absurd (List.cons.inj shape).1 brace
        · exact plain

theorem readEdge?_agrees {fuel further : Nat} {name : List Char} (closed : Closed text wide)
    (le : fuel ≤ further) :
    Agrees SameUpTo (readEdge? flags fuel name text) (readEdge? flags further name wide) := by
  induction fuel generalizing further name text wide with
  | zero => exact .none
  | succ fuel ih =>
    obtain ⟨further, rfl⟩ := Nat.exists_eq_add_of_le' (Nat.le_trans (Nat.le_add_left 1 fuel) le)
    cases text with
    | nil => exact .none
    | cons c rest =>
      obtain ⟨more, rfl, behind⟩ := closed.cons_cases
      unfold readEdge?
      split
      · exact ih (behind.skip flags) (Nat.le_of_succ_le_succ le)
      · split
        · exact .mapSame behind _ _
        · exact .none

theorem readWordEdge?_agrees (closed : Closed text wide) :
    Agrees SameUpTo (readWordEdge? flags text) (readWordEdge? flags wide) := by
  cases text with
  | nil => rcases closed.nil_cases with rfl | rfl <;> exact .some ⟨rfl, closed⟩
  | cons c rest =>
    obtain ⟨more, rfl, behind⟩ := closed.cons_cases
    by_cases brace : c = '\x7b'
    · subst brace
      simp only [readWordEdge?]
      have skipped := behind.skip flags
      have le := closed.length_le
      generalize flags.skip rest = named, flags.skip more = namedWide at skipped
      cases named with
      | nil => exact .none
      | cons d named =>
        obtain ⟨namedWide, rfl, _⟩ := skipped.cons_cases
        dsimp only
        split
        · exact readEdge?_agrees skipped le
        · exact .some ⟨rfl, closed⟩
    · unfold readWordEdge?
      split
      · next shape => exact absurd (List.cons.inj shape).1 brace
      · split
        · next shape => exact absurd (List.cons.inj shape).1 brace
        · exact .some ⟨rfl, closed⟩

theorem readQuery?_agrees {fuel further : Nat} {query : List Char} (closed : Closed text wide)
    (le : fuel ≤ further) :
    Agrees SameUpTo (readQuery? flags fuel query text) (readQuery? flags further query wide) := by
  induction fuel generalizing further query text wide with
  | zero => exact .none
  | succ fuel ih =>
    obtain ⟨further, rfl⟩ := Nat.exists_eq_add_of_le' (Nat.le_trans (Nat.le_add_left 1 fuel) le)
    cases text with
    | nil => exact .none
    | cons c rest =>
      obtain ⟨more, rfl, behind⟩ := closed.cons_cases
      unfold readQuery?
      split
      · exact .some ⟨rfl, behind⟩
      · exact ih (behind.skip flags) (Nat.le_of_succ_le_succ le)

/-- Reads what a property is asked for with: a text in braces, or one letter. -/
def readAsked? (flags : Flags) (text : List Char) : Option (List Char × List Char) :=
  match flags.skip text with
  | '\x7b' :: rest => readQuery? flags text.length [] (flags.skip rest)
  | '\\' :: _ => none
  | c :: rest => some ([c], rest)
  | [] => none

theorem readAsked?_agrees (closed : Closed text wide) :
    Agrees SameUpTo (readAsked? flags text) (readAsked? flags wide) := by
  have skipped := closed.skip flags
  have le := closed.length_le
  unfold readAsked?
  generalize flags.skip text = query, flags.skip wide = queryWide at skipped
  split
  · next rest =>
    obtain ⟨more, rfl, behind⟩ := skipped.cons_cases
    exact readQuery?_agrees (behind.skip flags) le
  · exact .none
  · next c rest noBrace noEscape =>
    obtain ⟨more, rfl, behind⟩ := skipped.cons_cases
    split
    · next shape => exact absurd (List.cons.inj shape).1 noBrace
    · next shape => exact absurd (List.cons.inj shape).1 noEscape
    · next shape =>
      obtain ⟨rfl, rfl⟩ := List.cons.inj shape
      exact .some ⟨rfl, behind⟩
    · next shape => cases shape
  · exact .none

theorem readProperty?_agrees {negated : Bool} (closed : Closed text wide) :
    Agrees SameUpTo (readProperty? flags negated text) (readProperty? flags negated wide) := by
  refine (readAsked?_agrees closed).bind ?_
  rintro ⟨query, rest⟩ ⟨_, more⟩ ⟨rfl, behind⟩
  dsimp only
  split
  · exact .bindSame fun chars => .mapSame behind _ _
  · exact .none

theorem readEscape?_agrees (closed : Closed text wide) :
    Agrees SameUpTo (readEscape? flags text) (readEscape? flags wide) := by
  cases text with
  | nil => exact .none
  | cons c rest =>
    obtain ⟨more, rfl, behind⟩ := closed.cons_cases
    simp only [readEscape?]
    have skipped := behind.skip flags
    have complement {chars : Charset} : Agrees SameUpTo
        ((flags.compl? chars).map fun chars => (Atom.set chars, rest))
        ((flags.compl? chars).map fun chars => (.set chars, more)) :=
      .mapSame behind _ _
    split
    · exact (readCodePoint?_agrees skipped).mapFst Atom.literal
    · exact (readCodePoint?_agrees skipped).mapFst Atom.literal
    · exact (readCodePoint?_agrees skipped).mapFst Atom.literal
    · exact .some ⟨rfl, behind⟩
    · exact complement
    · exact .some ⟨rfl, behind⟩
    · exact complement
    · exact .some ⟨rfl, behind⟩
    · exact complement
    · exact (readProperty?_agrees behind).mapFst Atom.set
    · exact (readProperty?_agrees behind).mapFst Atom.set
    · exact .some ⟨rfl, behind⟩
    · exact .some ⟨rfl, behind⟩
    · exact .some ⟨rfl, behind⟩
    · exact .some ⟨rfl, behind⟩
    · exact .some ⟨rfl, behind⟩
    · exact .some ⟨rfl, behind⟩
    · exact .some ⟨rfl, behind⟩
    · exact .some ⟨rfl, behind⟩
    · exact (readWordEdge?_agrees behind).mapFst fun place =>
        Atom.boundary (flags.wordBoundary place)
    · exact .some ⟨rfl, behind⟩
    · exact .some ⟨rfl, behind⟩
    · exact .some ⟨rfl, behind⟩
    · split
      · exact .some ⟨rfl, behind⟩
      · exact .none

theorem readItem?_agrees (closed : Closed text wide) :
    Agrees SameUpTo (readItem? flags text) (readItem? flags wide) := by
  cases text with
  | nil => exact .none
  | cons c rest =>
    obtain ⟨more, rfl, behind⟩ := closed.cons_cases
    by_cases escape : c = '\\'
    · subst escape
      exact readEscape?_agrees behind
    · simp only [readItem?]
      exact .some ⟨rfl, behind⟩

/-- Reads the caret that negates a class, if it is there, and what is passed over behind it. -/
def readCaret (pass : List Char → List Char) : List Char → Bool × List Char
  | '^' :: rest => (true, pass rest)
  | rest => (false, rest)

theorem readCaret_of_ne {pass : List Char → List Char} {c : Char} {rest : List Char}
    (other : c ≠ '^') : readCaret pass (c :: rest) = (false, c :: rest) := by
  simp [readCaret, other]

theorem readCaret_sameUpTo {pass : List Char → List Char} (closed : Closed text wide)
    (passed : ∀ {rest more}, Closed rest more → Closed (pass rest) (pass more)) :
    SameUpTo (readCaret pass text) (readCaret pass wide) := by
  cases text with
  | nil => rcases closed.nil_cases with rfl | rfl <;> exact ⟨rfl, closed⟩
  | cons c rest =>
    obtain ⟨more, rfl, behind⟩ := closed.cons_cases
    by_cases caret : c = '^'
    · subst caret
      exact ⟨rfl, passed behind⟩
    · rw [readCaret_of_ne caret, readCaret_of_ne caret]
      exact ⟨rfl, closed⟩

/-- Reads the name of a class, up to the bracket that closes it. -/
def readClass? (flags : Flags) (negated : Bool) (text : List Char) :
    Option (Option Charset × List Char) :=
  match text.dropWhile (· != ':') with
  | ':' :: ']' :: after =>
    (namedSet? (String.ofList (text.takeWhile (· != ':')))).map fun chars =>
      (flags.negated? negated (flags.foldSet chars), after)
  | _ => none

theorem readNamedSet?_eq : readNamedSet? flags ('[' :: ':' :: text) =
    readClass? flags (readCaret id text).1 (readCaret id text).2 := by
  cases text with
  | nil => rfl
  | cons c rest =>
    by_cases caret : c = '^'
    · subst caret
      rfl
    · simp only [readNamedSet?, readCaret_of_ne caret, List.cons.injEq, caret, false_and, imp_self,
        implies_true]
      rfl

/-- A result is found on both sides or on none. -/
def BothUpTo {α : Type} (read wide : Option (α × List Char)) : Prop :=
  read = none ∧ wide = none ∨
    ∃ result other, read = some result ∧ wide = some other ∧ SameUpTo result other

theorem readClass?_bothUpTo {negated : Bool} (closed : Closed text wide) :
    BothUpTo (readClass? flags negated text) (readClass? flags negated wide) := by
  have dropped := closed.dropWhile (· != ':')
  unfold readClass?
  split
  · next after shape =>
    rw [closed.takeWhile_eq (by simp [shape])]
    rw [shape] at dropped
    obtain ⟨_, named, inner⟩ := dropped.cons_cases
    obtain ⟨more, rfl, behind⟩ := inner.cons_cases
    rw [named]
    cases namedSet? (String.ofList (text.takeWhile (· != ':'))) with
    | none => exact Or.inl ⟨rfl, rfl⟩
    | some chars => exact Or.inr ⟨_, _, rfl, rfl, rfl, behind⟩
  · next other =>
    refine Or.inl ⟨rfl, ?_⟩
    split
    · next more shape =>
      rw [shape] at dropped
      obtain ⟨_, named, inner⟩ := dropped.cons_cases_wide (by decide)
      obtain ⟨rest, rfl, _⟩ := inner.cons_cases_wide (by decide)
      exact absurd named (other rest)
    · rfl

theorem readNamedSet?_bothUpTo (closed : Closed text wide) :
    BothUpTo (readNamedSet? flags text) (readNamedSet? flags wide) := by
  by_cases named : ∃ rest, text = '[' :: ':' :: rest
  · obtain ⟨rest, rfl⟩ := named
    obtain ⟨_, rfl, inner⟩ := closed.cons_cases
    obtain ⟨more, rfl, behind⟩ := inner.cons_cases
    obtain ⟨negated, inside⟩ := @readCaret_sameUpTo _ _ id behind fun same => same
    rw [readNamedSet?_eq, readNamedSet?_eq, negated]
    exact readClass?_bothUpTo inside
  · unfold readNamedSet?
    split
    · next rest => exact absurd ⟨rest, rfl⟩ named
    · refine Or.inl ⟨rfl, ?_⟩
      split
      · next more =>
        obtain ⟨_, rfl, inner⟩ := closed.cons_cases_wide (by decide)
        obtain ⟨rest, rfl, _⟩ := inner.cons_cases_wide (by decide)
        exact absurd ⟨rest, rfl⟩ named
      · rfl

theorem readDashes_sameUpTo {fuel further : Nat} {bracket : Bracket} (closed : Closed text wide)
    (enough : text.length ≤ fuel) (le : fuel ≤ further) :
    SameUpTo (readDashes flags fuel bracket text) (readDashes flags further bracket wide) := by
  induction fuel generalizing further bracket text wide with
  | zero =>
    obtain rfl := List.length_eq_zero_iff.mp (Nat.le_zero.mp enough)
    rcases closed.nil_cases with rfl | rfl
    · cases further <;> exact ⟨rfl, closed⟩
    · cases further <;> exact ⟨rfl, closed⟩
  | succ fuel ih =>
    obtain ⟨further, rfl⟩ := Nat.exists_eq_add_of_le' (Nat.le_trans (Nat.le_add_left 1 fuel) le)
    cases text with
    | nil => rcases closed.nil_cases with rfl | rfl <;> exact ⟨rfl, closed⟩
    | cons c rest =>
      obtain ⟨more, rfl, behind⟩ := closed.cons_cases
      by_cases dash : c = '-'
      · subst dash
        exact ih (behind.skip flags)
          (Nat.le_trans Flags.length_skip_le (Nat.le_of_succ_le_succ enough))
          (Nat.le_of_succ_le_succ le)
      · have plain {fuel : Nat} {tail : List Char} :
            readDashes flags (fuel + 1) bracket (c :: tail) = (bracket, c :: tail) := by
          simp [readDashes, dash]
        rw [plain, plain]
        exact ⟨rfl, closed⟩

/-- Reads a closing bracket that stands for itself, if it comes first in a bracket. -/
def readFirst? (flags : Flags) (bracket : Bracket) (text : List Char) :
    Option (Bracket × List Char) :=
  match text with
  | [] => none
  | ']' :: rest =>
    if 0 < bracket.count then some (bracket, text)
    else if flags.skip rest = [] then none
    else some (bracket.add (.flat (.single ']')), flags.skip rest)
  | _ => some (bracket, text)

/-- Reads the front of a bracket behind its caret. -/
def openItems? (flags : Flags) (negated : Bool) (text : List Char) : Option (Bracket × List Char) :=
  let read := readDashes flags text.length (.start negated) text
  readFirst? flags read.1 read.2

theorem openBracket?_eq : openBracket? flags text =
    openItems? flags (readCaret flags.skip (flags.skip text)).1
      (readCaret flags.skip (flags.skip text)).2 := rfl

theorem readFirst?_agrees {bracket : Bracket} (closed : Closed text wide) :
    Agrees SameUpTo (readFirst? flags bracket text) (readFirst? flags bracket wide) := by
  cases text with
  | nil => exact .none
  | cons c rest =>
    obtain ⟨more, rfl, behind⟩ := closed.cons_cases
    have skipped := behind.skip flags
    by_cases bracketEnd : c = ']'
    · subst bracketEnd
      simp only [readFirst?]
      split
      · exact .some ⟨rfl, closed⟩
      · split
        · exact .none
        · next someLeft =>
          split
          · next noneLeft =>
            rw [noneLeft] at skipped
            rcases skipped with left | left
            · exact absurd left (by simp)
            · exact absurd left.symm someLeft
          · exact .some ⟨rfl, skipped⟩
    · have plain {tail : List Char} :
          readFirst? flags bracket (c :: tail) = some (bracket, c :: tail) := by
        simp [readFirst?, bracketEnd]
      rw [plain, plain]
      exact .some ⟨rfl, closed⟩

theorem openItems?_agrees {negated : Bool} (closed : Closed text wide) :
    Agrees SameUpTo (openItems? flags negated text) (openItems? flags negated wide) := by
  obtain ⟨same, behind⟩ := @readDashes_sameUpTo flags _ _ _ _ (.start negated) closed
    (Nat.le_refl _) closed.length_le
  unfold openItems?
  dsimp only
  rw [same]
  exact readFirst?_agrees behind

theorem openBracket?_agrees (closed : Closed text wide) :
    Agrees SameUpTo (openBracket? flags text) (openBracket? flags wide) := by
  obtain ⟨negated, inside⟩ := readCaret_sameUpTo (closed.skip flags) (·.skip flags)
  rw [openBracket?_eq, openBracket?_eq, negated]
  exact openItems?_agrees inside

theorem Closed.head? (closed : Closed text wide) {c : Char} (other : c ≠ ')') :
    text.head? = some c ↔ wide.head? = some c := by
  cases text with
  | nil => rcases closed.nil_cases with rfl | rfl <;> simp [Ne.symm other]
  | cons d rest =>
    obtain ⟨more, rfl, _⟩ := closed.cons_cases
    rfl

theorem Closed.peek? (closed : Closed text wide) {c : Char} (other : c ≠ ')') :
    flags.peek? text = some c ↔ flags.peek? wide = some c := by
  unfold Flags.peek?
  split
  · have spaced := closed.dropWhile isSpace
    generalize text.dropWhile isSpace = front, wide.dropWhile isSpace = frontWide at spaced
    cases front with
    | nil =>
      rcases spaced.nil_cases with rfl | rfl
      · exact Iff.rfl
      · exact Closed.head? (.append []) other
    | cons d rest =>
      obtain ⟨more, rfl, behind⟩ := spaced.cons_cases
      by_cases comment : d = '#'
      · subst comment
        exact (behind.dropWhile isSpace).head? other
      · simp [comment]
  · exact closed.head? other

/-- Reads on behind the first item of a range, if it is one. -/
def readUpper? (flags : Flags) (first : Atom) (text : List Char) : Option (Charset × List Char) :=
  match text with
  | [] => none
  | '-' :: after =>
    if flags.peek? after = some ']' ∨ flags.peek? after = some '-' then
      (first.charset? flags).map (·, '-' :: after)
    else
      (readItem? flags (flags.skip after)).bind fun (last, rest) =>
        match first, last with
        | .literal low, .literal high =>
          if low ≤ high && flags.admits high then some (.range low high, rest) else none
        | _, _ => none
  | rest => (first.charset? flags).map (·, rest)

theorem readRange?_eq : readRange? flags text =
    (readItem? flags text).bind fun (first, rest) => readUpper? flags first (flags.skip rest) := rfl

theorem readUpper?_agrees {first : Atom} (closed : Closed text wide) :
    Agrees SameUpTo (readUpper? flags first text) (readUpper? flags first wide) := by
  cases text with
  | nil => exact .none
  | cons c after =>
    obtain ⟨afterWide, rfl, behind⟩ := closed.cons_cases
    by_cases dash : c = '-'
    · subst dash
      simp only [readUpper?]
      have alone : flags.peek? after = some ']' ∨ flags.peek? after = some '-' ↔
          flags.peek? afterWide = some ']' ∨ flags.peek? afterWide = some '-' :=
        or_congr (behind.peek? (by decide)) (behind.peek? (by decide))
      by_cases single : flags.peek? after = some ']' ∨ flags.peek? after = some '-'
      · rw [if_pos single, if_pos (alone.mp single)]
        exact .mapSame closed _ id
      · rw [if_neg single, if_neg (mt alone.mpr single)]
        refine (readItem?_agrees (behind.skip flags)).bind ?_
        rintro ⟨last, rest⟩ ⟨_, more⟩ ⟨rfl, later⟩
        dsimp only
        split
        · split
          · exact .some ⟨rfl, later⟩
          · exact .none
        · exact .none
    · have plain {tail : List Char} : readUpper? flags first (c :: tail) =
          (first.charset? flags).map (·, c :: tail) := by
        simp [readUpper?, dash]
      rw [plain, plain]
      exact .mapSame closed _ id

theorem readRange?_agrees (closed : Closed text wide) :
    Agrees SameUpTo (readRange? flags text) (readRange? flags wide) := by
  rw [readRange?_eq, readRange?_eq]
  refine (readItem?_agrees closed).bind ?_
  rintro ⟨first, rest⟩ ⟨_, more⟩ ⟨rfl, behind⟩
  exact readUpper?_agrees (behind.skip flags)

/-- Reads on behind an opening bracket, which begins a named class or a bracket inside. -/
def readInside? (flags : Flags)
    (further : Bracket → List Bracket → List Char → Option (Nested Charset × List Char))
    (bracket : Bracket) (outer : List Bracket) (text : List Char) :
    Option (Nested Charset × List Char) :=
  match readNamedSet? flags ('[' :: text) with
  | some (chars?, rest) => chars?.bind fun chars => further (bracket.add (.flat chars)) outer rest
  | none =>
    (openBracket? flags text).bind fun (inner, rest) => further inner (bracket :: outer) rest

theorem readInside?_agrees
    {further furtherWide : Bracket → List Bracket → List Char →
      Option (Nested Charset × List Char)}
    {bracket : Bracket} {outer : List Bracket} (closed : Closed text wide)
    (agrees : ∀ {bracket outer text wide}, Closed text wide →
      Agrees SameUpTo (further bracket outer text) (furtherWide bracket outer wide)) :
    Agrees SameUpTo (readInside? flags further bracket outer text)
      (readInside? flags furtherWide bracket outer wide) := by
  have named : BothUpTo (readNamedSet? flags ('[' :: text)) (readNamedSet? flags ('[' :: wide)) :=
    readNamedSet?_bothUpTo (closed.cons '[')
  unfold readInside?
  rcases named with ⟨noneRead, noneReadWide⟩ | ⟨⟨chars?, rest⟩, ⟨_, more⟩, read, readWide, same⟩
  · rw [noneRead, noneReadWide]
    refine (openBracket?_agrees closed).bind ?_
    rintro ⟨inner, rest⟩ ⟨_, more⟩ ⟨rfl, behind⟩
    exact agrees behind
  · obtain ⟨rfl, behind⟩ := same
    rw [read, readWide]
    exact .bindSame fun chars => agrees behind

theorem readBracketFrom?_agrees {fuel further : Nat} {bracket : Bracket} {outer : List Bracket}
    (closed : Closed text wide) (le : fuel ≤ further) :
    Agrees SameUpTo (readBracketFrom? flags fuel bracket outer text)
      (readBracketFrom? flags further bracket outer wide) := by
  induction fuel generalizing further bracket outer text wide with
  | zero => exact .none
  | succ fuel ih =>
    obtain ⟨further, rfl⟩ := Nat.exists_eq_add_of_le' (Nat.le_trans (Nat.le_add_left 1 fuel) le)
    have still := Nat.le_of_succ_le_succ le
    have skipped := closed.skip flags
    unfold readBracketFrom?
    generalize flags.skip text = front, flags.skip wide = frontWide at skipped
    split
    · exact .none
    · next rest =>
      obtain ⟨more, rfl, behind⟩ := skipped.cons_cases
      exact readInside?_agrees behind fun closed => ih closed still
    · next rest =>
      obtain ⟨more, rfl, behind⟩ := skipped.cons_cases
      refine Agrees.bindSame fun whole => ?_
      cases outer with
      | nil => exact .some ⟨rfl, behind⟩
      | cons around outer => exact ih behind still
    · next rest =>
      obtain ⟨_, rfl, inner⟩ := skipped.cons_cases
      obtain ⟨more, rfl, behind⟩ := inner.cons_cases
      exact ih behind still
    · next rest =>
      obtain ⟨_, rfl, inner⟩ := skipped.cons_cases
      obtain ⟨more, rfl, behind⟩ := inner.cons_cases
      exact ih behind still
    · next rest =>
      obtain ⟨_, rfl, inner⟩ := skipped.cons_cases
      obtain ⟨more, rfl, behind⟩ := inner.cons_cases
      exact ih behind still
    · next noEnd noOpen noClose noInter noDiff noSymm =>
      have range : Agrees SameUpTo
          ((readRange? flags front).bind fun read =>
            readBracketFrom? flags fuel (bracket.add (.flat read.1)) outer read.2)
          ((readRange? flags frontWide).bind fun read =>
            readBracketFrom? flags further (bracket.add (.flat read.1)) outer read.2) := by
        refine (readRange?_agrees skipped).bind ?_
        rintro ⟨chars, rest⟩ ⟨_, more⟩ ⟨rfl, behind⟩
        exact ih behind still
      split
      · exact absurd skipped.eq_nil noEnd
      · obtain ⟨rest, rfl, _⟩ := skipped.cons_cases_wide (by decide)
        exact absurd rfl (noOpen rest)
      · obtain ⟨rest, rfl, _⟩ := skipped.cons_cases_wide (by decide)
        exact absurd rfl (noClose rest)
      · obtain ⟨_, rfl, inner⟩ := skipped.cons_cases_wide (by decide)
        obtain ⟨rest, rfl, _⟩ := inner.cons_cases_wide (by decide)
        exact absurd rfl (noInter rest)
      · obtain ⟨_, rfl, inner⟩ := skipped.cons_cases_wide (by decide)
        obtain ⟨rest, rfl, _⟩ := inner.cons_cases_wide (by decide)
        exact absurd rfl (noDiff rest)
      · obtain ⟨_, rfl, inner⟩ := skipped.cons_cases_wide (by decide)
        obtain ⟨rest, rfl, _⟩ := inner.cons_cases_wide (by decide)
        exact absurd rfl (noSymm rest)
      · exact range

theorem readBracket?_agrees (closed : Closed text wide) :
    Agrees SameUpTo (readBracket? flags text) (readBracket? flags wide) := by
  refine (openBracket?_agrees closed).bind ?_
  rintro ⟨bracket, rest⟩ ⟨_, more⟩ ⟨rfl, behind⟩
  exact readBracketFrom?_agrees behind (Nat.succ_le_succ behind.length_le)

theorem Flags.read?_agrees {seen : List Char} {dashed : Bool} (closed : Closed text wide) :
    Agrees (fun result other => result.1 = other.1 ∧ result.2.1 = other.2.1 ∧
        result.2.2.1 = other.2.2.1 ∧ Closed result.2.2.2 other.2.2.2)
      (flags.read? seen dashed text) (flags.read? seen dashed wide) := by
  induction text generalizing flags seen dashed wide with
  | nil => exact .none
  | cons c rest ih =>
    obtain ⟨more, rfl, behind⟩ := closed.cons_cases
    unfold Flags.read?
    split
    · split
      · exact .none
      · exact .some ⟨rfl, rfl, rfl, behind⟩
    · split
      · exact .none
      · split
        · exact ih behind
        · exact .bindSame fun switched => ih behind

namespace RegexReader

theorem readLazy_sameUpTo (closed : Closed text wide) :
    SameUpTo (readLazy text) (readLazy wide) := by
  cases text with
  | nil => rcases closed.nil_cases with rfl | rfl <;> exact ⟨rfl, closed⟩
  | cons c rest =>
    obtain ⟨more, rfl, behind⟩ := closed.cons_cases
    by_cases mark : c = '?'
    · subst mark
      exact ⟨rfl, behind⟩
    · have plain {tail : List Char} : readLazy (c :: tail) = (true, c :: tail) := by
        simp [readLazy, mark]
      rw [plain, plain]
      exact ⟨rfl, closed⟩

theorem readDecimalFrom_sameUpTo {fuel further : Nat} {value? : Option Nat}
    (closed : Closed text wide) (enough : text.length ≤ fuel) (le : fuel ≤ further) :
    SameUpTo (readDecimalFrom flags fuel value? text)
      (readDecimalFrom flags further value? wide) := by
  induction fuel generalizing further value? text wide with
  | zero =>
    obtain rfl := List.length_eq_zero_iff.mp (Nat.le_zero.mp enough)
    rcases closed.nil_cases with rfl | rfl
    · cases further <;> exact ⟨rfl, closed⟩
    · cases further <;> exact ⟨rfl, closed⟩
  | succ fuel ih =>
    obtain ⟨further, rfl⟩ := Nat.exists_eq_add_of_le' (Nat.le_trans (Nat.le_add_left 1 fuel) le)
    cases text with
    | nil => rcases closed.nil_cases with rfl | rfl <;> exact ⟨rfl, closed⟩
    | cons c rest =>
      obtain ⟨more, rfl, behind⟩ := closed.cons_cases
      simp only [readDecimalFrom]
      split
      · exact ih (behind.skip flags)
          (Nat.le_trans Flags.length_skip_le (Nat.le_of_succ_le_succ enough))
          (Nat.le_of_succ_le_succ le)
      · exact ⟨rfl, closed⟩

theorem readBound_sameUpTo (closed : Closed text wide) :
    SameUpTo (readBound flags text) (readBound flags wide) := by
  have trimmed := closed.dropWhile isSpace
  obtain ⟨same, behind⟩ := @readDecimalFrom_sameUpTo flags _ _ _ _ none trimmed (Nat.le_refl _)
    trimmed.length_le
  exact ⟨congrArg (Option.filter _) same, (behind.dropWhile isSpace).skip flags⟩

theorem readName?_agrees (closed : Closed text wide) :
    Agrees SameUpTo (readName? text) (readName? wide) := by
  unfold readName?
  rw [List.span_eq_takeWhile_dropWhile, List.span_eq_takeWhile_dropWhile]
  have dropped := closed.dropWhile (· != '>')
  split
  · next first more rest shape =>
    obtain ⟨taken, ended⟩ := Prod.mk.inj shape
    rw [ended] at dropped
    obtain ⟨after, endedWide, behind⟩ := dropped.cons_cases
    rw [closed.takeWhile_eq (by simp [ended]), taken, endedWide]
    change Agrees SameUpTo _ (if isNameStart first && more.all isNameChar then
      some (String.ofList (first :: more), after) else none)
    split
    · exact .some ⟨rfl, behind⟩
    · exact .none
  · exact .none

/-- The bounds of a counted repetition whose upper bound was read, if its brace follows. -/
def closeBounds? (least : Nat) : Option Nat × List Char → Option (Nat × Option Nat × List Char)
  | (some most, '\x7d' :: rest) => if least ≤ most then some (least, some most, rest) else none
  | _ => none

/-- Reads the upper bound of a counted repetition, behind the comma. -/
def readMost? (flags : Flags) (least : Nat) (text : List Char) :
    Option (Nat × Option Nat × List Char) :=
  match flags.skip text with
  | '\x7d' :: rest => some (least, none, rest)
  | rest => closeBounds? least (readBound flags rest)

/-- Whether the same two things are read, and what is left is the same up to a closing
parenthesis. -/
def SameBoundsUpTo (result other : Nat × Option Nat × List Char) : Prop :=
  result.1 = other.1 ∧ SameUpTo result.2 other.2

theorem closeBounds?_agrees {least : Nat} {read wide : Option Nat × List Char}
    (same : SameUpTo read wide) :
    Agrees SameBoundsUpTo (closeBounds? least read) (closeBounds? least wide) := by
  obtain ⟨most?, rest⟩ := read
  obtain ⟨_, more⟩ := wide
  obtain ⟨rfl, behind⟩ := same
  unfold closeBounds?
  split
  · next most after shape =>
    obtain ⟨rfl, rfl⟩ := Prod.mk.inj shape
    obtain ⟨afterWide, rfl, later⟩ := Closed.cons_cases behind
    change Agrees SameBoundsUpTo _
      (if least ≤ most then some (least, some most, afterWide) else none)
    split
    · exact .some ⟨rfl, rfl, later⟩
    · exact .none
  · exact .none

theorem readMost?_agrees {least : Nat} (closed : Closed text wide) :
    Agrees SameBoundsUpTo (readMost? flags least text) (readMost? flags least wide) := by
  have skipped := closed.skip flags
  unfold readMost?
  generalize flags.skip text = front, flags.skip wide = frontWide at skipped
  split
  · next rest =>
    obtain ⟨more, rfl, behind⟩ := skipped.cons_cases
    exact .some ⟨rfl, rfl, behind⟩
  · next noEnd =>
    split
    · next more =>
      obtain ⟨rest, rfl, _⟩ := skipped.cons_cases_wide (by decide)
      exact absurd rfl (noEnd rest)
    · exact closeBounds?_agrees (readBound_sameUpTo skipped)

theorem readBounds?_agrees (closed : Closed text wide) :
    Agrees SameBoundsUpTo (readBounds? flags text) (readBounds? flags wide) := by
  have bound := @readBound_sameUpTo flags _ _ (closed.skip flags)
  unfold readBounds?
  generalize readBound flags (flags.skip text) = read, readBound flags (flags.skip wide) = readWide
    at bound
  obtain ⟨least?, rest⟩ := read
  obtain ⟨_, more⟩ := readWide
  obtain ⟨rfl, behind⟩ := bound
  dsimp only at behind
  split
  · next least after same =>
    obtain ⟨rfl, rfl⟩ := Prod.mk.inj same
    obtain ⟨afterWide, rfl, later⟩ := behind.cons_cases
    exact readMost?_agrees later
  · next least after same =>
    obtain ⟨rfl, rfl⟩ := Prod.mk.inj same
    obtain ⟨afterWide, rfl, later⟩ := behind.cons_cases
    exact .some ⟨rfl, rfl, later⟩
  · exact .none

end RegexReader

end

end Precedence
