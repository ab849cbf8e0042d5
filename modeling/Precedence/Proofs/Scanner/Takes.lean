import Precedence.Scanner

namespace Precedence

namespace Scanner

/-- Tokens that are taken one after the other, and the scanner in front of the one that comes
after them. At the end of the text the end mark can be taken any number of times. -/
inductive Takes : Scanner → List Token → Scanner → Prop
  | nil {scanner} : Takes scanner [] scanner
  | cons {scanner next last tokens} :
      Scanner.next scanner = .ok () next → Takes next tokens last →
      Takes scanner (scanner.current :: tokens) last

theorem Takes.single {scanner next : Scanner} (found : Scanner.next scanner = .ok () next) :
    scanner.Takes [scanner.current] next :=
  .cons found .nil

theorem Takes.append {first middle last : Scanner} {left right : List Token}
    (before : first.Takes left middle) (after : middle.Takes right last) :
    first.Takes (left ++ right) last := by
  induction before with
  | nil => exact after
  | cons found _ ih => exact .cons found (ih after)

theorem Takes.of_cons {scanner last : Scanner} {token : Token} {tokens : List Token}
    (takes : scanner.Takes (token :: tokens) last) :
    scanner.current = token ∧
      ∃ next, Scanner.next scanner = .ok () next ∧ next.Takes tokens last := by
  cases takes with
  | cons found rest => exact ⟨rfl, _, found, rest⟩

theorem Takes.of_append {first last : Scanner} {left right : List Token}
    (takes : first.Takes (left ++ right) last) :
    ∃ middle, first.Takes left middle ∧ middle.Takes right last := by
  induction left generalizing first with
  | nil => exact ⟨first, .nil, takes⟩
  | cons token rest ih =>
    obtain ⟨rfl, next, found, later⟩ := takes.of_cons
    obtain ⟨middle, before, after⟩ := ih later
    exact ⟨middle, .cons found before, after⟩

/-- The scanner behind given tokens, if they are the ones that come next. -/
def behind? : List Token → Scanner → Option Scanner
  | [], scanner => some scanner
  | token :: tokens, scanner =>
    if scanner.current = token then
      match next scanner with
      | .ok _ after => behind? tokens after
      | .error _ _ => none
    else none

theorem takes_iff_behind? {scanner last : Scanner} {tokens : List Token} :
    scanner.Takes tokens last ↔ behind? tokens scanner = some last := by
  induction tokens generalizing scanner with
  | nil =>
    refine ⟨fun takes => ?_, fun same => ?_⟩
    · cases takes
      rfl
    · obtain rfl := Option.some.inj same
      exact .nil
  | cons token tokens ih =>
    refine ⟨fun takes => ?_, fun same => ?_⟩
    · obtain ⟨rfl, next, found, rest⟩ := takes.of_cons
      simpa only [behind?, if_true, found] using ih.mp rest
    · unfold behind? at same
      split at same
      · next here =>
        split at same
        · next found =>
          subst here
          exact .cons found (ih.mpr same)
        · cases same
      · cases same

/-- The tokens that were taken determine the scanner behind them. -/
theorem Takes.unique {scanner last other : Scanner} {tokens : List Token}
    (takes : scanner.Takes tokens last) (again : scanner.Takes tokens other) : last = other :=
  Option.some.inj ((takes_iff_behind?.mp takes).symm.trans (takes_iff_behind?.mp again))

theorem next_endToken {scanner after : Scanner} (found : next scanner = .ok () after) :
    after.endToken = scanner.endToken := by
  unfold next at found
  split at found
  · cases found
    rfl
  · cases found
    rfl
  · cases found

theorem start_endToken {lexicon : Lexicon} {endToken : Token} {text : List Char}
    {scanner : Scanner} (started : start lexicon endToken text = .ok scanner) :
    scanner.endToken = endToken := by
  unfold start at started
  split at started
  · next found =>
    cases started
    exact next_endToken found
  · cases started

theorem Takes.endToken {scanner last : Scanner} {tokens : List Token}
    (takes : scanner.Takes tokens last) : last.endToken = scanner.endToken := by
  induction takes with
  | nil => rfl
  | cons found _ ih => exact ih.trans (next_endToken found)

/-- Tokens that are taken up to the same one agree as far as they go: only where it comes again
can more be taken. -/
theorem Takes.agree {first last other : Scanner} {tokens more : List Token}
    (takes : first.Takes tokens last) (again : first.Takes more other)
    (same : last.current = other.current) :
    ∃ rest later, tokens ++ last.current :: rest = more ++ other.current :: later := by
  induction takes generalizing more with
  | @nil scanner =>
    cases again with
    | nil => exact ⟨[], [], rfl⟩
    | @cons _ _ _ tokens _ _ => exact ⟨tokens ++ [other.current], [], rfl⟩
  | @cons scanner next last tokens found rest ih =>
    cases again with
    | nil =>
      rw [same]
      exact ⟨[], tokens ++ [other.current], rfl⟩
    | cons found' rest' =>
      cases found.symm.trans found'
      obtain ⟨behind, later, agree⟩ := ih rest' same
      exact ⟨behind, later, congrArg (scanner.current :: ·) agree⟩

theorem Takes.pending_le {scanner last : Scanner} {tokens : List Token}
    (takes : scanner.Takes tokens last) : last.pending ≤ scanner.pending := by
  induction takes with
  | nil => exact Nat.le_refl _
  | cons found _ ih => exact Nat.le_trans ih (next_pending_le found)

/-- Taking tokens leaves less to take, except at the end of the text. There nothing changes. -/
theorem Takes.pending_lt_or_finished {scanner last : Scanner} {token : Token} {tokens : List Token}
    (takes : scanner.Takes (token :: tokens) last) :
    last.pending < scanner.pending ∨ last.pending = 0 ∧ last.current = token := by
  obtain ⟨same, next, found, rest⟩ := takes.of_cons
  have bound := rest.pending_le
  rcases next_pending found with less | ⟨none, finished⟩
  · exact Or.inl (by omega)
  · have noneLeft : last.pending = 0 := by omega
    have start := eq_of_beq (pending_eq_zero.mp none).2
    have stop := eq_of_beq (pending_eq_zero.mp noneLeft).2
    exact Or.inr ⟨noneLeft, by rw [stop, takes.endToken, ← start, same]⟩

end Scanner

end Precedence
