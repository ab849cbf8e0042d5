import Precedence.Proofs.Derivation.Actions

namespace Precedence

/-- Whether a line traces one kind of event, which is named behind the level. -/
def isTrace (word line : String) : Bool :=
  ("TRACE " ++ word ++ " ").toList.isPrefixOf line.toList

/-- The lines of a log that trace one kind of event. -/
def traces (word : String) (log : List String) : List String := log.filter (isTrace word)

theorem isTrace_iff {word line : String} :
    isTrace word line = true ↔ ∃ rest, "TRACE " ++ word ++ " " ++ rest = line := by
  unfold isTrace
  rw [List.isPrefixOf_iff_prefix]
  constructor
  · rintro ⟨rest, same⟩
    refine ⟨String.ofList rest, String.toList_inj.mp ?_⟩
    rw [String.toList_append, String.toList_ofList, same]
  · rintro ⟨rest, rfl⟩
    exact ⟨rest.toList, String.toList_append.symm⟩

/-- Behind the level a trace goes on with the first letter of its word. -/
theorem letter_of_isTrace {word line : String} (trace : isTrace word line = true) :
    line.toList[6]? = (word.toList ++ [' ']).head? := by
  obtain ⟨rest, rfl⟩ := isTrace_iff.mp trace
  simp only [String.toList_append, List.append_assoc]
  change (word.toList ++ ' ' :: rest.toList)[0]? = _
  cases word.toList <;> rfl

/-- The line of a token that is found. It names the kind, the text and the span. -/
def scannedLine (mark : Token × Span) : String :=
  "TRACE scanned " ++ mark.1.kind ++ " token " ++ quoted mark.1.value ++ " at " ++
    mark.2.start.repr ++ "-" ++ mark.2.stop.repr

/-- The line of an operator that is applied. It names the way in which the operator is used. -/
def Operation.line {grammar : Grammar} (operation : Operation grammar) : String :=
  "TRACE applying " ++ operation.node.usage ++ " " ++ operation.tag

namespace Event

/-- The token that is reported, with its span. -/
def mark? : Event → Option (Token × Span)
  | scanned token span => some (token, span)
  | applied _ _ => none
  | misplaced _ _ => none
  | failed _ => none

/-- The operators that are reported as applied, each with its role and tag, behind all tokens that
were reported before it: those that were `seen` already, and those among the events. -/
def applications (seen : List (Token × Span)) :
    List Event → List (List (Token × Span) × Role × String)
  | [] => []
  | scanned token span :: rest => applications (seen ++ [(token, span)]) rest
  | applied role tag :: rest => (seen, role, tag) :: applications seen rest
  | misplaced _ _ :: rest => applications seen rest
  | failed _ :: rest => applications seen rest

theorem isTrace_scanned (event : Event) :
    isTrace "scanned" event.line = event.mark?.isSome := by
  have letter := @letter_of_isTrace "scanned" event.line
  rw [line_letter] at letter
  cases event with
  | scanned token span =>
    have front : "TRACE " ++ "scanned" ++ " " = "TRACE scanned " := by decide
    refine isTrace_iff.mpr
      ⟨token.kind ++ " token " ++ quoted token.value ++ " at " ++ span.text, ?_⟩
    unfold line
    simp only [front, String.append_assoc]
  | applied role tag => exact Bool.eq_false_iff.mpr fun trace => nomatch letter trace
  | misplaced token roles => exact Bool.eq_false_iff.mpr fun trace => nomatch letter trace
  | failed message => exact Bool.eq_false_iff.mpr fun trace => nomatch letter trace

theorem isTrace_applying (event : Event) :
    isTrace "applying" event.line = match event with
      | scanned _ _ => false
      | applied _ _ => true
      | misplaced _ _ => false
      | failed _ => false := by
  have letter := @letter_of_isTrace "applying" event.line
  rw [line_letter] at letter
  cases event with
  | scanned token span => exact Bool.eq_false_iff.mpr fun trace => nomatch letter trace
  | applied role tag =>
    have front : "TRACE " ++ "applying" ++ " " = "TRACE applying " := by decide
    refine isTrace_iff.mpr ⟨role.word ++ " " ++ tag, ?_⟩
    unfold line
    simp only [front, String.append_assoc]
  | misplaced token roles => exact Bool.eq_false_iff.mpr fun trace => nomatch letter trace
  | failed message => exact Bool.eq_false_iff.mpr fun trace => nomatch letter trace

/-- A token that takes up some text is reported with both ends of its span. -/
theorem line_scanned {token : Token} {span : Span} (room : span.start < span.stop) :
    (scanned token span).line = scannedLine (token, span) := by
  have filled : span.isEmpty = false :=
    Bool.eq_false_iff.mpr fun none => absurd (Span.isEmpty_iff.mp none) (Nat.not_le.mpr room)
  unfold line scannedLine Span.text
  simp only [filled, Bool.false_eq_true, if_false, String.append_assoc]

theorem traces_scanned {events : List Event} :
    traces "scanned" (events.map line) =
      (events.filterMap mark?).map fun mark => (scanned mark.1 mark.2).line := by
  induction events with
  | nil => rfl
  | cons event rest ih =>
    unfold traces at ih ⊢
    rw [List.map_cons, List.filter_cons, isTrace_scanned, ih]
    cases event <;> rfl

/-- The tokens that are reported, in the lines of a log. -/
theorem traces_scanned_of_marks {events : List Event} {marks : List (Token × Span)}
    (reported : events.filterMap mark? = marks)
    (room : ∀ mark ∈ marks, mark.2.start < mark.2.stop) :
    traces "scanned" (events.map line) = marks.map scannedLine := by
  rw [traces_scanned, reported]
  exact List.map_congr_left fun mark member => line_scanned (room mark member)

theorem traces_applying {seen : List (Token × Span)} {events : List Event} :
    traces "applying" (events.map line) =
      (applications seen events).map fun application =>
        (applied application.2.1 application.2.2).line := by
  induction events generalizing seen with
  | nil => rfl
  | cons event rest ih =>
    unfold traces at ih ⊢
    rw [List.map_cons, List.filter_cons, isTrace_applying]
    cases event with
    | scanned token span => exact ih
    | applied role tag => exact congrArg (_ :: ·) ih
    | misplaced token roles => exact ih
    | failed message => exact ih

/-- An operator that is reported as applied parts the events: in front of it are the tokens and
the operators that were reported before it. -/
theorem exists_of_applications {seen marks : List (Token × Span)} {role : Role} {tag : String}
    {earlier later : List (List (Token × Span) × Role × String)} {events : List Event}
    (same : applications seen events = earlier ++ (marks, role, tag) :: later) :
    ∃ before after, events = before ++ applied role tag :: after ∧
      seen ++ before.filterMap mark? = marks ∧ applications seen before = earlier := by
  induction events generalizing seen earlier with
  | nil => cases earlier <;> cases same
  | cons event rest ih =>
    cases event with
    | scanned token span =>
      obtain ⟨before, after, rfl, found, front⟩ := ih same
      exact ⟨scanned token span :: before, after, rfl,
        (List.append_assoc _ [(token, span)] _).symm.trans found, front⟩
    | applied other label =>
      cases earlier with
      | nil =>
        cases same
        exact ⟨[], rest, rfl, List.append_nil _, rfl⟩
      | cons first earlier =>
        obtain ⟨rfl, behind⟩ := List.cons.inj same
        obtain ⟨before, after, rfl, found, front⟩ := ih behind
        exact ⟨applied other label :: before, after, rfl, found, congrArg (_ :: ·) front⟩
    | misplaced token roles =>
      obtain ⟨before, after, rfl, found, front⟩ := ih same
      exact ⟨misplaced token roles :: before, after, rfl, found, front⟩
    | failed message =>
      obtain ⟨before, after, rfl, found, front⟩ := ih same
      exact ⟨failed message :: before, after, rfl, found, front⟩

end Event

/-- An operator is reported as applied in the way in which the derivation uses it. -/
theorem Derivation.line_eq_of_mem_operations {grammar : Grammar} {derivation : Derivation grammar}
    {front : List Token} {operation : Operation grammar}
    (member : operation ∈ derivation.operations front) :
    (Event.applied operation.role operation.tag).line = operation.line := by
  change "TRACE applying " ++ operation.role.word ++ " " ++ operation.tag = _
  rw [(derivation.of_mem_operations member).1]
  rfl

end Precedence
