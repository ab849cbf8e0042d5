import Precedence.Session

namespace Precedence

/-- What is reported of a token that no operand begins with. -/
def Grammar.misplaced (grammar : Grammar) (token : Token) : List Event :=
  if grammar.isOperator token ∧ (grammar.operators.trailing? token.value).isSome then
    [.misplaced token (grammar.operators.rolesOf token.value)]
  else []

/-- Whether a token, if it is an operator at all, holds too loosely for an expression. -/
def Grammar.Loose (grammar : Grammar) (power : Power) (token : Token) : Prop :=
  ∀ trailing ∈ grammar.trailing? token, trailing.power < power

theorem Grammar.ne_endToken_of_trailing? {grammar : Grammar} {token : Token} {trailing : Trailing}
    (noTrailing : grammar.trailing? grammar.endToken = none)
    (role : grammar.trailing? token = some trailing) : token ≠ grammar.endToken := by
  rintro rfl
  cases noTrailing.symm.trans role

theorem Grammar.loose_or_holds (grammar : Grammar) (power : Power) (token : Token) :
    grammar.Loose power token ∨
      ∃ trailing, grammar.trailing? token = some trailing ∧ ¬ trailing.power < power := by
  by_cases loose : grammar.Loose power token
  · exact Or.inl loose
  · obtain ⟨trailing, someRole⟩ := Classical.not_forall.mp loose
    exact Or.inr ⟨trailing, Classical.not_imp.mp someRole⟩

namespace Session

/-- Reading from a session ends as wanted: with a value for which `done` holds of the session
after it, or with an error for which `failed` does. -/
def Ends {α : Type} (session : Session) (run : ParseM α) (done : α → Session → Prop)
    (failed : ParseError → Session → Prop) : Prop :=
  match run session with
  | .ok value after => done value after
  | .error error after => failed error after

/-- The session after the current token was taken and `scanner` came to the next one. -/
def moved (session : Session) (scanner : Scanner) : Session :=
  ⟨⟨scanner, scanner.found ++ session.trace⟩, session.depth, session.moves + 1⟩

/-- The session after the current token could not be taken. -/
def stopped (session : Session) (scanner : Scanner) : Session :=
  ⟨⟨scanner, session.trace⟩, session.depth, session.moves + 1⟩

/-- The session after more was reported. -/
def reported (session : Session) (events : List Event) : Session :=
  { session with trace := events ++ session.trace }

/-- The session inside one more open expression. -/
def deeper (session : Session) : Session := { session with depth := session.depth + 1 }

/-- The session after the innermost expression was closed. -/
def shallower (session : Session) : Session := { session with depth := session.depth - 1 }

section
variable {session : Session} {scanner : Scanner} {events : List Event}

@[simp] theorem scanner_moved : (session.moved scanner).scanner = scanner := rfl

@[simp] theorem current_moved : (session.moved scanner).current = scanner.current := rfl

@[simp] theorem depth_moved : (session.moved scanner).depth = session.depth := rfl

@[simp] theorem moves_moved : (session.moved scanner).moves = session.moves + 1 := rfl

@[simp] theorem moves_stopped : (session.stopped scanner).moves = session.moves + 1 := rfl

@[simp] theorem scanner_reported : (session.reported events).scanner = session.scanner := rfl

@[simp] theorem current_reported : (session.reported events).current = session.current := rfl

@[simp] theorem depth_reported : (session.reported events).depth = session.depth := rfl

@[simp] theorem scanner_deeper : session.deeper.scanner = session.scanner := rfl

@[simp] theorem current_deeper : session.deeper.current = session.current := rfl

@[simp] theorem depth_deeper : session.deeper.depth = session.depth + 1 := rfl

@[simp] theorem scanner_shallower : session.shallower.scanner = session.scanner := rfl

@[simp] theorem current_shallower : session.shallower.current = session.current := rfl

@[simp] theorem depth_shallower : session.shallower.depth = session.depth - 1 := rfl

end

section
variable {α β : Type} {session : Session} {done : α → Session → Prop}
  {failed : ParseError → Session → Prop}

theorem Ends.of_ok {run : ParseM α} {value : α} {after : Session}
    (ends : session.Ends run done failed) (ran : run session = .ok value after) :
    done value after := by
  simpa only [Ends, ran] using ends

theorem Ends.of_error {run : ParseM α} {error : ParseError} {after : Session}
    (ends : session.Ends run done failed) (ran : run session = .error error after) :
    failed error after := by
  simpa only [Ends, ran] using ends

/-- A reading that cannot fail has a value. -/
theorem Ends.exists_ok {run : ParseM α} (ends : session.Ends run done fun _ _ => False) :
    ∃ value after, run session = .ok value after ∧ done value after := by
  unfold Ends at ends
  split at ends
  · next value after ran => exact ⟨value, after, ran, ends⟩
  · exact ends.elim

theorem Ends.imp {run : ParseM α} {wanted : α → Session → Prop}
    {refused : ParseError → Session → Prop} (ends : session.Ends run done failed)
    (value : ∀ result after, done result after → wanted result after)
    (error : ∀ cause after, failed cause after → refused cause after) :
    session.Ends run wanted refused := by
  unfold Ends at ends ⊢
  split at ends
  · exact value _ _ ends
  · exact error _ _ ends

theorem Ends.and {run : ParseM α} {kept : α → Session → Prop} {known : ParseError → Session → Prop}
    (ends : session.Ends run done failed) (others : session.Ends run kept known) :
    session.Ends run (fun value after => done value after ∧ kept value after)
      fun error after => failed error after ∧ known error after := by
  unfold Ends at ends others ⊢
  cases ran : run session with
  | ok value after =>
    rw [ran] at ends others
    exact ⟨ends, others⟩
  | error error after =>
    rw [ran] at ends others
    exact ⟨ends, others⟩

@[simp] theorem ends_pure {value : α} :
    session.Ends (pure value) done failed ↔ done value session := Iff.rfl

theorem bind_eq {run : ParseM β} {next : β → ParseM α} :
    (run >>= next) session = match run session with
      | .ok value after => next value after
      | .error error after => .error error after := by
  change EStateM.bind run next session = _
  unfold EStateM.bind
  cases run session <;> rfl

@[simp] theorem ends_bind {run : ParseM β} {next : β → ParseM α} :
    session.Ends (run >>= next) done failed ↔
      session.Ends run (fun value after => after.Ends (next value) done failed) failed := by
  unfold Ends
  rw [bind_eq]
  cases run session <;> rfl

@[simp] theorem ends_map {run : ParseM β} {change : β → α} :
    session.Ends (change <$> run) done failed ↔
      session.Ends run (fun value after => done (change value) after) failed := by
  have changed : (change <$> run) session = match run session with
      | .ok value after => .ok (change value) after
      | .error error after => .error error after := by
    change EStateM.map change run session = _
    unfold EStateM.map
    cases run session <;> rfl
  unfold Ends
  rw [changed]
  cases run session <;> rfl

@[simp] theorem ends_discard {run : ParseM β} {done : Unit → Session → Prop} :
    session.Ends (discard run) done failed ↔
      session.Ends run (fun _ after => done () after) failed :=
  ends_map

@[simp] theorem ends_get {done : Session → Session → Prop} :
    session.Ends get done failed ↔ done session session := Iff.rfl

@[simp] theorem ends_report {event : Event} {done : Unit → Session → Prop} :
    session.Ends (report event) done failed ↔ done () (session.reported [event]) := Iff.rfl

@[simp] theorem ends_unexpected {expected : Expectation} :
    session.Ends (unexpected expected) done failed ↔
      failed (.unexpected session.current expected session.scanner.span) session := Iff.rfl

theorem ends_advance {done : Token → Session → Prop} :
    session.Ends advance done failed ↔
      (∀ scanner, Scanner.next session.scanner = .ok () scanner →
        done session.current (session.moved scanner)) ∧
      ∀ error scanner, Scanner.next session.scanner = .error error scanner →
        failed (.scan error) (session.stopped scanner) := by
  unfold Ends Session.advance Reading.advance Scanner.advance
  cases Scanner.next session.scanner with
  | ok _ scanner => simp [moved, current]
  | error error scanner => simp [stopped]

theorem ends_advance_of_next {done : Token → Session → Prop} {scanner : Scanner}
    (found : Scanner.next session.scanner = .ok () scanner) :
    session.Ends advance done failed ↔ done session.current (session.moved scanner) := by
  rw [ends_advance, found]
  simp

theorem discard_advance_eq :
    (discard Session.advance : ParseM Unit) session =
      match Scanner.next session.scanner with
      | .ok _ scanner => .ok () (session.moved scanner)
      | .error error scanner => .error (.scan error) (session.stopped scanner) := by
  change EStateM.map (Function.const _ ()) Session.advance session = _
  unfold EStateM.map Session.advance Reading.advance Scanner.advance
  cases Scanner.next session.scanner <;> rfl

theorem nested_eq {run : ParseM α} :
    nested run session = match run session.deeper with
      | .ok value after => .ok value after.shallower
      | .error error after =>
        .error error (if error.breaksOff then after else after.shallower) := rfl

theorem ends_nested {run : ParseM α} :
    session.Ends (nested run) done failed ↔
      session.deeper.Ends run (fun value after => done value after.shallower)
        (fun error after => failed error (if error.breaksOff then after else after.shallower)) := by
  unfold Ends
  rw [nested_eq]
  cases run session.deeper <;> rfl

end

section
variable {grammar : Grammar} {sub : Power → ParseM Expr} {session : Session}
  {done : Expr → Session → Prop} {failed : ParseError → Session → Prop}

theorem ends_followedBy {terminator : Token} {inner : ParseM Expr} :
    session.Ends (followedBy terminator inner) done failed ↔
      session.Ends inner (fun expr after =>
        (after.current = terminator → done expr after) ∧
        (after.current ≠ terminator →
          failed (.unexpected after.current (.token terminator) after.scanner.span) after))
        failed := by
  unfold followedBy
  simp only [ends_bind, ends_get]
  refine ⟨fun ends => ends.imp ?_ fun _ _ => id, fun ends => ends.imp ?_ fun _ _ => id⟩
  · intro expr after ends
    by_cases same : after.current = terminator
    · simpa [same] using ends
    · simpa [same] using ends
  · intro expr after ends
    by_cases same : after.current = terminator
    · simpa [same] using ends
    · simpa [same] using ends

theorem ends_applyLeading_prefixed {tag : String} {power : Power} :
    session.Ends (applyLeading grammar sub (.prefixed tag power)) done failed ↔
      session.Ends (sub power)
        (fun arg after => done (.unary tag arg) (after.reported [.applied .prefixed tag]))
        failed := by
  simp only [applyLeading, ends_bind, ends_report, ends_pure]

theorem ends_applyLeading_group {closing : String} {inner : Power} :
    session.Ends (applyLeading grammar sub (.group closing inner)) done failed ↔
      session.Ends (followedBy (grammar.operatorToken closing) (sub inner))
        (fun expr after => after.Ends advance (fun _ final => done expr final) failed) failed := by
  simp only [applyLeading, ends_bind, ends_discard, ends_pure]

theorem ends_applyTrailing_infixed {lhs : Expr} {tag : String} {assoc : Associativity}
    {power : Power} :
    session.Ends (applyTrailing sub lhs (.infixed tag assoc power)) done failed ↔
      session.Ends (sub (assoc.operandPower power))
        (fun rhs after => done (.binary tag lhs rhs) (after.reported [.applied .infixed tag]))
        failed := by
  simp only [applyTrailing, ends_bind, ends_report, ends_pure]

theorem ends_applyTrailing_postfixed {lhs : Expr} {tag : String} {power : Power} :
    session.Ends (applyTrailing sub lhs (.postfixed tag power)) done failed ↔
      done (.unary tag lhs) (session.reported [.applied .postfixed tag]) := by
  simp only [applyTrailing, ends_bind, ends_report, ends_pure]

/-- An operand is a term, or begins with a symbol that has a leading role; any other token is
refused. -/
theorem ends_operand :
    session.Ends (operand grammar sub) done failed ↔
      (grammar.isTerm session.current = true →
        session.Ends advance
          (fun _ after => done (.term session.current.kind session.current.value) after) failed) ∧
      (grammar.isTerm session.current = false → ∀ leading,
        grammar.leading? session.current = some leading →
        session.Ends advance
          (fun _ after => after.Ends (applyLeading grammar sub leading) done failed) failed) ∧
      (grammar.isTerm session.current = false → grammar.leading? session.current = none →
        failed (.unexpected session.current .operand session.scanner.span)
          (session.reported (grammar.misplaced session.current))) := by
  unfold operand
  simp only [ends_bind, ends_get]
  cases isTerm : grammar.isTerm session.current with
  | true => simp [-ends_unexpected]
  | false =>
    cases role : grammar.leading? session.current with
    | some leading => simp
    | none =>
      by_cases trails : grammar.isOperator session.current ∧
          (grammar.operators.trailing? session.current.value).isSome
      · simp [reportMisplaced, Grammar.misplaced, trails]
      · simp [reportMisplaced, Grammar.misplaced, trails, reported]

/-- An expression ends in front of a token without a trailing role, and in front of an operator
that holds more loosely than asked for. -/
theorem climb_stop {power : Power} {expr : Expr}
    (stops : grammar.Loose power session.current) :
    climb grammar sub power expr session = .ok expr session := by
  rw [climb]
  cases role : grammar.trailing? session.current with
  | none => rfl
  | some trailing => exact if_pos (stops trailing role)

theorem ends_climb_stop {power : Power} {expr : Expr}
    (stops : grammar.Loose power session.current) :
    session.Ends (climb grammar sub power expr) done failed ↔ done expr session := by
  unfold Ends
  rw [climb_stop stops]

/-- In front of an operator that holds tightly enough, an expression goes on behind it. -/
theorem climb_step {power : Power} {expr : Expr} {trailing : Trailing}
    (role : grammar.trailing? session.current = some trailing)
    (holds : ¬ trailing.power < power) :
    climb grammar sub power expr session =
      match (do discard advance; applyTrailing sub expr trailing : ParseM Expr) session with
      | .error error after => .error error after
      | .ok whole after =>
        if after.scanner.pending < session.scanner.pending then
          climb grammar sub power whole after
        else .error (.endless after.scanner.span) after := by
  rw [climb]
  simp only [role, if_neg holds]
  rfl

theorem ends_climb_step {power : Power} {expr : Expr} {trailing : Trailing}
    (role : grammar.trailing? session.current = some trailing)
    (holds : ¬ trailing.power < power) :
    session.Ends (climb grammar sub power expr) done failed ↔
      session.Ends advance (fun _ moved => moved.Ends (applyTrailing sub expr trailing)
        (fun whole after =>
          (after.scanner.pending < session.scanner.pending →
            after.Ends (climb grammar sub power whole) done failed) ∧
          (¬ after.scanner.pending < session.scanner.pending →
            failed (.endless after.scanner.span) after)) failed) failed := by
  have sequence {wanted : Expr → Session → Prop} :
      session.Ends (do discard advance; applyTrailing sub expr trailing) wanted failed ↔
        session.Ends advance
          (fun _ moved => moved.Ends (applyTrailing sub expr trailing) wanted failed) failed := by
    rw [ends_bind, ends_discard]
  rw [← sequence]
  unfold Ends
  rw [climb_step role holds]
  cases (do discard advance; applyTrailing sub expr trailing : ParseM Expr) session with
  | error error after => rfl
  | ok whole after =>
    by_cases less : after.scanner.pending < session.scanner.pending
    · simp [less]
    · simp [less]

/-- What holds of an operand and the session after it, and is kept by every operator that is
taken in, holds of the whole expression. Every operator leaves less to take, since otherwise the
expression is endless. -/
theorem ends_climb_of_invariant {power : Power} (invariant : Expr → Session → Prop)
    (stop : ∀ expr session, invariant expr session → grammar.Loose power session.current →
      done expr session)
    (step : ∀ expr session trailing, invariant expr session →
      grammar.trailing? session.current = some trailing → ¬ trailing.power < power →
      session.Ends advance (fun _ moved => moved.Ends (applyTrailing sub expr trailing)
        (fun whole after => invariant whole after ∧
          (¬ after.scanner.pending < session.scanner.pending →
            failed (.endless after.scanner.span) after)) failed) failed)
    {expr : Expr} {session : Session} (start : invariant expr session) :
    session.Ends (climb grammar sub power expr) done failed := by
  induction pending : session.scanner.pending using Nat.strongRecOn
    generalizing expr session with
  | _ left ih =>
    subst pending
    rcases grammar.loose_or_holds power session.current with stops | ⟨trailing, role, holds⟩
    · exact (ends_climb_stop stops).mpr (stop expr session start stops)
    · refine (ends_climb_step role holds).mpr ((step _ _ _ start role holds).imp ?_ fun _ _ => id)
      intro _ moved taken
      refine taken.imp ?_ fun _ _ => id
      rintro whole after ⟨kept, endless⟩
      exact ⟨fun less => ih _ less kept rfl, endless⟩

theorem ends_expressionWithin_zero {power : Power} :
    session.Ends (expressionWithin grammar 0 power) done failed ↔
      failed (.tooDeep grammar.maxDepth session.scanner.span) session := Iff.rfl

theorem ends_expression {power : Power} :
    session.Ends (expression grammar power) done failed ↔
      session.Ends (expressionWithin grammar (grammar.maxDepth - session.depth) power) done
        failed := Iff.rfl

theorem ends_expressionWithin_succ {levels : Nat} {power : Power} :
    session.Ends (expressionWithin grammar (levels + 1) power) done failed ↔
      session.deeper.Ends (operand grammar (expressionWithin grammar levels))
        (fun first after => after.Ends (climb grammar (expressionWithin grammar levels) power first)
          (fun expr final => done expr final.shallower)
          (fun error final =>
            failed error (if error.breaksOff then final else final.shallower)))
        (fun error final =>
          failed error (if error.breaksOff then final else final.shallower)) := by
  exact ends_nested.trans ends_bind

end

end Session

end Precedence
