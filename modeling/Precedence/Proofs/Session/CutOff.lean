import Precedence.Proofs.Session.Parse

namespace Precedence

namespace Session

/-- Whether a reading fails because the text is nested too deep. -/
def IsTooDeep {α : Type} (result : EStateM.Result ParseError Session α) : Prop :=
  ∃ limit span after, result = .error (.tooDeep limit span) after

/-- Whether a reading is the same as another one, except where it finds the text nested too
deep. -/
def CutsOff {α : Type} (run whole : ParseM α) : Prop :=
  ∀ session, IsTooDeep (run session) ∨ run session = whole session

section
variable {α β : Type} {run whole : ParseM α}

theorem CutsOff.refl (run : ParseM α) : CutsOff run run := fun _ => Or.inr rfl

theorem CutsOff.ok {session after : Session} {value : α} (cuts : CutsOff run whole)
    (ran : run session = .ok value after) : whole session = .ok value after := by
  rcases cuts session with ⟨limit, span, final, deep⟩ | same
  · cases ran.symm.trans deep
  · exact same.symm.trans ran

theorem CutsOff.bind {next wider : α → ParseM β} (first : CutsOff run whole)
    (second : ∀ value, CutsOff (next value) (wider value)) :
    CutsOff (run >>= next) (whole >>= wider) := by
  intro session
  rw [bind_eq, bind_eq]
  rcases first session with ⟨limit, span, after, deep⟩ | same
  · exact Or.inl ⟨limit, span, after, by rw [deep]⟩
  · rw [← same]
    cases run session with
    | ok value after => exact second value after
    | error error after => exact Or.inr rfl

theorem CutsOff.nested (inner : CutsOff run whole) :
    CutsOff (Session.nested run) (Session.nested whole) := by
  intro session
  unfold Session.nested
  rcases inner { session with depth := session.depth + 1 } with ⟨limit, span, after, deep⟩ | same
  · rw [deep]
    exact Or.inl ⟨limit, span, _, rfl⟩
  · rw [same]
    exact Or.inr rfl

end

section
variable {sub wider : Power → ParseM Expr}

theorem CutsOff.followedBy {inner whole : ParseM Expr} (terminator : Token)
    (cuts : CutsOff inner whole) :
    CutsOff (Session.followedBy terminator inner) (Session.followedBy terminator whole) :=
  cuts.bind fun _ => .refl _

theorem CutsOff.applyLeading (cuts : ∀ power, CutsOff (sub power) (wider power))
    (grammar : Grammar) (leading : Leading) :
    CutsOff (Session.applyLeading grammar sub leading)
      (Session.applyLeading grammar wider leading) := by
  cases leading with
  | prefixed tag power => exact (cuts power).bind fun _ => .refl _
  | group closing inner => exact ((cuts inner).followedBy _).bind fun _ => .refl _

theorem CutsOff.applyTrailing (cuts : ∀ power, CutsOff (sub power) (wider power)) (lhs : Expr)
    (trailing : Trailing) :
    CutsOff (Session.applyTrailing sub lhs trailing)
      (Session.applyTrailing wider lhs trailing) := by
  cases trailing with
  | infixed tag assoc power => exact (cuts _).bind fun _ => .refl _
  | postfixed tag power => exact .refl _

theorem CutsOff.operand (cuts : ∀ power, CutsOff (sub power) (wider power)) (grammar : Grammar) :
    CutsOff (Session.operand grammar sub) (Session.operand grammar wider) := by
  refine (CutsOff.refl get).bind fun session => ?_
  dsimp only
  split
  · exact .refl _
  · cases grammar.leading? session.current with
    | some leading => exact (CutsOff.refl _).bind fun _ => .applyLeading cuts grammar leading
    | none => exact .refl _

theorem CutsOff.climb {grammar other : Grammar}
    (roles : ∀ token, grammar.trailing? token = other.trailing? token)
    (cuts : ∀ power, CutsOff (sub power) (wider power)) (power : Power) (expr : Expr) :
    CutsOff (Session.climb grammar sub power expr) (Session.climb other wider power expr) := by
  intro session
  induction pending : session.scanner.pending using Nat.strongRecOn generalizing expr session with
  | _ left ih =>
    subst pending
    rcases grammar.loose_or_holds power session.current with stops | ⟨trailing, role, holds⟩
    · rw [climb_stop stops, climb_stop fun trailing role => stops trailing ((roles _).trans role)]
      exact Or.inr rfl
    · have step : CutsOff (do discard Session.advance; Session.applyTrailing sub expr trailing)
          (do discard Session.advance; Session.applyTrailing wider expr trailing) :=
        (CutsOff.refl _).bind fun _ => .applyTrailing cuts expr trailing
      rw [climb_step role holds, climb_step ((roles _).symm.trans role) holds]
      rcases step session with ⟨limit, span, after, deep⟩ | same
      · rw [deep]
        exact Or.inl ⟨limit, span, after, rfl⟩
      · rw [← same]
        split
        · exact Or.inr rfl
        · next taken after _ =>
          split
          · next less => exact ih _ less taken after rfl
          · exact Or.inr rfl

/-- An expression inside which more levels may be opened is read as before, if it could be read at
all. -/
theorem expressionWithin_cutsOff {grammar : Grammar} {limit other levels more : Nat}
    (le : levels ≤ more) (power : Power) :
    CutsOff (expressionWithin (grammar.withMaxDepth limit) levels power)
      (expressionWithin (grammar.withMaxDepth other) more power) := by
  induction levels generalizing more power with
  | zero =>
    intro session
    exact Or.inl ⟨limit, session.scanner.span, session, rfl⟩
  | succ levels ih =>
    obtain ⟨more, rfl⟩ : ∃ rest, more = rest + 1 := ⟨more - 1, by omega⟩
    have cuts := fun power => ih (Nat.le_of_succ_le_succ le) power
    refine CutsOff.nested ((CutsOff.operand cuts grammar).bind fun first => ?_)
    exact @CutsOff.climb _ _ (grammar.withMaxDepth limit) (grammar.withMaxDepth other)
      (fun _ => rfl) cuts power first

theorem expressionUntil_cutsOff {grammar : Grammar} {limit other : Nat} (le : limit ≤ other)
    (power : Power) (terminator : Token) :
    CutsOff (expressionUntil (grammar.withMaxDepth limit) power terminator)
      (expressionUntil (grammar.withMaxDepth other) power terminator) :=
  CutsOff.followedBy terminator fun session =>
    expressionWithin_cutsOff (Nat.sub_le_sub_right le session.depth) power session

end

end Session

/-- Under a higher limit a text is read as before, unless it was found to be nested too deep. -/
theorem Grammar.parse_withMaxDepth_of_le {grammar : Grammar} {limit other : Nat} {text : List Char}
    (le : limit ≤ other)
    (shallow : ∀ depth span, (grammar.withMaxDepth limit).parse text ≠
      .error (.tooDeep depth span)) :
    (grammar.withMaxDepth other).parse text = (grammar.withMaxDepth limit).parse text := by
  cases started : Scanner.start grammar.lexicon grammar.endToken text with
  | error error =>
    have lower : (grammar.withMaxDepth limit).parse text = _ := parse_of_start_error started
    have higher : (grammar.withMaxDepth other).parse text = _ := parse_of_start_error started
    exact higher.trans lower.symm
  | ok scanner =>
    have lower : (grammar.withMaxDepth limit).parse text = _ := parse_of_start started
    have higher : (grammar.withMaxDepth other).parse text = _ := parse_of_start started
    rw [higher, lower]
    rcases Session.expressionUntil_cutsOff le .loosest grammar.endToken
      (Session.ofScanner scanner) with ⟨depth, span, after, deep⟩ | same
    · exact absurd (lower.trans (congrArg Session.answer deep)) (shallow depth span)
    · exact congrArg Session.answer same.symm

end Precedence
