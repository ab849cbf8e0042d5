import Precedence.Proofs.Session.Ends

namespace Precedence

/-- Whether an event is the failure of the whole text. -/
def Event.isFailed : Event → Bool
  | scanned _ _ => false
  | applied _ _ => false
  | misplaced _ _ => false
  | failed _ => true

namespace Session

/-- What every reading of an expression does to a session. One relation is between the session
before and the one after it, the other between the session before, an error, and the session that
is left with it; both are kept by each of the steps that a reading is made of. -/
structure Law (grammar : Grammar) where
  done : Session → Session → Prop
  failed : Session → ParseError → Session → Prop
  refl (session : Session) : done session session
  trans {first middle last : Session} : done first middle → done middle last → done first last
  fail {first middle last : Session} {error : ParseError} :
    done first middle → failed middle error last → failed first error last
  report (session : Session) {event : Event} (inner : event.isFailed = false) :
    done session (session.reported [event])
  advance {session : Session} {scanner : Scanner} :
    Scanner.next session.scanner = .ok () scanner → done session (session.moved scanner)
  stuck {session : Session} {error : ScanError} {scanner : Scanner} :
    Scanner.next session.scanner = .error error scanner →
    failed session (.scan error) (session.stopped scanner)
  unexpected (session : Session) (expected : Expectation) :
    failed session (.unexpected session.current expected session.scanner.span) session
  tooDeep (session : Session) :
    failed session (.tooDeep grammar.maxDepth session.scanner.span) session
  endless {session after : Session} {scanner : Scanner} :
    Scanner.next session.scanner = .ok () scanner → done (session.moved scanner) after →
    ¬ after.scanner.pending < session.scanner.pending →
    failed session (.endless after.scanner.span) after
  nested {session after : Session} : done session.deeper after → done session after.shallower
  failNested {session after : Session} {error : ParseError} : failed session.deeper error after →
    failed session error (if error.breaksOff then after else after.shallower)

namespace Law

section
variable {α β : Type} {grammar : Grammar} {law : Law grammar} {run : ParseM α}

/-- Whether a reading keeps to a law, wherever it begins. -/
def Holds (law : Law grammar) (run : ParseM α) : Prop :=
  ∀ session : Session, session.Ends run (fun _ after => law.done session after)
    (law.failed session)

theorem Holds.pure (value : α) : law.Holds (pure value) :=
  fun session => ends_pure.mpr (law.refl session)

theorem Holds.get : law.Holds get := fun session => ends_get.mpr (law.refl session)

theorem Holds.report {event : Event} (inner : event.isFailed = false) :
    law.Holds (Session.report event) :=
  fun session => ends_report.mpr (law.report session inner)

theorem Holds.unexpected (expected : Expectation) :
    law.Holds (Session.unexpected expected : ParseM α) :=
  fun session => ends_unexpected.mpr (law.unexpected session expected)

theorem Holds.bind {next : α → ParseM β} (first : law.Holds run)
    (second : ∀ value, law.Holds (next value)) : law.Holds (run >>= next) := by
  intro session
  refine ends_bind.mpr ((first session).imp (fun value after before => ?_) fun _ _ => id)
  exact (second value after).imp (fun _ _ => law.trans before) fun _ _ => law.fail before

theorem Holds.map {change : α → β} (holds : law.Holds run) : law.Holds (change <$> run) :=
  fun session => ends_map.mpr (holds session)

theorem Holds.advance : law.Holds (discard Session.advance) :=
  fun _ => ends_discard.mpr (ends_advance.mpr
    ⟨fun _ found => law.advance found, fun _ _ stuck => law.stuck stuck⟩)

theorem Holds.nested (inner : law.Holds run) : law.Holds (Session.nested run) := fun session =>
  ends_nested.mpr ((inner session.deeper).imp (fun _ _ => law.nested) fun _ _ => law.failNested)

end

section
variable {grammar : Grammar} {law : Law grammar} {sub : Power → ParseM Expr}

theorem Holds.followedBy {inner : ParseM Expr} (holds : law.Holds inner) (terminator : Token) :
    law.Holds (Session.followedBy terminator inner) := by
  intro session
  refine ends_followedBy.mpr ((holds session).imp (fun expr after read => ?_) fun _ _ => id)
  exact ⟨fun _ => read, fun _ => law.fail read (law.unexpected after _)⟩

theorem Holds.applyLeading (holds : ∀ power, law.Holds (sub power)) (leading : Leading) :
    law.Holds (Session.applyLeading grammar sub leading) := by
  cases leading with
  | prefixed tag power =>
    exact (holds power).bind fun _ => (Holds.report rfl).bind fun _ => .pure _
  | group closing inner =>
    exact ((holds inner).followedBy _).bind fun _ => Holds.advance.bind fun _ => .pure _

theorem Holds.applyTrailing (holds : ∀ power, law.Holds (sub power)) (lhs : Expr)
    (trailing : Trailing) : law.Holds (Session.applyTrailing sub lhs trailing) := by
  cases trailing with
  | infixed tag assoc power =>
    exact (holds _).bind fun _ => (Holds.report rfl).bind fun _ => .pure _
  | postfixed tag power => exact (Holds.report rfl).bind fun _ => .pure _

theorem Holds.reportMisplaced (token : Token) :
    law.Holds (Session.reportMisplaced grammar token) := by
  unfold Session.reportMisplaced
  split
  · exact .report rfl
  · exact .pure _

theorem Holds.operand (holds : ∀ power, law.Holds (sub power)) :
    law.Holds (Session.operand grammar sub) := by
  refine Holds.get.bind fun session => ?_
  dsimp only
  split
  · exact Holds.advance.bind fun _ => .pure _
  · cases grammar.leading? session.current with
    | some leading => exact Holds.advance.bind fun _ => .applyLeading holds leading
    | none => exact (Holds.reportMisplaced _).bind fun _ => .unexpected _

/-- A law is kept however often an expression goes on. -/
theorem Holds.climb (holds : ∀ power, law.Holds (sub power)) (power : Power) (expr : Expr) :
    law.Holds (Session.climb grammar sub power expr) := by
  intro first
  refine ends_climb_of_invariant (fun _ session => law.done first session)
    (fun _ _ reached _ => reached) ?_ (law.refl first)
  intro lhs session trailing reached _ _
  refine ends_advance.mpr
    ⟨fun scanner found => ?_, fun _ _ stuck => law.fail reached (law.stuck stuck)⟩
  have before := law.trans reached (law.advance found)
  refine (Holds.applyTrailing holds lhs trailing (session.moved scanner)).imp ?_
    fun _ _ => law.fail before
  exact fun _ _ behind =>
    ⟨law.trans before behind, fun still => law.fail reached (law.endless found behind still)⟩

theorem holds_expressionWithin (law : Law grammar) {levels : Nat} (power : Power) :
    law.Holds (expressionWithin grammar levels power) := by
  induction levels generalizing power with
  | zero => exact fun session => ends_expressionWithin_zero.mpr (law.tooDeep session)
  | succ levels ih => exact ((Holds.operand ih).bind fun first => .climb ih power first).nested

theorem holds_expression (law : Law grammar) (power : Power) :
    law.Holds (expression grammar power) :=
  fun session => law.holds_expressionWithin power session

end

end Law

end Session

end Precedence
