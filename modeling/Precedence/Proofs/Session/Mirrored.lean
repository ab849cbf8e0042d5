import Precedence.Proofs.Session.Raised

namespace Precedence

/-- The same error about another place. An error of the lexicon keeps its place. -/
def ParseError.placedAt (span : Span) : ParseError → ParseError
  | scan error => .scan error
  | unexpected found expected _ => .unexpected found expected span
  | tooDeep limit _ => .tooDeep limit span
  | endless _ => .endless span

@[simp] theorem ParseError.kind_placedAt {span : Span} {error : ParseError} :
    (error.placedAt span).kind = error.kind := by
  cases error <;> rfl

theorem ParseError.kind_scan {cause : ScanError} :
    (scan cause).kind ≠ .unexpectedToken ∧ (scan cause).kind ≠ .tooDeep := by
  cases cause <;> exact ⟨nofun, nofun⟩

/-- Whether a relation between two scanners lasts while both go on: their tokens are the same, and
whenever the first finds another token, so does the second, until they have parted. -/
structure Scanner.Mirrors (endToken : Token) (related : Scanner → Scanner → Prop)
    (parted : Scanner → Prop) : Prop where
  current_eq {scanner twin} : related scanner twin → scanner.current = twin.current
  endToken_eq {scanner twin} : related scanner twin →
    scanner.endToken = endToken ∧ twin.endToken = endToken
  next {scanner twin after} : related scanner twin → Scanner.next scanner = .ok () after →
    parted after ∨ ∃ final, Scanner.next twin = .ok () final ∧ related after final
  parted_next {scanner after} : parted scanner → Scanner.next scanner = .ok () after → parted after

section
variable {endToken : Token} {related : Scanner → Scanner → Prop} {parted : Scanner → Prop}

theorem Scanner.Mirrors.parted_takes (mirrors : Scanner.Mirrors endToken related parted)
    {scanner last : Scanner} {tokens : List Token} (past : parted scanner)
    (takes : scanner.Takes tokens last) : parted last := by
  induction takes with
  | nil => exact past
  | cons found _ ih => exact ih (mirrors.parted_next past found)

theorem Scanner.Mirrors.parted_raises (mirrors : Scanner.Mirrors endToken related parted)
    {grammar : Grammar} {scanner after : Scanner} {error : ParseError} (past : parted scanner)
    (raises : grammar.Raises scanner error after) :
    (∃ cause, error = .scan cause) ∨ parted after := by
  cases raises with
  | scan _ _ => exact Or.inl ⟨_, rfl⟩
  | unexpected takes => exact Or.inr (mirrors.parted_takes past takes)
  | tooDeep takes => exact Or.inr (mirrors.parted_takes past takes)
  | endless takes _ => exact Or.inr (mirrors.parted_takes past takes)

/-- Behind anything but the end mark there is less to take. -/
theorem Scanner.Takes.pending_lt {scanner last : Scanner} {token : Token} {tokens : List Token}
    (takes : scanner.Takes (token :: tokens) last) (inner : token ≠ scanner.endToken) :
    last.pending < scanner.pending := by
  rcases takes.pending_lt_or_finished with less | ⟨nothing, same⟩
  · exact less
  · have atEnd := eq_of_beq (Scanner.pending_eq_zero.mp nothing).2
    exact absurd (same.symm.trans (atEnd.trans takes.endToken)) inner

namespace Session

/-- Two readings come to the same: to one value, or to one error about the tokens in front of each.
Only where the first finds no further token, or the two scanners have parted, may the second come
to anything else. -/
inductive Parallel {α : Type} (related : Scanner → Scanner → Prop) (parted : Scanner → Prop) :
    EStateM.Result ParseError Session α → EStateM.Result ParseError Session α → Prop
  | ok {value after final} : related after.scanner final.scanner →
      Parallel related parted (.ok value after) (.ok value final)
  | error {error other after final} : related after.scanner final.scanner →
      other = error.placedAt final.scanner.span →
      Parallel related parted (.error error after) (.error other final)
  | stuck {cause after result} : Parallel related parted (.error (.scan cause) after) result
  | pastOk {value after result} : parted after.scanner →
      Parallel related parted (.ok value after) result
  | pastError {error after result} : parted after.scanner →
      Parallel related parted (.error error after) result

/-- Whether a reading takes tokens only, and comes to the same from any two related scanners. -/
structure Mirrored {α : Type} (grammar : Grammar) (related : Scanner → Scanner → Prop)
    (parted : Scanner → Prop) (run : ParseM α) : Prop where
  steady : Steady grammar run
  parallel {session twin : Session} : related session.scanner twin.scanner →
    Parallel related parted (run session) (run twin)

section
variable {α β : Type} {grammar : Grammar} {run : ParseM α}

/-- Once the scanners have parted, it does not matter what the second reading comes to. -/
theorem Steady.parallel {session : Session} {result : EStateM.Result ParseError Session α}
    (steady : Steady grammar run) (mirrors : Scanner.Mirrors endToken related parted)
    (past : parted session.scanner) : Parallel related parted (run session) result := by
  have ends := steady session
  cases ran : run session with
  | ok value after =>
    obtain ⟨tokens, takes⟩ := ends.of_ok ran
    exact .pastOk (mirrors.parted_takes past takes)
  | error error after =>
    rcases mirrors.parted_raises past (ends.of_error ran) with ⟨cause, rfl⟩ | still
    · exact .stuck
    · exact .pastError still

theorem Mirrored.pure (value : α) : Mirrored grammar related parted (pure value) :=
  ⟨.pure value, .ok⟩

theorem Mirrored.report {event : Event} (inner : event.isFailed = false) :
    Mirrored grammar related parted (report event) :=
  ⟨.report inner, fun same => .ok same⟩

theorem Mirrored.unexpected (mirrors : Scanner.Mirrors endToken related parted)
    (expected : Expectation) :
    Mirrored grammar related parted (unexpected expected : ParseM α) := by
  refine ⟨.unexpected expected, fun {session twin} same => .error same ?_⟩
  have current : session.current = twin.current := mirrors.current_eq same
  rw [current]
  rfl

theorem Mirrored.advance (mirrors : Scanner.Mirrors endToken related parted) :
    Mirrored grammar related parted (discard Session.advance) := by
  refine ⟨.advance, fun {session twin} same => ?_⟩
  rw [discard_advance_eq, discard_advance_eq]
  cases found : Scanner.next session.scanner with
  | ok _ after =>
    rcases mirrors.next same found with past | ⟨final, foundTwin, kept⟩
    · exact .pastOk past
    · rw [foundTwin]
      exact .ok kept
  | error cause after => exact .stuck

theorem Mirrored.bind {next : α → ParseM β} (mirrors : Scanner.Mirrors endToken related parted)
    (first : Mirrored grammar related parted run)
    (second : ∀ value, Mirrored grammar related parted (next value)) :
    Mirrored grammar related parted (run >>= next) := by
  refine ⟨first.steady.bind fun value => (second value).steady, fun {session twin} same => ?_⟩
  have both := first.parallel same
  rw [bind_eq, bind_eq]
  generalize run session = result, run twin = other at both ⊢
  cases both with
  | ok kept => exact (second _).parallel kept
  | error kept same => exact .error kept same
  | stuck => exact .stuck
  | pastOk past => exact (second _).steady.parallel mirrors past
  | pastError past => exact .pastError past

/-- What comes next may depend on the token in front, which is the same on both sides. -/
theorem Mirrored.bindGet {next : Session → ParseM α}
    (mirrors : Scanner.Mirrors endToken related parted)
    (mirrored : ∀ session, Mirrored grammar related parted (next session))
    (ofCurrent : ∀ session twin : Session, session.current = twin.current →
      next session = next twin) : Mirrored grammar related parted (get >>= next) := by
  refine ⟨Law.Holds.get.bind fun session => (mirrored _).steady, fun {session twin} same => ?_⟩
  change Parallel related parted (next session session) (next twin twin)
  rw [ofCurrent session twin (mirrors.current_eq same)]
  exact (mirrored _).parallel same

theorem Mirrored.nested (inner : Mirrored grammar related parted run) :
    Mirrored grammar related parted (nested run) := by
  refine ⟨inner.steady.nested, fun {session twin} same => ?_⟩
  have both := @Mirrored.parallel _ _ _ _ _ inner session.deeper twin.deeper same
  rw [nested_eq, nested_eq]
  generalize run session.deeper = result, run twin.deeper = other at both ⊢
  cases both with
  | ok kept => exact .ok kept
  | error kept same =>
    exact .error (by rwa [scanner_ite_shallower, scanner_ite_shallower])
      (by rwa [scanner_ite_shallower])
  | stuck => exact .stuck
  | pastOk past => exact .pastOk past
  | pastError past => exact .pastError (by rwa [scanner_ite_shallower])

end

section
variable {grammar : Grammar} {sub : Power → ParseM Expr}

theorem Mirrored.followedBy {inner : ParseM Expr}
    (mirrors : Scanner.Mirrors endToken related parted)
    (mirrored : Mirrored grammar related parted inner) (terminator : Token) :
    Mirrored grammar related parted (followedBy terminator inner) := by
  refine mirrored.bind mirrors fun expr => Mirrored.bindGet mirrors (fun session => ?_) ?_
  · split
    · exact (Mirrored.unexpected mirrors _).bind mirrors fun _ => .pure _
    · exact .pure _
  · intro session twin current
    rw [current]

theorem Mirrored.applyLeading (mirrors : Scanner.Mirrors endToken related parted)
    (mirrored : ∀ power, Mirrored grammar related parted (sub power)) (leading : Leading) :
    Mirrored grammar related parted (applyLeading grammar sub leading) := by
  cases leading with
  | prefixed tag power =>
    exact (mirrored power).bind mirrors fun _ => (Mirrored.report rfl).bind mirrors fun _ => .pure _
  | group closing inner =>
    exact ((mirrored inner).followedBy mirrors _).bind mirrors fun _ =>
      (Mirrored.advance mirrors).bind mirrors fun _ => .pure _

theorem Mirrored.applyTrailing (mirrors : Scanner.Mirrors endToken related parted)
    (mirrored : ∀ power, Mirrored grammar related parted (sub power)) (lhs : Expr)
    (trailing : Trailing) :
    Mirrored grammar related parted (applyTrailing sub lhs trailing) := by
  cases trailing with
  | infixed tag assoc power =>
    exact (mirrored _).bind mirrors fun _ => (Mirrored.report rfl).bind mirrors fun _ => .pure _
  | postfixed tag power => exact (Mirrored.report rfl).bind mirrors fun _ => .pure _

theorem Mirrored.operand (mirrors : Scanner.Mirrors endToken related parted)
    (mirrored : ∀ power, Mirrored grammar related parted (sub power)) :
    Mirrored grammar related parted (operand grammar sub) := by
  refine Mirrored.bindGet mirrors (fun session => ?_) fun session twin current => by rw [current]
  dsimp only
  split
  · exact (Mirrored.advance mirrors).bind mirrors fun _ => .pure _
  · cases grammar.leading? session.current with
    | some leading =>
      exact (Mirrored.advance mirrors).bind mirrors fun _ => .applyLeading mirrors mirrored leading
    | none =>
      refine Mirrored.bind mirrors ?_ fun _ => .unexpected mirrors _
      unfold reportMisplaced
      split
      · exact .report rfl
      · exact .pure _

/-- An operator other than the end mark leaves less to take, whatever its right operand. -/
theorem Steady.pending_lt_of_step {session : Session}
    (steady : ∀ power, Steady grammar (sub power))
    (inner : session.current ≠ session.scanner.endToken) (lhs : Expr) (trailing : Trailing) :
    session.Ends (do discard Session.advance; Session.applyTrailing sub lhs trailing)
      (fun _ after => after.scanner.pending < session.scanner.pending) fun _ _ => True := by
  refine ends_bind.mpr (ends_discard.mpr (ends_advance.mpr ⟨fun scanner found => ?_, fun _ _ _ =>
    trivial⟩))
  refine (Law.Holds.applyTrailing steady lhs trailing (session.moved scanner)).imp ?_ fun _ _ _ =>
    trivial
  rintro _ after ⟨tokens, takes⟩
  exact (Scanner.Takes.cons found takes).pending_lt inner

/-- Where the end mark never trails, every operator leaves less to take on both sides. -/
theorem Mirrored.climb (mirrors : Scanner.Mirrors grammar.endToken related parted)
    (noTrailing : grammar.trailing? grammar.endToken = none)
    (mirrored : ∀ power, Mirrored grammar related parted (sub power)) (power : Power)
    (expr : Expr) :
    Mirrored grammar related parted (climb grammar sub power expr) := by
  have subs := fun power => (mirrored power).steady
  refine ⟨.climb subs power expr, fun {session twin} same => ?_⟩
  induction pending : session.scanner.pending using Nat.strongRecOn
    generalizing expr session twin with
  | _ left ih =>
    subst pending
    have current : session.current = twin.current := mirrors.current_eq same
    rcases grammar.loose_or_holds power session.current with stops | ⟨trailing, role, holds⟩
    · rw [climb_stop stops, climb_stop (current ▸ stops)]
      exact .ok same
    · have inner := Grammar.ne_endToken_of_trailing? noTrailing role
      obtain ⟨mark, twinMark⟩ := mirrors.endToken_eq same
      have less := Steady.pending_lt_of_step subs (mark ▸ inner) expr trailing
      have twinLess := Steady.pending_lt_of_step subs (twinMark ▸ current ▸ inner) expr trailing
      have both := ((Mirrored.advance mirrors).bind mirrors fun _ =>
        .applyTrailing mirrors mirrored expr trailing).parallel same
      rw [climb_step role holds, climb_step (current ▸ role) holds]
      unfold Ends at less twinLess
      generalize (discard Session.advance >>= fun _ => Session.applyTrailing sub expr trailing :
        ParseM Expr) = step at both less twinLess ⊢
      generalize step session = result, step twin = other at both less twinLess ⊢
      cases both with
      | @ok whole after final kept =>
        dsimp only at less twinLess ⊢
        rw [if_pos less, if_pos twinLess]
        exact ih _ less whole kept rfl
      | error kept same => exact .error kept same
      | stuck => exact .stuck
      | pastOk past =>
        dsimp only at less ⊢
        rw [if_pos less]
        exact Steady.parallel (.climb subs power _) mirrors past
      | pastError past => exact .pastError past

theorem expressionWithin_mirrored (mirrors : Scanner.Mirrors grammar.endToken related parted)
    (noTrailing : grammar.trailing? grammar.endToken = none) (levels : Nat) (power : Power) :
    Mirrored grammar related parted (expressionWithin grammar levels power) := by
  induction levels generalizing power with
  | zero => exact ⟨(takesLaw grammar).holds_expressionWithin power, fun same => .error same rfl⟩
  | succ levels ih =>
    exact ((Mirrored.operand mirrors ih).bind mirrors fun first =>
      .climb mirrors noTrailing ih power first).nested

theorem complete_eq {session : Session} :
    complete grammar session =
      match expressionUntil grammar .loosest grammar.endToken session with
      | .ok expr after => .ok expr after
      | .error error after => .error error
          (if error.breaksOff then after else after.reported [.failed error.message]) := by
  unfold complete
  cases expressionUntil grammar .loosest grammar.endToken session with
  | ok expr after => rfl
  | error error after => exact (apply_ite (EStateM.Result.error error) _ _ _).symm

/-- Whole texts that begin at related scanners come to the same. -/
theorem complete_parallel {scanner twin : Scanner}
    (mirrors : Scanner.Mirrors grammar.endToken related parted)
    (noTrailing : grammar.trailing? grammar.endToken = none) (same : related scanner twin) :
    Parallel related parted (complete grammar (ofScanner scanner))
      (complete grammar (ofScanner twin)) := by
  have mirrored := (expressionWithin_mirrored mirrors noTrailing grammar.maxDepth
    .loosest).followedBy mirrors grammar.endToken
  have both : Parallel related parted
      (expressionUntil grammar .loosest grammar.endToken (ofScanner scanner))
      (expressionUntil grammar .loosest grammar.endToken (ofScanner twin)) :=
    mirrored.parallel same
  rw [complete_eq, complete_eq]
  generalize expressionUntil grammar .loosest grammar.endToken (ofScanner scanner) = result,
    expressionUntil grammar .loosest grammar.endToken (ofScanner twin) = other at both ⊢
  have keptScanner {error : ParseError} {after : Session} : (if error.breaksOff then after else
      after.reported [.failed error.message]).scanner = after.scanner := by split <;> rfl
  cases both with
  | ok kept => exact .ok kept
  | error kept same =>
    exact .error (by rwa [keptScanner, keptScanner]) (by rwa [keptScanner])
  | stuck => exact .stuck
  | pastOk past => exact .pastOk past
  | pastError past => exact .pastError (by rwa [keptScanner])

end

end Session

end

end Precedence
