import Precedence.Proofs.Derivation.Threshold
import Precedence.Proofs.Scanner.Items
import Precedence.Proofs.Session.Trace

namespace Precedence

namespace TokenStream

variable {stream : TokenStream} {endToken : Token} {place : Nat}

/-- The tokens to come, each with its span. -/
def marks : TokenStream → List (Token × Span)
  | token first span rest => (first, span) :: rest.marks
  | finish _ => []
  | failure _ => []

/-- What is reported when the first token to come is found. -/
def found : TokenStream → List Event
  | token first span _ => [.scanned first span]
  | finish _ => []
  | failure _ => []

theorem reverse_found : stream.found.reverse = stream.found := by
  cases stream <;> rfl

theorem filterMap_found : stream.found.filterMap Event.mark? = stream.marks.take 1 := by
  cases stream <;> rfl

theorem applications_found {seen : List (Token × Span)} {events : List Event} :
    Event.applications seen (stream.found ++ events) =
      Event.applications (seen ++ stream.marks.take 1) events := by
  cases stream with
  | token first span rest => rfl
  | finish pos => rw [marks, List.take_nil, List.append_nil]; rfl
  | failure error => rw [marks, List.take_nil, List.append_nil]; rfl

/-- Every token takes up some text. -/
theorem InOrder.room_of_mem_marks {pos : Nat} {mark : Token × Span} (ordered : stream.InOrder pos)
    (found : mark ∈ stream.marks) : mark.2.start < mark.2.stop := by
  induction ordered with
  | token _ nonempty _ ih =>
    rcases List.mem_cons.mp found with rfl | later
    · exact nonempty
    · exact ih later
  | finish _ => cases found
  | failure _ => cases found

theorem marks_tail : stream.tail.marks = stream.marks.drop 1 := by
  cases stream <;> rfl

theorem marks_behind : (stream.behind place).marks = stream.marks.drop place := by
  induction place with
  | zero => rfl
  | succ place ih => rw [behind, marks_tail, ih, List.drop_drop]

theorem take_marks_append :
    stream.marks.take (place + 1) ++ (stream.behind (place + 1)).marks.take 1 =
      stream.marks.take (place + 1 + 1) := by
  rw [marks_behind, ← List.take_add]

/-- The items of a text that is split into tokens are its tokens and the end mark. -/
theorem marks_of_tokens {tokens : List Token} (split : stream.tokens = .ok tokens) :
    stream.marks.map Prod.fst = tokens ∧
      ∃ pos, stream.items endToken = stream.marks ++ [(endToken, .emptyAt pos)] := by
  induction stream generalizing tokens with
  | token first span rest ih =>
    cases inner : rest.tokens with
    | error error => simp [TokenStream.tokens, inner, Except.map] at split
    | ok later =>
      obtain rfl : first :: later = tokens := by
        simpa [TokenStream.tokens, inner, Except.map] using split
      obtain ⟨same, pos, behind⟩ := ih inner
      exact ⟨congrArg (first :: ·) same, pos, congrArg ((first, span) :: ·) behind⟩
  | finish pos =>
    cases split
    exact ⟨rfl, pos, rfl⟩
  | failure error => cases split

end TokenStream

namespace Action

variable {actions : List Action} {stream : TokenStream} {place : Nat}

/-- What is reported when actions are performed in front of the tokens to come. -/
def events : List Action → TokenStream → List Event
  | [], _ => []
  | take _ :: rest, stream => stream.tail.found ++ events rest stream.tail
  | apply role tag :: rest, stream => .applied role tag :: events rest stream

/-- Reported are the tokens that are taken, and the one behind them. -/
theorem filterMap_events :
    stream.marks.take (place + 1) ++
        (events actions (stream.behind place)).filterMap Event.mark? =
      stream.marks.take (place + (actions.filterMap token?).length + 1) := by
  induction actions generalizing place with
  | nil => exact List.append_nil _
  | cons action rest ih =>
    cases action with
    | take token =>
      rw [events, List.filterMap_append, ← List.append_assoc, TokenStream.filterMap_found,
        ← TokenStream.behind, TokenStream.take_marks_append, ih]
      simp only [token?, List.filterMap_cons, List.length_cons]
      congr 1
      omega
    | apply role tag => exact ih

/-- An operator is reported as applied when the tokens taken before it have been reported, and the
one behind them. -/
theorem applications_events :
    Event.applications (stream.marks.take (place + 1)) (events actions (stream.behind place)) =
      (applications place actions).map fun application =>
        (stream.marks.take (application.1 + 1), application.2) := by
  induction actions generalizing place with
  | nil => rfl
  | cons action rest ih =>
    cases action with
    | take token =>
      rw [events, TokenStream.applications_found, ← TokenStream.behind,
        TokenStream.take_marks_append, ih, applications]
    | apply role tag => exact congrArg (_ :: ·) ih

end Action

section
variable {lexicon : Lexicon} {endToken : Token} {scanner : Scanner} {stream : TokenStream}
  {pos : Nat}

/-- The end mark takes no text and is not reported; a token is. -/
theorem Scanner.Shows.found_eq (sees : scanner.Shows lexicon endToken stream)
    (ordered : stream.InOrder pos) : scanner.found = stream.found := by
  cases sees with
  | @token cursor token span known =>
    cases ordered with
    | token fromPos nonempty rest =>
      have room : ¬span.isEmpty = true :=
        fun none => absurd (Span.isEmpty_iff.mp none) (Nat.not_le.mpr nonempty)
      exact if_neg room
  | finish _ => exact if_pos (Span.isEmpty_iff.mpr (Nat.le_refl _))

theorem Reading.Performs.trace_eq {first last : Reading} {actions : List Action}
    (performs : first.Performs actions last) (sees : first.scanner.Shows lexicon endToken stream)
    (ordered : stream.InOrder pos) :
    last.trace = (Action.events actions stream).reverse ++ first.trace := by
  induction performs generalizing stream with
  | nil => rfl
  | @take reading scanner actions last found _ ih =>
    have behind := sees.behind found
    rw [ih behind ordered.tail, behind.found_eq ordered.tail, Action.events, List.reverse_append,
      TokenStream.reverse_found, List.append_assoc]
  | apply _ ih =>
    rw [ih sees ordered, Action.events, List.reverse_cons, List.append_assoc]
    rfl

theorem Scanner.Shows.current_cases (sees : scanner.Shows lexicon endToken stream) :
    scanner.current = endToken ∨ scanner.current.kind ∈ lexicon.kinds := by
  cases sees with
  | token known => exact Or.inr known
  | finish _ => exact Or.inl rfl

/-- The tokens of a text are words, up to the end mark. -/
theorem Scanner.Takes.words {last : Scanner} {tokens : List Token}
    (takes : scanner.Takes tokens last) (sees : scanner.Shows lexicon endToken stream) :
    ∀ token ∈ tokens, token = endToken ∨ token.kind ∈ lexicon.kinds := by
  induction takes generalizing stream with
  | nil => exact nofun
  | cons found _ ih => exact List.forall_mem_cons.mpr ⟨sees.current_cases, ih (sees.behind found)⟩

end

/-- A mark of the end that is no word and has no role is no part of an expression. -/
theorem Derivation.endToken_notMem {grammar : Grammar} {derivation : Derivation grammar}
    (endNotTerm : grammar.isTerm grammar.endToken = false)
    (endNotLeading : grammar.leading? grammar.endToken = none)
    (endNotTrailing : grammar.trailing? grammar.endToken = none)
    (endNoWord : grammar.endToken.kind ∉ grammar.lexicon.kinds)
    (words : ∀ token ∈ derivation.tokens,
      token = grammar.endToken ∨ token.kind ∈ grammar.lexicon.kinds) :
    grammar.endToken ∉ derivation.tokens := by
  intro member
  induction derivation with
  | term token isTerm =>
    obtain rfl := List.mem_singleton.mp member
    cases endNotTerm.symm.trans isTerm
  | prefixed token tag power notTerm role arg ih =>
    rcases List.mem_cons.mp member with rfl | inside
    · cases endNotLeading.symm.trans role
    · exact ih (fun token later => words token (List.mem_cons_of_mem _ later)) inside
  | group token closing inner notTerm role body ih =>
    rcases List.mem_cons.mp member with rfl | behind
    · cases endNotLeading.symm.trans role
    · rcases List.mem_append.mp behind with inside | closes
      · exact ih (fun token later => words token
          (List.mem_cons_of_mem _ (List.mem_append_left _ later))) inside
      · have mark := List.mem_singleton.mp closes
        rcases words token (List.mem_cons_self ..) with rfl | known
        · cases endNotLeading.symm.trans role
        · have kind : token.kind = grammar.operatorKind :=
            eq_of_beq (Grammar.isOperator_of_leading? role)
          rw [kind] at known
          exact endNoWord (mark ▸ known)
  | infixed lhs token tag assoc power role rhs left right =>
    rcases List.mem_append.mp member with first | behind
    · exact left (fun token later => words token (List.mem_append_left _ later)) first
    · rcases List.mem_cons.mp behind with rfl | second
      · cases endNotTrailing.symm.trans role
      · exact right (fun token later => words token
          (List.mem_append_right _ (List.mem_cons_of_mem _ later))) second
  | postfixed lhs token tag power role ih =>
    rcases List.mem_append.mp member with inside | last
    · exact ih (fun token later => words token (List.mem_append_left _ later)) inside
    · obtain rfl := List.mem_singleton.mp last
      cases endNotTrailing.symm.trans role

namespace Grammar

variable {grammar : Grammar} {text : List Char} {expr : Expr}

theorem shows_of_start {first : Scanner}
    (started : Scanner.start grammar.lexicon grammar.endToken text = .ok first) :
    first.Shows grammar.lexicon grammar.endToken (grammar.stream text) := by
  rcases @start_cases grammar text with ⟨scanner, same, stands⟩ | ⟨_, stuck, _⟩
  · cases started.symm.trans same
    exact stands.sees
  · cases started.symm.trans stuck

/-- The log of a text that is read as an expression: its first token, and then what the actions of
its derivation report. -/
theorem exists_log_eq (parsed : grammar.parse text = .ok expr) :
    ∃ derivation : Derivation grammar, derivation.Covers text ∧ derivation.expr = expr ∧
      (grammar.parseTraced text).2 =
        (grammar.stream text).found ++ Action.events derivation.actions (grammar.stream text) := by
  obtain ⟨first, after, started, ran⟩ := parse_ok parsed
  obtain ⟨ended, derivation, same, spans, _⟩ := Session.expressionUntil_derivation ran
  have sees := shows_of_start started
  have trace : after.trace = _ := spans.performs.trace_eq sees stream_inOrder
  refine ⟨derivation, ⟨spans.bound, first, after.scanner, started, spans.takes, ended⟩, same, ?_⟩
  rw [parseTraced_of_ok started (by rw [Session.complete, ran]), trace, List.reverse_append,
    List.reverse_reverse]
  change first.found.reverse ++ _ = _
  rw [sees.found_eq stream_inOrder, TokenStream.reverse_found]

/-- Where the end mark is no word and has no role, a derivation of a text reads all its tokens. -/
theorem tokenize_of_covers {derivation : Derivation grammar}
    (endNotTerm : grammar.isTerm grammar.endToken = false)
    (endNotLeading : grammar.leading? grammar.endToken = none)
    (endNotTrailing : grammar.trailing? grammar.endToken = none)
    (endNoWord : grammar.endToken.kind ∉ grammar.lexicon.kinds)
    (covers : derivation.Covers text) : (grammar.tokenize text).1 = .ok derivation.tokens := by
  obtain ⟨_, first, last, started, takes, ended⟩ := covers
  have mark := Scanner.start_endToken started
  have inner := derivation.endToken_notMem endNotTerm endNotLeading endNotTrailing endNoWord
    (takes.words (shows_of_start started))
  exact tokenize_of_takes started takes (by rw [ended, takes.endToken, mark]) (by rwa [mark])

/-- The events of a text that is read as an expression. Its tokens are reported, and the operators
of its derivation, each of them behind its token and those of its operands and one more. -/
theorem events_replay_derivation (endNotTerm : grammar.isTerm grammar.endToken = false)
    (endNotLeading : grammar.leading? grammar.endToken = none)
    (endNotTrailing : grammar.trailing? grammar.endToken = none)
    (endNoWord : grammar.endToken.kind ∉ grammar.lexicon.kinds)
    (parsed : grammar.parse text = .ok expr) :
    ∃ (derivation : Derivation grammar) (marks : List (Token × Span)) (pos : Nat),
      derivation.Covers text ∧ derivation.expr = expr ∧
      derivation.tokens = marks.map Prod.fst ∧
      (grammar.tokenize text).1 = .ok (marks.map Prod.fst) ∧
      grammar.items text = marks ++ [(grammar.endToken, .emptyAt pos)] ∧
      (∀ mark ∈ marks, mark.2.start < mark.2.stop) ∧
      (grammar.parseTraced text).2.filterMap Event.mark? = marks ∧
      Event.applications [] (grammar.parseTraced text).2 =
        (derivation.operations []).map fun operation =>
          (marks.take ((operation.front ++ operation.node.tokens).length + 1),
            operation.role, operation.tag) := by
  obtain ⟨derivation, covers, rfl, log⟩ := exists_log_eq parsed
  have split := tokenize_of_covers endNotTerm endNotLeading endNotTrailing endNoWord covers
  obtain ⟨tokens, pos, items⟩ := @TokenStream.marks_of_tokens _ grammar.endToken _
    ((tokenize_eq endNoWord).symm.trans split)
  have count : derivation.tokens.length = (grammar.stream text).marks.length := by
    rw [← tokens, List.length_map]
    rfl
  rw [← tokens] at split
  refine ⟨derivation, (grammar.stream text).marks, pos, covers, rfl, tokens.symm, split, items,
    fun _ => stream_inOrder.room_of_mem_marks, ?_, ?_⟩
  · have marks := @Action.filterMap_events derivation.actions (grammar.stream text) 0
    rw [derivation.filterMap_actions, count] at marks
    rw [log, List.filterMap_append, TokenStream.filterMap_found]
    exact marks.trans (List.take_of_length_le (by omega))
  · have applied := @Action.applications_events derivation.actions (grammar.stream text) 0
    have operators := derivation.applications_actions []
    rw [List.length_nil] at operators
    rw [operators, List.map_map] at applied
    rw [log, TokenStream.applications_found]
    exact applied

/-- The tokens in front of an operator with its operands, its own, and those behind, among all. -/
theorem exists_marks_of_operation {derivation : Derivation grammar} {marks : List (Token × Span)}
    {operation : Operation grammar} (tokens : derivation.tokens = marks.map Prod.fst)
    (member : operation ∈ derivation.operations []) :
    ∃ ahead own rest, marks = ahead ++ own ++ rest ∧ ahead.map Prod.fst = operation.front ∧
      own.map Prod.fst = operation.node.tokens ∧
      marks.take ((operation.front ++ operation.node.tokens).length + 1) =
        ahead ++ own ++ rest.take 1 := by
  obtain ⟨_, _, behind, split⟩ := derivation.of_mem_operations member
  rw [List.nil_append, tokens] at split
  obtain ⟨known, rest, rfl, part, _⟩ := List.map_eq_append_iff.mp split.symm
  obtain ⟨ahead, own, rfl, front, inner⟩ := List.map_eq_append_iff.mp part
  refine ⟨ahead, own, rest, rfl, front, inner, ?_⟩
  rw [← part, List.length_map, List.take_length_add_append]

/-- The log of a text that is read as an expression. A line is written for each token, once and in
the order of the text, and a line for each operator of the expression, once and behind those of its
operands, with the way in which its token is used. When an operator is reported, its token and
those of its operands have been, and only one token behind them. -/
theorem log_replays_derivation (endNotTerm : grammar.isTerm grammar.endToken = false)
    (endNotLeading : grammar.leading? grammar.endToken = none)
    (endNotTrailing : grammar.trailing? grammar.endToken = none)
    (endNoWord : grammar.endToken.kind ∉ grammar.lexicon.kinds)
    (parsed : grammar.parse text = .ok expr) :
    ∃ (derivation : Derivation grammar) (marks : List (Token × Span)) (pos : Nat),
      derivation.Covers text ∧ derivation.expr = expr ∧
      derivation.tokens = marks.map Prod.fst ∧
      (grammar.tokenize text).1 = .ok (marks.map Prod.fst) ∧
      grammar.items text = marks ++ [(grammar.endToken, .emptyAt pos)] ∧
      (derivation.operations []).map (·.node.expr) = expr.operations ∧
      (∀ operation ∈ derivation.operations [],
        operation.node.expr.tag? = some operation.tag) ∧
      traces "scanned" (grammar.log text) = marks.map scannedLine ∧
      traces "applying" (grammar.log text) = (derivation.operations []).map Operation.line ∧
      ∀ earlier operation later, derivation.operations [] = earlier ++ operation :: later →
        ∃ ahead own rest before after, marks = ahead ++ own ++ rest ∧
          ahead.map Prod.fst = operation.front ∧ own.map Prod.fst = operation.node.tokens ∧
          grammar.log text = before ++ operation.line :: after ∧
          traces "scanned" before = (ahead ++ own ++ rest.take 1).map scannedLine ∧
          traces "applying" before = earlier.map Operation.line := by
  obtain ⟨derivation, marks, pos, covers, rfl, tokens, split, items, room, scanned, applied⟩ :=
    events_replay_derivation endNotTerm endNotLeading endNotTrailing endNoWord parsed
  refine ⟨derivation, marks, pos, covers, rfl, tokens, split, items,
    derivation.map_expr_operations, fun _ member => (derivation.of_mem_operations member).2.1,
    ?_, ?_, fun earlier operation later parts => ?_⟩
  · exact Event.traces_scanned_of_marks scanned room
  · rw [log, @Event.traces_applying [], applied, List.map_map]
    exact List.map_congr_left fun _ => derivation.line_eq_of_mem_operations
  · have member : operation ∈ derivation.operations [] :=
      parts ▸ List.mem_append_right _ (List.mem_cons_self ..)
    obtain ⟨ahead, own, rest, whole, front, inner, known⟩ :=
      exists_marks_of_operation tokens member
    rw [parts, List.map_append, List.map_cons, known] at applied
    obtain ⟨before, after, events, seen, reported⟩ := Event.exists_of_applications applied
    refine ⟨ahead, own, rest, before.map Event.line, after.map Event.line, whole, front, inner,
      ?_, ?_, ?_⟩
    · rw [log, events, List.map_append, List.map_cons,
        derivation.line_eq_of_mem_operations member]
    · refine Event.traces_scanned_of_marks seen fun mark found => room mark ?_
      exact List.mem_of_mem_take (known ▸ found)
    · rw [@Event.traces_applying [], reported, List.map_map]
      have inside : earlier ⊆ derivation.operations [] := parts ▸ List.subset_append_left ..
      exact List.map_congr_left fun _ among => derivation.line_eq_of_mem_operations (inside among)

theorem signed_sum_replayed :
    arithmetic.log "-a+b".toList =
      ["TRACE scanned op token \"-\" at 0-1", "TRACE scanned ident token \"a\" at 1-2",
        "TRACE scanned op token \"+\" at 2-3", "TRACE applying prefix neg",
        "TRACE scanned ident token \"b\" at 3-4", "TRACE applying infix add"] ∧
    ∃ (derivation : Derivation arithmetic) (marks : List (Token × Span)),
      derivation.Covers "-a+b".toList ∧
      derivation.expr = .binary "add" (.unary "neg" (.term "ident" "a")) (.term "ident" "b") ∧
      derivation.tokens = marks.map Prod.fst ∧
      traces "scanned" (arithmetic.log "-a+b".toList) = marks.map scannedLine ∧
      traces "applying" (arithmetic.log "-a+b".toList) =
        (derivation.operations []).map Operation.line := by
  have parsed : arithmetic.parse "-a+b".toList =
      .ok (.binary "add" (.unary "neg" (.term "ident" "a")) (.term "ident" "b")) := by
    decide +kernel
  obtain ⟨derivation, marks, _, covers, same, tokens, _, _, _, _, scanned, applied, _⟩ :=
    log_replays_derivation (by decide +kernel) (by decide +kernel) (by decide +kernel)
      (by decide +kernel) parsed
  exact ⟨by decide +kernel, derivation, marks, covers, same, tokens, scanned, applied⟩

end Grammar

end Precedence
