import Precedence.Regex.Program

namespace Precedence

/-- Where the named groups of one attempt were entered last, and the stretches they took, all
counted in characters. -/
structure Captures where
  entered : List (String × Nat)
  taken : List (String × Nat × Nat)
deriving DecidableEq, Repr

def Captures.start : Captures := ⟨[], []⟩

def Captures.enter (captures : Captures) (name : String) (pos : Nat) : Captures :=
  { captures with entered := (name, pos) :: captures.entered.filter (·.1 != name) }

/-- Leaving a group replaces what it took before. -/
def Captures.leave (captures : Captures) (name : String) (pos : Nat) : Captures :=
  { captures with
    taken := (name, (captures.entered.lookup name).getD pos, pos) ::
      captures.taken.filter (·.1 != name) }

/-- One attempt at a match: the state it has reached and what its groups took so far. -/
structure Attempt where
  state : Nat
  captures : Captures
deriving DecidableEq, Repr

/-- A place in a text: how many characters came before it, the last of them, and the text that
is left. -/
structure Place where
  pos : Nat
  before? : Option Char
  rest : List Char
deriving DecidableEq, Repr

/-- Follows the states that take no character, best way first, from the attempts that wait. Those
that accept or wait for a character are found, the latest first. A state is tried once at each
place, because a second attempt at it could only repeat the first. -/
def Program.follow (program : Program) (place : Place) :
    Nat → Array Bool → List Attempt → List Attempt → List Attempt
  | 0, _, found, _ => found
  | _ + 1, _, found, [] => found
  | steps + 1, tried, found, attempt :: waiting =>
    if tried.getD attempt.state true then program.follow place steps tried found waiting
    else
      let tried := tried.setIfInBounds attempt.state true
      match program.states[attempt.state]? with
      | none => program.follow place steps tried found waiting
      | some .accept => program.follow place steps tried (attempt :: found) waiting
      | some (.take _ _) => program.follow place steps tried (attempt :: found) waiting
      | some (.check condition next) =>
        let waiting :=
          if condition.holds place.before? place.rest.head? then
            { attempt with state := next } :: waiting
          else waiting
        program.follow place steps tried found waiting
      | some (.enter name next) =>
        let entered := ⟨next, attempt.captures.enter name place.pos⟩
        program.follow place steps tried found (entered :: waiting)
      | some (.leave name next) =>
        let left := ⟨next, attempt.captures.leave name place.pos⟩
        program.follow place steps tried found (left :: waiting)
      | some (.fork first second) =>
        program.follow place steps tried found
          ({ attempt with state := first } :: { attempt with state := second } :: waiting)

/-- All attempts at a place that either accept or wait for a character, best first. Every state
makes at most two more attempts wait, which bounds the steps. -/
def Program.settle (program : Program) (place : Place) (attempts : List Attempt) : List Attempt :=
  let size := program.states.size
  (program.follow place (attempts.length + 2 * size + 1) (Array.replicate size false) []
    attempts).reverse

def Program.accepts (program : Program) (attempt : Attempt) : Bool :=
  program.states[attempt.state]? == some .accept

/-- The attempt after it takes a character, if it can. -/
def Program.take? (program : Program) (c : Char) (attempt : Attempt) : Option Attempt :=
  match program.states[attempt.state]? with
  | some (.take chars next) =>
    if chars.contains c then some { attempt with state := next } else none
  | _ => none

/-- Where a match ended, counted in characters, and what its groups took. -/
structure Ending where
  stop : Nat
  captures : Captures
deriving DecidableEq, Repr

/-- How a match ends at a place where an attempt accepts, if one does. -/
def Program.ending? (program : Program) (pos : Nat) (settled : List Attempt) : Option Ending :=
  (settled.find? program.accepts).map fun attempt => ⟨pos, attempt.captures⟩

/-- Runs all attempts over a text in step. An attempt that accepts beats the match found so far
and ends all attempts that come after it. -/
def Program.run (program : Program) (pos : Nat) (before? : Option Char) (best? : Option Ending)
    (attempts : List Attempt) : List Char → Option Ending
  | [] => (program.ending? pos (program.settle ⟨pos, before?, []⟩ attempts)).or best?
  | c :: rest =>
    let settled := program.settle ⟨pos, before?, c :: rest⟩ attempts
    let best? := (program.ending? pos settled).or best?
    let live := (settled.takeWhile (!program.accepts ·)).filterMap (program.take? c)
    if live.isEmpty then best? else program.run (pos + 1) (some c) best? live rest

/-- A match: where it starts and stops, counted in characters, and what its groups took. -/
structure Match where
  start : Nat
  stop : Nat
  captures : Captures
deriving DecidableEq, Repr

/-- The leftmost match in what is left of a text, and of those that start there the best. -/
def Program.searchFrom? (program : Program) (pos : Nat) (before? : Option Char) (rest : List Char) :
    Option Match :=
  match program.run pos before? none [⟨program.start, .start⟩] rest with
  | some ending => some ⟨pos, ending.stop, ending.captures⟩
  | none =>
    match rest with
    | [] => none
    | c :: rest => program.searchFrom? (pos + 1) (some c) rest

def Program.search? (program : Program) (text : List Char) : Option Match :=
  program.searchFrom? 0 none text

end Precedence
