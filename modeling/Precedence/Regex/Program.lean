import Precedence.Regex.Basic

namespace Precedence

/-- One state of a matching program, with the states that may follow it. Of the two ways out of a
`fork` the first is tried before the second. -/
inductive Instr where
  | accept
  | take (chars : Charset) (next : Nat)
  | check (condition : Boundary) (next : Nat)
  | enter (name : String) (next : Nat)
  | leave (name : String) (next : Nat)
  | fork (first second : Nat)
deriving DecidableEq, Repr

/-- A matching program: its states, and the one in which a match begins. -/
structure Program where
  states : Array Instr
  start : Nat
deriving DecidableEq, Repr

/-- A state number together with the states built so far. -/
abbrev Built := Nat × Array Instr

/-- Adds a state and answers with its number. -/
def addState (instr : Instr) (states : Array Instr) : Built := (states.size, states.push instr)

/-- A fork between `first` and `second` that tries the second way first unless it is greedy. -/
def ordered (greedy : Bool) (first second : Nat) : Instr :=
  if greedy then .fork first second else .fork second first

/-- Builds a body so many times in a row, the last copy first. Each copy leads to the one built
before it, and the first one built to `next`. -/
def buildCopies (build : Nat → Array Instr → Built) : Nat → Nat → Array Instr → Built
  | 0, next, states => (next, states)
  | count + 1, next, states =>
    let (entry, states) := build next states
    buildCopies build count entry states

/-- Builds up to so many rounds of a body in front of the rounds that begin at `more`. Each of
them may be left out together with all that follow it. -/
def buildOptional (build : Nat → Array Instr → Built) (greedy : Bool) (next : Nat) :
    Nat → Nat → Array Instr → Built
  | 0, more, states => (more, states)
  | count + 1, more, states =>
    let (entry, states) := build more states
    let (fork, states) := addState (ordered greedy entry next) states
    buildOptional build greedy next count fork states

/-- Builds a loop: the fork that decides on another round, and the body that leads back to it.
Both are answered, the fork first. -/
def buildLoop (build : Nat → Array Instr → Built) (greedy : Bool) (next : Nat)
    (states : Array Instr) : Nat × Built :=
  let (fork, states) := addState (.fork next next) states
  let (entry, states) := build fork states
  (fork, entry, states.setIfInBounds fork (ordered greedy entry next))

/-- Builds the states of an expression in front of the state `next`, and answers with the one in
which it begins. A loop over a body that may take nothing is entered through the body and left
out by a fork of its own, so that a round without progress ends it. -/
def Regex.build : Regex → Nat → Array Instr → Built
  | .empty, next, states => (next, states)
  | .set chars, next, states => addState (.take chars next) states
  | .boundary condition, next, states => addState (.check condition next) states
  | .group none body, next, states => body.build next states
  | .group (some name) body, next, states =>
    let (leave, states) := addState (.leave name next) states
    let (entry, states) := body.build leave states
    addState (.enter name entry) states
  | .cat first second, next, states =>
    let (entry, states) := second.build next states
    first.build entry states
  | .alt first second, next, states =>
    let (right, states) := second.build next states
    let (left, states) := first.build next states
    addState (.fork left right) states
  | .repetition body least most? greedy, next, states =>
    match most? with
    | some most =>
      let (entry, states) := buildOptional body.build greedy next (most - least) next states
      buildCopies body.build least entry states
    | none =>
      let (fork, entry, states) := buildLoop body.build greedy next states
      if 0 < least then buildCopies body.build (least - 1) entry states
      else if body.takesSomething then (fork, states)
      else addState (ordered greedy entry next) states

/-- The program that looks for a match of an expression. -/
def Regex.program (regex : Regex) : Program :=
  let (start, states) := regex.build 0 #[.accept]
  ⟨states, start⟩

end Precedence
