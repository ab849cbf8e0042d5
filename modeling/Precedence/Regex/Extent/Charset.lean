import Precedence.Character.Encoding
import Precedence.Regex.Extent.Basic
import Precedence.Regex.Extent.Memo

/-!
The part of an automaton that takes one character of a set. Read forward, the states for its bytes
are shared where what follows is the same; read backward, where what came before is the same. A
memory of bounded size finds states that can be shared, so that some are laid out twice.
-/

namespace Precedence

/-- A way out of a state: a range of bytes and the number of the next state. -/
structure Edge where
  low : Nat
  high : Nat
  next : Nat
deriving DecidableEq, Repr

/-- An automaton and the states in it that can be shared. -/
structure Sharing (κ : Type) where
  extent : Extent
  memo : Memo κ

/-- Adds a state with the given ways out, unless there is one. -/
def Sharing.addNode (edges : List Edge) (sharing : Sharing (List Edge)) :
    Nat × Sharing (List Edge) :=
  let slot := sharing.memo.slot (edges.flatMap fun edge => [edge.low, edge.high, edge.next])
  match sharing.memo.find? slot edges with
  | some state => (state, sharing)
  | none =>
    let state := sharing.extent.states
    (state, ⟨sharing.extent.addEdges edges.length, sharing.memo.put slot edges state⟩)

/-- The states that are not laid out yet, from the first byte on: the ways out that each has so
far, and the range of bytes of the way to the next one. -/
abbrev Trail := List (List Edge × (Nat × Nat))

/-- Lays out a trail, from its end, in front of the state `target`. -/
def Sharing.settle (target : Nat) : Trail → Sharing (List Edge) → Nat × Sharing (List Edge)
  | [], sharing => (target, sharing)
  | (edges, range) :: rest, sharing =>
    let (next, sharing) := sharing.settle target rest
    sharing.addNode (edges ++ [⟨range.1, range.2, next⟩])

/-- Adds a sequence of byte ranges. The states of the trail in which it parts from the sequence
before are kept open, and those after them are laid out. -/
def Sharing.addSequence (target : Nat) :
    Trail → List (Nat × Nat) → Sharing (List Edge) → Trail × Sharing (List Edge)
  | (edges, range) :: rest, first :: others, sharing =>
    if range = first then
      let (rest, sharing) := sharing.addSequence target rest others
      ((edges, range) :: rest, sharing)
    else
      let (next, sharing) := sharing.settle target rest
      ((edges ++ [⟨range.1, range.2, next⟩], first) :: others.map ([], ·), sharing)
  | _, ranges, sharing => (ranges.map ([], ·), sharing)

/-- Lays out a set that is read forward. -/
def Extent.addForward (sequences : List (List (Nat × Nat))) (extent : Extent) : Extent :=
  let target := extent.states
  let step : Trail × Sharing (List Edge) → List (Nat × Nat) → Trail × Sharing (List Edge) :=
    fun (trail, sharing) ranges => sharing.addSequence target trail ranges
  let (trail, sharing) := sequences.foldl step ([], ⟨extent.addState, .ofSize 10000⟩)
  (sharing.settle target trail).2.extent

/-- Lays out one byte range in front of the state `next`, unless there is such a state. -/
def Sharing.addByte (next : Nat) (range : Nat × Nat) (sharing : Sharing Edge) :
    Nat × Sharing Edge :=
  let edge : Edge := ⟨range.1, range.2, next⟩
  let slot := sharing.memo.slot [next, range.1, range.2]
  match sharing.memo.find? slot edge with
  | some state => (state, sharing)
  | none =>
    let state := sharing.extent.states
    (state, ⟨sharing.extent.addState, sharing.memo.put slot edge state⟩)

/-- Lays out a set that is read backward: a fork with one way for each sequence of byte ranges. -/
def Extent.addBackward (sequences : List (List (Nat × Nat))) (extent : Extent) : Extent :=
  let target := extent.states + 1
  let addSequence (sharing : Sharing Edge) (ranges : List (Nat × Nat)) : Sharing Edge :=
    (ranges.foldl (fun (next, sharing) range => sharing.addByte next range) (target, sharing)).2
  (sequences.foldl addSequence ⟨(extent.addFork sequences.length).addState, .ofSize 1000⟩).extent

end Precedence
