namespace Precedence

/-- How large an automaton over bytes has become while it is laid out: its states, the bytes that
its lists of ways take besides, and whether the part laid out last leaves through a fork. -/
structure Extent where
  states : Nat
  lists : Nat
  forked : Bool
deriving DecidableEq, Repr

namespace Extent

def zero : Extent := ⟨0, 0, false⟩

/-- What an automaton takes in memory. -/
def bytes (extent : Extent) : Nat := 32 * extent.states + extent.lists

/-- What an automaton may take. -/
def maxBytes : Nat := 10 * 1024 * 1024

def addState (extent : Extent) : Extent := ⟨extent.states + 1, extent.lists, false⟩

/-- Adds a state with so many ways out, each for a range of bytes. -/
def addEdges (count : Nat) (extent : Extent) : Extent :=
  ⟨extent.states + 1, extent.lists + 8 * count, false⟩

/-- Adds a state with so many ways out, each for no byte. -/
def addFork (ways : Nat) (extent : Extent) : Extent :=
  ⟨extent.states + 1, extent.lists + 4 * ways, false⟩

/-- Adds a fork through which the part is left. -/
def addExit (ways : Nat) (extent : Extent) : Extent :=
  ⟨extent.states + 1, extent.lists + 4 * ways, true⟩

/-- Adds one more way to a fork laid out earlier. -/
def addWay (extent : Extent) : Extent := { extent with lists := extent.lists + 4 }

/-- Takes a fork laid out earlier as the one through which the part is left. -/
def leaveByFork (extent : Extent) : Extent := { extent with forked := true }

/-- Leads the part laid out last on to the next one. A fork gets one more way out by that. -/
def link (extent : Extent) : Extent :=
  if extent.forked then { extent.addWay with forked := false } else extent

/-- Lays out so many more parts, each after the one before. Nothing is laid out any more once the
automaton is too large. -/
def more (grow : Extent → Extent) : Nat → Extent → Extent
  | 0, extent => extent
  | count + 1, extent =>
    if maxBytes < extent.bytes then extent else more grow count (grow extent.link)

/-- Lays out so many parts in a row. -/
def times (grow : Extent → Extent) : Nat → Extent → Extent
  | 0, extent => extent.addState
  | count + 1, extent => more grow count (grow extent)

end Extent

end Precedence
