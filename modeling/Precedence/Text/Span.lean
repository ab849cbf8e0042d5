namespace Precedence

/-- The stretch of a text from byte `start` up to, but not including, byte `stop`. -/
structure Span where
  start : Nat
  stop : Nat
deriving DecidableEq, Repr

/-- The span of no bytes at `pos`. -/
def Span.emptyAt (pos : Nat) : Span := ⟨pos, pos⟩

/-- How many bytes a span holds; a span that stops before it starts holds none. -/
def Span.length (span : Span) : Nat := span.stop - span.start

def Span.isEmpty (span : Span) : Bool := span.length == 0

/-- A span is written `start-stop`, or as its start alone when it is empty. -/
def Span.text (span : Span) : String :=
  if span.isEmpty then span.start.repr else span.start.repr ++ "-" ++ span.stop.repr

@[simp] theorem Span.length_emptyAt {pos : Nat} : (Span.emptyAt pos).length = 0 := by
  simp [Span.emptyAt, Span.length]

theorem Span.isEmpty_iff {span : Span} : span.isEmpty = true ↔ span.stop ≤ span.start := by
  simp only [Span.isEmpty, Span.length, beq_iff_eq]
  omega

end Precedence
