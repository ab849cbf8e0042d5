import Precedence.Character.Ranges

namespace Precedence

/-- A set of characters, as the ascending ranges of their code points. A range starts and ends at
characters, and may have the surrogates inside. -/
structure Charset where
  ranges : List (Nat × Nat)
deriving DecidableEq, Repr

/-- The last code point before `n` that is a character. -/
def charBefore (n : Nat) : Nat := if n = 0xe000 then 0xd7ff else n - 1

/-- The first code point after `n` that is a character. -/
def charAfter (n : Nat) : Nat := if n = 0xd7ff then 0xe000 else n + 1

def lastChar : Nat := 0x10ffff

/-- Adds a range to ascending ranges and joins it with those that it meets or touches. -/
def insertRange (low high : Nat) : List (Nat × Nat) → List (Nat × Nat)
  | [] => [(low, high)]
  | (first, last) :: rest =>
    if high + 1 < first then (low, high) :: (first, last) :: rest
    else if last + 1 < low then (first, last) :: insertRange low high rest
    else insertRange (min first low) (max last high) rest

/-- What is left of a range when another one is cut out. -/
def cutRange (cut range : Nat × Nat) : List (Nat × Nat) :=
  if cut.2 < range.1 ∨ range.2 < cut.1 then [range]
  else
    (if range.1 < cut.1 then [(range.1, charBefore cut.1)] else []) ++
      if cut.2 < range.2 then [(charAfter cut.2, range.2)] else []

/-- The stretch that two ranges have in common. -/
def commonRange? (left right : Nat × Nat) : Option (Nat × Nat) :=
  let low := max left.1 right.1
  let high := min left.2 right.2
  if low ≤ high then some (low, high) else none

/-- The gaps after a code point that is in the set. Where one range ends right before the
surrogates and the next starts right after them, the two ends are their gap. -/
def gapsAfter (high : Nat) : List (Nat × Nat) → List (Nat × Nat)
  | [] => if high < lastChar then [(charAfter high, lastChar)] else []
  | (low, last) :: rest =>
    let start := charAfter high
    let stop := charBefore low
    (min start stop, max start stop) :: gapsAfter last rest

namespace Charset

def contains (set : Charset) (c : Char) : Bool := inRanges set.ranges c.toNat

def empty : Charset := ⟨[]⟩

def all : Charset := ⟨[(0, lastChar)]⟩

def range (low high : Char) : Charset := ⟨[(low.toNat, high.toNat)]⟩

def single (c : Char) : Charset := range c c

def insert (set : Charset) (bounds : Nat × Nat) : Charset :=
  ⟨insertRange bounds.1 bounds.2 set.ranges⟩

def union (left right : Charset) : Charset :=
  right.ranges.foldr (fun bounds set => set.insert bounds) left

def inter (left right : Charset) : Charset :=
  ⟨left.ranges.flatMap fun bounds => right.ranges.filterMap (commonRange? bounds)⟩

def diff (left right : Charset) : Charset :=
  ⟨right.ranges.foldl (fun ranges cut => ranges.flatMap (cutRange cut)) left.ranges⟩

/-- The characters that are in one of two sets only. -/
def symmDiff (left right : Charset) : Charset := (left.union right).diff (left.inter right)

def compl (set : Charset) : Charset :=
  match set.ranges with
  | [] => all
  | (low, high) :: rest =>
    ⟨(if 0 < low then [(0, charBefore low)] else []) ++ gapsAfter high rest⟩

/-- The union of any ranges, in any order. -/
def ofRanges (ranges : List (Nat × Nat)) : Charset :=
  ranges.foldr (fun bounds set => set.insert bounds) empty

def ofList (chars : List Char) : Charset := ofRanges (chars.map fun c => (c.toNat, c.toNat))

def isAscii (set : Charset) : Bool := set.ranges.all (·.2 < 0x80)

end Charset

theorem contains_all {c : Char} : Charset.all.contains c = true := by
  have within : c.toNat ≤ 0x10ffff := by
    have := c.valid
    simp only [Char.toNat, UInt32.isValidChar, Nat.isValidChar] at *
    omega
  simp [Charset.all, Charset.contains, inRanges, lastChar, within]

theorem Charset.contains_range {low high c : Char} :
    (range low high).contains c = true ↔ low ≤ c ∧ c ≤ high := by
  simp only [range, contains, inRanges, Bool.or_false, Bool.and_eq_true, decide_eq_true_eq]
  rfl

theorem Charset.contains_single {a c : Char} : (single a).contains c = true ↔ c = a := by
  rw [single, contains_range]
  constructor
  · rintro ⟨below, above⟩
    exact Char.le_antisymm above below
  · rintro rfl
    exact ⟨Char.le_refl _, Char.le_refl _⟩

theorem lt_head_insertRange {ranges : List (Nat × Nat)} {bound low high : Nat}
    (ascending : Ascending ranges = true) (below : bound < low)
    (belowRest : ∀ range ∈ ranges.head?, bound < range.1) :
    ∀ range ∈ (insertRange low high ranges).head?, bound < range.1 := by
  induction ranges generalizing low high with
  | nil => simpa [insertRange] using below
  | cons range rest ih =>
    obtain ⟨first, last⟩ := range
    obtain ⟨order, apart, tail⟩ := ascending_cons_iff.mp ascending
    have belowFirst : bound < first := by simpa using belowRest
    simp only [insertRange]
    split
    · simpa using below
    · split
      · simpa using belowFirst
      · refine ih tail (by omega) fun range member => ?_
        have := apart range member
        omega

/-- Ascending ranges stay so. -/
theorem ascending_insertRange {ranges : List (Nat × Nat)} {low high : Nat} (order : low ≤ high)
    (ascending : Ascending ranges = true) : Ascending (insertRange low high ranges) = true := by
  induction ranges generalizing low high with
  | nil => simpa [insertRange, Ascending] using order
  | cons range rest ih =>
    obtain ⟨first, last⟩ := range
    obtain ⟨orderFirst, apart, tail⟩ := ascending_cons_iff.mp ascending
    simp only [insertRange]
    split
    · refine ascending_cons_iff.mpr ⟨order, ?_, ascending⟩
      simp only [List.head?_cons, Option.mem_some_iff, forall_eq']
      omega
    · split
      · exact ascending_cons_iff.mpr
          ⟨orderFirst, lt_head_insertRange tail (by omega) apart, ih order tail⟩
      · exact ih (by omega) tail

/-- Inserting a range adds its members and no others. -/
theorem exists_insertRange_iff {ranges : List (Nat × Nat)} {low high n : Nat} (order : low ≤ high)
    (ascending : Ascending ranges = true) :
    (∃ range ∈ insertRange low high ranges, range.1 ≤ n ∧ n ≤ range.2) ↔
      (low ≤ n ∧ n ≤ high) ∨ ∃ range ∈ ranges, range.1 ≤ n ∧ n ≤ range.2 := by
  induction ranges generalizing low high with
  | nil => simp [insertRange]
  | cons range rest ih =>
    obtain ⟨first, last⟩ := range
    obtain ⟨orderFirst, apart, tail⟩ := ascending_cons_iff.mp ascending
    simp only [insertRange]
    split
    · simp only [List.mem_cons, exists_eq_or_imp]
    · split
      · simp only [List.mem_cons, exists_eq_or_imp, ih order tail]
        exact or_left_comm
      · rw [ih (by omega) tail]
        simp only [List.mem_cons, exists_eq_or_imp, ← or_assoc]
        exact or_congr_left (by omega)

theorem inRanges_insertRange {ranges : List (Nat × Nat)} {low high n : Nat} (order : low ≤ high)
    (ascending : Ascending ranges = true) :
    inRanges (insertRange low high ranges) n = true ↔
      (low ≤ n ∧ n ≤ high) ∨ inRanges ranges n = true := by
  rw [inRanges_iff (ascending_insertRange order ascending), inRanges_iff ascending,
    exists_insertRange_iff order ascending]

/-- A union holds the members of both sets, and its ranges ascend as theirs do. -/
theorem Charset.contains_union {left right : Charset} {c : Char}
    (ascending : Ascending left.ranges = true) (ascending' : Ascending right.ranges = true) :
    Ascending (left.union right).ranges = true ∧
      ((left.union right).contains c = true ↔
        left.contains c = true ∨ right.contains c = true) := by
  obtain ⟨ranges⟩ := right
  induction ranges with
  | nil => simp [union, contains, inRanges, ascending]
  | cons range rest ih =>
    obtain ⟨low, high⟩ := range
    obtain ⟨order, apart, tail⟩ := ascending_cons_iff.mp ascending'
    obtain ⟨stays, members⟩ := ih tail
    refine ⟨ascending_insertRange order stays, ?_⟩
    have step := inRanges_insertRange (n := c.toNat) order stays
    have head : inRanges ((low, high) :: rest) c.toNat = true ↔
        (low ≤ c.toNat ∧ c.toNat ≤ high) ∨ inRanges rest c.toNat = true := by
      rw [inRanges_iff ascending', inRanges_iff tail]
      simp only [List.mem_cons, exists_eq_or_imp]
    simp only [contains] at members ⊢
    rw [head]
    exact step.trans ((or_congr_right members).trans or_left_comm)

/-- The set of a list holds the members of the list. -/
theorem Charset.contains_ofList {chars : List Char} {c : Char} :
    (ofList chars).contains c = true ↔ c ∈ chars := by
  have both : Ascending (ofList chars).ranges = true ∧
      ((ofList chars).contains c = true ↔ c ∈ chars) := by
    induction chars with
    | nil => exact ⟨rfl, by simp [ofList, ofRanges, contains, empty, inRanges]⟩
    | cons a rest ih =>
      obtain ⟨stays, members⟩ := ih
      refine ⟨ascending_insertRange (Nat.le_refl _) stays, ?_⟩
      have step := inRanges_insertRange (n := c.toNat) (Nat.le_refl a.toNat) stays
      have same : (a.toNat ≤ c.toNat ∧ c.toNat ≤ a.toNat) ↔ c = a := by
        rw [← Nat.le_antisymm_iff, ← Char.toNat_inj]
        exact eq_comm
      rw [List.mem_cons, ← members, ← same]
      exact step
  exact both.2

end Precedence
