namespace Precedence

/-- Membership of a code point in closed ranges that are listed in ascending order. -/
def inRanges : List (Nat × Nat) → Nat → Bool
  | [], _ => false
  | (low, high) :: rest, n => decide (low ≤ n) && (decide (n ≤ high) || inRanges rest n)

/-- The ranges ascend and do not touch, which is what lets the search stop early. -/
def Ascending : List (Nat × Nat) → Bool
  | [] => true
  | [(low, high)] => decide (low ≤ high)
  | (low, high) :: (low', high') :: rest =>
    decide (low ≤ high) && decide (high < low') && Ascending ((low', high') :: rest)

theorem ascending_cons_iff {low high : Nat} {rest : List (Nat × Nat)} :
    Ascending ((low, high) :: rest) = true ↔
      low ≤ high ∧ (∀ range ∈ rest.head?, high < range.1) ∧ Ascending rest = true := by
  cases rest with
  | nil => simp [Ascending]
  | cons second rest => simp [Ascending, and_assoc]

theorem not_inRanges_of_lt {ranges : List (Nat × Nat)} {n : Nat}
    (below : ∀ range ∈ ranges.head?, n < range.1) : inRanges ranges n = false := by
  cases ranges with
  | nil => rfl
  | cons range rest =>
    have first := below range (by simp)
    simp only [inRanges, show ¬ range.1 ≤ n by omega, decide_false, Bool.false_and]

/-- In ascending ranges the search finds exactly the members of the ranges. -/
theorem inRanges_iff {ranges : List (Nat × Nat)} {n : Nat} (ascending : Ascending ranges = true) :
    inRanges ranges n = true ↔ ∃ range ∈ ranges, range.1 ≤ n ∧ n ≤ range.2 := by
  induction ranges with
  | nil => simp [inRanges]
  | cons range rest ih =>
    obtain ⟨low, high⟩ := range
    have tail : Ascending rest = true := by
      cases rest with
      | nil => rfl
      | cons second rest => simp_all [Ascending]
    have apart : ∀ other ∈ rest, low ≤ other.1 := by
      clear ih
      induction rest generalizing low high with
      | nil => simp
      | cons second rest ih =>
        obtain ⟨low', high'⟩ := second
        simp only [Ascending, Bool.and_eq_true, decide_eq_true_eq] at ascending
        intro other member
        rcases List.mem_cons.mp member with rfl | later
        · simp only
          omega
        · have := ih low' high' ascending.2 (by
            cases rest with
            | nil => rfl
            | cons third rest => simp_all [Ascending]) other later
          omega
    simp only [inRanges, Bool.and_eq_true, Bool.or_eq_true, decide_eq_true_eq, ih tail,
      List.mem_cons, exists_eq_or_imp]
    constructor
    · rintro ⟨above, within | later⟩
      · exact Or.inl ⟨above, within⟩
      · exact Or.inr later
    · rintro (within | ⟨other, member, bounds⟩)
      · exact ⟨within.1, Or.inl within.2⟩
      · exact ⟨Nat.le_trans (apart other member) bounds.1, Or.inr ⟨other, member, bounds⟩⟩

end Precedence
