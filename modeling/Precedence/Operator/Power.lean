namespace Precedence

/-- How tightly an operator holds its operands: a number of 32 bits, the higher the tighter. -/
structure Power where
  value : UInt32
deriving DecidableEq, Repr

namespace Power

/-- The loosest power. An expression read at this power takes in every operator. -/
def loosest : Power := ⟨0⟩

def tightest : Power := ⟨0xffffffff⟩

instance : LT Power := ⟨fun a b => a.value < b.value⟩

instance : LE Power := ⟨fun a b => a.value ≤ b.value⟩

instance (a b : Power) : Decidable (a < b) := inferInstanceAs (Decidable (a.value < b.value))

instance (a b : Power) : Decidable (a ≤ b) := inferInstanceAs (Decidable (a.value ≤ b.value))

instance : Ord Power := ⟨fun a b => compare a.value b.value⟩

instance : Inhabited Power := ⟨loosest⟩

/-- The next tighter power; nothing is tighter than the tightest. -/
def tighter (power : Power) : Power :=
  if power = tightest then tightest else ⟨power.value + 1⟩

theorem lt_iff {a b : Power} : a < b ↔ a.value.toNat < b.value.toNat := UInt32.lt_iff_toNat_lt

theorem le_iff {a b : Power} : a ≤ b ↔ a.value.toNat ≤ b.value.toNat := UInt32.le_iff_toNat_le

theorem not_lt {a b : Power} : ¬ a < b ↔ b ≤ a := by
  rw [lt_iff, le_iff]
  exact Nat.not_lt

theorem le_trans {a b c : Power} (first : a ≤ b) (second : b ≤ c) : a ≤ c :=
  UInt32.le_trans first second

theorem eq_iff {a b : Power} : a = b ↔ a.value.toNat = b.value.toNat := by
  cases a
  cases b
  simp [UInt32.toNat_inj]

theorem loosest_le (power : Power) : loosest ≤ power := le_iff.mpr (Nat.zero_le _)

theorem toNat_tighter {power : Power} :
    power.tighter.value.toNat = min (power.value.toNat + 1) 4294967295 := by
  unfold tighter
  have bound := power.value.toNat_lt
  split
  · next top =>
    rw [eq_iff, show tightest.value.toNat = 4294967295 from rfl] at top
    rw [show tightest.value.toNat = 4294967295 from rfl]
    omega
  · next below =>
    rw [eq_iff, show tightest.value.toNat = 4294967295 from rfl] at below
    simp only [UInt32.toNat_add, UInt32.toNat_one]
    omega

theorem lt_tighter {power : Power} (below : power ≠ tightest) : power < power.tighter := by
  have bound := power.value.toNat_lt
  rw [ne_eq, eq_iff, show tightest.value.toNat = 4294967295 from rfl] at below
  rw [lt_iff, toNat_tighter]
  omega

end Power

/-- How a row of infix operators of one power groups: `a # b # c` as `(a # b) # c`, or as
`a # (b # c)`. -/
inductive Associativity where
  | left
  | right
deriving DecidableEq, Repr

/-- The power at which the right operand of an infix operator is read. A second operator of the
same power ends the operand when the first one groups to the left, and belongs to it otherwise. -/
def Associativity.operandPower (assoc : Associativity) (power : Power) : Power :=
  match assoc with
  | left => power.tighter
  | right => power

end Precedence
