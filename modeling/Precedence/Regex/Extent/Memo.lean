import Std.Data.TreeMap.Basic

namespace Precedence

/-- A memory of bounded size for what has been laid out already. Each key has one slot, which it
shares with others, and a slot holds what was put there last. -/
structure Memo (κ : Type) where
  size : Nat
  slots : Std.TreeMap Nat (κ × Nat)

/-- Mixes numbers into one word of 64 bits. -/
def mixed (numbers : List Nat) : UInt64 :=
  numbers.foldl (fun word n => (word ^^^ n.toUInt64) * 1099511628211) 14695981039346656037

namespace Memo

variable {κ : Type}

def ofSize (size : Nat) : Memo κ := ⟨size, .empty⟩

def slot (memo : Memo κ) (numbers : List Nat) : Nat := (mixed numbers).toNat % memo.size

/-- What a key was put in with, if nothing has taken its slot since. -/
def find? [BEq κ] (memo : Memo κ) (slot : Nat) (key : κ) : Option Nat :=
  (memo.slots.get? slot).bind fun (held, value) => if held == key then some value else none

def put (memo : Memo κ) (slot : Nat) (key : κ) (value : Nat) : Memo κ :=
  { memo with slots := memo.slots.insert slot (key, value) }

end Memo

end Precedence
