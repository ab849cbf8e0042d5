namespace Precedence

/-- A value of JSON. A number is kept as its digits and how many of them stand after the point;
an object as its fields in the order of their names. -/
inductive Json where
  | null
  | bool (value : Bool)
  | number (digits : Int) (places : Nat)
  | string (value : String)
  | array (items : List Json)
  | object (fields : List (String × Json))
deriving Repr, Inhabited

namespace Json

def field? (fields : List (String × Json)) (name : String) : Option Json := fields.lookup name

def string? : Json → Option String
  | string value => some value
  | _ => none

/-- A whole number of at most 64 bits, written without a point. -/
def natural? : Json → Option Nat
  | number (.ofNat n) 0 => if n ≤ 0xffffffffffffffff then some n else none
  | _ => none

def ofNat (n : Nat) : Json := number n 0

/-- A field that is found is smaller than the object. -/
theorem sizeOf_field?_lt {fields : List (String × Json)} {name : String} {value : Json}
    (found : field? fields name = some value) : sizeOf value < sizeOf (object fields) := by
  unfold field? at found
  induction fields with
  | nil => simp at found
  | cons first rest ih =>
    obtain ⟨key, head⟩ := first
    rw [List.lookup_cons] at found
    simp only [object.sizeOf_spec, List.cons.sizeOf_spec, Prod.mk.sizeOf_spec] at ih ⊢
    split at found
    · obtain rfl := Option.some.inj found
      omega
    · have smaller := ih found
      omega

end Json

end Precedence
