namespace Precedence

/-- The number of bytes that a text takes in UTF-8. -/
def byteLength : List Char → Nat
  | [] => 0
  | c :: rest => c.utf8Size + byteLength rest

@[simp] theorem byteLength_nil : byteLength [] = 0 := rfl

@[simp] theorem byteLength_cons {c : Char} {rest : List Char} :
    byteLength (c :: rest) = c.utf8Size + byteLength rest := rfl

@[simp] theorem byteLength_append {left right : List Char} :
    byteLength (left ++ right) = byteLength left + byteLength right := by
  induction left with
  | nil => simp
  | cons c rest ih => simp [ih, Nat.add_assoc]

theorem length_le_byteLength {text : List Char} : text.length ≤ byteLength text := by
  induction text with
  | nil => simp
  | cons c rest ih =>
    have positive := c.utf8Size_pos
    simp only [List.length_cons, byteLength_cons]
    omega

/-- Only the empty text takes no bytes. -/
theorem byteLength_eq_zero {text : List Char} : byteLength text = 0 ↔ text = [] := by
  cases text with
  | nil => simp
  | cons c rest =>
    have positive := c.utf8Size_pos
    simp only [byteLength_cons, reduceCtorEq, iff_false]
    omega

end Precedence
