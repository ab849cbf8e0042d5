import Precedence.Operator.Roles

namespace Precedence

/-- A symbol as it stands in a text, with all that it can do. -/
structure Operator where
  symbol : String
  roles : Roles
deriving DecidableEq

/-- Declares an operator in a list, in which each symbol comes once. -/
def declare : List Operator → Operator → List Operator
  | [], operator => [operator]
  | known :: rest, operator =>
    if known.symbol = operator.symbol then ⟨known.symbol, known.roles.merge operator.roles⟩ :: rest
    else known :: declare rest operator

theorem symbols_declare {operators : List Operator} {operator : Operator} :
    (declare operators operator).map Operator.symbol =
      if operator.symbol ∈ operators.map Operator.symbol then operators.map Operator.symbol
      else operators.map Operator.symbol ++ [operator.symbol] := by
  induction operators with
  | nil => simp [declare]
  | cons known rest ih =>
    by_cases same : known.symbol = operator.symbol
    · simp [declare, same]
    · simp only [declare, if_neg same, List.map_cons, ih, List.mem_cons, Ne.symm same, false_or]
      split <;> simp

theorem symbols_declare_nodup {operators : List Operator} {operator : Operator}
    (distinct : (operators.map Operator.symbol).Nodup) :
    ((declare operators operator).map Operator.symbol).Nodup := by
  rw [symbols_declare]
  split
  · exact distinct
  · next fresh =>
    refine List.nodup_append.mpr ⟨distinct, by simp, ?_⟩
    rintro first member second last rfl
    exact fresh (List.mem_singleton.mp last ▸ member)

/-- The operators of a language, in the order in which their symbols were first declared. -/
structure Operators where
  list : List Operator
  distinct : (list.map Operator.symbol).Nodup
deriving DecidableEq

namespace Operators

def empty : Operators := ⟨[], List.nodup_nil⟩

/-- Declares one more operator; what a symbol could do before is kept where the new declaration
does not replace it. -/
def insert (operators : Operators) (operator : Operator) : Operators :=
  ⟨declare operators.list operator, symbols_declare_nodup operators.distinct⟩

def insertAll (operators : Operators) (added : List Operator) : Operators :=
  added.foldl insert operators

def ofList (added : List Operator) : Operators := empty.insertAll added

def find? (operators : Operators) (symbol : String) : Option Operator :=
  operators.list.find? (·.symbol == symbol)

def leading? (operators : Operators) (symbol : String) : Option Leading :=
  (operators.find? symbol).bind (·.roles.leading?)

def trailing? (operators : Operators) (symbol : String) : Option Trailing :=
  (operators.find? symbol).bind (·.roles.trailing?)

/-- The roles of a symbol; a symbol that is not declared has none. -/
def rolesOf (operators : Operators) (symbol : String) : List Role :=
  ((operators.find? symbol).map (·.roles.list)).getD []

def size (operators : Operators) : Nat := operators.list.length

def isEmpty (operators : Operators) : Bool := operators.list.isEmpty

/-- The operators in the order of their symbols, which compare by code points. -/
def sorted (operators : Operators) : List Operator :=
  operators.list.mergeSort fun a b => decide (a.symbol ≤ b.symbol)

theorem find?_empty {symbol : String} : empty.find? symbol = none := rfl

/-- What is known of a symbol after a declaration. -/
theorem find?_insert {operators : Operators} {operator : Operator} {symbol : String} :
    (operators.insert operator).find? symbol =
      if operator.symbol = symbol then
        some ⟨symbol, match operators.find? symbol with
          | some known => known.roles.merge operator.roles
          | none => operator.roles⟩
      else operators.find? symbol := by
  obtain ⟨list, distinct⟩ := operators
  simp only [find?, insert]
  clear distinct
  induction list with
  | nil =>
    by_cases asked : operator.symbol = symbol
    · subst asked
      simp [declare]
    · simp [declare, asked]
  | cons known rest ih =>
    by_cases same : known.symbol = operator.symbol
    · by_cases asked : operator.symbol = symbol
      · subst asked
        simp [declare, same]
      · simp [declare, same, asked]
    · by_cases asked : operator.symbol = symbol
      · subst asked
        simp only [declare, if_neg same, List.find?_cons, beq_eq_false_iff_ne.mpr same, ih, if_true]
      · simp only [declare, if_neg same, List.find?_cons, ih, if_neg asked]

end Operators

end Precedence
