import Precedence.Operator.Power

namespace Precedence

/-- The four ways in which a symbol can stand in an expression. -/
inductive Role where
  | prefixed
  | grouping
  | infixed
  | postfixed
deriving DecidableEq, Repr

namespace Role

/-- The place of a role in a set that is written as a number. -/
def bit : Role → Nat
  | prefixed => 1
  | grouping => 2
  | infixed => 4
  | postfixed => 8

def name : Role → String
  | prefixed => "PREFIX"
  | grouping => "GROUP"
  | infixed => "INFIX"
  | postfixed => "POSTFIX"

def word : Role → String
  | prefixed => "prefix"
  | grouping => "group"
  | infixed => "infix"
  | postfixed => "postfix"

end Role

/-- What a symbol does at the start of an operand: it applies to the operand that follows, or it
opens a group, which ends with the closing symbol and leaves no trace in the tree. -/
inductive Leading where
  | prefixed (tag : String) (power : Power)
  | group (closing : String) (inner : Power)
deriving DecidableEq, Repr

/-- What a symbol does after a complete operand: it joins it to another one, or applies to it. -/
inductive Trailing where
  | infixed (tag : String) (assoc : Associativity) (power : Power)
  | postfixed (tag : String) (power : Power)
deriving DecidableEq, Repr

def Leading.role : Leading → Role
  | prefixed _ _ => .prefixed
  | group _ _ => .grouping

/-- The tag of the nodes that a leading symbol makes; a group makes none. -/
def Leading.tag? : Leading → Option String
  | prefixed tag _ => some tag
  | group _ _ => none

def Trailing.role : Trailing → Role
  | infixed _ _ _ => .infixed
  | postfixed _ _ => .postfixed

def Trailing.tag : Trailing → String
  | infixed tag _ _ => tag
  | postfixed tag _ => tag

/-- The power that decides whether a symbol belongs to the expression in front of it. -/
def Trailing.power : Trailing → Power
  | infixed _ _ power => power
  | postfixed _ power => power

/-- All that a symbol can do. It has at most one leading and at most one trailing role, and at
least one of the two. -/
structure Roles where
  leading? : Option Leading
  trailing? : Option Trailing
  nonempty : (leading?.isSome || trailing?.isSome) = true
deriving DecidableEq

namespace Roles

def ofLeading (leading : Leading) : Roles := ⟨some leading, none, rfl⟩

def ofTrailing (trailing : Trailing) : Roles := ⟨none, some trailing, rfl⟩

def withLeading (roles : Roles) (leading : Leading) : Roles :=
  ⟨some leading, roles.trailing?, rfl⟩

def withTrailing (roles : Roles) (trailing : Trailing) : Roles :=
  ⟨roles.leading?, some trailing, by simp⟩

/-- The roles of one symbol declared twice: where both declarations give a leading or a trailing
role, the newer one holds. -/
def merge (older newer : Roles) : Roles where
  leading? := newer.leading?.or older.leading?
  trailing? := newer.trailing?.or older.trailing?
  nonempty := by
    have given := newer.nonempty
    simp only [Bool.or_eq_true, Option.isSome_or] at given ⊢
    exact given.imp Or.inl Or.inl

/-- The roles a symbol has, the leading one first. -/
def list (roles : Roles) : List Role :=
  (roles.leading?.map Leading.role).toList ++ (roles.trailing?.map Trailing.role).toList

/-- The tags of the nodes that a symbol can make, the leading one first. -/
def tags (roles : Roles) : List String :=
  (roles.leading?.bind Leading.tag?).toList ++ (roles.trailing?.map Trailing.tag).toList

theorem list_ne_nil {roles : Roles} : roles.list ≠ [] := by
  have given := roles.nonempty
  rcases roles with ⟨_ | leading, _ | trailing, _⟩ <;> simp_all [list]

@[simp] theorem leading?_merge {older newer : Roles} :
    (older.merge newer).leading? = newer.leading?.or older.leading? := rfl

@[simp] theorem trailing?_merge {older newer : Roles} :
    (older.merge newer).trailing? = newer.trailing?.or older.trailing? := rfl

theorem ext {first second : Roles} (leading : first.leading? = second.leading?)
    (trailing : first.trailing? = second.trailing?) : first = second := by
  cases first
  cases second
  simp_all

theorem merge_assoc {a b c : Roles} : (a.merge b).merge c = a.merge (b.merge c) := by
  apply ext <;> simp [Option.or_assoc]

end Roles

/-- A set of roles written as a number. -/
def roleBits (roles : List Role) : Nat := roles.foldr (fun role bits => role.bit + bits) 0

end Precedence
