import Precedence.Expr.Basic
import Precedence.Json
import Precedence.Text.Span
import Precedence.Token

namespace Precedence

open Json (field?)

def Span.toJson (span : Span) : Json :=
  .object [("start", .ofNat span.start), ("end", .ofNat span.stop)]

/-- Reads a span from an object with both ends, whatever else it holds, or from an array of the
two. -/
def Span.ofJson? : Json → Option Span
  | .object fields => do
    let start ← (← field? fields "start").natural?
    let stop ← (← field? fields "end").natural?
    return ⟨start, stop⟩
  | .array [start, stop] => return ⟨← start.natural?, ← stop.natural?⟩
  | _ => none

def Token.toJson (token : Token) : Json :=
  .object [("kind", .string token.kind), ("value", .string token.value)]

/-- Reads a token from an object with kind and text, whatever else it holds, or from an array of
the two. -/
def Token.ofJson? : Json → Option Token
  | .object fields => do
    let kind ← (← field? fields "kind").string?
    let value ← (← field? fields "value").string?
    return ⟨kind, value⟩
  | .array [kind, value] => return ⟨← kind.string?, ← value.string?⟩
  | _ => none

/-- The three shapes of an expression, told apart in JSON by the field `type`. -/
inductive Shape where
  | term
  | unary
  | binary
deriving DecidableEq, Repr

def Shape.name : Shape → String
  | term => "term"
  | unary => "unary"
  | binary => "binary"

def Shape.ofName? (name : String) : Option Shape :=
  if name = "term" then some term
  else if name = "unary" then some unary
  else if name = "binary" then some binary
  else none

def Shape.ofNumber? : Nat → Option Shape
  | 0 => some term
  | 1 => some unary
  | 2 => some binary
  | _ => none

/-- Reads which shape an expression has. Inside another expression the shape may also be given
by its number. -/
def Shape.ofJson? (inner : Bool) : Json → Option Shape
  | .string name => ofName? name
  | .number digits places =>
    if inner then (Json.number digits places).natural?.bind ofNumber? else none
  | _ => none

def Expr.toJson : Expr → Json
  | .term kind value =>
    .object [("type", .string "term"), ("kind", .string kind), ("value", .string value)]
  | .unary tag arg =>
    .object [("type", .string "unary"), ("op", .string tag), ("arg", arg.toJson)]
  | .binary tag lhs rhs =>
    .object [("type", .string "binary"), ("op", .string tag), ("lhs", lhs.toJson),
      ("rhs", rhs.toJson)]

theorem Json.sizeOf_item_lt {items : List Json} {item : Json} (member : item ∈ items) :
    sizeOf item < sizeOf (Json.array items) := by
  have := List.sizeOf_lt_of_mem member
  simp only [array.sizeOf_spec]
  omega

/-- Reads an expression from objects as they are written, whatever else they hold, or from arrays
that list the shape and the fields in order. -/
def Expr.read? (inner : Bool) : Json → Option Expr
  | .object fields =>
    match (field? fields "type").bind (Shape.ofJson? inner) with
    | none => none
    | some .term => do
      let kind ← (← field? fields "kind").string?
      let value ← (← field? fields "value").string?
      return .term kind value
    | some .unary =>
      match (field? fields "op").bind Json.string?, _found : field? fields "arg" with
      | some tag, some arg => (Expr.read? true arg).map (.unary tag)
      | _, _ => none
    | some .binary =>
      match (field? fields "op").bind Json.string?, _left : field? fields "lhs",
        _right : field? fields "rhs" with
      | some tag, some lhs, some rhs =>
        (Expr.read? true lhs).bind fun lhs => (Expr.read? true rhs).map (.binary tag lhs)
      | _, _, _ => none
  | .array [shape, first, second] =>
    match Shape.ofJson? inner shape with
    | some .term => return .term (← first.string?) (← second.string?)
    | some .unary => first.string?.bind fun tag => (Expr.read? true second).map (.unary tag)
    | _ => none
  | .array [shape, tag, lhs, rhs] =>
    match Shape.ofJson? inner shape with
    | some .binary =>
      tag.string?.bind fun tag =>
        (Expr.read? true lhs).bind fun lhs => (Expr.read? true rhs).map (.binary tag lhs)
    | _ => none
  | _ => none
termination_by json => sizeOf json
decreasing_by
  · exact Json.sizeOf_field?_lt _found
  · exact Json.sizeOf_field?_lt _left
  · exact Json.sizeOf_field?_lt _right
  · exact Json.sizeOf_item_lt (by simp)
  · exact Json.sizeOf_item_lt (by simp)
  · exact Json.sizeOf_item_lt (by simp)

def Expr.ofJson? (json : Json) : Option Expr := Expr.read? false json

end Precedence
