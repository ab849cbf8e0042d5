import Precedence.Proofs.Operator.History
import Precedence.Proofs.Scanner.Items
import Precedence.Proofs.Session.Alike

namespace Precedence

/-- A symbol that is known alike to two tables does the same by both. -/
theorem Operators.Alike.of_find?_eq {first second : Operators} {symbol : String}
    (same : second.find? symbol = first.find? symbol) : first.Alike Eq second symbol := by
  have held (power : Power) : power.HeldAlike Eq power := by
    rintro least _ rfl
    exact Iff.rfl
  constructor
  · rw [leading?, leading?, same]
    cases (first.find? symbol).bind (·.roles.leading?) with
    | none => exact .none
    | some leading =>
      cases leading with
      | prefixed tag power => exact .some (.prefixed rfl)
      | group closing inner => exact .some (.group rfl)
  · rw [trailing?, trailing?, same]
    cases (first.find? symbol).bind (·.roles.trailing?) with
    | none => exact .none
    | some trailing =>
      cases trailing with
      | infixed tag assoc power => exact .some (.infixed (held power) rfl)
      | postfixed tag power => exact .some (.postfixed (held power))

namespace Grammar

variable {grammar : Grammar} {text : List Char}

/-- All tokens that come up when a text is read are among its items. -/
theorem ahead_of_forall_items {holds : Token → Prop} {scanner : Scanner}
    (all : ∀ item ∈ grammar.items text, holds item.1)
    (started : Scanner.start grammar.lexicon grammar.endToken text = .ok scanner) :
    scanner.Ahead holds := by
  intro tokens last takes
  rcases @start_cases grammar text with ⟨first, same, stands⟩ | ⟨_, stuck, _⟩
  · cases started.symm.trans same
    obtain ⟨final, there, _⟩ := stands.takes takes
    exact all _ (List.mem_of_getElem? there.item_eq)
  · cases started.symm.trans stuck

/-- More operators do not change how a text is read in which none of their symbols comes up as an
operator. The end mark counts, if it is come to; but not the symbols that would close a group of
the new operators, which may come up as before. -/
theorem parse_insertAll_of_unused {added : List Operator}
    (unused : ∀ item ∈ grammar.items text, grammar.isOperator item.1 = true →
      ∀ operator ∈ added, operator.symbol ≠ item.1.value) :
    (grammar.withOperators (grammar.operators.insertAll added)).parse text =
      grammar.parse text := by
  have alike (item) (known : item ∈ grammar.items text) :
      grammar.AlikeAt (grammar.operators.insertAll added) Eq item.1 := fun operator =>
    .of_find?_eq (Operators.find?_insertAll_of_forall_ne (unused item known operator))
  have traced := @parseTraced_withOperators grammar (grammar.operators.insertAll added) Eq text rfl
    fun _ started => ahead_of_forall_items alike started
  exact congrArg Prod.fst traced

/-- A sum is still a sum where another group ends with a plus sign, the factorial is a prefix
operator too, and there are remainders. -/
theorem sum_read_with_more_operators :
    (arithmetic.withOperators (arithmetic.operators.insertAll [
      ⟨"[", .ofLeading (.group "+" ⟨3⟩)⟩, ⟨"!", .ofLeading (.prefixed "not" ⟨9⟩)⟩,
      ⟨"%", .ofTrailing (.infixed "mod" .left ⟨2⟩)⟩])).parse "(a+2)*b".toList =
        .ok (.binary "mul" (.binary "add" (.term "ident" "a") (.term "num" "2"))
          (.term "ident" "b")) := by
  rw [parse_insertAll_of_unused (by decide +kernel)]
  decide +kernel

end Grammar

end Precedence
