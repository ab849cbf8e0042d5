import Mathlib.Data.List.Dedup
import Mathlib.Data.List.Induction
import Precedence.Operator.Arithmetic

namespace Precedence

namespace Operators

/-- Tables of operators with all that was declared in them, in the order of the declarations: an
empty table, whatever room is kept in it, a table of given operators, the one of arithmetic, whose
symbols are declared once each, and a table in which one more operator or a row of them is
declared. -/
inductive Built : Operators → List Operator → Prop
  | empty : Built .empty []
  | collect {operators} : Built (.ofList operators) operators
  | arithmetic : Built .arithmetic Operators.arithmetic.list
  | insert {table history operator} : Built table history →
      Built (table.insert operator) (history ++ [operator])
  | extend {table history added} : Built table history →
      Built (table.insertAll added) (history ++ added)

/-- What the latest declaration of a symbol says that says anything in a given respect. -/
def latest? {α : Type} (respect : Roles → Option α) (history : List Operator)
    (symbol : String) : Option α :=
  (history.filter (·.symbol = symbol)).reverse.findSome? (respect ·.roles)

/-- Histories of the same declarations, in orders that differ for different symbols only. -/
inductive Reordered : List Operator → List Operator → Prop
  | nil : Reordered [] []
  | cons {operator first second} : Reordered first second →
      Reordered (operator :: first) (operator :: second)
  | swap {one other rest} : one.symbol ≠ other.symbol →
      Reordered (one :: other :: rest) (other :: one :: rest)
  | trans {first second third} : Reordered first second → Reordered second third →
      Reordered first third

variable {table : Operators} {history added : List Operator} {operator : Operator}
  {symbol : String}

theorem insertAll_append {first second : List Operator} :
    table.insertAll (first ++ second) = (table.insertAll first).insertAll second :=
  List.foldl_append

theorem ofList_concat : ofList (history ++ [operator]) = (ofList history).insert operator :=
  insertAll_append

/-- A table is determined by what was declared in it. -/
theorem Built.eq_ofList (built : table.Built history) : table = ofList history := by
  induction built with
  | empty => rfl
  | collect => rfl
  | arithmetic => decide +kernel
  | @insert table history operator _ ih => rw [ih, ofList_concat]
  | @extend table history added _ ih => rw [ih, ofList, ofList, insertAll_append]

theorem symbol_of_find? (found : table.find? symbol = some operator) :
    operator.symbol = symbol := by
  simpa using List.find?_some found

theorem mem_list_iff : operator ∈ table.list ↔ table.find? operator.symbol = some operator := by
  refine ⟨fun member => ?_, List.mem_of_find?_eq_some⟩
  obtain ⟨list, distinct⟩ := table
  simp only [find?] at member ⊢
  induction list with
  | nil => cases member
  | cons known rest ih =>
    obtain ⟨fresh, distinct⟩ := List.nodup_cons.mp distinct
    rcases List.mem_cons.mp member with rfl | later
    · simp
    · have other : known.symbol ≠ operator.symbol :=
        fun same => fresh (same ▸ List.mem_map_of_mem later)
      rw [List.find?_cons_of_neg (by simpa using other)]
      exact ih distinct later

theorem mem_symbols_iff :
    symbol ∈ table.list.map Operator.symbol ↔ (table.find? symbol).isSome = true := by
  simp only [find?, List.find?_isSome, List.mem_map, beq_iff_eq]

theorem isSome_find?_insert : ((table.insert operator).find? symbol).isSome = true ↔
    (table.find? symbol).isSome = true ∨ operator.symbol = symbol := by
  rw [find?_insert]
  by_cases same : operator.symbol = symbol
  · simp [same]
  · simp [same]

/-- A table knows the symbols that were declared, and no others. -/
theorem isSome_find?_ofList : ((ofList history).find? symbol).isSome = true ↔
    ∃ operator ∈ history, operator.symbol = symbol := by
  induction history using List.reverseRecOn with
  | nil => simp [ofList, insertAll, find?_empty]
  | append_singleton history operator ih =>
    rw [ofList_concat, isSome_find?_insert, ih]
    simp [or_and_right, exists_or]

/-- Operators of other symbols do not matter to a symbol. -/
theorem find?_insertAll_of_forall_ne (others : ∀ operator ∈ added, operator.symbol ≠ symbol) :
    (table.insertAll added).find? symbol = table.find? symbol := by
  induction added generalizing table with
  | nil => rfl
  | cons operator added ih =>
    obtain ⟨other, rest⟩ := List.forall_mem_cons.mp others
    change ((table.insert operator).insertAll added).find? symbol = _
    rw [ih rest, find?_insert, if_neg other]

section
variable {α : Type} {respect : Roles → Option α}

theorem latest?_concat : latest? respect (history ++ [operator]) symbol =
    if operator.symbol = symbol then (respect operator.roles).or (latest? respect history symbol)
    else latest? respect history symbol := by
  by_cases same : operator.symbol = symbol
  · rw [if_pos same, latest?, List.filter_append, List.filter_cons_of_pos (by simpa using same),
      List.filter_nil, List.reverse_append, List.reverse_singleton, List.singleton_append,
      List.findSome?_cons]
    cases respect operator.roles with
    | none => rfl
    | some value => rfl
  · simp [latest?, same]

/-- Where declarations of one symbol that are put together say what the newer one says, or else the
older one, a table says what the latest declaration says. -/
theorem bind_find?_ofList (merges : ∀ older newer,
    respect (older.merge newer) = (respect newer).or (respect older)) :
    ((ofList history).find? symbol).bind (respect ·.roles) = latest? respect history symbol := by
  induction history using List.reverseRecOn with
  | nil => rfl
  | append_singleton history operator ih =>
    rw [ofList_concat, latest?_concat, ← ih, find?_insert]
    by_cases same : operator.symbol = symbol
    · rw [if_pos same, if_pos same]
      cases (ofList history).find? symbol with
      | none => simp
      | some known => simp [merges]
    · rw [if_neg same, if_neg same]

end

theorem leading?_ofList :
    (ofList history).leading? symbol = latest? Roles.leading? history symbol :=
  bind_find?_ofList fun _ _ => Roles.leading?_merge

theorem trailing?_ofList :
    (ofList history).trailing? symbol = latest? Roles.trailing? history symbol :=
  bind_find?_ofList fun _ _ => Roles.trailing?_merge

/-- What is known of a symbol is whether it was declared and what it does. -/
theorem find?_eq_of_roles {first second : Operators}
    (known : (first.find? symbol).isSome = true ↔ (second.find? symbol).isSome = true)
    (leading : first.leading? symbol = second.leading? symbol)
    (trailing : first.trailing? symbol = second.trailing? symbol) :
    first.find? symbol = second.find? symbol := by
  unfold leading? at leading
  unfold trailing? at trailing
  cases one : first.find? symbol with
  | none =>
    cases two : second.find? symbol with
    | none => rfl
    | some other => simp [one, two] at known
  | some operator =>
    cases two : second.find? symbol with
    | none => simp [one, two] at known
    | some other =>
      have symbols := (symbol_of_find? one).trans (symbol_of_find? two).symm
      rw [one, two] at leading trailing
      have roles : operator.roles = other.roles := Roles.ext leading trailing
      cases operator
      cases other
      exact congrArg some (congrArg₂ Operator.mk symbols roles)

theorem Reordered.filter_eq {first second : List Operator} (reordered : Reordered first second) :
    first.filter (·.symbol = symbol) = second.filter (·.symbol = symbol) := by
  induction reordered with
  | nil => rfl
  | @cons operator first second _ ih => simp only [List.filter_cons, ih]
  | @swap one other rest differ =>
    by_cases first : one.symbol = symbol
    · have second : other.symbol ≠ symbol := fun same => differ (first.trans same.symm)
      simp [first, second]
    · simp [List.filter_cons, first]
  | trans _ _ ih ih' => exact ih.trans ih'

theorem find?_ofList_of_filter_eq {first second : List Operator}
    (same : first.filter (·.symbol = symbol) = second.filter (·.symbol = symbol)) :
    (ofList first).find? symbol = (ofList second).find? symbol := by
  have declared (history : List Operator) : ((ofList history).find? symbol).isSome = true ↔
      history.filter (·.symbol = symbol) ≠ [] := by
    rw [isSome_find?_ofList, ne_eq, List.filter_eq_nil_iff]
    simp
  refine find?_eq_of_roles ?_ ?_ ?_
  · rw [declared, declared, same]
  · rw [leading?_ofList, leading?_ofList, latest?, latest?, same]
  · rw [trailing?_ofList, trailing?_ofList, latest?, latest?, same]

/-- There are as many operators as symbols were declared. -/
theorem size_ofList : (ofList history).size = (history.map Operator.symbol).dedup.length := by
  have same : ((ofList history).list.map Operator.symbol).Perm
      (history.map Operator.symbol).dedup := by
    rw [List.perm_ext_iff_of_nodup (ofList history).distinct (List.nodup_dedup _)]
    intro symbol
    rw [mem_symbols_iff, isSome_find?_ofList, List.mem_dedup, List.mem_map]
  rw [size, ← same.length_eq, List.length_map]

theorem rolesOf_ne_nil_iff : table.rolesOf symbol ≠ [] ↔ (table.find? symbol).isSome = true := by
  unfold rolesOf
  cases table.find? symbol with
  | none => simp
  | some operator => simpa using operator.roles.list_ne_nil

/-- Whether a table is the map of what was declared, the last word on each respect of a symbol
being the one that holds. -/
structure LastWordHolds (table : Operators) (history : List Operator) : Prop where
  known : ∀ symbol, (table.find? symbol).isSome = true ↔
    ∃ operator ∈ history, operator.symbol = symbol
  symbols : ∀ symbol operator, table.find? symbol = some operator → operator.symbol = symbol
  leading : ∀ symbol, table.leading? symbol = latest? Roles.leading? history symbol
  trailing : ∀ symbol, table.trailing? symbol = latest? Roles.trailing? history symbol
  someRole : ∀ operator ∈ table.list, operator.roles.list ≠ []
  roles : ∀ symbol, table.rolesOf symbol ≠ [] ↔ (table.find? symbol).isSome = true
  size : table.size = (history.map Operator.symbol).dedup.length
  isEmpty : table.isEmpty = true ↔ table.size = 0
  listed : ∀ operator, operator ∈ table.list ↔ table.find? operator.symbol = some operator
  listedOnce : table.list.Nodup
  sorted : table.sorted.Perm table.list

theorem ofList_lastWordHolds : (ofList history).LastWordHolds history where
  known _ := isSome_find?_ofList
  symbols _ _ := symbol_of_find?
  leading _ := leading?_ofList
  trailing _ := trailing?_ofList
  someRole _ _ := Roles.list_ne_nil
  roles _ := rolesOf_ne_nil_iff
  size := size_ofList
  isEmpty := by simp [isEmpty, size]
  listed _ := mem_list_iff
  listedOnce := (ofList history).distinct.of_map
  sorted := List.mergeSort_perm ..

/-- A table holds, of each symbol, the last word that was said on what it does at the start of an
operand, and the last word on what it does behind one. So the order of declarations of different
symbols does not matter, nor in how many rows they come. -/
theorem Built.lastWordHolds (built : table.Built history) :
    table.LastWordHolds history ∧
    (∀ other reordered, Built other reordered → Reordered history reordered →
      other.find? = table.find?) ∧
    ∀ first second, (table.insertAll first).insertAll second = table.insertAll (first ++ second) := by
  obtain rfl := built.eq_ofList
  refine ⟨ofList_lastWordHolds, fun other reordered again same => ?_, fun first second => ?_⟩
  · obtain rfl := again.eq_ofList
    funext symbol
    exact find?_ofList_of_filter_eq same.filter_eq.symm
  · exact insertAll_append.symm

/-- A tilde that is declared three times, and a difference in between. -/
def tildes : Operators :=
  (empty.insert ⟨"~", .ofLeading (.prefixed "not" ⟨3⟩)⟩).insertAll [
    ⟨"-", .ofTrailing (.infixed "sub" .left ⟨0⟩)⟩, ⟨"~", .ofTrailing (.infixed "xor" .left ⟨1⟩)⟩,
    ⟨"~", .ofLeading (.prefixed "flip" ⟨7⟩)⟩]

/-- The tilde keeps its infix role when its prefix role is declared anew, and it does not matter
where the difference is declared. -/
theorem tildes_lastWordHolds :
    Built tildes [⟨"~", .ofLeading (.prefixed "not" ⟨3⟩)⟩,
      ⟨"-", .ofTrailing (.infixed "sub" .left ⟨0⟩)⟩, ⟨"~", .ofTrailing (.infixed "xor" .left ⟨1⟩)⟩,
      ⟨"~", .ofLeading (.prefixed "flip" ⟨7⟩)⟩] ∧
    tildes.leading? "~" = some (.prefixed "flip" ⟨7⟩) ∧
    tildes.trailing? "~" = some (.infixed "xor" .left ⟨1⟩) ∧ tildes.leading? "-" = none ∧
    tildes.size = 2 ∧
    (ofList [⟨"-", .ofTrailing (.infixed "sub" .left ⟨0⟩)⟩,
      ⟨"~", .ofLeading (.prefixed "not" ⟨3⟩)⟩, ⟨"~", .ofTrailing (.infixed "xor" .left ⟨1⟩)⟩,
      ⟨"~", .ofLeading (.prefixed "flip" ⟨7⟩)⟩]).find? = tildes.find? := by
  have built : Built tildes _ := .extend (.insert .empty)
  obtain ⟨holds, order, _⟩ := built.lastWordHolds
  refine ⟨built, (holds.leading "~").trans (by decide), (holds.trailing "~").trans (by decide),
    (holds.leading "-").trans (by decide), holds.size.trans (by decide), ?_⟩
  exact order _ _ .collect (.swap (by decide))

end Operators

end Precedence
