import Precedence.Proofs.Session.Alike

namespace Precedence

theorem Power.lt_tighter_iff {power held : Power} (below : power ≠ tightest) :
    held < power.tighter ↔ ¬ power < held := by
  have bound := power.value.toNat_lt
  rw [ne_eq, eq_iff, show tightest.value.toNat = 4294967295 from rfl] at below
  rw [lt_iff, lt_iff, toNat_tighter]
  omega

def Leading.power : Leading → Power
  | prefixed _ power => power
  | group _ inner => inner

def Leading.mapPower (f : Power → Power) : Leading → Leading
  | prefixed tag power => prefixed tag (f power)
  | group closing inner => group closing (f inner)

def Trailing.mapPower (f : Power → Power) : Trailing → Trailing
  | infixed tag assoc power => infixed tag assoc (f power)
  | postfixed tag power => postfixed tag (f power)

/-- The power of a symbol that groups to the left. -/
def Trailing.leftPower? : Trailing → Option Power
  | infixed _ .left power => some power
  | _ => none

def Roles.mapPowers (f : Power → Power) (roles : Roles) : Roles where
  leading? := roles.leading?.map (.mapPower f)
  trailing? := roles.trailing?.map (.mapPower f)
  nonempty := by simpa using roles.nonempty

def Roles.powers (roles : Roles) : List Power :=
  (roles.leading?.map Leading.power).toList ++ (roles.trailing?.map Trailing.power).toList

def Operator.mapPowers (f : Power → Power) (operator : Operator) : Operator :=
  ⟨operator.symbol, operator.roles.mapPowers f⟩

namespace Operators

/-- The same operators with other powers. -/
def mapPowers (f : Power → Power) (operators : Operators) : Operators where
  list := operators.list.map (.mapPowers f)
  distinct := by
    rw [List.map_map]
    exact operators.distinct

/-- All powers that a table gives, those inside groups too. -/
def powers (operators : Operators) : List Power := operators.list.flatMap (·.roles.powers)

/-- The powers of the infix operators that group to the left. -/
def leftPowers (operators : Operators) : List Power :=
  operators.list.filterMap (·.roles.trailing?.bind Trailing.leftPower?)

section
variable {operators : Operators} {f : Power → Power} {symbol : String}

theorem find?_mapPowers :
    (operators.mapPowers f).find? symbol = (operators.find? symbol).map (.mapPowers f) := by
  unfold find? mapPowers
  rw [List.find?_map]
  rfl

theorem leading?_mapPowers :
    (operators.mapPowers f).leading? symbol = (operators.leading? symbol).map (.mapPower f) := by
  unfold leading?
  rw [find?_mapPowers]
  cases operators.find? symbol <;> rfl

theorem trailing?_mapPowers :
    (operators.mapPowers f).trailing? symbol = (operators.trailing? symbol).map (.mapPower f) := by
  unfold trailing?
  rw [find?_mapPowers]
  cases operators.find? symbol <;> rfl

theorem leading_power_mem {leading : Leading} (found : operators.leading? symbol = some leading) :
    leading.power ∈ operators.powers := by
  obtain ⟨operator, known, gives⟩ := Option.bind_eq_some_iff.mp found
  refine List.mem_flatMap.mpr ⟨operator, List.mem_of_find?_eq_some known, ?_⟩
  simp [Roles.powers, gives]

theorem trailing_power_mem {trailing : Trailing}
    (found : operators.trailing? symbol = some trailing) : trailing.power ∈ operators.powers := by
  obtain ⟨operator, known, gives⟩ := Option.bind_eq_some_iff.mp found
  refine List.mem_flatMap.mpr ⟨operator, List.mem_of_find?_eq_some known, ?_⟩
  simp [Roles.powers, gives]

theorem left_power_mem {tag : String} {power : Power}
    (found : operators.trailing? symbol = some (.infixed tag .left power)) :
    power ∈ operators.leftPowers := by
  obtain ⟨operator, known, gives⟩ := Option.bind_eq_some_iff.mp found
  refine List.mem_filterMap.mpr ⟨operator, List.mem_of_find?_eq_some known, ?_⟩
  rw [gives]
  rfl

end

end Operators

/-- Whether two powers are on the same side of every power in a list, the second one after the
powers were mapped. -/
def Power.SameSide (f : Power → Power) (powers : List Power) (power other : Power) : Prop :=
  ∀ held ∈ powers, held < power ↔ f held < other

section
variable {f : Power → Power} {powers : List Power} {power : Power}

theorem Power.sameSide_loosest : SameSide f powers loosest loosest :=
  fun held _ => iff_of_false (not_lt.mpr (loosest_le held)) (not_lt.mpr (loosest_le (f held)))

/-- A map that keeps powers apart and in order does not turn any two of them around either. -/
theorem Power.sameSide_of_mem (increasing : ∀ p ∈ powers, ∀ q ∈ powers, p < q → f p < f q)
    (known : power ∈ powers) : SameSide f powers power (f power) := by
  refine fun held here => ⟨increasing held here power known, fun less => ?_⟩
  refine Decidable.byContradiction fun upward => ?_
  rcases Nat.lt_or_eq_of_le (le_iff.mp (not_lt.mp upward)) with above | same
  · have greater := lt_iff.mp (increasing power known held here (lt_iff.mpr above))
    exact Nat.lt_asymm greater (lt_iff.mp less)
  · obtain rfl := eq_iff.mpr same
    exact Nat.lt_irrefl _ (lt_iff.mp less)

/-- What comes right above a power is not mapped to what comes right above it; but no power of the
list lies in between, neither before nor after. -/
theorem Power.sameSide_tighter (increasing : ∀ p ∈ powers, ∀ q ∈ powers, p < q → f p < f q)
    (known : power ∈ powers) (below : power ≠ tightest) (mappedBelow : f power ≠ tightest) :
    SameSide f powers power.tighter (f power).tighter := by
  intro held here
  rw [lt_tighter_iff below, lt_tighter_iff mappedBelow]
  exact not_congr (sameSide_of_mem increasing here power known)

end

section
variable {operators : Operators} {f : Power → Power}

theorem Operators.mapPowers_alike
    (increasing : ∀ p ∈ operators.powers, ∀ q ∈ operators.powers, p < q → f p < f q)
    (below : .tightest ∉ operators.leftPowers)
    (mappedBelow : .tightest ∉ (operators.mapPowers f).leftPowers) (symbol : String) :
    operators.Alike (Power.SameSide f operators.powers) (operators.mapPowers f) symbol := by
  constructor
  · rw [leading?_mapPowers]
    cases found : operators.leading? symbol with
    | none => exact .none
    | some leading =>
      have side := Power.sameSide_of_mem increasing (leading_power_mem found)
      cases leading with
      | prefixed tag power => exact .some (.prefixed side)
      | group closing inner => exact .some (.group side)
  · have mapped := @trailing?_mapPowers operators f symbol
    rw [mapped]
    cases found : operators.trailing? symbol with
    | none => exact .none
    | some trailing =>
      have known := trailing_power_mem found
      have held : trailing.power.HeldAlike (Power.SameSide f operators.powers) (f trailing.power) :=
        fun _ _ side => side _ known
      rw [found] at mapped
      cases trailing with
      | postfixed tag power => exact .some (.postfixed held)
      | infixed tag assoc power =>
        refine .some (.infixed held ?_)
        cases assoc with
        | right => exact Power.sameSide_of_mem increasing known
        | left =>
          refine Power.sameSide_tighter increasing known ?_ ?_
          · rintro rfl
            exact below (left_power_mem found)
          · intro top
            exact mappedBelow (top ▸ left_power_mem mapped)

/-- Only the order of the powers matters, not the powers. As a map that keeps all powers of 32 bits
in order maps each to itself, those that the table gives are all that must stay in order. None that
groups to the left may be the tightest one, before or after: nothing is tighter than that. -/
theorem Grammar.parse_mapPowers {grammar : Grammar} {f : Power → Power}
    (increasing : ∀ p ∈ grammar.operators.powers, ∀ q ∈ grammar.operators.powers, p < q → f p < f q)
    (below : .tightest ∉ grammar.operators.leftPowers)
    (mappedBelow : .tightest ∉ (grammar.operators.mapPowers f).leftPowers) (text : List Char) :
    (grammar.withOperators (grammar.operators.mapPowers f)).parse text = grammar.parse text := by
  have traced := @parseTraced_withOperators grammar (grammar.operators.mapPowers f)
    (Power.SameSide f grammar.operators.powers) text Power.sameSide_loosest
    fun _ _ _ _ _ _ => Operators.mapPowers_alike increasing below mappedBelow _
  exact congrArg Prod.fst traced

/-- Differences still group to the left where powers are ten times as far apart. -/
theorem Grammar.spread_powers_read_alike :
    (arithmetic.operators.mapPowers fun power => ⟨10 * power.value + 7⟩).powers =
      [⟨57⟩, ⟨7⟩, ⟨57⟩, ⟨7⟩, ⟨7⟩, ⟨27⟩, ⟨27⟩, ⟨47⟩, ⟨67⟩] ∧
    (arithmetic.withOperators (arithmetic.operators.mapPowers fun power =>
      ⟨10 * power.value + 7⟩)).parse "a-b-c^2".toList =
        .ok (.binary "sub" (.binary "sub" (.term "ident" "a") (.term "ident" "b"))
          (.binary "pow" (.term "ident" "c") (.term "num" "2"))) := by
  refine ⟨by decide, ?_⟩
  rw [parse_mapPowers (by decide) (by decide) (by decide)]
  decide +kernel

end

end Precedence
