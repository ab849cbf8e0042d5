import Mathlib.Data.List.Nodup
import Precedence.Expr.Json

namespace Precedence

open Json (field?)

variable {inner : Bool} {fields written : List (String × Json)} {name : String} {value : Json}

namespace Json

/-- Whether a value is null, a boolean or a number. -/
def isScalar : Json → Bool
  | null => true
  | bool _ => true
  | number _ _ => true
  | string _ => false
  | array _ => false
  | object _ => false

theorem string?_of_isScalar (scalar : value.isScalar = true) : value.string? = none := by
  cases value <;> first | rfl | cases scalar

theorem natural?_eq_some {n : Nat} (read : value.natural? = some n) : value = ofNat n := by
  unfold natural? at read
  split at read
  · split at read
    · rw [Option.some.inj read]
      rfl
    · cases read
  · cases read

/-- A field is found by its name if no other field has it. -/
theorem field?_eq_some (member : (name, value) ∈ fields)
    (single : ∀ other, (name, other) ∈ fields → other = value) :
    field? fields name = some value := by
  induction fields with
  | nil => cases member
  | cons first rest ih =>
    obtain ⟨key, head⟩ := first
    rw [field?, List.lookup_cons]
    by_cases same : name = key
    · subst same
      simp [single head (List.mem_cons_self ..)]
    · have later : (name, value) ∈ rest := by simpa [same] using member
      rw [beq_eq_false_iff_ne.mpr same]
      exact ih later fun other found => single other (List.mem_cons_of_mem _ found)

theorem mem_of_field? (found : field? fields name = some value) : (name, value) ∈ fields := by
  obtain ⟨before, after, rfl, _⟩ := List.lookup_eq_some_iff.mp found
  exact List.mem_append_right _ (List.mem_cons_self ..)

theorem eq_of_mem_of_nodup {other : Json} (distinct : (fields.map Prod.fst).Nodup)
    (member : (name, value) ∈ fields) (member' : (name, other) ∈ fields) : other = value :=
  congrArg Prod.snd (List.inj_on_of_nodup_map distinct member' member rfl)

/-- What cannot be read from a scalar was read from a field that holds none. -/
theorem exists_of_bind_field? {α : Type} {read : Json → Option α} {result : α}
    (scalars : ∀ value, value.isScalar = true → read value = none)
    (found : (field? fields name).bind read = some result) :
    ∃ value, field? fields name = some value ∧ value.isScalar = false := by
  obtain ⟨value, present, reads⟩ := Option.bind_eq_some_iff.mp found
  refine ⟨value, present, Bool.eq_false_iff.mpr fun scalar => ?_⟩
  cases (scalars value scalar).symm.trans reads

/-- An object that holds the given fields, in any order, and besides them only fields with other
names. -/
inductive Holds (fields : List (String × Json)) : Json → Prop
  | intro {present others : List (String × Json)} (order : present.Perm (fields ++ others))
      (apart : ∀ other ∈ others, other.1 ∉ fields.map Prod.fst) : Holds fields (.object present)

theorem Holds.refl (fields : List (String × Json)) : Holds fields (.object fields) :=
  .intro (by rw [List.append_nil]) fun _ member => absurd member List.not_mem_nil

/-- The given fields are found among the others. -/
theorem Holds.exists_present {json : Json} (holds : Holds fields json)
    (distinct : (fields.map Prod.fst).Nodup) :
    ∃ present, json = .object present ∧
      ∀ name value, (name, value) ∈ fields → field? present name = some value := by
  obtain ⟨order, apart⟩ := holds
  refine ⟨_, rfl, fun name value member => ?_⟩
  refine field?_eq_some (order.mem_iff.mpr (List.mem_append_left _ member)) fun other found => ?_
  rcases List.mem_append.mp (order.mem_iff.mp found) with given | outside
  · exact eq_of_mem_of_nodup distinct member given
  · exact absurd (List.mem_map_of_mem member) (apart (name, other) outside)

end Json

open Json (Holds)

namespace Shape

/-- The fields of an object besides the one for its shape. -/
def fieldNames : Shape → List String
  | term => ["kind", "value"]
  | unary => ["op", "arg"]
  | binary => ["op", "lhs", "rhs"]

def number : Shape → Nat
  | term => 0
  | unary => 1
  | binary => 2

/-- A value names a shape; inside another expression it may be the number of the shape. -/
inductive Marks (inner : Bool) (shape : Shape) : Json → Prop
  | name : Marks inner shape (.string shape.name)
  | number (inside : inner = true) : Marks inner shape (.ofNat shape.number)

theorem ofName?_eq_some_iff {shape : Shape} : ofName? name = some shape ↔ name = shape.name := by
  unfold ofName?
  refine ⟨fun read => ?_, fun same => ?_⟩
  · split_ifs at read with first second third
    all_goals
      obtain rfl := Option.some.inj read
      assumption
  · subst same
    cases shape <;> rfl

theorem ofNumber?_eq_some_iff {n : Nat} {shape : Shape} :
    ofNumber? n = some shape ↔ n = shape.number := by
  refine ⟨fun read => ?_, fun same => ?_⟩
  · unfold ofNumber? at read
    split at read <;> cases read <;> rfl
  · subst same
    cases shape <;> rfl

theorem ofJson?_eq_some_iff {shape : Shape} :
    ofJson? inner value = some shape ↔ shape.Marks inner value := by
  refine ⟨fun read => ?_, fun marks => ?_⟩
  · unfold ofJson? at read
    split at read
    · rw [ofName?_eq_some_iff.mp read]
      exact .name
    · split at read
      · rename_i inside
        obtain ⟨n, natural, known⟩ := Option.bind_eq_some_iff.mp read
        rw [Json.natural?_eq_some natural, ofNumber?_eq_some_iff.mp known]
        exact .number inside
      · cases read
    · cases read
  · cases marks with
    | name => exact ofName?_eq_some_iff.mpr rfl
    | number inside =>
      subst inside
      cases shape <;> rfl

/-- No shape has all the fields of another one. -/
theorem eq_of_fieldNames {shape other : Shape}
    (included : ∀ name ∈ other.fieldNames, name ∈ "type" :: shape.fieldNames) : other = shape := by
  revert included
  cases shape <;> cases other <;> decide +kernel

theorem nodup_fieldNames (shape : Shape) : ("type" :: shape.fieldNames).Nodup := by
  cases shape <;> decide +kernel

end Shape

namespace Expr

def termFields (mark : Json) (kind value : String) : List (String × Json) :=
  [("type", mark), ("kind", .string kind), ("value", .string value)]

def unaryFields (mark : Json) (tag : String) (arg : Json) : List (String × Json) :=
  [("type", mark), ("op", .string tag), ("arg", arg)]

def binaryFields (mark : Json) (tag : String) (lhs rhs : Json) : List (String × Json) :=
  [("type", mark), ("op", .string tag), ("lhs", lhs), ("rhs", rhs)]

/-- Reading an object looks for its shape and then for the fields of this shape. -/
theorem read?_object (inner : Bool) (fields : List (String × Json)) :
    read? inner (.object fields) =
      match (field? fields "type").bind (Shape.ofJson? inner) with
      | none => none
      | some .term =>
        ((field? fields "kind").bind Json.string?).bind fun kind =>
          ((field? fields "value").bind Json.string?).map (term kind)
      | some .unary =>
        ((field? fields "op").bind Json.string?).bind fun tag =>
          ((field? fields "arg").bind (read? true)).map (unary tag)
      | some .binary =>
        ((field? fields "op").bind Json.string?).bind fun tag =>
          ((field? fields "lhs").bind (read? true)).bind fun lhs =>
            ((field? fields "rhs").bind (read? true)).map (binary tag lhs) := by
  rw [read?]
  cases (field? fields "type").bind (Shape.ofJson? inner) with
  | none => rfl
  | some shape =>
    cases shape with
    | term =>
      dsimp only
      cases field? fields "kind" with
      | none => rfl
      | some kind =>
        cases field? fields "value" with
        | none => rfl
        | some text =>
          change (kind.string?.bind fun kind => text.string?.bind fun text =>
              some (term kind text)) =
            kind.string?.bind fun kind => text.string?.map (term kind)
          cases kind.string? <;> cases text.string? <;> rfl
    | unary =>
      generalize (field? fields "op").bind Json.string? = tag
      generalize field? fields "arg" = arg
      cases tag <;> cases arg <;> rfl
    | binary =>
      generalize (field? fields "op").bind Json.string? = tag
      generalize field? fields "lhs" = lhs
      generalize field? fields "rhs" = rhs
      cases tag <;> cases lhs <;> cases rhs <;> simp

theorem read?_of_isScalar (scalar : value.isScalar = true) : read? inner value = none := by
  cases value with
  | null => rw [read?.eq_def]
  | bool _ => rw [read?.eq_def]
  | number _ _ => rw [read?.eq_def]
  | string _ => cases scalar
  | array _ => cases scalar
  | object _ => cases scalar

/-- An object from which an expression is read names a shape, and it has all fields of the shape
with values that are no scalars. -/
theorem exists_shape_of_read? {expr : Expr} (read : read? inner (.object fields) = some expr) :
    ∃ mark shape, field? fields "type" = some mark ∧ Shape.Marks inner shape mark ∧
      ∀ name ∈ shape.fieldNames,
        ∃ value, field? fields name = some value ∧ value.isScalar = false := by
  rw [read?_object] at read
  have string : ∀ {name text}, (field? fields name).bind Json.string? = some text →
      ∃ value, field? fields name = some value ∧ value.isScalar = false :=
    Json.exists_of_bind_field? fun value => Json.string?_of_isScalar
  have operand : ∀ {name sub}, (field? fields name).bind (read? true) = some sub →
      ∃ value, field? fields name = some value ∧ value.isScalar = false :=
    Json.exists_of_bind_field? fun value => read?_of_isScalar
  cases named : (field? fields "type").bind (Shape.ofJson? inner) with
  | none =>
    rw [named] at read
    cases read
  | some shape =>
    obtain ⟨mark, present, known⟩ := Option.bind_eq_some_iff.mp named
    refine ⟨mark, shape, present, Shape.ofJson?_eq_some_iff.mp known, ?_⟩
    rw [named] at read
    cases shape with
    | term =>
      obtain ⟨kind, first, rest⟩ := Option.bind_eq_some_iff.mp read
      obtain ⟨text, second, _⟩ := Option.map_eq_some_iff.mp rest
      exact List.forall_mem_cons.mpr ⟨string first, List.forall_mem_singleton.mpr (string second)⟩
    | unary =>
      obtain ⟨tag, first, rest⟩ := Option.bind_eq_some_iff.mp read
      obtain ⟨arg, second, _⟩ := Option.map_eq_some_iff.mp rest
      exact List.forall_mem_cons.mpr ⟨string first, List.forall_mem_singleton.mpr (operand second)⟩
    | binary =>
      obtain ⟨tag, first, rest⟩ := Option.bind_eq_some_iff.mp read
      obtain ⟨lhs, second, rest⟩ := Option.bind_eq_some_iff.mp rest
      obtain ⟨rhs, third, _⟩ := Option.map_eq_some_iff.mp rest
      exact List.forall_mem_cons.mpr ⟨string first, List.forall_mem_cons.mpr
        ⟨operand second, List.forall_mem_singleton.mpr (operand third)⟩⟩

variable {mark first second json : Json} {kind text tag : String}

theorem read?_of_holds_term (marks : Shape.term.Marks inner mark)
    (holds : Holds (termFields mark kind text) json) :
    read? inner json = some (term kind text) := by
  obtain ⟨present, rfl, found⟩ := holds.exists_present (Shape.nodup_fieldNames .term)
  rw [read?_object, found "type" mark (by simp [termFields]), Option.bind_some,
    Shape.ofJson?_eq_some_iff.mpr marks, found "kind" (.string kind) (by simp [termFields]),
    found "value" (.string text) (by simp [termFields])]
  rfl

theorem read?_of_holds_unary (marks : Shape.unary.Marks inner mark)
    (holds : Holds (unaryFields mark tag first) json) :
    read? inner json = (read? true first).map (unary tag) := by
  obtain ⟨present, rfl, found⟩ := holds.exists_present (Shape.nodup_fieldNames .unary)
  rw [read?_object, found "type" mark (by simp [unaryFields]), Option.bind_some,
    Shape.ofJson?_eq_some_iff.mpr marks, found "op" (.string tag) (by simp [unaryFields]),
    found "arg" first (by simp [unaryFields])]
  rfl

theorem read?_of_holds_binary (marks : Shape.binary.Marks inner mark)
    (holds : Holds (binaryFields mark tag first second) json) :
    read? inner json =
      (read? true first).bind fun lhs => (read? true second).map (binary tag lhs) := by
  obtain ⟨present, rfl, found⟩ := holds.exists_present (Shape.nodup_fieldNames .binary)
  rw [read?_object, found "type" mark (by simp [binaryFields]), Option.bind_some,
    Shape.ofJson?_eq_some_iff.mpr marks, found "op" (.string tag) (by simp [binaryFields]),
    found "lhs" first (by simp [binaryFields]), found "rhs" second (by simp [binaryFields])]
  rfl

/-- A value of JSON shows an expression: each of its objects holds the fields that are written
there, in any order, and perhaps fields with other names. -/
inductive Shown : Bool → Expr → Json → Prop
  | term {inner : Bool} {mark json : Json} {kind text : String}
      (marks : Shape.term.Marks inner mark) (holds : Holds (termFields mark kind text) json) :
      Shown inner (.term kind text) json
  | unary {inner : Bool} {mark sub json : Json} {tag : String} {arg : Expr}
      (marks : Shape.unary.Marks inner mark) (shown : Shown true arg sub)
      (holds : Holds (unaryFields mark tag sub) json) : Shown inner (.unary tag arg) json
  | binary {inner : Bool} {mark first second json : Json} {tag : String} {lhs rhs : Expr}
      (marks : Shape.binary.Marks inner mark) (left : Shown true lhs first)
      (right : Shown true rhs second) (holds : Holds (binaryFields mark tag first second) json) :
      Shown inner (.binary tag lhs rhs) json

theorem shown_toJson (inner : Bool) (expr : Expr) : expr.Shown inner expr.toJson := by
  induction expr generalizing inner with
  | term kind text => exact .term .name (.refl _)
  | unary tag arg ih => exact .unary .name (ih true) (.refl _)
  | binary tag lhs rhs left right => exact .binary .name (left true) (right true) (.refl _)

theorem read?_of_shown {expr : Expr} (shown : expr.Shown inner json) :
    read? inner json = some expr := by
  induction shown with
  | term marks holds => exact read?_of_holds_term marks holds
  | unary marks _ holds ih => rw [read?_of_holds_unary marks holds, ih, Option.map_some]
  | binary marks _ _ holds left right =>
    rw [read?_of_holds_binary marks holds, left, right, Option.bind_some, Option.map_some]

/-- The fields with another value in place of one of theirs. -/
def setField (name : String) (value : Json) (fields : List (String × Json)) :
    List (String × Json) :=
  fields.map fun field => (field.1, if field.1 = name then value else field.2)

/-- The fields of one object are spoilt: one is lost, the shape has no longer its name, or a scalar
stands in place of another field's value. -/
inductive Spoils (inner : Bool) (shape : Shape) (written fields : List (String × Json)) : Prop
  | lost (name : String) (known : name ∈ "type" :: shape.fieldNames)
      (order : fields.Perm (written.filter fun field => field.1 != name))
  | marked (mark : Json) (wrong : ¬shape.Marks inner mark)
      (order : fields.Perm (setField "type" mark written))
  | replaced (name : String) (value : Json) (known : name ∈ shape.fieldNames)
      (scalar : value.isScalar = true) (order : fields.Perm (setField name value written))

theorem map_fst_setField : (setField name value fields).map Prod.fst = fields.map Prod.fst := by
  rw [setField, List.map_map]
  rfl

theorem eq_of_mem_setField {other : Json} (member : (name, other) ∈ setField name value fields) :
    other = value := by
  obtain ⟨⟨key, old⟩, _, same⟩ := List.mem_map.mp member
  obtain ⟨rfl, rfl⟩ := Prod.mk.inj same
  exact if_pos rfl

/-- Every field of spoilt fields has the name of a written one. -/
theorem Spoils.names {shape : Shape} (spoils : Spoils inner shape written fields) :
    ∀ name ∈ fields.map Prod.fst, name ∈ written.map Prod.fst := by
  intro name member
  obtain ⟨field, present, rfl⟩ := List.mem_map.mp member
  cases spoils with
  | lost _ _ order =>
    exact List.mem_map_of_mem (List.mem_filter.mp (order.mem_iff.mp present)).1
  | marked mark _ order =>
    rw [← @map_fst_setField written "type" mark]
    exact List.mem_map_of_mem (order.mem_iff.mp present)
  | replaced name value _ _ order =>
    rw [← @map_fst_setField written name value]
    exact List.mem_map_of_mem (order.mem_iff.mp present)

/-- Nothing is read from spoilt fields: another shape would need a field that is not written. -/
theorem read?_of_spoils {shape : Shape} (names : written.map Prod.fst = "type" :: shape.fieldNames)
    (spoils : Spoils inner shape written fields) : read? inner (.object fields) = none := by
  rw [Option.eq_none_iff_forall_ne_some]
  intro expr read
  obtain ⟨mark', shape', found, marks', given⟩ := exists_shape_of_read? read
  obtain rfl : shape' = shape := Shape.eq_of_fieldNames fun name member => by
    obtain ⟨value, present, _⟩ := given name member
    rw [← names]
    exact spoils.names name (List.mem_map_of_mem (Json.mem_of_field? present))
  cases spoils with
  | lost name known order =>
    have missing : ∀ value, field? fields name ≠ some value := by
      intro value present
      have kept := order.mem_iff.mp (Json.mem_of_field? present)
      simp at kept
    rcases List.mem_cons.mp known with rfl | member
    · exact missing mark' found
    · obtain ⟨value, present, _⟩ := given name member
      exact missing value present
  | marked mark wrong order =>
    rw [eq_of_mem_setField (order.mem_iff.mp (Json.mem_of_field? found))] at marks'
    exact wrong marks'
  | replaced name value known scalar order =>
    obtain ⟨other, present, compound⟩ := given name known
    rw [eq_of_mem_setField (order.mem_iff.mp (Json.mem_of_field? present)), scalar] at compound
    cases compound

/-- A value of JSON that would show an expression, but for one of its objects, which is spoilt. -/
inductive Damaged : Bool → Expr → Json → Prop
  | term {inner : Bool} {mark : Json} {kind text : String} {fields : List (String × Json)}
      (marks : Shape.term.Marks inner mark)
      (spoils : Spoils inner .term (termFields mark kind text) fields) :
      Damaged inner (.term kind text) (.object fields)
  | unary {inner : Bool} {mark sub : Json} {tag : String} {arg : Expr}
      {fields : List (String × Json)} (marks : Shape.unary.Marks inner mark)
      (shown : Shown true arg sub)
      (spoils : Spoils inner .unary (unaryFields mark tag sub) fields) :
      Damaged inner (.unary tag arg) (.object fields)
  | binary {inner : Bool} {mark first second : Json} {tag : String} {lhs rhs : Expr}
      {fields : List (String × Json)} (marks : Shape.binary.Marks inner mark)
      (left : Shown true lhs first) (right : Shown true rhs second)
      (spoils : Spoils inner .binary (binaryFields mark tag first second) fields) :
      Damaged inner (.binary tag lhs rhs) (.object fields)
  | arg {inner : Bool} {mark sub json : Json} {tag : String} {arg : Expr}
      (marks : Shape.unary.Marks inner mark) (damaged : Damaged true arg sub)
      (holds : Holds (unaryFields mark tag sub) json) : Damaged inner (.unary tag arg) json
  | lhs {inner : Bool} {mark first second json : Json} {tag : String} {lhs rhs : Expr}
      (marks : Shape.binary.Marks inner mark) (damaged : Damaged true lhs first)
      (right : Shown true rhs second) (holds : Holds (binaryFields mark tag first second) json) :
      Damaged inner (.binary tag lhs rhs) json
  | rhs {inner : Bool} {mark first second json : Json} {tag : String} {lhs rhs : Expr}
      (marks : Shape.binary.Marks inner mark) (left : Shown true lhs first)
      (damaged : Damaged true rhs second)
      (holds : Holds (binaryFields mark tag first second) json) :
      Damaged inner (.binary tag lhs rhs) json

/-- One spoilt object at any depth makes reading the whole value fail. -/
theorem read?_of_damaged {expr : Expr} (damaged : expr.Damaged inner json) :
    read? inner json = none := by
  induction damaged with
  | term _ spoils => exact read?_of_spoils rfl spoils
  | unary _ _ spoils => exact read?_of_spoils rfl spoils
  | binary _ _ _ spoils => exact read?_of_spoils rfl spoils
  | arg marks _ holds ih => rw [read?_of_holds_unary marks holds, ih, Option.map_none]
  | lhs marks _ _ holds ih => rw [read?_of_holds_binary marks holds, ih, Option.bind_none]
  | rhs marks left _ holds ih =>
    rw [read?_of_holds_binary marks holds, read?_of_shown left, ih, Option.bind_some,
      Option.map_none]

/-- What is written for an expression is read back as the expression, whatever other fields its
objects hold; with one object spoilt, at any depth, nothing is read. So distinct expressions are
written as distinct values. -/
theorem json_read_back (expr : Expr) :
    expr.Shown false expr.toJson ∧ ofJson? expr.toJson = some expr ∧
    (∀ json, expr.Shown false json → ofJson? json = some expr) ∧
    (∀ json, expr.Damaged false json → ofJson? json = none) ∧
    ∀ other json, expr.Shown false json → other.Shown false json → expr = other := by
  refine ⟨shown_toJson false expr, read?_of_shown (shown_toJson false expr),
    fun json shown => read?_of_shown shown, fun json damaged => read?_of_damaged damaged, ?_⟩
  intro other json shown shown'
  exact Option.some.inj ((read?_of_shown shown).symm.trans (read?_of_shown shown'))

/-- The number of its shape stands for the name of it in the object of an operand. -/
theorem numbered_operand_read_back :
    (unary "neg" (term "num" "1")).toJson = .object [("type", .string "unary"),
      ("op", .string "neg"), ("arg", .object [("type", .string "term"), ("kind", .string "num"),
        ("value", .string "1")])] ∧
    ofJson? (.object [("type", .string "unary"), ("op", .string "neg"),
      ("arg", .object [("type", .number 0 0), ("kind", .string "num"), ("value", .string "1")])]) =
      some (unary "neg" (term "num" "1")) :=
  ⟨rfl, read?_of_shown (.unary .name (.term (.number rfl) (.refl _)) (.refl _))⟩

theorem signed_term_read_back :
    ofJson? (.object [("note", .null), ("type", .string "unary"), ("op", .string "neg"),
      ("arg", .object [("arg", .bool true), ("type", .string "term"), ("kind", .string "num"),
        ("value", .string "1")])]) = some (unary "neg" (term "num" "1")) ∧
    ofJson? (.object [("type", .string "unary"), ("op", .string "neg"),
      ("arg", .object [("type", .string "term"), ("kind", .null), ("value", .string "1")])]) =
      none := by
  have reading := json_read_back (unary "neg" (term "num" "1"))
  have behind : ∀ (name : String) (value : Json) (fields : List (String × Json)),
      name ∉ fields.map Prod.fst → Holds fields (.object ((name, value) :: fields)) :=
    fun name value fields apart => @Holds.intro _ _ [(name, value)]
      (List.perm_append_singleton _ _).symm (List.forall_mem_singleton.mpr apart)
  refine ⟨reading.2.2.1 _ ?_, reading.2.2.2.1 _ ?_⟩
  · refine .unary .name (.term .name ?_) (behind _ _ (unaryFields _ "neg" _) ?_)
    · exact behind _ _ (termFields _ "num" "1") (by decide +kernel)
    · simp [unaryFields]
  · have spoils : Spoils true .term (termFields (.string "term") "num" "1")
        [("type", .string "term"), ("kind", .null), ("value", .string "1")] :=
      .replaced "kind" .null (List.mem_cons_self ..) rfl (.of_eq (by simp [setField, termFields]))
    exact .arg .name (.term .name spoils) (.refl _)

end Expr

end Precedence
