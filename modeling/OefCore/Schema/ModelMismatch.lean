import OefCore.Schema.InstanceEquality

/-! # Queries and instances of different data models

`QueryModel::valid` types the constraints of a query against the data model of the
query, the validating constructor types the values of an instance against the data
model of the instance, and `QueryModel::check` compares the names of the two models
only. The comparison of the attribute types is a comment in `Constraint::check`. At a
leaf where the models disagree the evaluator reads an arm that is not set.

`OefCore.QueryModel.comparesSameTypes_iff` says when a query that matches reached no
such leaf: when its constraints decide the match without one, from left to right, over the
attributes that both models declare with the same type (`OefCore.Constraint.Judged`).
-/

namespace OefCore

variable {Double : Type}

/-! ### The types of constants -/

def Relation.constantType (rel : Query.Relation Double) : Option Query.AttributeType :=
  match rel.val with
  | .kS _ => some .string
  | .kI _ => some .int
  | .kD _ => some .double
  | .kL _ => some .location
  | .kB _ => some .bool
  | .valueNotSet => none

def Set.constantType (set : Query.Set Double) : Option Query.AttributeType :=
  match set.vals with
  | .kS _ => some .string
  | .kI _ => some .int
  | .kD _ => some .double
  | .kL _ => some .location
  | .kB _ => some .bool
  | .valuesNotSet => none

def Range.constantType (range : Query.Range Double) : Option Query.AttributeType :=
  match range with
  | .kS _ => some .string
  | .kI _ => some .int
  | .kD _ => some .double
  | .kL _ => some .location
  | .pairNotSet => none

/-- The type of the constant of a constraint, if one is set. -/
def Constraint.constantType (constraint : Query.Constraint Double) : Option Query.AttributeType :=
  match constraint.constraint with
  | .kSet set => Set.constantType set
  | .kRange range => Range.constantType range
  | .kRelation relation => Relation.constantType relation
  | .kDistance _ => some .location
  | .constraintNotSet => none

/-- The type a data model declares for a name, by `DataModel::attribute`. -/
def DataModel.declaredType (model : Query.DataModel) (name : String) :
    Option Query.AttributeType :=
  (model.attributes.find? fun a => name == a.name).map Query.Attribute.type

/-! ### The leaves an evaluation reaches -/

namespace QueryModel

/-- The constraints whose evaluator `check` calls: none when the names of the models
differ, otherwise those at which the evaluation of the constraints arrives. -/
def reached [Doubles Double] (model : Query.Model Double) (i : Instance Double) :
    List (Query.Constraint Double) :=
  let constraints := BoolTree.reachedAll (fun c => Constraint.check c i)
    (ConstraintExpr.trees model.constraints)
  match model.model with
  | some dm => if dm.name != i.model.name then [] else constraints
  | none => constraints

/-- When the query matches, every reached constraint whose attribute has a value has
a constant of the type of the value. -/
def ComparesSameTypes [Doubles Double] (model : Query.Model Double) (i : Instance Double) : Prop :=
  check model i = true → ∀ c ∈ reached model i, ∀ v, i.value c.attributeName = some v →
    Constraint.constantType c = some v.type

end QueryModel

/-! ### What constraints say -/

/-- The relation with the constant that `Relation::get` copies to an `int`. -/
def Relation.narrowed (rel : Query.Relation Double) : Query.Relation Double :=
  match rel.val with
  | .kI constant => { rel with val := .kI constant.toInt32.toInt64 }
  | _ => rel

def Constraint.narrowed (constraint : Query.Constraint Double) : Query.Constraint Double :=
  match constraint.constraint with
  | .kRelation relation => { constraint with constraint := .kRelation (Relation.narrowed relation) }
  | _ => constraint

/-- How a constraint turns out for an instance. Without a value for its attribute it
fails. With one, both data models declare the attribute with the same type, and the
constraint holds if the value is in the set that it denotes. -/
inductive Constraint.Judged [Doubles Double] (dm : Query.DataModel) (i : Instance Double)
    (constraint : Query.Constraint Double) : Bool → Prop where
  | absent (absent : i.value constraint.attributeName = none) : Judged dm i constraint false
  | compared {v value} (present : i.value constraint.attributeName = some v)
      (declared : DataModel.declaredType dm constraint.attributeName =
        DataModel.declaredType i.model constraint.attributeName)
      (means : value = true ↔ Meaning i (narrowed constraint)) : Judged dm i constraint value

/-- The constraints of a query decide that an instance matches, one after the other, without
a leaf whose attribute has a value and is declared with two types. -/
def QueryModel.DecidesMatch [Doubles Double] (model : Query.Model Double) (dm : Query.DataModel)
    (i : Instance Double) : Prop :=
  BoolTree.Decided (Constraint.Judged dm i) (.all (ConstraintExpr.trees model.constraints)) true

section Narrowed

namespace Relation

theorem valid_narrowed (rel : Query.Relation Double) (t : Query.AttributeType) :
    valid (narrowed rel) t = valid rel t := by
  obtain ⟨op, constant⟩ := rel
  cases constant <;> rfl

theorem intFits_narrowed (rel : Query.Relation Double) : IntFits (narrowed rel) := by
  obtain ⟨op, constant⟩ := rel
  intro found arm
  cases constant with
  | kI constant =>
      cases arm
      rw [Int32.toInt_toInt64]
      exact ⟨Int32.le_toInt _, Int32.toInt_lt _⟩
  | kS | kD | kB | kL | valueNotSet => cases arm

/-- The evaluator sees the narrowed constant. -/
theorem check_narrowed [Doubles Double] (rel : Query.Relation Double) (v : VariantType Double) :
    check (narrowed rel) v = check rel v := by
  obtain ⟨op, constant⟩ := rel
  cases constant with
  | kI constant =>
      cases v with
      | int i =>
          change checkValue _ constant.toInt32.toInt64.toInt32 i = checkValue _ constant.toInt32 i
          rw [Int32.toInt32_toInt64]
          rfl
      | double | string | bool | location => rfl
  | kS | kD | kB | kL | valueNotSet => rfl

end Relation

namespace Constraint

@[simp] theorem narrowed_attributeName (constraint : Query.Constraint Double) :
    (narrowed constraint).attributeName = constraint.attributeName := by
  unfold narrowed
  split <;> rfl

theorem valid_narrowed (constraint : Query.Constraint Double) (dm : Query.DataModel) :
    valid (narrowed constraint) dm = valid constraint dm := by
  obtain ⟨name, constant⟩ := constraint
  cases constant with
  | kRelation relation => simp only [valid, narrowed, Relation.valid_narrowed]
  | kSet | kRange | kDistance | constraintNotSet => rfl

theorem intFits_narrowed (constraint : Query.Constraint Double) :
    IntFits (narrowed constraint) := by
  obtain ⟨name, constant⟩ := constraint
  intro found kind
  cases constant with
  | kRelation relation =>
      cases kind
      exact Relation.intFits_narrowed relation
  | kSet | kRange | kDistance | constraintNotSet => cases kind

theorem checkValue_narrowed [Doubles Double] (constraint : Query.Constraint Double)
    (v : VariantType Double) : checkValue (narrowed constraint) v = checkValue constraint v := by
  obtain ⟨name, constant⟩ := constraint
  cases constant with
  | kRelation relation => simp only [checkValue, narrowed, Relation.check_narrowed]
  | kSet | kRange | kDistance | constraintNotSet => rfl

end Constraint

end Narrowed

/-! ### Valid constants are of the declared type -/

section Valid

variable {t : Query.AttributeType}

theorem Relation.constantType_of_valid {rel : Query.Relation Double}
    (accepted : valid rel t = true) : constantType rel = some t := by
  unfold valid at accepted
  unfold constantType
  cases arm : rel.val with
  | kS _ | kI _ | kD _ =>
      simp only [arm, beq_iff_eq] at accepted
      rw [accepted]
  | kL _ | kB _ =>
      simp only [arm, Bool.and_eq_true, beq_iff_eq] at accepted
      rw [accepted.1]
  | valueNotSet => simp [arm] at accepted

theorem Set.constantType_of_valid {set : Query.Set Double} (accepted : valid set t = true) :
    constantType set = some t := by
  unfold valid at accepted
  unfold constantType
  cases arm : set.vals with
  | kS _ | kI _ | kD _ | kL _ | kB _ =>
      simp only [arm, beq_iff_eq] at accepted
      rw [accepted]
  | valuesNotSet => simp [arm] at accepted

theorem Range.constantType_of_valid {range : Query.Range Double}
    (accepted : valid range t = true) : constantType range = some t := by
  cases range with
  | kS _ | kI _ | kD _ | kL _ =>
      simp only [valid, beq_iff_eq] at accepted
      rw [constantType, accepted]
  | pairNotSet => simp [valid] at accepted

/-- A valid constraint has a constant of the type its attribute is declared with. -/
theorem Constraint.constantType_of_valid {constraint : Query.Constraint Double}
    {dm : Query.DataModel} (accepted : valid constraint dm = true) :
    constantType constraint = DataModel.declaredType dm constraint.attributeName := by
  unfold valid at accepted
  rw [DataModel.declaredType]
  cases found : dm.attributes.find? fun a => constraint.attributeName == a.name with
  | none =>
      rw [found] at accepted
      cases accepted
  | some att =>
      simp only [found] at accepted
      rw [Option.map_some, constantType]
      cases kind : constraint.constraint with
      | kSet set =>
          simp only [kind] at accepted
          exact Set.constantType_of_valid accepted
      | kRange range =>
          simp only [kind] at accepted
          exact Range.constantType_of_valid accepted
      | kRelation relation =>
          simp only [kind] at accepted
          exact Relation.constantType_of_valid accepted
      | kDistance distance =>
          simp only [kind, Distance.valid, beq_iff_eq] at accepted
          rw [accepted]
      | constraintNotSet =>
          simp only [kind] at accepted
          cases accepted

end Valid

/-- A value the validating constructor accepted has the type its attribute is
declared with. -/
theorem Instance.declaredType_of_value {model : DataModel}
    {values : UnorderedMap String (VariantType Double)} {i : Instance Double}
    (built : make model values = .ok i) {name : String} {v : VariantType Double}
    (present : i.value name = some v) :
    DataModel.declaredType i.model name = some v.type := by
  obtain ⟨sameModel, stored, conforms⟩ := make_conforms built
  rw [value, stored] at present
  obtain ⟨att, found, typed⟩ := conforms name v present
  rw [DataModel.declaredType, sameModel, found, Option.map_some,
    VariantType.type_eq_of_validate typed]

namespace Constraint

variable [Doubles Double] {constraint : Query.Constraint Double} {dm : Query.DataModel}
  {own : DataModel} {values : UnorderedMap String (VariantType Double)} {i : Instance Double}

/-- The evaluator does what a constraint says of a value of the type it is declared for. -/
theorem check_iff_narrowed (accepted : valid constraint dm = true) {v : VariantType Double}
    (present : i.value constraint.attributeName = some v)
    (declared : DataModel.declaredType dm constraint.attributeName = some v.type) :
    check constraint i = true ↔ Meaning i (narrowed constraint) := by
  obtain ⟨att, found, typed⟩ := Option.map_eq_some_iff.mp declared
  rw [← narrowed_attributeName] at found present
  obtain ⟨denoted, known, _, decides⟩ := checkValue_iff_denote
    ((valid_narrowed constraint dm).trans accepted) found typed.symm (intFits_narrowed constraint)
  rw [narrowed_attributeName] at present
  simp only [check, Meaning, narrowed_attributeName, present, known, Option.some.injEq,
    exists_and_left, exists_eq_left']
  rw [← checkValue_narrowed]
  exact decides

/-- A valid constraint turns out as it is evaluated, if its constant has the type of the
value. -/
theorem judged_iff (accepted : valid constraint dm = true)
    (built : Instance.make own values = .ok i) (value : Bool) :
    Judged dm i constraint value ↔
      (∀ v, i.value constraint.attributeName = some v → constantType constraint = some v.type) ∧
        check constraint i = value := by
  have typed := constantType_of_valid accepted
  constructor
  · intro judged
    cases judged with
    | absent absent =>
        refine ⟨fun v present => ?_, ?_⟩
        · rw [absent] at present
          cases present
        · rw [check, absent]
    | @compared v _ present declared means =>
        rw [Instance.declaredType_of_value built present] at declared
        refine ⟨fun other present' => ?_, ?_⟩
        · rw [present] at present'
          cases present'
          exact typed.trans declared
        · rw [Bool.eq_iff_iff, check_iff_narrowed accepted present declared]
          exact means.symm
  · rintro ⟨same, rfl⟩
    cases present : i.value constraint.attributeName with
    | none =>
        rw [check, present]
        exact .absent present
    | some v =>
        have declared := typed.symm.trans (same v present)
        refine .compared present ?_ (check_iff_narrowed accepted present declared)
        rw [declared, Instance.declaredType_of_value built present]

end Constraint

namespace QueryModel

variable {model : Query.Model Double} {dm : Query.DataModel}

/-- The leaves of a valid query are valid. -/
theorem valid_leaves (named : model.model = some dm) (accepted : valid model = true)
    {c : Query.Constraint Double}
    (leaf : c ∈ BoolTree.leaves (.all (ConstraintExpr.trees model.constraints))) :
    Constraint.valid c dm = true := by
  have allValid : model.constraints.all (ConstraintExpr.valid dm) = true := by
    unfold valid at accepted
    rw [named] at accepted
    split at accepted
    · cases accepted
    · exact accepted
  rw [ConstraintExpr.trees_eq_map, BoolTree.mem_leaves_all] at leaf
  obtain ⟨part, inside, leaf⟩ := leaf
  obtain ⟨e, constraint, rfl⟩ := List.mem_map.mp inside
  exact ConstraintExpr.valid_leaves dm e (List.all_eq_true.mp allValid e constraint) c leaf

variable [Doubles Double]

/-- A query that matches comes to its constraints. -/
theorem check_eq_true {i : Instance Double} (named : model.model = some dm)
    (matched : check model i = true) :
    BoolTree.eval (fun c => Constraint.check c i)
        (.all (ConstraintExpr.trees model.constraints)) = true ∧
      reached model i = BoolTree.reached (fun c => Constraint.check c i)
        (.all (ConstraintExpr.trees model.constraints)) := by
  unfold check at matched
  unfold reached
  rw [named] at matched ⊢
  dsimp only at matched ⊢
  split at matched
  · cases matched
  · rename_i same
    rw [ConstraintExpr.and_check_eq_evalAll] at matched
    exact ⟨matched, if_neg same⟩

/-- **Matching compares values of the same type** exactly when the constraints of the query
decide the match by attributes that its data model and that of the instance declare with
the same types. -/
theorem comparesSameTypes_iff (named : model.model = some dm) (accepted : valid model = true)
    {own : DataModel} {values : UnorderedMap String (VariantType Double)} {i : Instance Double}
    (built : Instance.make own values = .ok i) (matched : check model i = true) :
    ComparesSameTypes model i ↔ DecidesMatch model dm i := by
  obtain ⟨holds, arrived⟩ := check_eq_true named matched
  unfold ComparesSameTypes DecidesMatch
  rw [imp_iff_right matched, arrived, BoolTree.decided_iff fun c leaf value =>
    Constraint.judged_iff (valid_leaves named accepted leaf) built value, and_iff_right holds]

end QueryModel

section Person

attribute [local instance] wholeDoubles

/-- Another data model of the same name, whose ages are texts. -/
def personOfText : DataModel where
  handle := {
    name := "Person"
    attributes := [{ name := "age", type := .string, required := true }] }
  unique := by decide

def oldOfText : UnorderedMap String (VariantType Int) :=
  AList.insert "age" (.string "old") ∅

/-- Persons whose age is not five. -/
def notFive : Query.Model Int where
  constraints := [.kConstraint ⟨"age", .kRelation ⟨.notEq, .kI 5⟩⟩]
  model := some person.handle

/-- The text is compared with the empty text, and found different from it. -/
theorem notFive_comparesText : ∃ i, Instance.make personOfText oldOfText = .ok i ∧
    QueryModel.valid notFive = true ∧ QueryModel.check notFive i = true ∧
      ¬ QueryModel.ComparesSameTypes notFive i := by
  refine ⟨_, rfl, by decide, by decide, fun same => ?_⟩
  have compared := same (by decide) ⟨"age", .kRelation ⟨.notEq, .kI 5⟩⟩ (.head _)
    (.string "old") (by decide)
  cases compared

theorem comparesSameTypes_iff_adults : ∃ i, Instance.make person alan = .ok i ∧
    QueryModel.check Instance.adults i = true ∧
      (QueryModel.ComparesSameTypes Instance.adults i ↔
        QueryModel.DecidesMatch Instance.adults person.handle i) :=
  ⟨_, rfl, by decide, @QueryModel.comparesSameTypes_iff Int Instance.adults person.handle _ rfl
    (by decide) person alan _ rfl (by decide)⟩

end Person

end OefCore
