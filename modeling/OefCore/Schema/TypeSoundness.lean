import Mathlib
import OefCore.Schema.Constraint

/-! # Typed semantics of constraint expressions

A constraint denotes a set of values of one type (`OefCore.Constraint.denote`),
over mathematical values: integers are unbounded, an interval is an interval, the
box of two corners is the product of two unordered intervals. An expression then
means the Boolean combination of its leaves, a leaf being met when its attribute
has a value in the set (`OefCore.ConstraintExpr.Meaning`).

The evaluator reads the constant from the arm of the type of the value, whatever
arm is set. For a valid expression and an instance of the same data model the
two types agree at every leaf whose attribute has a value
(`OefCore.Constraint.wellTyped_of_valid`), and the evaluator computes the
meaning (`OefCore.ConstraintExpr.check_typeSound`).
-/

namespace OefCore

variable {Double : Type}

/-- The mathematical values of an attribute type. -/
abbrev Carrier (Double : Type) : Query.AttributeType → Type
  | .int => Int
  | .double => Double
  | .string => String
  | .bool => Bool
  | .location => Location Double

/-- A set of values of one type. -/
structure TypedSet (Double : Type) where
  type : Query.AttributeType
  members : Set (Carrier Double type)

namespace VariantType

def type : VariantType Double → Query.AttributeType
  | .int _ => .int
  | .double _ => .double
  | .string _ => .string
  | .bool _ => .bool
  | .location _ => .location

theorem type_eq_of_validate {att : Query.Attribute} {v : VariantType Double}
    (typed : Attribute.validate att v = true) : v.type = att.type := by
  cases v <;> exact (beq_iff_eq.mp typed).symm

end VariantType

/-- A value of the type of the set that belongs to it. -/
def TypedSet.Contains : TypedSet Double → VariantType Double → Prop
  | ⟨.int, members⟩, .int i => i.toInt ∈ members
  | ⟨.double, members⟩, .double d => d ∈ members
  | ⟨.string, members⟩, .string s => s ∈ members
  | ⟨.bool, members⟩, .bool b => b ∈ members
  | ⟨.location, members⟩, .location l => l ∈ members
  | _, _ => False

namespace Relation

/-- A value compared with a constant in the direction of an operator. -/
def Compares {α : Type} [LT α] [LE α] (op : Query.Relation.Operator)
    (value constant : α) : Prop :=
  match op with
  | .eq => value = constant
  | .notEq => value ≠ constant
  | .lt => value < constant
  | .ltEq => value ≤ constant
  | .gt => constant < value
  | .gtEq => constant ≤ value

/-- Booleans and locations are only compared for equality. -/
def denote [Doubles Double] (rel : Query.Relation Double) : Option (TypedSet Double) :=
  match rel.val with
  | .kI constant => some ⟨.int, {v : Int | Compares rel.op v constant.toInt}⟩
  | .kD constant => some ⟨.double, {v : Double | Compares rel.op v constant}⟩
  | .kS constant => some ⟨.string, {v : String | Compares rel.op v constant}⟩
  | .kB constant =>
      if rel.op == .eq || rel.op == .notEq then
        some ⟨.bool, {v : Bool | Compares rel.op v constant}⟩
      else none
  | .kL constant =>
      if rel.op == .eq || rel.op == .notEq then
        some ⟨.location, {v : Location Double | Compares rel.op v constant}⟩
      else none
  | .valueNotSet => none

/-- The integer constant of a relation, if it is one, fits the C++ `int` that
`Relation::get` copies it to. -/
def IntFits (rel : Query.Relation Double) : Prop :=
  ∀ constant, rel.val = .kI constant →
    -2 ^ 31 ≤ constant.toInt ∧ constant.toInt < 2 ^ 31

theorem checkValue_iff_compares {T : Type} [DecidableEq T] [LT T] [DecidableLT T] [LE T]
    [DecidableLE T] (rel : Query.Relation Double) (s v : T) :
    checkValue rel s v = true ↔ Compares rel.op v s := by
  unfold checkValue Compares
  cases rel.op with
  | eq => exact decide_eq_true_iff.trans eq_comm
  | notEq => exact decide_eq_true_iff.trans ne_comm
  | lt | ltEq | gt | gtEq => exact decide_eq_true_iff

theorem compares_toInt (op : Query.Relation.Operator) (value constant : Int32) :
    Compares op value.toInt constant.toInt ↔ Compares op value constant := by
  unfold Compares
  cases op <;> simp only [ne_eq, Int32.toInt_inj, Int32.lt_iff_toInt_lt, Int32.le_iff_toInt_le]

/-- A constant in the range of `int` survives the copy. -/
theorem toInt_getInt {rel : Query.Relation Double} {constant : Int64} (fits : IntFits rel)
    (arm : rel.val = .kI constant) : (getInt rel).toInt = constant.toInt := by
  obtain ⟨lower, upper⟩ := fits constant arm
  rw [getInt, arm, Query.Value.i, Int64.toInt_toInt32]
  exact Int.bmod_eq_of_le (by omega) (by omega)

theorem check_iff_denote [Doubles Double] {rel : Query.Relation Double} {v : VariantType Double}
    (accepted : valid rel v.type = true) (fits : IntFits rel) :
    ∃ denoted, denote rel = some denoted ∧ denoted.type = v.type ∧
      (check rel v = true ↔ denoted.Contains v) := by
  unfold valid at accepted
  cases arm : rel.val <;> cases v <;> simp [arm, VariantType.type] at accepted
  case kI.int constant i =>
      refine ⟨_, by rw [denote, arm], rfl, ?_⟩
      rw [check, checkValue_iff_compares, ← compares_toInt, toInt_getInt fits arm]
      rfl
  case kD.double constant d =>
      refine ⟨_, by rw [denote, arm], rfl, ?_⟩
      rw [check, checkValue_iff_compares, getDouble, arm]
      rfl
  case kS.string constant s =>
      refine ⟨_, by rw [denote, arm], rfl, ?_⟩
      rw [check, checkValue_iff_compares, getString, arm]
      rfl
  case kB.bool constant b =>
      refine ⟨_, by rw [denote, arm]; exact if_pos (by simpa using accepted), rfl, ?_⟩
      rw [check, checkValue_iff_compares, getBool, arm]
      rfl
  case kL.location constant l =>
      refine ⟨_, by rw [denote, arm]; exact if_pos (by simpa using accepted), rfl, ?_⟩
      rw [check, checkValue_iff_compares, getLocation, arm]
      rfl

end Relation

namespace Set

/-- Membership in a list or, for `NOTIN`, in its complement. -/
def select {α : Type} (op : Query.Set.Operator) (listed : List α) : Set α :=
  match op with
  | .isIn => {v | v ∈ listed}
  | .notIn => {v | v ∉ listed}

def denote (set : Query.Set Double) : Option (TypedSet Double) :=
  match set.vals with
  | .kI vals => some ⟨.int, select set.op (vals.map Int64.toInt)⟩
  | .kD vals => some ⟨.double, (select set.op vals : Set Double)⟩
  | .kS vals => some ⟨.string, (select set.op vals : Set String)⟩
  | .kB vals => some ⟨.bool, (select set.op vals : Set Bool)⟩
  | .kL vals => some ⟨.location, (select set.op vals : Set (Location Double))⟩
  | .valuesNotSet => none

/-- The operator applied to a membership test decides the selected set. -/
theorem check_iff_select [Doubles Double] {α : Type} {set : Query.Set Double}
    {v : VariantType Double} {listed : List α} {content : α}
    (found : contains set.vals v = true ↔ content ∈ listed) :
    check set v = true ↔ content ∈ select set.op listed := by
  unfold check select
  cases set.op with
  | isIn => exact found
  | notIn =>
      change (!contains set.vals v) = true ↔ content ∉ listed
      rw [Bool.not_eq_true', ← Bool.not_eq_true, found]

theorem check_iff_denote [Doubles Double] {set : Query.Set Double} {v : VariantType Double}
    (accepted : valid set v.type = true) :
    ∃ denoted, denote set = some denoted ∧ denoted.type = v.type ∧
      (check set v = true ↔ denoted.Contains v) := by
  unfold valid at accepted
  cases arm : set.vals <;> cases v <;> simp [arm, VariantType.type] at accepted
  case kI.int vals i =>
      refine ⟨_, by rw [denote, arm], rfl, check_iff_select ?_⟩
      simp only [arm, contains, Query.Set.Values.i, List.any_eq_true, beq_iff_eq, List.mem_map]
      refine exists_congr fun val => and_congr_right fun _ => ?_
      rw [← Int64.toInt_inj, Int32.toInt_toInt64]
  case kD.double vals d =>
      refine ⟨_, by rw [denote, arm], rfl, check_iff_select ?_⟩
      simp [arm, contains, Query.Set.Values.d]
  case kS.string vals s =>
      refine ⟨_, by rw [denote, arm], rfl, check_iff_select ?_⟩
      simp [arm, contains, Query.Set.Values.s]
  case kB.bool vals b =>
      refine ⟨_, by rw [denote, arm], rfl, check_iff_select ?_⟩
      simp [arm, contains, Query.Set.Values.b]
  case kL.location vals l =>
      refine ⟨_, by rw [denote, arm], rfl, check_iff_select ?_⟩
      simp [arm, contains, Query.Set.Values.l]

end Set

namespace Range

/-- A closed interval; for locations, the closed box of two corners given in any
order. -/
def denote [Doubles Double] : Query.Range Double → Option (TypedSet Double)
  | .kI p => some ⟨.int, Set.Icc p.first.toInt p.second.toInt⟩
  | .kD p => some ⟨.double, (Set.Icc p.first p.second : Set Double)⟩
  | .kS p => some ⟨.string, (Set.Icc p.first p.second : Set String)⟩
  | .kL p => some ⟨.location, {l : Location Double |
      l.lat ∈ Set.uIcc p.first.lat p.second.lat ∧ l.lon ∈ Set.uIcc p.first.lon p.second.lon}⟩
  | .pairNotSet => none

theorem minMax_eq [Doubles Double] (a b : Double) : minMax a b = (a ⊓ b, a ⊔ b) := by
  unfold minMax
  by_cases less : a < b
  · rw [if_pos less, inf_eq_left.mpr less.le, sup_eq_right.mpr less.le]
  · rw [if_neg less, inf_eq_right.mpr (not_lt.mp less), sup_eq_left.mpr (not_lt.mp less)]

private theorem decide_and_iff {p q : Prop} [Decidable p] [Decidable q] :
    (decide p && decide q) = true ↔ p ∧ q :=
  Bool.and_eq_true_iff.trans (and_congr decide_eq_true_iff decide_eq_true_iff)

theorem check_iff_denote [Doubles Double] {range : Query.Range Double} {v : VariantType Double}
    (accepted : valid range v.type = true) :
    ∃ denoted, denote range = some denoted ∧ denoted.type = v.type ∧
      (check range v = true ↔ denoted.Contains v) := by
  unfold valid at accepted
  cases range <;> cases v <;> simp [VariantType.type] at accepted
  case kI.int p i =>
      refine ⟨_, rfl, rfl, ?_⟩
      simp only [check, Query.Range.i, ge_iff_le, Bool.and_eq_true, decide_eq_true_eq,
        Int64.le_iff_toInt_le, Int32.toInt_toInt64]
      rfl
  case kD.double p d =>
      exact ⟨_, rfl, rfl, decide_and_iff⟩
  case kS.string p s =>
      exact ⟨_, rfl, rfl, decide_and_iff⟩
  case kL.location p l =>
      refine ⟨_, rfl, rfl, ?_⟩
      simp only [check, Query.Range.l, minMax_eq, ge_iff_le, Bool.and_eq_true, decide_eq_true_eq,
        and_assoc]
      exact and_assoc.symm

end Range

namespace Distance

def denote [Doubles Double] (distance : Query.Distance Double) : Option (TypedSet Double) :=
  some ⟨.location, {l : Location Double |
    Doubles.distance distance.center l ≤ distance.distance}⟩

theorem check_iff_denote [Doubles Double] {distance : Query.Distance Double}
    {v : VariantType Double} (accepted : valid distance v.type = true) :
    ∃ denoted, denote distance = some denoted ∧ denoted.type = v.type ∧
      (check distance v = true ↔ denoted.Contains v) := by
  unfold valid at accepted
  cases v <;> simp [VariantType.type] at accepted
  case location l =>
      refine ⟨_, rfl, rfl, ?_⟩
      rw [check, decide_eq_true_eq]
      rfl

end Distance

namespace Constraint

variable [Doubles Double]

/-- The typed set a constraint denotes, if it has a constant of some type. -/
def denote (constraint : Query.Constraint Double) : Option (TypedSet Double) :=
  match constraint.constraint with
  | .kSet set => Set.denote set
  | .kRange range => Range.denote range
  | .kRelation relation => Relation.denote relation
  | .kDistance distance => Distance.denote distance
  | .constraintNotSet => none

/-- A constraint is met by an instance that has a value for its attribute in the
set it denotes. -/
def Meaning (i : Instance Double) (constraint : Query.Constraint Double) : Prop :=
  ∃ v denoted, i.value constraint.attributeName = some v ∧ denote constraint = some denoted ∧
    denoted.Contains v

/-- The constant of a constraint has the type of the value it is compared with,
so the evaluator reads an arm that is set. -/
def WellTyped (i : Instance Double) (constraint : Query.Constraint Double) : Prop :=
  ∀ v, i.value constraint.attributeName = some v →
    ∃ denoted, denote constraint = some denoted ∧ denoted.type = v.type

/-- If the constraint is a relation with an integer constant, the constant fits
an `int`. -/
def IntFits (constraint : Query.Constraint Double) : Prop :=
  ∀ relation, constraint.constraint = .kRelation relation → Relation.IntFits relation

/-- The evaluator of a value decides the denoted set, once the validator accepts
the constraint for an attribute of the type of the value. -/
theorem checkValue_iff_denote {constraint : Query.Constraint Double} {dm : Query.DataModel}
    {att : Query.Attribute} {v : VariantType Double} (accepted : valid constraint dm = true)
    (found : (dm.attributes.find? fun a => constraint.attributeName == a.name) = some att)
    (typed : v.type = att.type) (fits : IntFits constraint) :
    ∃ denoted, denote constraint = some denoted ∧ denoted.type = v.type ∧
      (checkValue constraint v = true ↔ denoted.Contains v) := by
  unfold valid at accepted
  rw [found] at accepted
  unfold denote checkValue
  cases kind : constraint.constraint with
  | kSet set =>
      simp only [kind, ← typed] at accepted
      exact Set.check_iff_denote accepted
  | kRange range =>
      simp only [kind, ← typed] at accepted
      exact Range.check_iff_denote accepted
  | kRelation relation =>
      simp only [kind, ← typed] at accepted
      exact Relation.check_iff_denote accepted (fits relation kind)
  | kDistance distance =>
      simp only [kind, ← typed] at accepted
      exact Distance.check_iff_denote accepted
  | constraintNotSet =>
      simp only [kind] at accepted
      cases accepted

variable {model : DataModel} {values : UnorderedMap String (VariantType Double)}
  {i : Instance Double} {constraint : Query.Constraint Double}

/-- What validity of a constraint and of an instance of one data model give at a
value of the constrained attribute. -/
theorem denote_of_valid (built : Instance.make model values = .ok i)
    (accepted : valid constraint model.handle = true) (fits : IntFits constraint)
    {v : VariantType Double} (present : i.value constraint.attributeName = some v) :
    ∃ denoted, denote constraint = some denoted ∧ denoted.type = v.type ∧
      (checkValue constraint v = true ↔ denoted.Contains v) := by
  obtain ⟨_, stored, conforms⟩ := Instance.make_conforms built
  rw [Instance.value, stored] at present
  obtain ⟨att, found, typed⟩ := conforms _ v present
  exact checkValue_iff_denote accepted found (VariantType.type_eq_of_validate typed) fits

theorem wellTyped_of_valid (built : Instance.make model values = .ok i)
    (accepted : valid constraint model.handle = true) (fits : IntFits constraint) :
    WellTyped i constraint := by
  intro v present
  obtain ⟨denoted, known, typed, _⟩ := denote_of_valid built accepted fits present
  exact ⟨denoted, known, typed⟩

theorem check_iff_meaning (built : Instance.make model values = .ok i)
    (accepted : valid constraint model.handle = true) (fits : IntFits constraint) :
    check constraint i = true ↔ Meaning i constraint := by
  unfold check Meaning
  cases present : i.value constraint.attributeName with
  | none => simp
  | some v =>
      obtain ⟨denoted, known, _, decides⟩ := denote_of_valid built accepted fits present
      simp only [known, Option.some.injEq, exists_and_left, exists_eq_left']
      exact decides

end Constraint

namespace ConstraintExpr

variable [Doubles Double]

/-- The typed meaning of an expression: the Boolean combination of its leaves. -/
def Meaning (i : Instance Double) (e : Query.ConstraintExpr Double) : Prop :=
  (tree e).Holds (Constraint.Meaning i)

/-- **Type-sound query evaluation.** On an expression valid for a data model
whose relations have integer constants in the range of `int`, and on an instance
the validating constructor built for that model, the evaluator computes the
typed meaning, and every leaf whose attribute has a value has a constant of the
type of that value. -/
theorem check_typeSound (dm : DataModel) (e : Query.ConstraintExpr Double)
    (values : UnorderedMap String (VariantType Double)) (i : Instance Double)
    (accepted : valid dm.handle e = true) (fits : ∀ c ∈ leaves e, Constraint.IntFits c)
    (built : Instance.make dm values = .ok i) :
    (check i e = true ↔ Meaning i e) ∧ ∀ c ∈ leaves e, Constraint.WellTyped i c := by
  have leafValid := valid_leaves dm.handle e accepted
  refine ⟨?_, fun c inside => Constraint.wellTyped_of_valid built (leafValid c inside)
    (fits c inside)⟩
  rw [check_eq_eval]
  exact BoolTree.eval_iff_holds _ fun c inside =>
    Constraint.check_iff_meaning built (leafValid c inside) (fits c inside)

end ConstraintExpr

/-- Whole numbers as doubles, with the taxicab distance of two locations; it
agrees with the great-circle distance on equal locations. -/
@[reducible] def wholeDoubles : Doubles Int where
  toLinearOrder := inferInstance
  zero := 0
  distance := fun left right =>
    ((right.lat - left.lat).natAbs + (right.lon - left.lon).natAbs : Nat)

section Person

attribute [local instance] wholeDoubles

/-- A data model of persons. -/
def person : DataModel where
  handle := {
    name := "Person"
    attributes := [
      { name := "firstName", type := .string, required := true },
      { name := "age", type := .int, required := false },
      { name := "birth_place", type := .location, required := false }] }
  unique := by decide

def alan : UnorderedMap String (VariantType Int) :=
  AList.insert "birth_place" (.location ⟨12, 52⟩)
    (AList.insert "firstName" (.string "Alan") (AList.insert "age" (.int 42) ∅))

/-- Persons with a first name from A to C, older than 18 and born in one place. -/
def namedAndAged : Query.ConstraintExpr Int :=
  .kAnd [.kConstraint ⟨"firstName", .kRange (.kS ⟨"A", "C"⟩)⟩,
    .kNot (.kConstraint ⟨"age", .kRelation ⟨.ltEq, .kI 18⟩⟩),
    .kConstraint ⟨"birth_place", .kDistance ⟨⟨12, 52⟩, 0⟩⟩]

theorem ConstraintExpr.check_typeSound_person : ∃ i, Instance.make person alan = .ok i ∧
    ConstraintExpr.check i namedAndAged = true ∧
    ((ConstraintExpr.check i namedAndAged = true ↔ ConstraintExpr.Meaning i namedAndAged) ∧
      ∀ c ∈ ConstraintExpr.leaves namedAndAged, Constraint.WellTyped i c) := by
  refine ⟨_, rfl, by decide, ConstraintExpr.check_typeSound person namedAndAged alan _ (by decide)
    ?_ rfl⟩
  intro c inside relation kind constant arm
  simp only [namedAndAged, ConstraintExpr.leaves, ConstraintExpr.tree, ConstraintExpr.trees,
    BoolTree.leaves, BoolTree.leavesList] at inside
  rcases List.mem_cons.mp inside with rfl | inside
  · cases kind
  · rcases List.mem_cons.mp inside with rfl | inside
    · cases kind
      cases arm
      decide
    · rw [List.mem_singleton.mp inside] at kind
      cases kind

end Person

end OefCore
