import OefCore.Schema.Acceptance
import OefCore.Schema.Builders
import OefCore.Schema.LeafAgreement
import OefCore.Schema.RoundTrip

/-! # Queries as they are written

The constructors of `Relation`, `Set` and `Range` from values, and those of
`QueryModel`. A program writes a query with them: its leaves compare the value of an
attribute with constants of one type, its connectives are the operators and the
constructors of `And`, `Or` and `Not`, and a data model says which attributes there are.

A query that is written for a data model is rejected, or it means what it says: on every
instance that was built for that data model, the evaluator computes the Boolean
combination of the comparisons as they are written. It is rejected exactly when it is
empty or some leaf does not fit its attribute (`OefCore.Dsl.query_meaning`).
-/

namespace OefCore

variable {Double : Type}

/-- `std::unordered_set`, with the order in which it is iterated. -/
abbrev UnorderedSet (α : Type) : Type := UnorderedMap α Unit

namespace Relation

/-- The constructors of `Relation`, one for each type of constants. A text literal is made
a string first. -/
def make (op : Query.Relation.Operator) : VariantType Double → Query.Relation Double
  | .string s => { op, val := .kS s }
  | .int i => { op, val := .kI i.toInt64 }
  | .bool b => { op, val := .kB b }
  | .double d => { op, val := .kD d }
  | .location l => { op, val := .kL { lon := l.lon, lat := l.lat } }

end Relation

namespace Set

/-- `Set::ValueType`. -/
inductive ValueType (Double : Type) where
  | ints (values : UnorderedSet Int32)
  | doubles (values : UnorderedSet Double)
  | strings (values : UnorderedSet String)
  | bools (values : UnorderedSet Bool)

/-- The constructor of `Set`, whose loops add the values as they are iterated. -/
def make (op : Query.Set.Operator) : ValueType Double → Query.Set Double
  | .ints s => { op, vals := .kI (s.keys.map Int32.toInt64) }
  | .doubles s => { op, vals := .kD s.keys }
  | .strings s => { op, vals := .kS s.keys }
  | .bools s => { op, vals := .kB s.keys }

end Set

namespace Range

/-- `Range::ValueType`. -/
inductive ValueType (Double : Type) where
  | ints (r : Query.Pair Int32)
  | doubles (r : Query.Pair Double)
  | strings (r : Query.Pair String)

/-- The constructors of `Range`. -/
def make : ValueType Double → Query.Range Double
  | .ints r => .kI { first := r.first.toInt64, second := r.second.toInt64 }
  | .doubles r => .kD { first := r.first, second := r.second }
  | .strings r => .kS { first := r.first, second := r.second }

end Range

namespace QueryModel

/-- The constructor of `QueryModel` from constraints. -/
def make (constraints : List (Query.ConstraintExpr Double)) :
    Except String (Query.Model Double) :=
  if constraints.length < 1 then .error "Not enough parameters."
  else .ok { constraints, model := none }

/-- The constructor that is given a data model as well. -/
def makeFor (constraints : List (Query.ConstraintExpr Double)) (model : DataModel) :
    Except String (Query.Model Double) :=
  (make constraints).bind fun query =>
    if query.constraints.all (ConstraintExpr.valid model.handle) then
      .ok { query with model := some model.handle }
    else .error "Mismatch between constraints in data model."

end QueryModel

/-! ### Leaves -/

/-- A comparison with constants, as a program writes it. -/
inductive Leaf (Double : Type) where
  | relation (op : Query.Relation.Operator) (value : VariantType Double)
  | set (op : Query.Set.Operator) (values : Set.ValueType Double)
  | range (r : Range.ValueType Double)

namespace Leaf

/-- The object that is constructed. -/
def object : Leaf Double → Constraint.ValueType Double
  | .relation op value => .relation (Relation.make op value)
  | .set op values => .set (Set.make op values)
  | .range r => .range (Range.make r)

/-- The type of the constants. -/
def type : Leaf Double → Query.AttributeType
  | .relation _ value => value.type
  | .set _ (.ints _) | .range (.ints _) => .int
  | .set _ (.doubles _) | .range (.doubles _) => .double
  | .set _ (.strings _) | .range (.strings _) => .string
  | .set _ (.bools _) => .bool

/-- A leaf fits an attribute of the type of its constants. Booleans and locations are not
compared by order. -/
def Fits (leaf : Leaf Double) (type : Query.AttributeType) : Prop :=
  leaf.type = type ∧ ∀ op value, leaf = .relation op value → type = .bool ∨ type = .location →
    op = .eq ∨ op = .notEq

/-- A value compares with the constants as the leaf says. A value of another type does not. -/
def Accepts [Doubles Double] : Leaf Double → VariantType Double → Prop
  | .relation op (.int c), .int i => Relation.Compares op i c
  | .relation op (.double c), .double d => Relation.Compares op d c
  | .relation op (.string c), .string s => Relation.Compares op s c
  | .relation op (.bool c), .bool b => Relation.Compares op b c
  | .relation op (.location c), .location l => Relation.Compares op l c
  | .set op (.ints values), .int i => i ∈ Set.select op values.keys
  | .set op (.doubles values), .double d => d ∈ Set.select op values.keys
  | .set op (.strings values), .string s => s ∈ Set.select op values.keys
  | .set op (.bools values), .bool b => b ∈ Set.select op values.keys
  | .range (.ints r), .int i => r.first ≤ i ∧ i ≤ r.second
  | .range (.doubles r), .double d => r.first ≤ d ∧ d ≤ r.second
  | .range (.strings r), .string s => r.first ≤ s ∧ s ≤ r.second
  | _, _ => False

/-- The validator of a relation. -/
theorem relation_valid_iff (op : Query.Relation.Operator) (value : VariantType Double)
    (type : Query.AttributeType) :
    Relation.valid (Relation.make op value) type = true ↔ (relation op value).Fits type := by
  have fits : (relation op value).Fits type ↔ value.type = type ∧
      (type = .bool ∨ type = .location → op = .eq ∨ op = .notEq) := by
    apply and_congr_right
    intro _
    constructor
    · exact fun fits => fits op value rfl
    · rintro fits op' value' same
      cases same
      exact fits
  rw [fits]
  cases value with
  | int | double | string =>
      simp only [Relation.valid, Relation.make, VariantType.type, beq_iff_eq]
      constructor
      · rintro rfl
        exact ⟨rfl, by rintro (wrong | wrong) <;> cases wrong⟩
      · rintro ⟨rfl, _⟩
        rfl
  | bool | location =>
      simp only [Relation.valid, Relation.make, VariantType.type, Bool.and_eq_true,
        Bool.or_eq_true, beq_iff_eq]
      constructor
      · rintro ⟨rfl, equal⟩
        exact ⟨rfl, fun _ => equal⟩
      · rintro ⟨rfl, equal⟩
        exact ⟨rfl, equal (by simp)⟩

theorem set_valid_iff (op : Query.Set.Operator) (values : Set.ValueType Double)
    (type : Query.AttributeType) :
    Set.valid (Set.make op values) type = true ↔ (set op values).Fits type := by
  have noRelation : ∀ op' value, set op values = relation op' value →
      type = .bool ∨ type = .location → op' = .eq ∨ op' = .notEq := by
    intro op' value same
    cases same
  rw [Fits, and_iff_left noRelation]
  cases values <;> exact beq_iff_eq.trans eq_comm

theorem range_valid_iff (r : Range.ValueType Double) (type : Query.AttributeType) :
    Range.valid (Range.make r) type = true ↔ (range r).Fits type := by
  have noRelation : ∀ op' value, range r = relation op' value →
      type = .bool ∨ type = .location → op' = .eq ∨ op' = .notEq := by
    intro op' value same
    cases same
  rw [Fits, and_iff_left noRelation]
  cases r <;> exact beq_iff_eq.trans eq_comm

/-- The validator accepts the object of a leaf for the attributes the leaf fits. -/
theorem valid_iff (leaf : Leaf Double) (attributeName : String) (dm : Query.DataModel) :
    Constraint.valid ⟨attributeName, leaf.object.kind⟩ dm = true ↔
      ∃ att, (dm.attributes.find? fun a => attributeName == a.name) = some att ∧
        leaf.Fits att.type := by
  unfold Constraint.valid
  dsimp only
  cases found : dm.attributes.find? fun a => attributeName == a.name with
  | none => simp
  | some att =>
      simp only [Option.some.injEq, exists_eq_left']
      cases leaf with
      | relation op value => exact relation_valid_iff op value att.type
      | set op values => exact set_valid_iff op values att.type
      | range r => exact range_valid_iff r att.type

variable [Doubles Double]

/-- The evaluator of the object of a leaf decides whether a value of its type is accepted. -/
theorem check_iff (leaf : Leaf Double) {v : VariantType Double} (typed : leaf.type = v.type) :
    leaf.object.check v = true ↔ leaf.Accepts v := by
  cases leaf with
  | relation op value =>
      cases value <;> cases v <;> cases typed
      case int.int.refl c i =>
          have constant : Relation.getInt (Relation.make op (.int c : VariantType Double)) = c :=
            Int32.toInt32_toInt64 c
          change Relation.checkValue (Relation.make op (.int c : VariantType Double))
            (Relation.getInt (Relation.make op (.int c : VariantType Double))) i = true ↔
              Relation.Compares op i c
          rw [constant]
          exact Relation.checkValue_iff_compares _ _ _
      all_goals exact Relation.checkValue_iff_compares _ _ _
  | set op values =>
      cases values <;> cases v <;> cases typed
      case ints.int.refl values i =>
          apply Set.check_iff_select
          simp [Set.make, Set.contains, Query.Set.Values.i, toInt64_inj_iff]
      all_goals
        apply Set.check_iff_select
        simp [Set.make, Set.contains, Query.Set.Values.d, Query.Set.Values.s, Query.Set.Values.b]
  | range r =>
      cases r <;> cases v <;> cases typed
      case ints.int.refl r i =>
          simp only [object, Constraint.ValueType.check, Range.check, Range.make, Query.Range.i,
            Bool.and_eq_true, decide_eq_true_eq, ge_iff_le, toInt64_le_toInt64_iff]
          exact Iff.rfl
      all_goals
        exact Bool.and_eq_true_iff.trans (and_congr decide_eq_true_iff decide_eq_true_iff)

end Leaf

namespace Dsl

/-- A program runs the expressions and gives them to the constructor of a query. -/
def query (copyFrom : CopyFromMessage Double) (texts : List (Dsl Double)) (dm : DataModel) :
    Except String (Query.Model Double) :=
  (buildAll copyFrom texts).bind fun constraints => QueryModel.makeFor constraints dm

/-- The constraints at the leaves of an expression, with their attributes. -/
def constraints (text : Dsl Double) : List (Query.Constraint Double) :=
  ConstraintExpr.leaves (message text)

/-- A leaf is about an attribute of the data model that it fits. -/
def Admitted (dm : DataModel) (c : Query.Constraint Double) : Prop :=
  ∃ leaf : Leaf Double, c.constraint = leaf.object.kind ∧
    ∃ att ∈ dm.handle.attributes, att.name = c.attributeName ∧ leaf.Fits att.type

/-- The attribute of a leaf has a value that the leaf accepts. -/
def Met [Doubles Double] (i : Instance Double) (c : Query.Constraint Double) : Prop :=
  ∃ leaf : Leaf Double, c.constraint = leaf.object.kind ∧
    ∃ v, i.value c.attributeName = some v ∧ leaf.Accepts v

/-- The Boolean combination of its leaves, as an expression is written. -/
def Means [Doubles Double] (i : Instance Double) (text : Dsl Double) : Prop :=
  (ConstraintExpr.tree (message text)).Holds (Met i)

mutual

/-- The constraints of an expression have the objects at its leaves. -/
theorem exists_of_mem_constraints {c : Query.Constraint Double} : ∀ {text : Dsl Double},
    c ∈ (ConstraintExpr.tree (message text)).leaves → ∃ x ∈ leaves text, c.constraint = x.kind
  | .constraint attributeName x, inside => by
      rw [message, ConstraintExpr.tree, BoolTree.leaves_leaf, List.mem_singleton] at inside
      subst inside
      rw [leaves]
      exact ⟨x, List.mem_singleton_self x, rfl⟩
  | .not expr, inside => by
      rw [message, ConstraintExpr.tree, BoolTree.leaves_neg] at inside
      rw [leaves]
      exact exists_of_mem_constraints inside
  | .and lhs rhs, inside => by
      simp only [message, ConstraintExpr.tree, ConstraintExpr.trees, BoolTree.mem_leaves_all,
        List.mem_cons, List.not_mem_nil, or_false, exists_eq_or_imp, exists_eq_left] at inside
      rw [leaves]
      rcases inside with inside | inside
      · obtain ⟨x, there, same⟩ := exists_of_mem_constraints inside
        exact ⟨x, List.mem_append_left _ there, same⟩
      · obtain ⟨x, there, same⟩ := exists_of_mem_constraints inside
        exact ⟨x, List.mem_append_right _ there, same⟩
  | .or lhs rhs, inside => by
      simp only [message, ConstraintExpr.tree, ConstraintExpr.trees, BoolTree.mem_leaves_any,
        List.mem_cons, List.not_mem_nil, or_false, exists_eq_or_imp, exists_eq_left] at inside
      rw [leaves]
      rcases inside with inside | inside
      · obtain ⟨x, there, same⟩ := exists_of_mem_constraints inside
        exact ⟨x, List.mem_append_left _ there, same⟩
      · obtain ⟨x, there, same⟩ := exists_of_mem_constraints inside
        exact ⟨x, List.mem_append_right _ there, same⟩
  | .allOf first second rest, inside => by
      simp only [message, ConstraintExpr.tree, ConstraintExpr.trees, BoolTree.mem_leaves_all,
        List.mem_cons, exists_eq_or_imp] at inside
      rw [leaves, List.append_assoc]
      rcases inside with inside | inside | inside
      · obtain ⟨x, there, same⟩ := exists_of_mem_constraints inside
        exact ⟨x, List.mem_append_left _ there, same⟩
      · obtain ⟨x, there, same⟩ := exists_of_mem_constraints inside
        exact ⟨x, List.mem_append_right _ (List.mem_append_left _ there), same⟩
      · obtain ⟨x, there, same⟩ := exists_of_mem_constraintsAll inside
        exact ⟨x, List.mem_append_right _ (List.mem_append_right _ there), same⟩
  | .anyOf first second rest, inside => by
      simp only [message, ConstraintExpr.tree, ConstraintExpr.trees, BoolTree.mem_leaves_any,
        List.mem_cons, exists_eq_or_imp] at inside
      rw [leaves, List.append_assoc]
      rcases inside with inside | inside | inside
      · obtain ⟨x, there, same⟩ := exists_of_mem_constraints inside
        exact ⟨x, List.mem_append_left _ there, same⟩
      · obtain ⟨x, there, same⟩ := exists_of_mem_constraints inside
        exact ⟨x, List.mem_append_right _ (List.mem_append_left _ there), same⟩
      · obtain ⟨x, there, same⟩ := exists_of_mem_constraintsAll inside
        exact ⟨x, List.mem_append_right _ (List.mem_append_right _ there), same⟩

theorem exists_of_mem_constraintsAll {c : Query.Constraint Double} : ∀ {texts : List (Dsl Double)},
    (∃ tree ∈ ConstraintExpr.trees (messages texts), c ∈ tree.leaves) →
      ∃ x ∈ leavesAll texts, c.constraint = x.kind
  | [], ⟨_, inside, _⟩ => by
      rw [messages, ConstraintExpr.trees] at inside
      exact absurd inside List.not_mem_nil
  | text :: rest, ⟨tree, inside, leaf⟩ => by
      rw [messages, ConstraintExpr.trees, List.mem_cons] at inside
      rw [leavesAll]
      rcases inside with rfl | inside
      · obtain ⟨x, there, same⟩ := exists_of_mem_constraints leaf
        exact ⟨x, List.mem_append_left _ there, same⟩
      · obtain ⟨x, there, same⟩ := exists_of_mem_constraintsAll ⟨tree, inside, leaf⟩
        exact ⟨x, List.mem_append_right _ there, same⟩

end

/-- A connective with two operands at least is valid when its operands are. -/
theorem everyNode_parts {dm : Query.DataModel} {parts : List (BoolTree (Query.Constraint Double))}
    (two : 1 < parts.length)
    (each : ∀ part ∈ parts, part.everyNode (ConstraintExpr.validNode dm) = true) :
    (BoolTree.any parts).everyNode (ConstraintExpr.validNode dm) = true ∧
      (BoolTree.all parts).everyNode (ConstraintExpr.validNode dm) = true := by
  rw [BoolTree.everyNode_any, BoolTree.everyNode_all]
  simp only [ConstraintExpr.validNode, Bool.and_eq_true, decide_eq_true_eq, List.all_eq_true]
  exact ⟨⟨two, each⟩, two, each⟩

mutual

/-- The connectives of a written expression have operands enough, so that the validator only
looks at its leaves. -/
theorem everyNode_message {dm : Query.DataModel} : ∀ {text : Dsl Double},
    (∀ c ∈ constraints text, Constraint.valid c dm = true) →
      (ConstraintExpr.tree (message text)).everyNode (ConstraintExpr.validNode dm) = true
  | .constraint attributeName x, valid => by
      rw [message, ConstraintExpr.tree]
      apply valid
      rw [constraints, ConstraintExpr.leaves, message, ConstraintExpr.tree, BoolTree.leaves_leaf]
      exact List.mem_singleton_self _
  | .not expr, valid => by
      rw [constraints, ConstraintExpr.leaves, message, ConstraintExpr.tree,
        BoolTree.leaves_neg] at valid
      rw [message, ConstraintExpr.tree, BoolTree.everyNode_neg, everyNode_message valid]
      rfl
  | .and lhs rhs, valid => by
      rw [constraints, ConstraintExpr.leaves, message, ConstraintExpr.tree] at valid
      rw [message, ConstraintExpr.tree]
      simp only [ConstraintExpr.trees, BoolTree.mem_leaves_all, List.mem_cons, List.not_mem_nil,
        or_false, exists_eq_or_imp, exists_eq_left] at valid
      rw [ConstraintExpr.trees, ConstraintExpr.trees, ConstraintExpr.trees]
      refine (everyNode_parts (by simp) ?_).2
      intro part inside
      rcases List.mem_pair.mp inside with rfl | rfl
      · exact everyNode_message fun c leaf => valid c (Or.inl leaf)
      · exact everyNode_message fun c leaf => valid c (Or.inr leaf)
  | .or lhs rhs, valid => by
      rw [constraints, ConstraintExpr.leaves, message, ConstraintExpr.tree] at valid
      rw [message, ConstraintExpr.tree]
      simp only [ConstraintExpr.trees, BoolTree.mem_leaves_any, List.mem_cons, List.not_mem_nil,
        or_false, exists_eq_or_imp, exists_eq_left] at valid
      rw [ConstraintExpr.trees, ConstraintExpr.trees, ConstraintExpr.trees]
      refine (everyNode_parts (by simp) ?_).1
      intro part inside
      rcases List.mem_pair.mp inside with rfl | rfl
      · exact everyNode_message fun c leaf => valid c (Or.inl leaf)
      · exact everyNode_message fun c leaf => valid c (Or.inr leaf)
  | .allOf first second rest, valid => by
      rw [constraints, ConstraintExpr.leaves, message, ConstraintExpr.tree] at valid
      rw [message, ConstraintExpr.tree]
      simp only [ConstraintExpr.trees, BoolTree.mem_leaves_all, List.mem_cons,
        exists_eq_or_imp] at valid
      rw [ConstraintExpr.trees, ConstraintExpr.trees]
      refine (everyNode_parts (by simp) ?_).2
      intro part inside
      rcases List.mem_cons.mp inside with rfl | inside
      · exact everyNode_message fun c leaf => valid c (Or.inl leaf)
      rcases List.mem_cons.mp inside with rfl | inside
      · exact everyNode_message fun c leaf => valid c (Or.inr (Or.inl leaf))
      · exact everyNode_messages
          (fun tree there c leaf => valid c (Or.inr (Or.inr ⟨tree, there, leaf⟩))) part inside
  | .anyOf first second rest, valid => by
      rw [constraints, ConstraintExpr.leaves, message, ConstraintExpr.tree] at valid
      rw [message, ConstraintExpr.tree]
      simp only [ConstraintExpr.trees, BoolTree.mem_leaves_any, List.mem_cons,
        exists_eq_or_imp] at valid
      rw [ConstraintExpr.trees, ConstraintExpr.trees]
      refine (everyNode_parts (by simp) ?_).1
      intro part inside
      rcases List.mem_cons.mp inside with rfl | inside
      · exact everyNode_message fun c leaf => valid c (Or.inl leaf)
      rcases List.mem_cons.mp inside with rfl | inside
      · exact everyNode_message fun c leaf => valid c (Or.inr (Or.inl leaf))
      · exact everyNode_messages
          (fun tree there c leaf => valid c (Or.inr (Or.inr ⟨tree, there, leaf⟩))) part inside

theorem everyNode_messages {dm : Query.DataModel} : ∀ {texts : List (Dsl Double)},
    (∀ tree ∈ ConstraintExpr.trees (messages texts), ∀ c ∈ tree.leaves,
      Constraint.valid c dm = true) →
      ∀ tree ∈ ConstraintExpr.trees (messages texts),
        tree.everyNode (ConstraintExpr.validNode dm) = true
  | [], _, _, inside => by
      rw [messages, ConstraintExpr.trees] at inside
      exact absurd inside List.not_mem_nil
  | text :: rest, valid, tree, inside => by
      rw [messages, ConstraintExpr.trees] at valid inside
      rcases List.mem_cons.mp inside with rfl | inside
      · exact everyNode_message (valid _ List.mem_cons_self)
      · exact everyNode_messages (fun tree there => valid tree (List.mem_cons_of_mem _ there))
          tree inside

end

theorem messages_eq_map (texts : List (Dsl Double)) : messages texts = texts.map message := by
  induction texts with
  | nil => rw [messages, List.map_nil]
  | cons text rest ih => rw [messages, List.map_cons, ih]

section Written

variable {texts : List (Dsl Double)} {dm : DataModel} {c : Query.Constraint Double}

/-- Every constraint of a text comes from a leaf, if every object does. -/
theorem exists_leaf (written : ∀ x ∈ leavesAll texts, ∃ leaf : Leaf Double, x = leaf.object)
    {text : Dsl Double} (inside : text ∈ texts) (there : c ∈ constraints text) :
    ∃ leaf : Leaf Double, c.constraint = leaf.object.kind := by
  have found : ∃ tree ∈ ConstraintExpr.trees (messages texts), c ∈ tree.leaves := by
    rw [ConstraintExpr.trees_eq_map, messages_eq_map]
    exact ⟨_, List.mem_map_of_mem (List.mem_map_of_mem inside), there⟩
  obtain ⟨x, among, same⟩ := exists_of_mem_constraintsAll found
  obtain ⟨leaf, rfl⟩ := written x among
  exact ⟨leaf, same⟩

/-- The validator of a constraint asks whether its leaf is admitted. -/
theorem valid_iff_admitted (comes : ∃ leaf : Leaf Double, c.constraint = leaf.object.kind) :
    Constraint.valid c dm.handle = true ↔ Admitted dm c := by
  have byLeaf : ∀ leaf : Leaf Double, c.constraint = leaf.object.kind →
      (Constraint.valid c dm.handle = true ↔ ∃ att ∈ dm.handle.attributes,
        att.name = c.attributeName ∧ leaf.Fits att.type) := by
    intro leaf same
    have whole : c = ⟨c.attributeName, leaf.object.kind⟩ := by
      cases c
      cases same
      rfl
    rw [whole, Leaf.valid_iff]
    refine exists_congr fun att => ?_
    rw [dm.find_eq_some_iff, and_assoc]
  constructor
  · intro valid
    obtain ⟨leaf, same⟩ := comes
    exact ⟨leaf, same, (byLeaf leaf same).mp valid⟩
  · intro ⟨leaf, same, fits⟩
    exact (byLeaf leaf same).mpr fits

/-- A text is valid when its leaves are admitted. -/
theorem valid_message_iff {text : Dsl Double}
    (comes : ∀ c ∈ constraints text, ∃ leaf : Leaf Double, c.constraint = leaf.object.kind) :
    ConstraintExpr.valid dm.handle (message text) = true ↔
      ∀ c ∈ constraints text, Admitted dm c := by
  constructor
  · intro valid c inside
    exact (valid_iff_admitted (comes c inside)).mp
      (ConstraintExpr.valid_leaves dm.handle _ valid c inside)
  · intro admitted
    rw [ConstraintExpr.valid_eq_everyNode]
    apply everyNode_message
    intro c inside
    exact (valid_iff_admitted (comes c inside)).mpr (admitted c inside)

variable [Doubles Double]

/-- On an instance of the data model the evaluator of an admitted leaf decides whether the
leaf is met. -/
theorem check_iff_met {values : UnorderedMap String (VariantType Double)} {i : Instance Double}
    (instantiated : Instance.make dm values = .ok i)
    (comes : ∃ leaf : Leaf Double, c.constraint = leaf.object.kind)
    (valid : Constraint.valid c dm.handle = true) :
    Constraint.check c i = true ↔ Met i c := by
  have decides : ∀ leaf : Leaf Double, c.constraint = leaf.object.kind →
      ∀ v, i.value c.attributeName = some v →
        (Constraint.check c i = true ↔ leaf.Accepts v) := by
    intro leaf same v present
    have whole : c = ⟨c.attributeName, leaf.object.kind⟩ := by
      cases c
      cases same
      rfl
    rw [whole, Leaf.valid_iff] at valid
    obtain ⟨att, found, fits, _⟩ := valid
    obtain ⟨_, stored, conforms⟩ := Instance.make_conforms instantiated
    have kept := present
    rw [Instance.value, stored] at kept
    obtain ⟨att', found', typed⟩ := conforms _ v kept
    cases found.symm.trans found'
    rw [← leaf.check_iff (fits.trans (VariantType.type_eq_of_validate typed).symm)]
    rw [Constraint.check, present, ← checkValue_kind c.attributeName, ← whole]
  constructor
  · intro checked
    obtain ⟨leaf, same⟩ := comes
    cases present : i.value c.attributeName with
    | none =>
        rw [Constraint.check, present] at checked
        cases checked
    | some v => exact ⟨leaf, same, v, present, (decides leaf same v present).mp checked⟩
  · rintro ⟨leaf, same, v, present, accepts⟩
    exact (decides leaf same v present).mpr accepts

end Written

/-- What a query is when its texts are built: nothing is lost, and the constructor accepts it
if it is not empty and its leaves are admitted. -/
theorem query_eq_ok_iff (copyFrom : CopyFromMessage Double) {texts : List (Dsl Double)}
    {dm : DataModel} (written : ∀ x ∈ leavesAll texts, ∃ leaf : Leaf Double, x = leaf.object)
    (built : Query.Model Double) :
    query copyFrom texts dm = .ok built ↔
      texts ≠ [] ∧ (∀ text ∈ texts, ∀ c ∈ constraints text, Admitted dm c) ∧
        built = ⟨messages texts, some dm.handle⟩ := by
  have noDistance : ∀ x ∈ leavesAll texts, x.isDistance = false := by
    intro x inside
    obtain ⟨leaf, rfl⟩ := written x inside
    cases leaf <;> rfl
  have validAll : (messages texts).all (ConstraintExpr.valid dm.handle) = true ↔
      ∀ text ∈ texts, ∀ c ∈ constraints text, Admitted dm c := by
    rw [messages_eq_map, List.all_map, List.all_eq_true]
    refine forall_congr' fun text => imp_congr_right fun inside => ?_
    exact valid_message_iff fun c there => exists_leaf written inside there
  rw [query, (buildAll_eq_messages_iff copyFrom texts).mpr noDistance]
  change QueryModel.makeFor (messages texts) dm = _ ↔ _
  rw [QueryModel.makeFor, QueryModel.make]
  cases texts with
  | nil =>
      rw [messages]
      exact iff_of_false nofun fun accepted => accepted.1 rfl
  | cons text rest =>
      have notEmpty : ¬ (messages (text :: rest)).length < 1 := by
        rw [messages_eq_map, List.length_map, List.length_cons]
        omega
      rw [if_neg notEmpty, ← validAll]
      change (if _ then _ else _) = _ ↔ _
      split
      case isTrue valid =>
        constructor
        · intro accepted
          cases accepted
          exact ⟨List.cons_ne_nil _ _, valid, rfl⟩
        · rintro ⟨_, _, rfl⟩
          rfl
      case isFalse invalid =>
        constructor
        · intro accepted
          cases accepted
        · intro ⟨_, valid, _⟩
          exact absurd valid invalid

/-- The evaluator of a query decides the conjunction of its texts. -/
theorem check_iff_means [Doubles Double] (copyFrom : CopyFromMessage Double)
    {texts : List (Dsl Double)} {dm : DataModel} {built : Query.Model Double}
    {values : UnorderedMap String (VariantType Double)} {i : Instance Double}
    (written : ∀ x ∈ leavesAll texts, ∃ leaf : Leaf Double, x = leaf.object)
    (accepted : query copyFrom texts dm = .ok built)
    (instantiated : Instance.make dm values = .ok i) :
    QueryModel.check built i = true ↔ ∀ text ∈ texts, Means i text := by
  obtain ⟨_, admitted, rfl⟩ := (query_eq_ok_iff copyFrom written built).mp accepted
  have sameModel : i.model = dm.handle := (Instance.make_conforms instantiated).1
  have named : (dm.handle.name != i.model.name) = false := by
    rw [sameModel, bne_self_eq_false]
  change (if (dm.handle.name != i.model.name) = true then false
    else And.check i (messages texts)) = true ↔ _
  rw [named, if_neg Bool.false_ne_true, ConstraintExpr.and_check_eq_evalAll,
    ConstraintExpr.trees_eq_map]
  change BoolTree.eval _ (.all _) = true ↔ _
  rw [messages_eq_map, BoolTree.eval_all, List.all_map, List.all_map, List.all_eq_true]
  refine forall_congr' fun text => imp_congr_right fun inside => ?_
  apply BoolTree.eval_iff_holds
  intro c leaf
  have comes := exists_leaf written inside leaf
  exact check_iff_met instantiated comes
    ((valid_iff_admitted comes).mpr (admitted text inside c leaf))

/-- What is read back of an instance matches like the instance itself. -/
theorem check_ofMessage [Doubles Double] {dm : DataModel}
    {values : UnorderedMap String (VariantType Double)} {inst : Instance Double}
    (made : Instance.make dm values = .ok inst) (query : Query.Model Double) :
    QueryModel.check query (Instance.ofMessage inst.handle) = QueryModel.check query inst := by
  obtain ⟨_, sameValues, _⟩ := Instance.make_conforms made
  have sameName : (Instance.ofMessage inst.handle).model.name = inst.model.name := rfl
  refine QueryModel.check_congr sameName (fun name => ?_) query
  rw [Instance.value, Instance.value, Instance.lookup_ofMessage made, sameValues]

/-- **A query means what is written.** Texts whose leaves compare with constants make a query
for a data model exactly when there is one at least and every leaf is about an attribute of
the data model that it fits, and the query has the messages of the texts. On every instance
built for the data model the evaluator then decides the conjunction of the texts, each the
Boolean combination of its comparisons. -/
theorem query_meaning [Doubles Double] (copyFrom : CopyFromMessage Double)
    (texts : List (Dsl Double)) (dm : DataModel)
    (written : ∀ x ∈ leavesAll texts, ∃ leaf : Leaf Double, x = leaf.object) :
    (∀ built, query copyFrom texts dm = .ok built ↔
      texts ≠ [] ∧ (∀ text ∈ texts, ∀ c ∈ constraints text, Admitted dm c) ∧
        built = ⟨messages texts, some dm.handle⟩) ∧
    ∀ built values i, query copyFrom texts dm = .ok built → Instance.make dm values = .ok i →
      (QueryModel.check built i = true ↔ ∀ text ∈ texts, Means i text) := by
  refine ⟨query_eq_ok_iff copyFrom written, ?_⟩
  intro built values i accepted instantiated
  exact check_iff_means copyFrom written accepted instantiated

section Person

attribute [local instance] wholeDoubles

/-- Adults with one of two names or with a name from A to C. -/
def namedAdults : List (Dsl Int) :=
  [.or (.constraint "firstName" (Leaf.object
      (.set .isIn (.strings (AList.insert "Alan" () (AList.insert "Grace" () ∅))))))
    (.constraint "firstName" (Leaf.object (.range (.strings ⟨"A", "C"⟩)))),
   .not (.constraint "age" (Leaf.object (.relation .ltEq (.int 18))))]

theorem query_meaning_namedAdults : ∃ built i,
    query copyChecked namedAdults person = .ok built ∧ Instance.make person alan = .ok i ∧
      QueryModel.check built i = true ∧
      (QueryModel.check built i = true ↔ ∀ text ∈ namedAdults, Means i text) := by
  refine ⟨_, _, rfl, rfl, by decide,
    (query_meaning copyChecked namedAdults person ?_).2 _ alan _ rfl rfl⟩
  intro x inside
  simp only [namedAdults, leavesAll, leaves, List.mem_append, List.mem_singleton,
    List.not_mem_nil, or_false] at inside
  rcases inside with (rfl | rfl) | rfl
  · exact ⟨_, rfl⟩
  · exact ⟨_, rfl⟩
  · exact ⟨_, rfl⟩

end Person

end Dsl

end OefCore
