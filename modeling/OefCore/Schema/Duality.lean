import OefCore.Schema.Acceptance
import OefCore.Schema.TypeSoundness

/-! # Dual expressions

The dual of an expression has `And` for `Or`, and at its leaves the complementary
operator of a relation or of a set. A `Not` stays over the dual of its operand.

Complementary operators give complementary answers on every value, whatever its type
(`OefCore.Constraint.checkValue_dual`): the comparisons of every type are total, those
of locations included, which look at the latitude only. An attribute without a value
makes a leaf and its dual false. When the leaves are about required attributes, which
the validating constructor guarantees, the dual of a valid expression is its negation
(`OefCore.ConstraintExpr.dual_negates`).
-/

namespace OefCore

variable {Double : Type}

namespace Relation

/-- The operator that holds when the given one does not. -/
def dualOp : Query.Relation.Operator → Query.Relation.Operator
  | .eq => .notEq
  | .notEq => .eq
  | .lt => .gtEq
  | .gtEq => .lt
  | .gt => .ltEq
  | .ltEq => .gt

def dual (rel : Query.Relation Double) : Query.Relation Double := { rel with op := dualOp rel.op }

/-- The comparison of a type with a total order is complemented. -/
theorem checkValue_dual {T : Type} [DecidableEq T] [LT T] [DecidableLT T] [LE T] [DecidableLE T]
    (total : ∀ first second : T, ¬ first < second ↔ second ≤ first) (rel : Query.Relation Double)
    (s v : T) : checkValue (dual rel) s v = !checkValue rel s v := by
  obtain ⟨op, val⟩ := rel
  simp only [dual, checkValue]
  cases op with
  | eq => exact decide_not
  | notEq => simp only [dualOp, ne_eq, decide_not, Bool.not_not]
  | lt =>
      rw [dualOp, ← decide_not, decide_eq_decide]
      exact (total v s).symm
  | ltEq =>
      rw [dualOp, ← decide_not, decide_eq_decide, ← total s v, not_not]
  | gt =>
      rw [dualOp, ← decide_not, decide_eq_decide]
      exact (total s v).symm
  | gtEq =>
      rw [dualOp, ← decide_not, decide_eq_decide, ge_iff_le, ← total v s, not_not]

/-- A relation and its dual give opposite answers on every value. -/
theorem check_dual [Doubles Double] (rel : Query.Relation Double) (v : VariantType Double) :
    check (dual rel) v = !check rel v := by
  cases v with
  | int i => exact checkValue_dual (fun _ _ => Int32.not_lt) rel _ i
  | double d => exact checkValue_dual (fun _ _ => not_lt) rel _ d
  | string s => exact checkValue_dual (fun _ _ => not_lt) rel _ s
  | bool b => exact checkValue_dual (fun _ _ => not_lt) rel _ b
  | location l =>
      apply checkValue_dual
      intro first second
      change ¬ first.lat < second.lat ↔ second.lat ≤ first.lat
      exact not_lt

end Relation

namespace Set

def dualOp : Query.Set.Operator → Query.Set.Operator
  | .isIn => .notIn
  | .notIn => .isIn

def dual (set : Query.Set Double) : Query.Set Double := { set with op := dualOp set.op }

/-- A set and its dual give opposite answers on every value. -/
theorem check_dual [Doubles Double] (set : Query.Set Double) (v : VariantType Double) :
    check (dual set) v = !check set v := by
  obtain ⟨op, vals⟩ := set
  cases op with
  | isIn => rfl
  | notIn => exact (Bool.not_not _).symm

end Set

namespace Constraint

/-- The dual of a leaf. Ranges and distances have no complementary operator. -/
def dual (constraint : Query.Constraint Double) : Query.Constraint Double :=
  match constraint.constraint with
  | .kSet set => { constraint with constraint := .kSet (Set.dual set) }
  | .kRelation relation => { constraint with constraint := .kRelation (Relation.dual relation) }
  | .kRange _ | .kDistance _ | .constraintNotSet => constraint

/-- A relation or a set. -/
def Comparing (constraint : Query.Constraint Double) : Prop :=
  (∃ relation, constraint.constraint = .kRelation relation) ∨
    ∃ set, constraint.constraint = .kSet set

/-- The constrained attribute is one that the data model marks as required. -/
def OnRequired (dm : Query.DataModel) (constraint : Query.Constraint Double) : Prop :=
  ∃ att ∈ dm.attributes, att.name = constraint.attributeName ∧ att.required = true

theorem attributeName_dual (constraint : Query.Constraint Double) :
    (dual constraint).attributeName = constraint.attributeName := by
  unfold dual
  cases constraint.constraint <;> rfl

variable [Doubles Double]

/-- A relation or a set gives the opposite answer of its dual on every value. -/
theorem checkValue_dual {constraint : Query.Constraint Double} (comparing : Comparing constraint)
    (v : VariantType Double) : checkValue (dual constraint) v = !checkValue constraint v := by
  rcases comparing with ⟨relation, kind⟩ | ⟨set, kind⟩
  · simp only [dual, kind, checkValue]
    exact Relation.check_dual relation v
  · simp only [dual, kind, checkValue]
    exact Set.check_dual set v

/-- On an instance that has a value for the attribute the dual of a leaf is its
negation. -/
theorem check_dual {constraint : Query.Constraint Double} (comparing : Comparing constraint)
    {i : Instance Double} (present : i.value constraint.attributeName ≠ none) :
    check (dual constraint) i = !check constraint i := by
  obtain ⟨v, stored⟩ := Option.ne_none_iff_exists'.mp present
  rw [check, check, attributeName_dual, stored]
  exact checkValue_dual comparing v

end Constraint

namespace ConstraintExpr

mutual

/-- The dual of an expression. -/
def dual : Query.ConstraintExpr Double → Query.ConstraintExpr Double
  | .kOr expr => .kAnd (duals expr)
  | .kAnd expr => .kOr (duals expr)
  | .kNot expr => .kNot (dual expr)
  | .kConstraint constraint => .kConstraint (Constraint.dual constraint)
  | .expressionNotSet => .expressionNotSet

def duals : List (Query.ConstraintExpr Double) → List (Query.ConstraintExpr Double)
  | [] => []
  | c :: rest => dual c :: duals rest

end

mutual

/-- The tree of the dual is the dual of the tree. -/
theorem tree_dual : ∀ e : Query.ConstraintExpr Double,
    tree (dual e) = BoolTree.dual Constraint.dual (tree e)
  | .kOr expr => by
      rw [dual, tree, tree, BoolTree.dual, trees_duals expr]
  | .kAnd expr => by
      rw [dual, tree, tree, BoolTree.dual, trees_duals expr]
  | .kNot expr => by
      rw [dual, tree, tree, BoolTree.dual_neg, tree_dual expr]
  | .kConstraint constraint => by
      rw [dual, tree, tree, BoolTree.dual_leaf]
  | .expressionNotSet => by
      rw [dual, tree, BoolTree.dual_never]

theorem trees_duals : ∀ expr : List (Query.ConstraintExpr Double),
    trees (duals expr) = BoolTree.dualList Constraint.dual (trees expr)
  | [] => by
      rw [duals, trees, BoolTree.dualList]
  | c :: rest => by
      rw [duals, trees, trees, BoolTree.dualList, tree_dual c, trees_duals rest]

end

/-- A valid expression has no unset node. -/
theorem neverFree_of_valid {dm : Query.DataModel} {e : Query.ConstraintExpr Double}
    (accepted : valid dm e = true) :
    (tree e).everyNode (fun node => !node.isNever) = true := by
  rw [valid_eq_everyNode] at accepted
  apply BoolTree.everyNode_imp _ _ accepted
  intro node kept
  cases node with
  | any | all | neg | leaf => rfl
  | never => simp [validNode] at kept

variable [Doubles Double]

/-- **Negation duality.** On a valid expression whose leaves are relations and sets
on required attributes, and on an instance the validating constructor accepts for
the same data model, the dual gives the opposite answer. -/
theorem dual_negates (dm : DataModel) (e : Query.ConstraintExpr Double)
    (values : UnorderedMap String (VariantType Double)) (i : Instance Double)
    (accepted : valid dm.handle e = true) (comparing : ∀ c ∈ leaves e, Constraint.Comparing c)
    (required : ∀ c ∈ leaves e, Constraint.OnRequired dm.handle c)
    (built : Instance.make dm values = .ok i) : check i (dual e) = !check i e := by
  have conforming := Instance.conforming_of_make built
  obtain ⟨_, stored, _⟩ := Instance.make_conforms built
  rw [check_eq_eval, check_eq_eval, tree_dual]
  apply BoolTree.eval_dual _ (neverFree_of_valid accepted)
  intro c inside
  apply Constraint.check_dual (comparing c inside)
  obtain ⟨att, inModel, named, isRequired⟩ := required c inside
  obtain ⟨v, present⟩ := conforming.complete att inModel isRequired
  rw [Instance.value, stored, ← named, present]
  exact Option.some_ne_none v

end ConstraintExpr

section Person

attribute [local instance] wholeDoubles

/-- Persons whose first name is Alan, or neither from A to C nor after Z. -/
def alanOrNoLetter : Query.ConstraintExpr Int :=
  .kOr [.kConstraint ⟨"firstName", .kSet ⟨.isIn, .kS ["Alan"]⟩⟩,
    .kNot (.kOr [.kConstraint ⟨"firstName", .kRelation ⟨.ltEq, .kS "C"⟩⟩,
      .kConstraint ⟨"firstName", .kRelation ⟨.gt, .kS "Z"⟩⟩])]

theorem ConstraintExpr.dual_negates_person : ∃ i, Instance.make person alan = .ok i ∧
    ConstraintExpr.check i alanOrNoLetter = true ∧
      ConstraintExpr.check i (ConstraintExpr.dual alanOrNoLetter) =
        !ConstraintExpr.check i alanOrNoLetter := by
  refine ⟨_, rfl, by decide, ConstraintExpr.dual_negates person alanOrNoLetter alan _ (by decide)
    ?_ ?_ rfl⟩
  · intro c inside
    have leaves : c ∈ [_, _, _] := inside
    simp only [List.mem_cons, List.not_mem_nil, or_false] at leaves
    rcases leaves with rfl | rfl | rfl
    · exact Or.inr ⟨_, rfl⟩
    · exact Or.inl ⟨_, rfl⟩
    · exact Or.inl ⟨_, rfl⟩
  · intro c inside
    have leaves : c ∈ [_, _, _] := inside
    simp only [List.mem_cons, List.not_mem_nil, or_false] at leaves
    rcases leaves with rfl | rfl | rfl <;> exact ⟨_, List.mem_cons_self, rfl, rfl⟩

end Person

end OefCore
