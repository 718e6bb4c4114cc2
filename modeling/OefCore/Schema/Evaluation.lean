import OefCore.Schema.InstanceEquality

/-! # Comparing evaluations

Two results about the evaluators of expressions that hold for every message, a
malformed one included.

An attribute without a value makes every leaf false, a negative operator as well. A
query without `Not` therefore keeps its matches when an instance gets more values
(`OefCore.QueryModel.match_kept`).

The evaluator for a single value and the one for an instance are two copies of the
same functions. Both evaluate the tree of the expression, so that they agree when
all leaves name the attribute that has the value
(`OefCore.QueryModel.evaluators_agree`).
-/

namespace OefCore

variable {Double : Type}

namespace ConstraintExpr

/-- An expression that contains no `Not`, at any depth. -/
def NotFree (e : Query.ConstraintExpr Double) : Prop :=
  (tree e).everyNode (fun node => !node.isNeg) = true

variable [Doubles Double]

mutual

/-- The evaluator for a single value evaluates the tree of the expression. -/
theorem checkValue_eq_eval (v : VariantType Double) : ∀ e : Query.ConstraintExpr Double,
    checkValue v e = (tree e).eval fun c => Constraint.checkValue c v
  | .kOr expr => by
      rw [checkValue, tree, BoolTree.eval]
      exact or_checkValue_eq_evalAny v expr
  | .kAnd expr => by
      rw [checkValue, tree, BoolTree.eval]
      exact and_checkValue_eq_evalAll v expr
  | .kNot expr => by
      rw [checkValue, tree, BoolTree.eval, checkValue_eq_eval v expr]
  | .kConstraint constraint => by
      rw [checkValue, tree, BoolTree.eval]
  | .expressionNotSet => by
      rw [checkValue, tree, BoolTree.eval]

theorem or_checkValue_eq_evalAny (v : VariantType Double) :
    ∀ expr : List (Query.ConstraintExpr Double),
      Or.checkValue v expr = BoolTree.evalAny (fun c => Constraint.checkValue c v) (trees expr)
  | [] => by
      rw [Or.checkValue, trees, BoolTree.evalAny]
  | c :: rest => by
      rw [Or.checkValue, trees, BoolTree.evalAny, checkValue_eq_eval v c,
        or_checkValue_eq_evalAny v rest]
      cases (tree c).eval fun c => Constraint.checkValue c v <;> rfl

theorem and_checkValue_eq_evalAll (v : VariantType Double) :
    ∀ expr : List (Query.ConstraintExpr Double),
      And.checkValue v expr = BoolTree.evalAll (fun c => Constraint.checkValue c v) (trees expr)
  | [] => by
      rw [And.checkValue, trees, BoolTree.evalAll]
  | c :: rest => by
      rw [And.checkValue, trees, BoolTree.evalAll, checkValue_eq_eval v c,
        and_checkValue_eq_evalAll v rest]
      cases (tree c).eval fun c => Constraint.checkValue c v <;> rfl

end

/-- The constraints of a query are evaluated one by one, like the parts of an `And`. -/
theorem and_checkValue_eq_all (v : VariantType Double) (expr : List (Query.ConstraintExpr Double)) :
    And.checkValue v expr = expr.all (checkValue v) := by
  induction expr with
  | nil => rw [And.checkValue, List.all_nil]
  | cons c rest ih =>
      rw [And.checkValue, List.all_cons, ih]
      cases checkValue v c <;> rfl

theorem or_checkValue_eq_any (v : VariantType Double) (expr : List (Query.ConstraintExpr Double)) :
    Or.checkValue v expr = expr.any (checkValue v) := by
  induction expr with
  | nil => rw [Or.checkValue, List.any_nil]
  | cons c rest ih =>
      rw [Or.checkValue, List.any_cons, ih]
      cases checkValue v c <;> rfl

theorem and_check_eq_all (i : Instance Double) (expr : List (Query.ConstraintExpr Double)) :
    And.check i expr = expr.all (check i) := by
  induction expr with
  | nil => rw [And.check, List.all_nil]
  | cons c rest ih =>
      rw [And.check, List.all_cons, ih]
      cases check i c <;> rfl

/-! ### More values -/

/-- A leaf that matches an instance matches one with the same values and more. -/
theorem constraint_check_mono {i j : Instance Double}
    (more : ∀ name v, i.value name = some v → j.value name = some v)
    {c : Query.Constraint Double} (matched : Constraint.check c i = true) :
    Constraint.check c j = true := by
  unfold Constraint.check at matched ⊢
  cases stored : i.value c.attributeName with
  | none => simp [stored] at matched
  | some v =>
      rw [stored] at matched
      rw [more _ v stored]
      exact matched

/-- An expression without `Not` keeps its matches. -/
theorem check_mono {i j : Instance Double}
    (more : ∀ name v, i.value name = some v → j.value name = some v)
    {e : Query.ConstraintExpr Double} (notFree : NotFree e) (matched : check i e = true) :
    check j e = true := by
  rw [check_eq_eval] at matched ⊢
  apply BoolTree.eval_mono _ notFree _ matched
  exact fun c _ => constraint_check_mono more

/-! ### Single values -/

/-- The evaluator of a leaf for an instance looks up the value and goes on with the
one for single values. -/
theorem constraint_checkValue_eq_check {i : Instance Double} {v : VariantType Double}
    {c : Query.Constraint Double} (present : i.value c.attributeName = some v) :
    Constraint.checkValue c v = Constraint.check c i := by
  rw [Constraint.check, present]

/-- The evaluators agree on an expression about one attribute. -/
theorem checkValue_eq_check {a : String} {v : VariantType Double} {i : Instance Double}
    (present : i.value a = some v) {e : Query.ConstraintExpr Double}
    (named : ∀ c ∈ leaves e, c.attributeName = a) : checkValue v e = check i e := by
  rw [checkValue_eq_eval, check_eq_eval]
  apply BoolTree.eval_congr
  intro c inside
  apply constraint_checkValue_eq_check
  rw [named c inside, present]

end ConstraintExpr

namespace QueryModel

variable [Doubles Double]

/-- **Adding information never loses a match.** A query whose constraints contain no
`Not` matches every instance with the same model name that has all the values of an
instance it matches. -/
theorem match_kept (q : Query.Model Double)
    (notFree : ∀ e ∈ q.constraints, ConstraintExpr.NotFree e)
    (i j : Instance Double) (named : i.model.name = j.model.name)
    (more : ∀ name v, i.value name = some v → j.value name = some v) (matched : check q i = true) :
    check q j = true := by
  have constraints : And.check i q.constraints = true → And.check j q.constraints = true := by
    rw [ConstraintExpr.and_check_eq_all, ConstraintExpr.and_check_eq_all, List.all_eq_true,
      List.all_eq_true]
    intro all e inside
    exact ConstraintExpr.check_mono more (notFree e inside) (all e inside)
  unfold check at matched ⊢
  rw [← named]
  cases model : q.model with
  | none =>
      rw [model] at matched
      exact constraints matched
  | some dm =>
      simp only [model] at matched ⊢
      by_cases same : dm.name = i.model.name
      · simp only [same, bne_self_eq_false, Bool.false_eq_true, ↓reduceIte] at matched ⊢
        exact constraints matched
      · simp [same] at matched

/-- **The single-value evaluator agrees with the instance evaluator** on every
expression whose leaves all name one attribute, for an instance that has the value
for it, and so do the evaluators of a query of such expressions without a data
model. -/
theorem evaluators_agree (a : String) (v : VariantType Double) (i : Instance Double)
    (present : i.value a = some v) :
    (∀ e, (∀ c ∈ ConstraintExpr.leaves e, c.attributeName = a) →
        ConstraintExpr.checkValue v e = ConstraintExpr.check i e) ∧
      ∀ q : Query.Model Double, q.model = none →
        (∀ e ∈ q.constraints, ∀ c ∈ ConstraintExpr.leaves e, c.attributeName = a) →
          checkValue q v = check q i := by
  refine ⟨fun e named => ConstraintExpr.checkValue_eq_check present named, ?_⟩
  intro q model named
  rw [checkValue, check, model, ConstraintExpr.and_checkValue_eq_all]
  change _ = And.check i q.constraints
  rw [ConstraintExpr.and_check_eq_all, Bool.eq_iff_iff, List.all_eq_true, List.all_eq_true]
  apply forall₂_congr
  intro e inside
  rw [ConstraintExpr.checkValue_eq_check present (named e inside)]

section Person

attribute [local instance] wholeDoubles

/-- Persons with another first name than Ada, or born near a place. -/
def notAda : Query.Model Int where
  constraints := [.kOr [.kConstraint ⟨"firstName", .kSet ⟨.notIn, .kS ["Ada"]⟩⟩,
    .kConstraint ⟨"birth_place", .kDistance ⟨⟨0, 0⟩, 1⟩⟩]]
  model := some person.handle

/-- What is known about a person who is known by name is known about the full
description as well. -/
theorem match_kept_alan : ∃ named full, Instance.make person Instance.alanNamed = .ok named ∧
    Instance.make person alan = .ok full ∧ check notAda full = true := by
  refine ⟨⟨⟨person.handle, [⟨"firstName", .kS "Alan"⟩]⟩, Instance.alanNamed⟩, _, rfl, rfl,
    match_kept notAda ?_ ⟨⟨person.handle, [⟨"firstName", .kS "Alan"⟩]⟩, Instance.alanNamed⟩ _ rfl
      ?_ (by decide)⟩
  · intro e inside
    rw [List.mem_singleton.mp inside]
    rfl
  · intro name v stored
    change Instance.alanNamed.lookup name = some v at stored
    rw [Instance.alanNamed, UnorderedMap.lookup_insert_eq_ite] at stored
    split at stored
    · subst name
      exact stored
    · cases stored

/-- Ages that are not 42, or nothing at all: an empty conjunction, an empty
disjunction and an unset node under connectives. -/
def notFortyTwo : Query.Model Int where
  constraints := [.kNot (.kOr [.kConstraint ⟨"age", .kRelation ⟨.eq, .kI 42⟩⟩, .kOr [],
    .expressionNotSet]), .kAnd []]
  model := none

theorem evaluators_agree_alan : ∃ i, Instance.make person alan = .ok i ∧
    checkValue notFortyTwo (.int 42) = check notFortyTwo i := by
  refine ⟨_, rfl, (evaluators_agree "age" (.int 42) _ rfl).2 notFortyTwo rfl ?_⟩
  intro e inside c leaf
  rcases List.mem_cons.mp inside with rfl | inside
  · have leaf : c ∈ [_] := leaf
    rw [List.mem_singleton.mp leaf]
  · rw [List.mem_singleton.mp inside] at leaf
    exact (List.not_mem_nil leaf).elim

end Person

end QueryModel

end OefCore
