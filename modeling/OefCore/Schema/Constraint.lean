import Mathlib.Data.String.Basic
import OefCore.Lib.BoolTree
import OefCore.Schema.Instance

/-! # Constraints and their evaluators

The classes `Relation`, `Set`, `Distance`, `Range`, `Constraint`,
`ConstraintExpr` and `QueryModel` of `schema.hpp` and `schema.cpp`: each has a
validator against the type of an attribute and an evaluator, which dispatches on
the type of the value and reads the constant of that type out of the message.
The evaluator comes twice, for a single value (`checkValue`) and for an instance
(`check`).

A constraint expression is a tree of connectives over constraints
(`OefCore.ConstraintExpr.tree`); its evaluator is the evaluation of the tree
(`OefCore.ConstraintExpr.check_eq_eval`), and a valid expression has valid
leaves (`OefCore.ConstraintExpr.valid_leaves`).
-/

namespace OefCore

variable {Double : Type}

namespace Location

/-! Locations compare by latitude. -/

instance [LT Double] : LT (Location Double) := ⟨fun left right => left.lat < right.lat⟩

instance [LE Double] : LE (Location Double) := ⟨fun left right => left.lat ≤ right.lat⟩

instance [LT Double] [DecidableLT Double] : DecidableLT (Location Double) :=
  fun left right => inferInstanceAs (Decidable (left.lat < right.lat))

instance [LE Double] [DecidableLE Double] : DecidableLE (Location Double) :=
  fun left right => inferInstanceAs (Decidable (left.lat ≤ right.lat))

end Location

namespace Relation

/-! The instances of the template `Relation::get`. -/

def getInt (rel : Query.Relation Double) : Int32 := rel.val.i.toInt32

def getDouble [Zero Double] (rel : Query.Relation Double) : Double := rel.val.d

def getString (rel : Query.Relation Double) : String := rel.val.s

def getBool (rel : Query.Relation Double) : Bool := rel.val.b

def getLocation [Zero Double] (rel : Query.Relation Double) : Location Double := rel.val.l

/-- `Relation::check_value`, with the constant `s` that `get` returned. -/
def checkValue {T : Type} [DecidableEq T] [LT T] [DecidableLT T] [LE T] [DecidableLE T]
    (rel : Query.Relation Double) (s v : T) : Bool :=
  match rel.op with
  | .eq => decide (s = v)
  | .notEq => decide (s ≠ v)
  | .lt => decide (v < s)
  | .ltEq => decide (v ≤ s)
  | .gt => decide (v > s)
  | .gtEq => decide (v ≥ s)

def valid (rel : Query.Relation Double) (t : Query.AttributeType) : Bool :=
  let equal := rel.op == .eq || rel.op == .notEq
  match rel.val with
  | .kS _ => t == .string
  | .kI _ => t == .int
  | .kD _ => t == .double
  | .kL _ => t == .location && equal
  | .kB _ => t == .bool && equal
  | .valueNotSet => false

def check [Doubles Double] (rel : Query.Relation Double) : VariantType Double → Bool
  | .int i => checkValue rel (getInt rel) i
  | .double d => checkValue rel (getDouble rel) d
  | .string s => checkValue rel (getString rel) s
  | .bool b => checkValue rel (getBool rel) b
  | .location l => checkValue rel (getLocation rel) l

end Relation

namespace Set

def valid (set : Query.Set Double) (t : Query.AttributeType) : Bool :=
  match set.vals with
  | .kS _ => t == .string
  | .kI _ => t == .int
  | .kD _ => t == .double
  | .kL _ => t == .location
  | .kB _ => t == .bool
  | .valuesNotSet => false

/-- The match of `Set::check`: whether the list read for the type of the value
contains it. -/
def contains [Doubles Double] (vals : Query.Set.Values Double) : VariantType Double → Bool
  | .int i => vals.i.any fun val => val == i.toInt64
  | .double d => vals.d.any fun val => decide (val = d)
  | .string st => vals.s.any fun val => val == st
  | .bool b => vals.b.any fun val => val == b
  | .location l => vals.l.any fun val => decide (l = val)

def check [Doubles Double] (set : Query.Set Double) (v : VariantType Double) : Bool :=
  let res := contains set.vals v
  if set.op == .notIn then !res else res

end Set

namespace Distance

def valid (_dist : Query.Distance Double) (t : Query.AttributeType) : Bool := t == .location

def check [Doubles Double] (distance : Query.Distance Double) : VariantType Double → Bool
  | .int _ => false
  | .double _ => false
  | .string _ => false
  | .bool _ => false
  | .location l => decide (Doubles.distance distance.center l ≤ distance.distance)

end Distance

namespace Range

/-- `Range::min_max`: the smaller and the larger of two doubles. -/
def minMax [Doubles Double] (a b : Double) : Double × Double :=
  if a < b then (a, b) else (b, a)

def valid (range : Query.Range Double) (t : Query.AttributeType) : Bool :=
  match range with
  | .kS _ => t == .string
  | .kI _ => t == .int
  | .kD _ => t == .double
  | .kL _ => t == .location
  | .pairNotSet => false

def check [Doubles Double] (range : Query.Range Double) : VariantType Double → Bool
  | .int i =>
      let p := range.i
      decide (i.toInt64 ≥ p.first) && decide (i.toInt64 ≤ p.second)
  | .double d =>
      let p := range.d
      decide (d ≥ p.first) && decide (d ≤ p.second)
  | .string s =>
      let p := range.s
      decide (s ≥ p.first) && decide (s ≤ p.second)
  | .location s =>
      let p := range.l
      let (minLat, maxLat) := minMax p.first.lat p.second.lat
      let (minLon, maxLon) := minMax p.first.lon p.second.lon
      decide (s.lat ≥ minLat) && decide (s.lat ≤ maxLat) && decide (s.lon ≥ minLon) &&
        decide (s.lon ≤ maxLon)
  | .bool _ => false

end Range

namespace Constraint

/-- The overload of `Constraint::check` for a value. -/
def checkValue [Doubles Double] (constraint : Query.Constraint Double)
    (v : VariantType Double) : Bool :=
  match constraint.constraint with
  | .kSet set => Set.check set v
  | .kRange range => Range.check range v
  | .kRelation relation => Relation.check relation v
  | .kDistance distance => Distance.check distance v
  | .constraintNotSet => false

def valid (constraint : Query.Constraint Double) (dm : Query.DataModel) : Bool :=
  match dm.attributes.find? fun a => constraint.attributeName == a.name with
  | none => false
  | some att =>
      match constraint.constraint with
      | .kSet set => Set.valid set att.type
      | .kRange range => Range.valid range att.type
      | .kRelation relation => Relation.valid relation att.type
      | .kDistance distance => Distance.valid distance att.type
      | .constraintNotSet => false

/-- The overload of `Constraint::check` for an instance. -/
def check [Doubles Double] (constraint : Query.Constraint Double) (i : Instance Double) : Bool :=
  match i.value constraint.attributeName with
  | none => false
  | some v => checkValue constraint v

end Constraint

/-! The evaluators of `ConstraintExpr`, `Or` and `And`; `Not` is written in the
case of `ConstraintExpr` that calls it. -/

mutual

def ConstraintExpr.valid (dm : Query.DataModel) : Query.ConstraintExpr Double → Bool
  | .kOr expr => Or.valid dm expr.length expr
  | .kAnd expr => And.valid dm expr.length expr
  | .kNot expr => ConstraintExpr.valid dm expr
  | .kConstraint constraint => Constraint.valid constraint dm
  | .expressionNotSet => false

/-- The loop of `Or::valid`, which ends by comparing the size of the message. -/
def Or.valid (dm : Query.DataModel) (exprSize : Nat) : List (Query.ConstraintExpr Double) → Bool
  | [] => decide (exprSize > 1)
  | c :: rest => if !ConstraintExpr.valid dm c then false else Or.valid dm exprSize rest

def And.valid (dm : Query.DataModel) (exprSize : Nat) : List (Query.ConstraintExpr Double) → Bool
  | [] => decide (exprSize > 1)
  | c :: rest => if !ConstraintExpr.valid dm c then false else And.valid dm exprSize rest

end

section

variable [Doubles Double]

mutual

def ConstraintExpr.checkValue (v : VariantType Double) : Query.ConstraintExpr Double → Bool
  | .kOr expr => Or.checkValue v expr
  | .kAnd expr => And.checkValue v expr
  | .kNot expr => !ConstraintExpr.checkValue v expr
  | .kConstraint constraint => Constraint.checkValue constraint v
  | .expressionNotSet => false

def Or.checkValue (v : VariantType Double) : List (Query.ConstraintExpr Double) → Bool
  | [] => false
  | c :: rest => if ConstraintExpr.checkValue v c then true else Or.checkValue v rest

def And.checkValue (v : VariantType Double) : List (Query.ConstraintExpr Double) → Bool
  | [] => true
  | c :: rest => if !ConstraintExpr.checkValue v c then false else And.checkValue v rest

end

mutual

def ConstraintExpr.check (i : Instance Double) : Query.ConstraintExpr Double → Bool
  | .kOr expr => Or.check i expr
  | .kAnd expr => And.check i expr
  | .kNot expr => !ConstraintExpr.check i expr
  | .kConstraint constraint => Constraint.check constraint i
  | .expressionNotSet => false

def Or.check (i : Instance Double) : List (Query.ConstraintExpr Double) → Bool
  | [] => false
  | c :: rest => if ConstraintExpr.check i c then true else Or.check i rest

def And.check (i : Instance Double) : List (Query.ConstraintExpr Double) → Bool
  | [] => true
  | c :: rest => if !ConstraintExpr.check i c then false else And.check i rest

end

end

namespace ConstraintExpr

mutual

/-- The tree of connectives of an expression. -/
def tree : Query.ConstraintExpr Double → BoolTree (Query.Constraint Double)
  | .kOr expr => .any (trees expr)
  | .kAnd expr => .all (trees expr)
  | .kNot expr => .neg (tree expr)
  | .kConstraint constraint => .leaf constraint
  | .expressionNotSet => .never

def trees : List (Query.ConstraintExpr Double) → List (BoolTree (Query.Constraint Double))
  | [] => []
  | c :: rest => tree c :: trees rest

end

theorem trees_eq_map (expr : List (Query.ConstraintExpr Double)) : trees expr = expr.map tree := by
  induction expr with
  | nil => rfl
  | cons c rest ih =>
      change tree c :: trees rest = _
      rw [ih, List.map_cons]

/-- The constraints at the leaves of an expression. -/
def leaves (e : Query.ConstraintExpr Double) : List (Query.Constraint Double) := (tree e).leaves

mutual

/-- The evaluator for an instance evaluates the tree of the expression. -/
theorem check_eq_eval [Doubles Double] (i : Instance Double) : ∀ e : Query.ConstraintExpr Double,
    check i e = (tree e).eval fun c => Constraint.check c i
  | .kOr expr => by
      rw [check, tree, BoolTree.eval]
      exact or_check_eq_evalAny i expr
  | .kAnd expr => by
      rw [check, tree, BoolTree.eval]
      exact and_check_eq_evalAll i expr
  | .kNot expr => by
      rw [check, tree, BoolTree.eval, check_eq_eval i expr]
  | .kConstraint constraint => by
      rw [check, tree, BoolTree.eval]
  | .expressionNotSet => by
      rw [check, tree, BoolTree.eval]

theorem or_check_eq_evalAny [Doubles Double] (i : Instance Double) :
    ∀ expr : List (Query.ConstraintExpr Double),
      Or.check i expr = BoolTree.evalAny (fun c => Constraint.check c i) (trees expr)
  | [] => by
      rw [Or.check, trees, BoolTree.evalAny]
  | c :: rest => by
      rw [Or.check, trees, BoolTree.evalAny, check_eq_eval i c, or_check_eq_evalAny i rest]
      cases (tree c).eval fun c => Constraint.check c i <;> rfl

theorem and_check_eq_evalAll [Doubles Double] (i : Instance Double) :
    ∀ expr : List (Query.ConstraintExpr Double),
      And.check i expr = BoolTree.evalAll (fun c => Constraint.check c i) (trees expr)
  | [] => by
      rw [And.check, trees, BoolTree.evalAll]
  | c :: rest => by
      rw [And.check, trees, BoolTree.evalAll, check_eq_eval i c, and_check_eq_evalAll i rest]
      cases (tree c).eval fun c => Constraint.check c i <;> rfl

end

/-- What `valid` asks of a node of the tree of an expression. -/
def validNode (dm : Query.DataModel) : BoolTree (Query.Constraint Double) → Bool
  | .any parts => decide (parts.length > 1)
  | .all parts => decide (parts.length > 1)
  | .neg _ => true
  | .leaf constraint => Constraint.valid constraint dm
  | .never => false

mutual

/-- An expression is valid when every node of its tree is. -/
theorem valid_eq_everyNode (dm : Query.DataModel) : ∀ e : Query.ConstraintExpr Double,
    valid dm e = (tree e).everyNode (validNode dm)
  | .kOr expr => by
      rw [valid, tree, BoolTree.everyNode, validNode, trees_eq_map, List.length_map,
        ← trees_eq_map]
      exact or_valid_eq_everyNodeList dm expr.length expr
  | .kAnd expr => by
      rw [valid, tree, BoolTree.everyNode, validNode, trees_eq_map, List.length_map,
        ← trees_eq_map]
      exact and_valid_eq_everyNodeList dm expr.length expr
  | .kNot expr => by
      rw [valid, tree, BoolTree.everyNode, validNode, Bool.true_and, valid_eq_everyNode dm expr]
  | .kConstraint constraint => by
      rw [valid, tree, BoolTree.everyNode, validNode]
  | .expressionNotSet => by
      rw [valid, tree, BoolTree.everyNode, validNode]

theorem or_valid_eq_everyNodeList (dm : Query.DataModel) (exprSize : Nat) :
    ∀ expr : List (Query.ConstraintExpr Double), Or.valid dm exprSize expr =
      (decide (exprSize > 1) && BoolTree.everyNodeList (validNode dm) (trees expr))
  | [] => by
      rw [Or.valid, trees, BoolTree.everyNodeList, Bool.and_true]
  | c :: rest => by
      rw [Or.valid, trees, BoolTree.everyNodeList, valid_eq_everyNode dm c,
        or_valid_eq_everyNodeList dm exprSize rest]
      cases (tree c).everyNode (validNode dm) <;> simp

theorem and_valid_eq_everyNodeList (dm : Query.DataModel) (exprSize : Nat) :
    ∀ expr : List (Query.ConstraintExpr Double), And.valid dm exprSize expr =
      (decide (exprSize > 1) && BoolTree.everyNodeList (validNode dm) (trees expr))
  | [] => by
      rw [And.valid, trees, BoolTree.everyNodeList, Bool.and_true]
  | c :: rest => by
      rw [And.valid, trees, BoolTree.everyNodeList, valid_eq_everyNode dm c,
        and_valid_eq_everyNodeList dm exprSize rest]
      cases (tree c).everyNode (validNode dm) <;> simp

end

/-- Every leaf of a valid expression is a valid constraint. -/
theorem valid_leaves (dm : Query.DataModel) (e : Query.ConstraintExpr Double)
    (accepted : valid dm e = true) : ∀ c ∈ leaves e, Constraint.valid c dm = true := by
  rw [valid_eq_everyNode] at accepted
  exact BoolTree.keep_leaf_of_everyNode accepted

end ConstraintExpr

namespace QueryModel

variable [Doubles Double]

def checkValue (model : Query.Model Double) (v : VariantType Double) : Bool :=
  And.checkValue v model.constraints

/-- `QueryModel::valid`. Without a data model only an empty query is invalid. -/
def valid (model : Query.Model Double) : Bool :=
  if model.constraints.length < 1 then false
  else
    match model.model with
    | none => true
    | some dm => model.constraints.all (ConstraintExpr.valid dm)

def check (model : Query.Model Double) (i : Instance Double) : Bool :=
  match model.model with
  | some dm => if dm.name != i.model.name then false else And.check i model.constraints
  | none => And.check i model.constraints

/-- A query sees of an instance the name of its model and its values. -/
theorem check_congr {i j : Instance Double} (sameName : i.model.name = j.model.name)
    (sameValues : ∀ name, i.value name = j.value name) (model : Query.Model Double) :
    check model i = check model j := by
  have sameLeaves : (fun c => Constraint.check c i) = fun c => Constraint.check c j := by
    funext c
    rw [Constraint.check, Constraint.check, sameValues]
  have sameConstraints : And.check i model.constraints = And.check j model.constraints := by
    rw [ConstraintExpr.and_check_eq_evalAll, ConstraintExpr.and_check_eq_evalAll, sameLeaves]
  rw [check, check, sameName, sameConstraints]

end QueryModel

end OefCore
