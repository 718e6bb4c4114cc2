import OefCore.Schema.Evaluation

/-! # Building expressions

The constructors by which a program writes a query: of `Constraint` from an object of
one of the four kinds, of `Not`, `And` and `Or`, of `ConstraintExpr`, and the operators
`!`, `&&` and `||`. An object of these classes is its message. Every constructor copies
the messages it is given into a field of its own; an error is a call that does not
return, with its text.

The constructor from a `Distance` copies into the field `set_`, which is of another
type. The compiler accepts that because every message has a `CopyFrom` from the base
class; what it does when the types differ is not part of the repository and is a
parameter here. Whatever it does, an expression keeps the messages and the meaning of
its leaves exactly when no leaf is a distance (`OefCore.Dsl.preserved_iff`).
-/

namespace OefCore

variable {Double : Type}

/-- What `CopyFrom` of the base class makes of a distance, as a set. -/
abbrev CopyFromMessage (Double : Type) : Type :=
  Query.Distance Double → Except String (Query.Set Double)

namespace Constraint

/-- An object of one of the four kinds. -/
inductive ValueType (Double : Type) where
  | set (set : Query.Set Double)
  | range (range : Query.Range Double)
  | relation (rel : Query.Relation Double)
  | distance (distance : Query.Distance Double)

namespace ValueType

/-- The method `check` of the object itself. -/
def check [Doubles Double] (v : VariantType Double) : ValueType Double → Bool
  | .set s => Set.check s v
  | .range r => Range.check r v
  | .relation rel => Relation.check rel v
  | .distance d => Distance.check d v

/-- The message of the object under the arm of its own kind. -/
def kind : ValueType Double → Query.Constraint.Kind Double
  | .set s => .kSet s
  | .range r => .kRange r
  | .relation rel => .kRelation rel
  | .distance d => .kDistance d

def isDistance : ValueType Double → Bool
  | .distance _ => true
  | _ => false

end ValueType

/-- The four constructors of `Constraint`. -/
def make (copyFrom : CopyFromMessage Double) (attributeName : String) :
    ValueType Double → Except String (Query.Constraint Double)
  | .range range => .ok { attributeName, constraint := .kRange range }
  | .relation rel => .ok { attributeName, constraint := .kRelation rel }
  | .set set => .ok { attributeName, constraint := .kSet set }
  | .distance distance =>
      match copyFrom distance with
      | .error what => .error what
      | .ok set => .ok { attributeName, constraint := .kSet set }

end Constraint

/-- The constructors of `Or` and of `And`, which differ in the type of their message
only. -/
def copyExprs (expr : List (Query.ConstraintExpr Double)) :
    Except String (List (Query.ConstraintExpr Double)) :=
  if expr.length < 2 then .error "Not enough parameters." else .ok expr

def Or.make (expr : List (Query.ConstraintExpr Double)) :
    Except String (List (Query.ConstraintExpr Double)) := copyExprs expr

def And.make (expr : List (Query.ConstraintExpr Double)) :
    Except String (List (Query.ConstraintExpr Double)) := copyExprs expr

/-- The constructor of `Not`. -/
def Not.make (expr : Query.ConstraintExpr Double) : Query.ConstraintExpr Double := expr

namespace ConstraintExpr

/-! The constructors of `ConstraintExpr`. -/

def ofOr (orp : List (Query.ConstraintExpr Double)) : Query.ConstraintExpr Double := .kOr orp

def ofAnd (andp : List (Query.ConstraintExpr Double)) : Query.ConstraintExpr Double := .kAnd andp

def ofNot (notp : Query.ConstraintExpr Double) : Query.ConstraintExpr Double := .kNot notp

def ofConstraint (constraint : Query.Constraint Double) : Query.ConstraintExpr Double :=
  .kConstraint constraint

/-- `operator!`. -/
def opNot (expr : Query.ConstraintExpr Double) : Query.ConstraintExpr Double :=
  ofNot (Not.make expr)

/-- `operator&&`. -/
def opAnd (lhs rhs : Query.ConstraintExpr Double) : Except String (Query.ConstraintExpr Double) :=
  (And.make [lhs, rhs]).map ofAnd

/-- `operator||`. -/
def opOr (lhs rhs : Query.ConstraintExpr Double) : Except String (Query.ConstraintExpr Double) :=
  (Or.make [lhs, rhs]).map ofOr

end ConstraintExpr

/-- The text of an expression. The constructors of `And` and `Or` are given two
operands at least; with fewer they throw. -/
inductive Dsl (Double : Type) where
  | constraint (attributeName : String) (x : Constraint.ValueType Double)
  | not (expr : Dsl Double)
  | and (lhs rhs : Dsl Double)
  | or (lhs rhs : Dsl Double)
  | allOf (first second : Dsl Double) (rest : List (Dsl Double))
  | anyOf (first second : Dsl Double) (rest : List (Dsl Double))

namespace Dsl

mutual

/-- Run the constructors and operators of an expression. -/
def build (copyFrom : CopyFromMessage Double) :
    Dsl Double → Except String (Query.ConstraintExpr Double)
  | .constraint attributeName x =>
      (Constraint.make copyFrom attributeName x).map ConstraintExpr.ofConstraint
  | .not expr => (build copyFrom expr).map ConstraintExpr.opNot
  | .and lhs rhs =>
      (build copyFrom lhs).bind fun lhs => (build copyFrom rhs).bind fun rhs =>
        ConstraintExpr.opAnd lhs rhs
  | .or lhs rhs =>
      (build copyFrom lhs).bind fun lhs => (build copyFrom rhs).bind fun rhs =>
        ConstraintExpr.opOr lhs rhs
  | .allOf first second rest =>
      (build copyFrom first).bind fun first => (build copyFrom second).bind fun second =>
        (buildAll copyFrom rest).bind fun rest =>
          (And.make (first :: second :: rest)).map ConstraintExpr.ofAnd
  | .anyOf first second rest =>
      (build copyFrom first).bind fun first => (build copyFrom second).bind fun second =>
        (buildAll copyFrom rest).bind fun rest =>
          (Or.make (first :: second :: rest)).map ConstraintExpr.ofOr

def buildAll (copyFrom : CopyFromMessage Double) :
    List (Dsl Double) → Except String (List (Query.ConstraintExpr Double))
  | [] => .ok []
  | expr :: rest =>
      (build copyFrom expr).bind fun expr => (buildAll copyFrom rest).bind fun rest =>
        .ok (expr :: rest)

end

mutual

/-- The message an expression stands for: the connectives as written, and under every
leaf the message of its object in the arm of its kind. -/
def message : Dsl Double → Query.ConstraintExpr Double
  | .constraint attributeName x => .kConstraint ⟨attributeName, x.kind⟩
  | .not expr => .kNot (message expr)
  | .and lhs rhs => .kAnd [message lhs, message rhs]
  | .or lhs rhs => .kOr [message lhs, message rhs]
  | .allOf first second rest => .kAnd (message first :: message second :: messages rest)
  | .anyOf first second rest => .kOr (message first :: message second :: messages rest)

def messages : List (Dsl Double) → List (Query.ConstraintExpr Double)
  | [] => []
  | expr :: rest => message expr :: messages rest

end

mutual

/-- The objects at the leaves of an expression. -/
def leaves : Dsl Double → List (Constraint.ValueType Double)
  | .constraint _ x => [x]
  | .not expr => leaves expr
  | .and lhs rhs => leaves lhs ++ leaves rhs
  | .or lhs rhs => leaves lhs ++ leaves rhs
  | .allOf first second rest => leaves first ++ leaves second ++ leavesAll rest
  | .anyOf first second rest => leaves first ++ leaves second ++ leavesAll rest

def leavesAll : List (Dsl Double) → List (Constraint.ValueType Double)
  | [] => []
  | expr :: rest => leaves expr ++ leavesAll rest

end

section Eval

variable [Doubles Double]

mutual

/-- The Boolean combination of the checks of the objects at the leaves. -/
def eval (v : VariantType Double) : Dsl Double → Bool
  | .constraint _ x => x.check v
  | .not expr => !eval v expr
  | .and lhs rhs => eval v lhs && eval v rhs
  | .or lhs rhs => eval v lhs || eval v rhs
  | .allOf first second rest => eval v first && (eval v second && evalAll v rest)
  | .anyOf first second rest => eval v first || (eval v second || evalAny v rest)

def evalAll (v : VariantType Double) : List (Dsl Double) → Bool
  | [] => true
  | expr :: rest => eval v expr && evalAll v rest

def evalAny (v : VariantType Double) : List (Dsl Double) → Bool
  | [] => false
  | expr :: rest => eval v expr || evalAny v rest

end

end Eval

/-! ### What is built -/

theorem bind_eq_ok_iff {α β : Type} {first : Except String α} {next : α → Except String β}
    {result : β} :
    first.bind next = .ok result ↔ ∃ a, first = .ok a ∧ next a = .ok result := by
  cases first with
  | error what => exact iff_of_false nofun fun ⟨_, wrong, _⟩ => by cases wrong
  | ok a =>
      constructor
      · exact fun done => ⟨a, rfl, done⟩
      · intro ⟨b, same, done⟩
        cases same
        exact done

theorem map_eq_ok_iff {α β : Type} {first : Except String α} {wrap : α → β} {result : β} :
    first.map wrap = .ok result ↔ ∃ a, first = .ok a ∧ wrap a = result := by
  cases first with
  | error what => exact iff_of_false nofun fun ⟨_, wrong, _⟩ => by cases wrong
  | ok a => simp [Except.map]

/-- With two operands or more the constructors of `And` and `Or` do not throw. -/
theorem copyExprs_of_two (first second : Query.ConstraintExpr Double)
    (rest : List (Query.ConstraintExpr Double)) :
    copyExprs (first :: second :: rest) = .ok (first :: second :: rest) := by
  rw [copyExprs, if_neg]
  rw [List.length_cons, List.length_cons]
  omega

/-- The constructors of a constraint keep the message under the arm of its kind, but
for a distance. -/
theorem make_eq_kind_iff (copyFrom : CopyFromMessage Double) (attributeName : String)
    (x : Constraint.ValueType Double) :
    Constraint.make copyFrom attributeName x = .ok ⟨attributeName, x.kind⟩ ↔
      x.isDistance = false := by
  cases x with
  | set | range | relation => exact iff_of_true rfl rfl
  | distance d =>
      refine iff_of_false (fun made => ?_) nofun
      simp only [Constraint.make, Constraint.ValueType.kind] at made
      split at made
      · cases made
      · cases made

mutual

/-- An expression is built to its message exactly when it has no distance. -/
theorem build_eq_message_iff (copyFrom : CopyFromMessage Double) : ∀ e : Dsl Double,
    build copyFrom e = .ok (message e) ↔ ∀ x ∈ leaves e, x.isDistance = false
  | .constraint attributeName x => by
      rw [build, message, leaves, List.forall_mem_singleton,
        ← make_eq_kind_iff copyFrom attributeName x, map_eq_ok_iff]
      simp [ConstraintExpr.ofConstraint]
  | .not expr => by
      rw [build, message, leaves, ← build_eq_message_iff copyFrom expr, map_eq_ok_iff]
      simp [ConstraintExpr.opNot, ConstraintExpr.ofNot, Not.make]
  | .and lhs rhs => by
      rw [build, message, leaves, List.forall_mem_append, ← build_eq_message_iff copyFrom lhs,
        ← build_eq_message_iff copyFrom rhs]
      simp [bind_eq_ok_iff, ConstraintExpr.opAnd, And.make, copyExprs_of_two, Except.map,
        ConstraintExpr.ofAnd]
  | .or lhs rhs => by
      rw [build, message, leaves, List.forall_mem_append, ← build_eq_message_iff copyFrom lhs,
        ← build_eq_message_iff copyFrom rhs]
      simp [bind_eq_ok_iff, ConstraintExpr.opOr, Or.make, copyExprs_of_two, Except.map,
        ConstraintExpr.ofOr]
  | .allOf first second rest => by
      rw [build, message, leaves, List.forall_mem_append, List.forall_mem_append,
        ← build_eq_message_iff copyFrom first, ← build_eq_message_iff copyFrom second,
        ← buildAll_eq_messages_iff copyFrom rest, and_assoc]
      simp [bind_eq_ok_iff, And.make, copyExprs_of_two, Except.map, ConstraintExpr.ofAnd]
  | .anyOf first second rest => by
      rw [build, message, leaves, List.forall_mem_append, List.forall_mem_append,
        ← build_eq_message_iff copyFrom first, ← build_eq_message_iff copyFrom second,
        ← buildAll_eq_messages_iff copyFrom rest, and_assoc]
      simp [bind_eq_ok_iff, Or.make, copyExprs_of_two, Except.map, ConstraintExpr.ofOr]

theorem buildAll_eq_messages_iff (copyFrom : CopyFromMessage Double) : ∀ exprs : List (Dsl Double),
    buildAll copyFrom exprs = .ok (messages exprs) ↔ ∀ x ∈ leavesAll exprs, x.isDistance = false
  | [] => by
      rw [buildAll, messages, leavesAll]
      exact iff_of_true rfl fun x inside => (List.not_mem_nil inside).elim
  | expr :: rest => by
      rw [buildAll, messages, leavesAll, List.forall_mem_append,
        ← build_eq_message_iff copyFrom expr, ← buildAll_eq_messages_iff copyFrom rest]
      simp [bind_eq_ok_iff]

end

/-! ### What is checked -/

section Check

variable [Doubles Double]

/-- The dispatch on the arm of a kind comes to the check of the object. -/
theorem checkValue_kind (attributeName : String) (x : Constraint.ValueType Double)
    (v : VariantType Double) :
    Constraint.checkValue ⟨attributeName, x.kind⟩ v = x.check v := by
  cases x <;> rfl

mutual

/-- The message of an expression is evaluated to the combination of its leaves. -/
theorem checkValue_message (v : VariantType Double) : ∀ e : Dsl Double,
    ConstraintExpr.checkValue v (message e) = eval v e
  | .constraint attributeName x => by
      rw [message, eval, ConstraintExpr.checkValue, checkValue_kind]
  | .not expr => by
      rw [message, eval, ConstraintExpr.checkValue, checkValue_message v expr]
  | .and lhs rhs => by
      rw [message, eval, ConstraintExpr.checkValue, ConstraintExpr.and_checkValue_eq_all,
        List.all_cons, List.all_cons, List.all_nil, Bool.and_true, checkValue_message v lhs,
        checkValue_message v rhs]
  | .or lhs rhs => by
      rw [message, eval, ConstraintExpr.checkValue, ConstraintExpr.or_checkValue_eq_any,
        List.any_cons, List.any_cons, List.any_nil, Bool.or_false, checkValue_message v lhs,
        checkValue_message v rhs]
  | .allOf first second rest => by
      rw [message, eval, ConstraintExpr.checkValue, ConstraintExpr.and_checkValue_eq_all,
        List.all_cons, List.all_cons, checkValue_message v first, checkValue_message v second,
        all_checkValue_messages v rest]
  | .anyOf first second rest => by
      rw [message, eval, ConstraintExpr.checkValue, ConstraintExpr.or_checkValue_eq_any,
        List.any_cons, List.any_cons, checkValue_message v first, checkValue_message v second,
        any_checkValue_messages v rest]

theorem all_checkValue_messages (v : VariantType Double) : ∀ exprs : List (Dsl Double),
    (messages exprs).all (ConstraintExpr.checkValue v) = evalAll v exprs
  | [] => by
      rw [messages, evalAll, List.all_nil]
  | expr :: rest => by
      rw [messages, evalAll, List.all_cons, checkValue_message v expr,
        all_checkValue_messages v rest]

theorem any_checkValue_messages (v : VariantType Double) : ∀ exprs : List (Dsl Double),
    (messages exprs).any (ConstraintExpr.checkValue v) = evalAny v exprs
  | [] => by
      rw [messages, evalAny, List.any_nil]
  | expr :: rest => by
      rw [messages, evalAny, List.any_cons, checkValue_message v expr,
        any_checkValue_messages v rest]

end

/-- A constraint built from an object checks like the object, also as an expression,
and has the message of the object under the arm of its kind. -/
structure ConstraintPreserved (copyFrom : CopyFromMessage Double) (attributeName : String)
    (x : Constraint.ValueType Double) (built : Query.Constraint Double) : Prop where
  made : Constraint.make copyFrom attributeName x = .ok built
  name : built.attributeName = attributeName
  arm : built.constraint = x.kind
  check : ∀ v, Constraint.checkValue built v = x.check v
  wrapped : ∀ v, ConstraintExpr.checkValue v (ConstraintExpr.ofConstraint built) = x.check v

/-- A built expression has its own message and evaluates to the Boolean combination of
the checks of its leaves. -/
structure ExprPreserved (copyFrom : CopyFromMessage Double) (e : Dsl Double)
    (built : Query.ConstraintExpr Double) : Prop where
  made : build copyFrom e = .ok built
  arms : built = message e
  check : ∀ v, ConstraintExpr.checkValue v built = eval v e

/-- **Wrapping preserves the meaning** of an object exactly when it is not a distance,
and of an expression exactly when no leaf is one, whatever copying a distance into a
set does. -/
theorem preserved_iff (copyFrom : CopyFromMessage Double) :
    (∀ attributeName x, (∃ built, ConstraintPreserved copyFrom attributeName x built) ↔
        x.isDistance = false) ∧
      ∀ e, (∃ built, ExprPreserved copyFrom e built) ↔ ∀ x ∈ leaves e, x.isDistance = false := by
  constructor
  · intro attributeName x
    rw [← make_eq_kind_iff copyFrom attributeName x]
    constructor
    · intro ⟨built, preserved⟩
      rw [preserved.made, ← preserved.name, ← preserved.arm]
    · intro made
      refine ⟨_, made, rfl, rfl, checkValue_kind attributeName x, fun v => ?_⟩
      rw [ConstraintExpr.ofConstraint, ConstraintExpr.checkValue, checkValue_kind]
  · intro e
    rw [← build_eq_message_iff copyFrom e]
    constructor
    · intro ⟨built, preserved⟩
      rw [preserved.made, preserved.arms]
    · intro made
      exact ⟨_, made, rfl, fun v => checkValue_message v e⟩

end Check

section Nearby

attribute [local instance] wholeDoubles

/-- `CopyFrom` of a message library that compares the types first. -/
def copyChecked : CopyFromMessage Int := fun _ =>
  .error "Tried to merge messages of different types"

/-- A constraint on the distance from a place is not built, although the object itself
checks values. -/
theorem distance_not_preserved :
    Constraint.make copyChecked "position" (.distance ⟨⟨0, 0⟩, 1⟩) =
        .error "Tried to merge messages of different types" ∧
      Constraint.ValueType.check (.location ⟨0, 1⟩) (.distance ⟨⟨0, 0⟩, 1⟩ :
        Constraint.ValueType Int) = true ∧
      (¬ ∃ built, ConstraintPreserved copyChecked "position" (.distance ⟨⟨0, 0⟩, 1⟩) built) ∧
      ¬ ∃ built, ExprPreserved copyChecked (.constraint "position" (.distance ⟨⟨0, 0⟩, 1⟩))
        built := by
  refine ⟨rfl, by decide, ?_, ?_⟩
  · intro ⟨built, preserved⟩
    cases preserved.made
  · intro ⟨built, preserved⟩
    have made := preserved.made
    rw [build] at made
    cases made

end Nearby

end Dsl

end OefCore
