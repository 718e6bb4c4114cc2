import Mathlib.Order.Defs.LinearOrder
import Mathlib.Algebra.Notation.Defs

/-! # Query messages

The messages of `query.proto`, as their generated accessors show them. A `oneof`
is an inductive type with one constructor for each case enumerator and one for
the unset case; its accessors return the default of the arm when the arm is not
the one that is set. A required field that was never set reads as its default,
so it is a plain field here.

Strings are texts: their order, by code points, is that of the bytes of their
encoding. The `double` fields range over a type with a linear order and a zero
(`OefCore.Doubles`). Its values are the doubles other than NaN, up to the
equality of the language.
-/

namespace OefCore

/-- A longitude and a latitude, both as the message `Query.Location` and as the
class `Location` that copies it. -/
structure Location (Double : Type) where
  lon : Double
  lat : Double
  deriving DecidableEq, Repr

/-- What the schema code uses of `double`: comparison, the default value zero,
and the great-circle distance of two locations, which nothing here evaluates. -/
class Doubles (Double : Type) extends LinearOrder Double, Zero Double where
  distance : Location Double → Location Double → Double

namespace Query

/-- `Query.Attribute.Type`. -/
inductive AttributeType where
  | double
  | int
  | bool
  | string
  | location
  deriving DecidableEq, Repr

structure Attribute where
  name : String
  type : AttributeType
  required : Bool
  description : Option String := none
  deriving DecidableEq, Repr

structure DataModel where
  name : String
  attributes : List Attribute
  description : Option String := none
  deriving DecidableEq, Repr

variable {Double : Type}

/-- `Query.Value`, a `oneof` over the five types of constants. -/
inductive Value (Double : Type) where
  | kS (s : String)
  | kD (d : Double)
  | kB (b : Bool)
  | kI (i : Int64)
  | kL (l : Location Double)
  | valueNotSet
  deriving DecidableEq

namespace Value

def s : Value Double → String
  | .kS s => s
  | _ => ""

def d [Zero Double] : Value Double → Double
  | .kD d => d
  | _ => 0

def b : Value Double → Bool
  | .kB b => b
  | _ => false

def i : Value Double → Int64
  | .kI i => i
  | _ => 0

def l [Zero Double] : Value Double → Location Double
  | .kL l => l
  | _ => ⟨0, 0⟩

end Value

structure KeyValue (Double : Type) where
  key : String
  value : Value Double
  deriving DecidableEq

/-- `Query.Instance`: the data model travels with the values. -/
structure Instance (Double : Type) where
  model : DataModel
  values : List (KeyValue Double)
  deriving DecidableEq

/-- The pair messages `StringPair`, `IntPair`, `DoublePair` and `LocationPair`. -/
structure Pair (α : Type) where
  first : α
  second : α
  deriving DecidableEq, Repr

inductive Range (Double : Type) where
  | kS (pair : Pair String)
  | kI (pair : Pair Int64)
  | kD (pair : Pair Double)
  | kL (pair : Pair (Location Double))
  | pairNotSet
  deriving DecidableEq

namespace Range

def s : Range Double → Pair String
  | .kS pair => pair
  | _ => ⟨"", ""⟩

def i : Range Double → Pair Int64
  | .kI pair => pair
  | _ => ⟨0, 0⟩

def d [Zero Double] : Range Double → Pair Double
  | .kD pair => pair
  | _ => ⟨0, 0⟩

def l [Zero Double] : Range Double → Pair (Location Double)
  | .kL pair => pair
  | _ => ⟨⟨0, 0⟩, ⟨0, 0⟩⟩

end Range

structure Distance (Double : Type) where
  center : Location Double
  distance : Double
  deriving DecidableEq

namespace Relation

inductive Operator where
  | eq
  | lt
  | ltEq
  | gt
  | gtEq
  | notEq
  deriving DecidableEq, Repr

end Relation

structure Relation (Double : Type) where
  op : Relation.Operator
  val : Value Double
  deriving DecidableEq

namespace Set

inductive Operator where
  | isIn
  | notIn
  deriving DecidableEq, Repr

/-- `Query.Set.Values`, a `oneof` over repeated fields. -/
inductive Values (Double : Type) where
  | kS (vals : List String)
  | kD (vals : List Double)
  | kB (vals : List Bool)
  | kI (vals : List Int64)
  | kL (vals : List (Location Double))
  | valuesNotSet
  deriving DecidableEq

namespace Values

def s : Values Double → List String
  | .kS vals => vals
  | _ => []

def d : Values Double → List Double
  | .kD vals => vals
  | _ => []

def b : Values Double → List Bool
  | .kB vals => vals
  | _ => []

def i : Values Double → List Int64
  | .kI vals => vals
  | _ => []

def l : Values Double → List (Location Double)
  | .kL vals => vals
  | _ => []

end Values

end Set

structure Set (Double : Type) where
  op : Set.Operator
  vals : Set.Values Double
  deriving DecidableEq

/-- The `oneof` of `Query.ConstraintExpr.Constraint`. -/
inductive Constraint.Kind (Double : Type) where
  | kSet (set : Set Double)
  | kRange (range : Range Double)
  | kRelation (relation : Relation Double)
  | kDistance (distance : Distance Double)
  | constraintNotSet
  deriving DecidableEq

/-- `Query.ConstraintExpr.Constraint`: a constraint on one attribute. -/
structure Constraint (Double : Type) where
  attributeName : String
  constraint : Constraint.Kind Double
  deriving DecidableEq

/-- `Query.ConstraintExpr`. The messages `Or` and `And` are repeated
expressions, `Not` is one. -/
inductive ConstraintExpr (Double : Type) where
  | kOr (expr : List (ConstraintExpr Double))
  | kAnd (expr : List (ConstraintExpr Double))
  | kNot (expr : ConstraintExpr Double)
  | kConstraint (constraint : Constraint Double)
  | expressionNotSet

/-- `Query.Model`; the data model is optional. -/
structure Model (Double : Type) where
  constraints : List (ConstraintExpr Double)
  model : Option DataModel

end Query

end OefCore
