import Mathlib.Algebra.Ring.Nat
import OefCore.Lib.UnorderedMap
import OefCore.Proto.Query

/-! # Data models and instances

The classes `Attribute`, `DataModel` and `Instance` of `schema.hpp`. A data
model carries the uniqueness of its attribute names, which its constructor
checks. An instance keeps the message it was built from or decoded from next to
the map of its values; it is built by the validating constructor
(`OefCore.Instance.make`) or decoded from a message
(`OefCore.Instance.ofMessage`).

What the validating constructor guarantees is
`OefCore.Instance.make_conforms`: every value is a value of an attribute of the
model and has the type of that attribute.
-/

namespace OefCore

variable {Double : Type}

/-- The variant `VariantType`. The integers of the schema classes are 32 bits
wide, those of the messages 64. -/
inductive VariantType (Double : Type) where
  | int (i : Int32)
  | double (d : Double)
  | string (s : String)
  | bool (b : Bool)
  | location (l : Location Double)
  deriving DecidableEq

namespace Attribute

/-- `Attribute::validate`: whether a value has the type of an attribute. -/
def validate (att : Query.Attribute) : VariantType Double → Bool
  | .int _ => att.type == .int
  | .double _ => att.type == .double
  | .string _ => att.type == .string
  | .bool _ => att.type == .bool
  | .location _ => att.type == .location

end Attribute

/-- A data model whose attribute names are pairwise different. -/
structure DataModel where
  handle : Query.DataModel
  unique : (handle.attributes.map Query.Attribute.name).Nodup

namespace DataModel

/-- The constructor of `DataModel`. -/
def make (name : String) (attributes : List Query.Attribute) : Except String DataModel :=
  if unique : (attributes.map Query.Attribute.name).Nodup then
    .ok ⟨{ name, attributes }, unique⟩
  else
    .error "Duplicate attribute name"

end DataModel

/-- An instance: its message and the values decoded from it. -/
structure Instance (Double : Type) where
  handle : Query.Instance Double
  values : UnorderedMap String (VariantType Double)

namespace Instance

def model (self : Instance Double) : Query.DataModel := self.handle.model

def value (self : Instance Double) (name : String) : Option (VariantType Double) :=
  self.values.lookup name

/-- The match on a value in the loop of the validating constructor. -/
def setValue (attType : Query.AttributeType) :
    VariantType Double → Except String (Query.Value Double)
  | .int i =>
      if attType != .int then .error "Attribute is not an int in data model."
      else .ok (.kI i.toInt64)
  | .double d =>
      if attType != .double then .error "Attribute is not a double in data model."
      else .ok (.kD d)
  | .string s =>
      if attType != .string then .error "Attribute is not a string in data model."
      else .ok (.kS s)
  | .location l =>
      if attType != .location then .error "Attribute is not a location in data model."
      else .ok (.kL l)
  | .bool b =>
      if attType != .bool then .error "Attribute is not a bool in data model."
      else .ok (.kB b)

/-- `--nb_required` on a `size_t`. The counter starts as the number of required
attributes of a message, so only the decrement could leave its range. -/
def decrement (nbRequired : Nat) : Nat :=
  if nbRequired = 0 then 2 ^ 64 - 1 else nbRequired - 1

/-- The loop of the validating constructor over the values still to be added. -/
def addValues (attributes : List Query.Attribute) :
    List (Σ _ : String, VariantType Double) → Nat → List (Query.KeyValue Double) →
      Except String (Nat × List (Query.KeyValue Double))
  | [], nbRequired, vals => .ok (nbRequired, vals)
  | v :: rest, nbRequired, vals =>
      match attributes.find? fun a => v.1 == a.name with
      | none => .error "Attribute does not exist in data model."
      | some att =>
          let nbRequired := if att.required then decrement nbRequired else nbRequired
          match setValue att.type v.2 with
          | .error what => .error what
          | .ok value => addValues attributes rest nbRequired (vals ++ [⟨v.1, value⟩])

/-- The validating constructor `Instance(model, values)`; an exception is the
text of its `invalid_argument`. -/
def make (model : DataModel) (values : UnorderedMap String (VariantType Double)) :
    Except String (Instance Double) :=
  let nbRequired := model.handle.attributes.countP Query.Attribute.required
  if values.entries.length > model.handle.attributes.length then
    .error "Too many attributes"
  else if values.entries.length < nbRequired then
    .error "Not enough attributes"
  else
    match addValues model.handle.attributes values.entries nbRequired [] with
    | .error what => .error what
    | .ok (nbRequired, vals) =>
        if nbRequired > 0 then .error "Not enough attributes."
        else .ok { handle := { model := model.handle, values := vals }, values }

/-- The value the decoding constructor stores for a message value, if any. -/
def decodeValue : Query.Value Double → Option (VariantType Double)
  | .kS s => some (.string s)
  | .kD d => some (.double d)
  | .kB b => some (.bool b)
  | .kI i => some (.int i.toInt32)
  | .kL l => some (.location l)
  | .valueNotSet => none

/-- The decoding constructor `Instance(instance)`. -/
def ofMessage (message : Query.Instance Double) : Instance Double where
  handle := message
  values := message.values.foldl (fun values v =>
    match decodeValue v.value with
    | some value => values.insert v.key value
    | none => values) ∅

/-- A value the constructor accepts has the type of its attribute. -/
theorem validate_of_setValue {att : Query.Attribute} {v : VariantType Double}
    {value : Query.Value Double} (accepted : setValue att.type v = .ok value) :
    Attribute.validate att v = true := by
  cases v <;> simp only [setValue] at accepted <;> split at accepted <;>
    simp_all [Attribute.validate]

/-- One round of the loop that does not throw. -/
theorem addValues_cons {attributes : List Query.Attribute}
    {entry : Σ _ : String, VariantType Double} {rest : List (Σ _ : String, VariantType Double)}
    {nbRequired : Nat} {vals : List (Query.KeyValue Double)}
    {result : Nat × List (Query.KeyValue Double)}
    (accepted : addValues attributes (entry :: rest) nbRequired vals = .ok result) :
    ∃ att value, (attributes.find? fun a => entry.1 == a.name) = some att ∧
      setValue att.type entry.2 = .ok value ∧
        addValues attributes rest (if att.required then decrement nbRequired else nbRequired)
          (vals ++ [⟨entry.1, value⟩]) = .ok result := by
  rw [addValues] at accepted
  split at accepted
  · cases accepted
  · rename_i att found
    dsimp only at accepted
    split at accepted
    · cases accepted
    · rename_i value set
      exact ⟨att, value, found, set, accepted⟩

/-- The constructor that does not throw has run its loop to the end, with no required
attribute left. -/
theorem make_accepted {model : DataModel} {values : UnorderedMap String (VariantType Double)}
    {built : Instance Double} (accepted : make model values = .ok built) :
    ∃ vals, addValues model.handle.attributes values.entries
        (model.handle.attributes.countP Query.Attribute.required) [] = .ok (0, vals) ∧
      built = { handle := { model := model.handle, values := vals }, values } := by
  simp only [make] at accepted
  split at accepted
  · cases accepted
  · split at accepted
    · cases accepted
    · split at accepted
      · cases accepted
      · rename_i nbRequired vals looped
        split at accepted
        · cases accepted
        · rename_i spent
          cases Nat.eq_zero_of_not_pos spent
          cases accepted
          exact ⟨vals, looped, rfl⟩

/-- Every value the loop runs over has an attribute of its own name and type. -/
theorem addValues_conforms {attributes : List Query.Attribute}
    {entries : List (Σ _ : String, VariantType Double)} {nbRequired : Nat}
    {vals : List (Query.KeyValue Double)} {result : Nat × List (Query.KeyValue Double)}
    (accepted : addValues attributes entries nbRequired vals = .ok result) :
    ∀ v ∈ entries, ∃ att, (attributes.find? fun a => v.1 == a.name) = some att ∧
      Attribute.validate att v.2 = true := by
  induction entries generalizing nbRequired vals with
  | nil => intro v inside; exact (List.not_mem_nil inside).elim
  | cons entry rest ih =>
      obtain ⟨att, value, found, set, accepted⟩ := addValues_cons accepted
      intro v inside
      rcases List.mem_cons.mp inside with rfl | later
      · exact ⟨att, found, validate_of_setValue set⟩
      · exact ih accepted v later

/-- **The validating constructor accepts conforming values only.** Its instance
holds the given model and the given values, and every value belongs to an
attribute of the model and has its type. -/
theorem make_conforms {model : DataModel} {values : UnorderedMap String (VariantType Double)}
    {built : Instance Double} (accepted : make model values = .ok built) :
    built.model = model.handle ∧ built.values = values ∧
      ∀ name v, values.lookup name = some v → ∃ att,
        (model.handle.attributes.find? fun a => name == a.name) = some att ∧
          Attribute.validate att v = true := by
  obtain ⟨vals, looped, rfl⟩ := make_accepted accepted
  refine ⟨rfl, rfl, fun name v stored => ?_⟩
  exact addValues_conforms looped ⟨name, v⟩ (AList.mem_lookup_iff.mp stored)

end Instance

end OefCore
