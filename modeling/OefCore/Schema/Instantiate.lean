import OefCore.Schema.Acceptance
import OefCore.Schema.InstanceEquality

/-! # Instantiating a data model

`DataModel::instantiate` lists the attributes of a model with the texts of their
values. Where the validating constructor of an instance walks over the values, looks
up their attributes and counts, it walks over the attributes and looks up their
values. What `to_string` makes of a value is a parameter here.

An attribute is instantiated when its value has its type, or when it has none and is
optional (`OefCore.Attribute.instantiate_ok_iff`). Both validators accept the same
values, those without an attribute aside, which only the constructor notices
(`OefCore.DataModel.instantiate_agrees`).
-/

namespace OefCore

variable {Double : Type}

/-- The static overload of `Attribute::instantiate`; an exception is the text of its
`invalid_argument`. -/
def Attribute.instantiate (toString : VariantType Double → String)
    (values : UnorderedMap String (VariantType Double)) (att : Query.Attribute) :
    Except String (String × String) :=
  match values.lookup att.name with
  | none =>
      if att.required then .error ("Missing value: " ++ att.name)
      else .ok (att.name, "")
  | some value =>
      if Attribute.validate att value then .ok (att.name, toString value)
      else .error (att.name ++ " has a wrong type of value " ++ toString value)

/-- The loop of `DataModel::instantiate` over the attributes still to come. -/
def DataModel.instantiateFrom (toString : VariantType Double → String)
    (values : UnorderedMap String (VariantType Double)) :
    List Query.Attribute → List (String × String) → Except String (List (String × String))
  | [], res => .ok res
  | a :: rest, res =>
      match Attribute.instantiate toString values a with
      | .error what => .error what
      | .ok pair => instantiateFrom toString values rest (res ++ [pair])

def DataModel.instantiate (toString : VariantType Double → String) (model : Query.DataModel)
    (values : UnorderedMap String (VariantType Double)) : Except String (List (String × String)) :=
  instantiateFrom toString values model.attributes []

def Instance.instantiate (toString : VariantType Double → String) (self : Instance Double) :
    Except String (List (String × String)) :=
  DataModel.instantiate toString self.model self.values

namespace Attribute

/-- The values admit an attribute: its value has its type, or it has none and needs
none. -/
def Admitted (values : UnorderedMap String (VariantType Double)) (att : Query.Attribute) : Prop :=
  match values.lookup att.name with
  | none => att.required = false
  | some value => validate att value = true

/-- An attribute with the text of its value, or with the empty text. -/
def withText (toString : VariantType Double → String)
    (values : UnorderedMap String (VariantType Double)) (att : Query.Attribute) :
    String × String :=
  match values.lookup att.name with
  | none => (att.name, "")
  | some value => (att.name, toString value)

/-- What instantiating an attribute does: it succeeds on an admitted attribute and
returns it with its text. -/
theorem instantiate_ok_iff (toString : VariantType Double → String)
    (values : UnorderedMap String (VariantType Double)) (att : Query.Attribute)
    (pair : String × String) : instantiate toString values att = .ok pair ↔
      Admitted values att ∧ pair = withText toString values att := by
  unfold instantiate Admitted withText
  cases stored : values.lookup att.name with
  | none =>
      cases required : att.required with
      | true => simp
      | false => simp [eq_comm]
  | some value =>
      dsimp only
      cases typed : validate att value with
      | true => simp [eq_comm]
      | false => simp

end Attribute

namespace DataModel

/-- The loop appends the texts of all attributes, when all of them are admitted. -/
theorem instantiateFrom_ok_iff (toString : VariantType Double → String)
    (values : UnorderedMap String (VariantType Double)) (attributes : List Query.Attribute)
    (res result : List (String × String)) :
    instantiateFrom toString values attributes res = .ok result ↔
      (∀ a ∈ attributes, Attribute.Admitted values a) ∧
        result = res ++ attributes.map (Attribute.withText toString values) := by
  induction attributes generalizing res with
  | nil =>
      simp only [instantiateFrom, Except.ok.injEq, List.map_nil, List.append_nil]
      constructor
      · rintro rfl
        exact ⟨fun a inside => (List.not_mem_nil inside).elim, rfl⟩
      · exact fun same => same.2.symm
  | cons a rest ih =>
      simp only [instantiateFrom, List.forall_mem_cons, List.map_cons]
      cases done : Attribute.instantiate toString values a with
      | error what =>
          have refused : ¬ Attribute.Admitted values a := by
            intro admitted
            have accepted := (Attribute.instantiate_ok_iff toString values a _).mpr ⟨admitted, rfl⟩
            rw [done] at accepted
            cases accepted
          simp [refused]
      | ok pair =>
          obtain ⟨admitted, rfl⟩ := (Attribute.instantiate_ok_iff toString values a pair).mp done
          dsimp only
          rw [ih, List.append_assoc, List.singleton_append]
          simp only [admitted, true_and]

/-- A model is instantiated exactly when its attributes are all admitted. -/
theorem instantiate_ok_iff_admitted (toString : VariantType Double → String)
    (model : Query.DataModel) (values : UnorderedMap String (VariantType Double))
    (result : List (String × String)) : instantiate toString model values = .ok result ↔
      (∀ a ∈ model.attributes, Attribute.Admitted values a) ∧
        result = model.attributes.map (Attribute.withText toString values) := by
  rw [instantiate, instantiateFrom_ok_iff, List.nil_append]

/-- Values conform to a model when all attributes are admitted and no value is left
without an attribute. -/
theorem conforming_iff_admitted (model : DataModel)
    (values : UnorderedMap String (VariantType Double)) : Instance.Conforming model values ↔
      (∀ a ∈ model.handle.attributes, Attribute.Admitted values a) ∧
        ∀ name v, values.lookup name = some v →
          name ∈ model.handle.attributes.map Query.Attribute.name := by
  constructor
  · intro conforming
    refine ⟨fun a inside => ?_, conforming.known⟩
    unfold Attribute.Admitted
    cases stored : values.lookup a.name with
    | none =>
        apply Bool.eq_false_iff.mpr
        intro required
        obtain ⟨v, present⟩ := conforming.complete a inside required
        rw [stored] at present
        cases present
    | some v => exact conforming.typed a inside v stored
  · intro ⟨admitted, known⟩
    refine ⟨known, fun a inside v stored => ?_, fun a inside required => ?_⟩
    · have typed := admitted a inside
      rw [Attribute.Admitted, stored] at typed
      exact typed
    · have present := admitted a inside
      unfold Attribute.Admitted at present
      cases stored : values.lookup a.name with
      | none =>
          rw [stored] at present
          rw [present] at required
          cases required
      | some v => exact ⟨v, rfl⟩

/-- **The two validators agree.** The constructor of an instance accepts values
exactly when the model is instantiated with them and every key names an attribute;
the instance is then instantiated to one pair for every attribute, in the order of
the model, with the text of its value or with the empty text. -/
theorem instantiate_agrees (toString : VariantType Double → String) (model : DataModel)
    (values : UnorderedMap String (VariantType Double)) :
    ((∃ built, Instance.make model values = .ok built) ↔
        (∃ res, instantiate toString model.handle values = .ok res) ∧
          ∀ name v, values.lookup name = some v →
            name ∈ model.handle.attributes.map Query.Attribute.name) ∧
      ∀ built, Instance.make model values = .ok built → Instance.instantiate toString built =
        .ok (model.handle.attributes.map fun a =>
          (a.name, ((values.lookup a.name).map toString).getD "")) := by
  constructor
  · constructor
    · intro ⟨built, accepted⟩
      have conforming := (conforming_iff_admitted model values).mp
        (Instance.conforming_of_make accepted)
      exact ⟨⟨_, (instantiate_ok_iff_admitted _ _ _ _).mpr ⟨conforming.1, rfl⟩⟩, conforming.2⟩
    · intro ⟨⟨res, instantiated⟩, known⟩
      have admitted := ((instantiate_ok_iff_admitted _ _ _ _).mp instantiated).1
      exact Instance.make_of_conforming ((conforming_iff_admitted model values).mpr
        ⟨admitted, known⟩)
  · intro built accepted
    have conforming := (conforming_iff_admitted model values).mp
      (Instance.conforming_of_make accepted)
    obtain ⟨sameModel, sameValues, _⟩ := Instance.make_conforms accepted
    rw [Instance.instantiate, sameModel, sameValues, instantiate_ok_iff_admitted]
    refine ⟨conforming.1, List.map_congr_left fun a _ => ?_⟩
    unfold Attribute.withText
    cases values.lookup a.name <;> rfl

end DataModel

section Person

attribute [local instance] wholeDoubles

/-- A text for every type of value. -/
def typeName : VariantType Int → String
  | .int _ => "int"
  | .double _ => "double"
  | .string s => s
  | .bool _ => "bool"
  | .location _ => "location"

/-- Without a first name a person is not instantiated, and with an extra value only
the constructor refuses. -/
example :
    DataModel.instantiate typeName person.handle (AList.insert "age" (.int 42) ∅) =
        .error "Missing value: firstName" ∧
      DataModel.instantiate typeName person.handle
          (AList.insert "shoe" (.int 42) Instance.alanNamed) =
        .ok [("firstName", "Alan"), ("age", ""), ("birth_place", "")] ∧
      Instance.make person (AList.insert "shoe" (.int 42) Instance.alanNamed) =
        .error "Attribute does not exist in data model." :=
  ⟨rfl, rfl, rfl⟩

end Person

end OefCore
