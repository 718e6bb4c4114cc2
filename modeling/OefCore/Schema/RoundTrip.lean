import OefCore.Schema.TypeSoundness

/-! # Instances on the wire

The validating constructor writes its values into a message one by one, in the
order in which the map is iterated; the decoding constructor of the server inserts
what it reads into a new map, in the order of the message. An integer is widened
on its way out and narrowed on its way in
(`OefCore.Instance.decodeValue_of_setValue`).

`OefCore.Instance.ofMessage_of_make` says that the decoded instance has the model
and the values of the original, so that no query tells them apart.
-/

namespace OefCore

variable {Double : Type}

namespace Instance

/-- A value that was written into a message is decoded as itself. -/
theorem decodeValue_of_setValue {attType : Query.AttributeType} {v : VariantType Double}
    {value : Query.Value Double} (written : setValue attType v = .ok value) :
    decodeValue value = some v := by
  cases v with
  | int i =>
      simp only [setValue] at written
      split at written
      · cases written
      · cases written
        rw [decodeValue, Int32.toInt32_toInt64]
  | double | string | bool | location =>
      simp only [setValue] at written
      split at written
      · cases written
      · cases written
        rfl

/-- The body of the loop of the decoding constructor. -/
def insertDecoded (values : UnorderedMap String (VariantType Double)) (v : Query.KeyValue Double) :
    UnorderedMap String (VariantType Double) :=
  match decodeValue v.value with
  | some value => values.insert v.key value
  | none => values

theorem ofMessage_values (message : Query.Instance Double) :
    (ofMessage message).values = message.values.foldl insertDecoded ∅ := rfl

/-- Decoding what the loop of the validating constructor wrote inserts its entries,
after what was written before. -/
theorem decode_addValues {attributes : List Query.Attribute}
    {entries : List (Σ _ : String, VariantType Double)} {nbRequired left : Nat}
    {vals result : List (Query.KeyValue Double)}
    (accepted : addValues attributes entries nbRequired vals = .ok (left, result)) :
    result.foldl insertDecoded ∅ =
      UnorderedMap.insertAll (vals.foldl insertDecoded ∅) entries := by
  induction entries generalizing nbRequired vals with
  | nil =>
      cases accepted
      rfl
  | cons entry rest ih =>
      obtain ⟨att, value, _, written, accepted⟩ := addValues_cons accepted
      have inserted : insertDecoded (vals.foldl insertDecoded ∅) ⟨entry.1, value⟩ =
          (vals.foldl insertDecoded ∅).insert entry.1 entry.2 := by
        rw [insertDecoded, decodeValue_of_setValue written]
      rw [ih accepted, List.foldl_append, List.foldl_cons, List.foldl_nil, inserted]
      rfl

/-- The message of an accepted instance is decoded to its model and its values. -/
theorem lookup_ofMessage {model : DataModel} {values : UnorderedMap String (VariantType Double)}
    {built : Instance Double} (accepted : make model values = .ok built) (name : String) :
    (ofMessage built.handle).values.lookup name = values.lookup name := by
  obtain ⟨vals, looped, rfl⟩ := make_accepted accepted
  rw [ofMessage_values, decode_addValues looped]
  change (UnorderedMap.insertAll ∅ values.entries).lookup name = _
  rw [UnorderedMap.lookup_insertAll _ values.nodupKeys, UnorderedMap.lookup_empty_eq_none,
    Option.or_none]
  rfl

/-- **Instances survive the wire.** The instance the server decodes from the message
of a validly constructed one has its model and exactly the values it was built from,
in whatever order they were written, and every query gives the same answer on both. -/
theorem ofMessage_of_make [Doubles Double] {model : DataModel}
    {values : UnorderedMap String (VariantType Double)} {built : Instance Double}
    (accepted : make model values = .ok built) :
    (ofMessage built.handle).model = model.handle ∧
      (∀ name, (ofMessage built.handle).values.lookup name = values.lookup name) ∧
        ∀ query, QueryModel.check query (ofMessage built.handle) =
          QueryModel.check query built := by
  obtain ⟨sameModel, sameValues, _⟩ := make_conforms accepted
  have decoded := lookup_ofMessage accepted
  refine ⟨sameModel, decoded, QueryModel.check_congr rfl fun name => ?_⟩
  rw [value, value, decoded, sameValues]

section Person

attribute [local instance] wholeDoubles

theorem ofMessage_of_make_alan : ∃ built, make person alan = .ok built ∧
    (ofMessage built.handle).model = person.handle ∧
      (∀ name, (ofMessage built.handle).values.lookup name = alan.lookup name) ∧
        ∀ query, QueryModel.check query (ofMessage built.handle) = QueryModel.check query built :=
  ⟨_, rfl, @ofMessage_of_make Int _ person alan _ rfl⟩

end Person

end Instance

end OefCore
