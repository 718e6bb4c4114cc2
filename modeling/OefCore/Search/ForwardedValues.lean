import OefCore.Schema.LeafAgreement
import OefCore.Schema.RoundTrip
import OefCore.Search.Client

/-! # Decoded and forwarded values

An instance decoded from a message keeps the message and a map of its values. The
evaluators read the map, the update that registers the instance at the search service
forwards the message. In the map an integer of 64 bits has been cut down to an `int`.

With pairwise different keys the map has the decoded value of every entry
(`OefCore.Instance.value_ofMessage`). It is the value on the wire, and so the one
that is forwarded, exactly when all integers of the message fit an `int`
(`OefCore.Instance.decodesExactly_iff`).
-/

namespace OefCore

variable {Double : Type}

/-- The message value that stands for a value. -/
def VariantType.onWire : VariantType Double → Query.Value Double
  | .int i => .kI i.toInt64
  | .double d => .kD d
  | .string s => .kS s
  | .bool b => .kB b
  | .location l => .kL l

namespace Instance

/-- An instance decoded from a message has the value of every entry that is set, none
for the others, and the one it forwards for every entry. -/
structure DecodesExactly (message : Query.Instance Double) : Prop where
  present : ∀ entry ∈ message.values, entry.value ≠ .valueNotSet →
    ((ofMessage message).value entry.key).map VariantType.onWire = some entry.value
  absent : ∀ entry ∈ message.values, entry.value = .valueNotSet →
    (ofMessage message).value entry.key = none
  forwarded : ∀ (client : OefSearchClient) (agent : String),
    ∀ dm ∈ (client.generateUpdate (ofMessage message) agent).2.dataModels,
      ∀ entry ∈ dm.values, entry.value ≠ .valueNotSet →
        ((ofMessage message).value entry.key).map VariantType.onWire = some entry.value

/-- Every integer of a message fits an `int`. -/
def IntsFit (message : Query.Instance Double) : Prop :=
  ∀ entry ∈ message.values, ∀ i, entry.value = .kI i → -2 ^ 31 ≤ i.toInt ∧ i.toInt < 2 ^ 31

/-- A value that is set is decoded to itself unless it is an integer that does not
fit. -/
theorem onWire_decodeValue_iff (value : Query.Value Double) :
    (decodeValue value).map VariantType.onWire = some value ↔
      value ≠ .valueNotSet ∧ ∀ i, value = .kI i → -2 ^ 31 ≤ i.toInt ∧ i.toInt < 2 ^ 31 := by
  cases value with
  | kI i =>
      have same : (decodeValue (.kI i : Query.Value Double)).map VariantType.onWire =
          some (.kI i) ↔ i.toInt32.toInt64 = i := by
        rw [decodeValue, Option.map_some, Option.some.injEq, VariantType.onWire,
          Query.Value.kI.injEq]
      rw [same, toInt64_toInt32_eq_iff]
      constructor
      · intro fits
        refine ⟨fun unset => (by cases unset), fun j sameInt => ?_⟩
        cases sameInt
        exact fits
      · intro fits
        exact fits.2 i rfl
  | kS | kD | kB | kL =>
      refine iff_of_true rfl ⟨fun unset => ?_, fun i isInt => ?_⟩
      · cases unset
      · cases isInt
  | valueNotSet => exact iff_of_false (fun wrong => by cases wrong) fun isSet => isSet.1 rfl

/-- The loop of the decoding constructor does not touch the keys it does not see. -/
theorem lookup_foldl_of_fresh {entries : List (Query.KeyValue Double)} {name : String}
    (fresh : name ∉ entries.map Query.KeyValue.key)
    (table : UnorderedMap String (VariantType Double)) :
    (entries.foldl insertDecoded table).lookup name = table.lookup name := by
  induction entries generalizing table with
  | nil => rfl
  | cons entry rest ih =>
      rw [List.map_cons, List.mem_cons, not_or] at fresh
      rw [List.foldl_cons, ih fresh.2, insertDecoded]
      cases decodeValue entry.value with
      | none => rfl
      | some value => rw [UnorderedMap.lookup_insert_eq_ite, if_neg fresh.1]

/-- The decoded value of an entry, when no other entry has its key. -/
theorem lookup_foldl_insertDecoded {entries : List (Query.KeyValue Double)}
    (distinct : (entries.map Query.KeyValue.key).Nodup) {entry : Query.KeyValue Double}
    (inside : entry ∈ entries) (table : UnorderedMap String (VariantType Double)) :
    (entries.foldl insertDecoded table).lookup entry.key =
      (decodeValue entry.value).or (table.lookup entry.key) := by
  induction entries generalizing table with
  | nil => exact (List.not_mem_nil inside).elim
  | cons first rest ih =>
      rw [List.map_cons, List.nodup_cons] at distinct
      obtain ⟨different, distinct⟩ := distinct
      rw [List.foldl_cons]
      rcases List.mem_cons.mp inside with rfl | later
      · rw [lookup_foldl_of_fresh different, insertDecoded]
        cases decodeValue entry.value with
        | none => rfl
        | some value => rw [UnorderedMap.lookup_insert_eq_ite, if_pos rfl, Option.some_or]
      · have otherKey : entry.key ≠ first.key := by
          intro same
          exact different (same ▸ List.mem_map_of_mem later)
        rw [ih distinct later, insertDecoded]
        cases decodeValue first.value with
        | none => rfl
        | some value => rw [UnorderedMap.lookup_insert_eq_ite, if_neg otherKey]

/-- What a decoded instance has for an entry of its message. -/
theorem value_ofMessage {message : Query.Instance Double}
    (distinct : (message.values.map Query.KeyValue.key).Nodup) {entry : Query.KeyValue Double}
    (inside : entry ∈ message.values) :
    (ofMessage message).value entry.key = decodeValue entry.value := by
  rw [value, ofMessage_values, lookup_foldl_insertDecoded distinct inside,
    UnorderedMap.lookup_empty_eq_none, Option.or_none]

/-- An update describes one data model, with the entries of the message as they are. -/
theorem generateUpdate_dataModels (client : OefSearchClient) (message : Query.Instance Double)
    (agent : String) : (client.generateUpdate (ofMessage message) agent).2.dataModels =
      [{ key := OefSearchClient.cStr agent, model := message.model,
         values := message.values }] := by
  rw [OefSearchClient.generateUpdate, OefSearchClient.generateUpdateAddNaddr]
  split <;> rfl

/-- **Decoded values are the ones on the wire**, and the evaluators see what is
forwarded, exactly when every integer of the message fits an `int`. -/
theorem decodesExactly_iff (message : Query.Instance Double)
    (distinct : (message.values.map Query.KeyValue.key).Nodup) :
    DecodesExactly message ↔ IntsFit message := by
  constructor
  · intro exactly entry inside i isInt
    have isSet : entry.value ≠ .valueNotSet := by
      intro unset
      rw [isInt] at unset
      cases unset
    have decoded := exactly.present entry inside isSet
    rw [value_ofMessage distinct inside] at decoded
    exact ((onWire_decodeValue_iff entry.value).mp decoded).2 i isInt
  · intro fit
    have decoded : ∀ entry ∈ message.values, entry.value ≠ .valueNotSet →
        ((ofMessage message).value entry.key).map VariantType.onWire = some entry.value := by
      intro entry inside isSet
      rw [value_ofMessage distinct inside, onWire_decodeValue_iff]
      exact ⟨isSet, fit entry inside⟩
    refine ⟨decoded, fun entry inside unset => ?_, fun client agent dm ofUpdate entry inside => ?_⟩
    · rw [value_ofMessage distinct inside, unset]
      rfl
    · rw [generateUpdate_dataModels, List.mem_singleton] at ofUpdate
      rw [ofUpdate] at inside
      exact decoded entry inside

section Person

attribute [local instance] wholeDoubles

theorem decodesExactly_iff_alan : ∃ built, make person alan = .ok built ∧
    (DecodesExactly built.handle ↔ IntsFit built.handle) :=
  ⟨_, rfl, @decodesExactly_iff Int _ (by decide)⟩

/-- A distance of 2^31 in a message. -/
def farAway : Query.Instance Int where
  model := { name := "Far", attributes := [{ name := "distance", type := .int, required := true }] }
  values := [⟨"distance", .kI 2147483648⟩]

/-- The core evaluates constraints on a negative distance and forwards the positive
one. -/
theorem farAway_not_exact : (ofMessage farAway).value "distance" = some (.int (-2147483648)) ∧
    (∀ client : OefSearchClient,
      ∃ dm ∈ (client.generateUpdate (ofMessage farAway) "agent").2.dataModels,
        dm.values = [⟨"distance", .kI 2147483648⟩]) ∧
    (farAway.values.map Query.KeyValue.key).Nodup ∧ ¬ DecodesExactly farAway := by
  refine ⟨by decide, fun client => ?_, by decide, fun exactly => ?_⟩
  · rw [generateUpdate_dataModels]
    exact ⟨_, List.mem_singleton.mpr rfl, rfl⟩
  · have isSet : (Query.Value.kI 2147483648 : Query.Value Int) ≠ .valueNotSet := by decide
    have decoded := exactly.present ⟨"distance", .kI 2147483648⟩ List.mem_cons_self isSet
    exact absurd decoded (by decide)

end Person

end Instance

end OefCore
